import MooWorld.ErrorCode
import MooWorld.Number.Double
/-!
# Values

The ten kinds of value that tasks compute with. Lists, maps, errors and flyweights hold other values.
The entries of a map and the slots of a flyweight are lists in ascending order of key, which `mapOf`,
`setEntry` and `flyweightOf` keep.

Objects are referred to by number. Number zero is the system object, from which server-wide settings hang,
and minus one stands for no object.
-/
namespace MooWorld

/-- A reference to an object, by its number. -/
structure Obj where
  id : Int32
  deriving DecidableEq

namespace Obj

/-- The object server-wide settings hang from. -/
def system : Obj := ⟨0⟩

/-- No object. -/
def nothing : Obj := ⟨-1⟩

/-- Order by number. -/
def cmp (o p : Obj) : Ordering := compare o.id p.id

/-- The reference as it is written, as in `#5`. -/
def text (o : Obj) : String := "#" ++ toString o.id.toInt

end Obj

/-- A value (`Variant`). -/
inductive Value where
  | none
  | bool (b : Bool)
  | obj (o : Obj)
  | int (i : Int64)
  | float (x : Double)
  | list (items : List Value)
  | str (s : String)
  | map (entries : List (Value × Value))
  /-- An error: a code, perhaps a message, perhaps a value that says more. -/
  | err (code : ErrorCode) (message : Option String) (detail : Option Value)
  /-- A small object that is itself a value: a delegate, named slots and contents. -/
  | flyweight (delegate : Obj) (slots : List (Symbol × Value)) (contents : List Value)

namespace Value

/-- The place of a value's kind among the kinds. -/
def rank : Value → Nat
  | .none => 0
  | .bool _ => 1
  | .obj _ => 2
  | .int _ => 3
  | .float _ => 4
  | .list _ => 5
  | .str _ => 6
  | .map _ => 7
  | .err _ _ _ => 8
  | .flyweight _ _ _ => 9

/-- Whether the value counts as true in a condition (`is_true`). Objects and errors never do, and a
flyweight does if it has contents. -/
def isTrue : Value → Bool
  | .none => false
  | .bool b => b
  | .obj _ => false
  | .int i => i != 0
  | .float x => !x.isZero
  | .list items => !items.isEmpty
  | .str s => !s.isEmpty
  | .map entries => !entries.isEmpty
  | .err _ _ _ => false
  | .flyweight _ _ contents => !contents.isEmpty

/-- Whether the value is the none value. -/
def isNone : Value → Bool
  | .none => true
  | _ => false

/-- The number, if the value is an integer. -/
def int? : Value → Option Int64
  | .int i => some i
  | _ => Option.none

/-- The object, if the value refers to one. -/
def obj? : Value → Option Obj
  | .obj o => some o
  | _ => Option.none

/-- The text, if the value is a string. -/
def str? : Value → Option String
  | .str s => some s
  | _ => Option.none

/-- The elements, if the value is a list. -/
def list? : Value → Option (List Value)
  | .list items => some items
  | _ => Option.none

/-- The entries, if the value is a map. -/
def map? : Value → Option (List (Value × Value))
  | .map entries => some entries
  | _ => Option.none

/-- An integer value from a count. A count from `2 ^ 63` on wraps to a negative number. -/
def ofNat (n : Nat) : Value := .int (Int64.ofNat n)

end Value

end MooWorld
