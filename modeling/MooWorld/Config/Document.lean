/-!
# Documents

What a configuration file says, whatever its notation: a tree of maps, lists and scalars. A key may
occur twice in a map, and then the last one counts.

Below the top, two keys have a meaning of their own. A map with the first of them stands for the value
there, whatever else it holds. The second gives the number by which a value is known; it has to be one
that 64 bits hold without a sign, written as a number and not as something that stands for one, and is not
kept.

The notations have hexadecimal digits in common, in either case.
-/
namespace MooWorld

/-- A tree of maps, lists and scalars. -/
inductive Document where
  | null
  | bool (b : Bool)
  /-- A whole number without a minus sign. -/
  | nat (n : Nat)
  /-- A whole number with a minus sign, by its magnitude; minus zero is one. -/
  | negative (n : Nat)
  /-- A number that is not whole. No setting takes one, so its value is not kept. -/
  | float
  | text (s : String)
  | list (items : List Document)
  | map (entries : List (String × Document))

namespace Document

/-- The last value of a key. -/
def lookup (entries : List (String × Document)) (key : String) : Option Document :=
  (entries.reverse.find? (·.1 = key)).map (·.2)

/-- A whole number that fits 64 bits without a sign. -/
def nat? : Document → Option Nat
  | .nat n => if n < UInt64.size then some n else none
  | .negative 0 => some 0
  | _ => none

/-- A whole number that fits 64 bits with a sign. -/
def int64? : Document → Option Int64
  | .nat n => if n < 9223372036854775808 then some (Int64.ofNat n) else none
  | .negative n => if n ≤ 9223372036854775808 then some (Int64.ofInt (-(n : Int))) else none
  | _ => none

/-- A boolean. -/
def bool? : Document → Option Bool
  | .bool b => some b
  | _ => none

/-- A value that may be left open by a null. -/
def optional {α : Type} (read : Document → Option α) : Document → Option (Option α)
  | .null => some none
  | d => (read d).map some

/-- The key of the value that a map stands for. -/
def valueKey : String := "___figment_value_value"

/-- The key of the number by which a value is known. -/
def idKey : String := "___figment_value_id"

/-- Whether this can be the number by which a value is known. -/
def isId : Document → Bool
  | .nat n => n < UInt64.size
  | _ => false

/-- An entry of a map, as a file has it. -/
structure Entry where
  key : String
  value : Document
  /-- Whether the value is written as it is, and not as a map or under a path. -/
  direct : Bool

/-- The key and the value of an entry. -/
def Entry.pair (e : Entry) : String × Document := (e.key, e.value)

/-- Whether an entry does not break the rule for the number by which a value is known. -/
def Entry.isSound (e : Entry) : Bool := e.key ≠ idKey || e.direct && e.value.isId

/-- What a map at the top says. -/
def ofTop (entries : List Entry) : Document := .map (entries.map Entry.pair)

/-- What a map below the top says. -/
def ofEntries? (entries : List Entry) : Option Document :=
  if entries.all Entry.isSound then
    let pairs := entries.map Entry.pair
    some ((lookup pairs valueKey).getD (.map (pairs.filter (·.1 ≠ idKey))))
  else none

/-- The map that leads to a value by a path of keys with dots between them. The path ends at its first
empty part. -/
def nested (path : String) (d : Document) : Document :=
  ((path.splitOn ".").takeWhile (· ≠ "")).foldr (fun k d => .map [(k, d)]) d

end Document

namespace Text

/-- The value of a hexadecimal digit. -/
def hexDigit? (c : Char) : Option Nat :=
  if c.isDigit then some (c.toNat - '0'.toNat)
  else if 'a' ≤ c && c ≤ 'f' then some (c.toNat - 'a'.toNat + 10)
  else if 'A' ≤ c && c ≤ 'F' then some (c.toNat - 'A'.toNat + 10)
  else none

/-- The number that hexadecimal digits spell. -/
def hexNumber? (cs : List Char) : Option Nat :=
  cs.foldlM (fun n c => (hexDigit? c).map (n * 16 + ·)) 0

end Text

end MooWorld
