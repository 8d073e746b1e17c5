import MooWorld.Assoc
import MooWorld.Value.Basic
/-!
# Order and equality of values

Four relations on values, each defined on its own.

* `cmp` is a total order: kinds in rank order, and within a kind by content. Strings and names compare
  by their case foldings, floats by their total order, lists and maps element by element, errors by
  code, then message, then value.
* `eq` is the equality tasks see. It takes floats as numbers and ignores the messages of errors.
* `eqCase` is equality that minds case, in strings and in lists of them.
* `eqSelf` and `eqCaseSelf` say what comparing a value with a copy that shares its storage gives:
  containers are equal to themselves without a look inside.

A map keeps one entry for each class of keys that compare equal, in ascending order, with the key as it was
last inserted; the slots of a flyweight likewise, by name. Nothing is changed in place: an operation gives a
new value.
-/
namespace MooWorld.Value

mutual

/-- The order of two values. -/
def cmp : Value → Value → Ordering
  | .none, .none => .eq
  | .bool a, .bool b => compare a b
  | .obj a, .obj b => a.cmp b
  | .int a, .int b => compare a b
  | .float a, .float b => a.totalCmp b
  | .list as, .list bs => cmpList as bs
  | .str a, .str b => compare (Text.fold a) (Text.fold b)
  | .map as, .map bs => cmpEntries as bs
  | .err c m d, .err c' m' d' =>
    (c.cmp c').then ((compare m m').then (cmpOption d d'))
  | .flyweight d s c, .flyweight d' s' c' =>
    (d.cmp d').then ((cmpSlots s s').then (cmpList c c'))
  | a, b => compare a.rank b.rank
termination_by structural a => a

/-- Lists compare element by element, a shorter one first. -/
def cmpList : List Value → List Value → Ordering
  | [], [] => .eq
  | [], _ :: _ => .lt
  | _ :: _, [] => .gt
  | a :: as, b :: bs => (cmp a b).then (cmpList as bs)
termination_by structural a => a

/-- Entries compare by key, then by value, then by the entries after them. -/
def cmpEntries : List (Value × Value) → List (Value × Value) → Ordering
  | [], [] => .eq
  | [], _ :: _ => .lt
  | _ :: _, [] => .gt
  | (k, v) :: as, (k', v') :: bs => (cmp k k').then ((cmp v v').then (cmpEntries as bs))
termination_by structural a => a

/-- Slots compare like entries, with names for keys. -/
def cmpSlots : List (Symbol × Value) → List (Symbol × Value) → Ordering
  | [], [] => .eq
  | [], _ :: _ => .lt
  | _ :: _, [] => .gt
  | (k, v) :: as, (k', v') :: bs => (k.cmp k').then ((cmp v v').then (cmpSlots as bs))
termination_by structural a => a

/-- An absent value comes first. -/
def cmpOption : Option Value → Option Value → Ordering
  | .none, .none => .eq
  | .none, .some _ => .lt
  | .some _, .none => .gt
  | .some a, .some b => cmp a b
termination_by structural a => a

end

mutual

/-- Whether two values are equal. -/
def eq : Value → Value → Bool
  | .none, .none => true
  | .bool a, .bool b => a == b
  | .obj a, .obj b => a == b
  | .int a, .int b => a == b
  | .float a, .float b => a.numEq b
  | .list as, .list bs => eqList as bs
  | .str a, .str b => Text.fold a == Text.fold b
  | .map as, .map bs => eqEntries as bs
  | .err c _ d, .err c' _ d' => c.same c' && eqOption d d'
  | .flyweight d s c, .flyweight d' s' c' => d == d' && eqSlots s s' && eqList c c'
  | _, _ => false
termination_by structural a => a

/-- Lists are equal if they have the same length and equal elements. -/
def eqList : List Value → List Value → Bool
  | [], [] => true
  | a :: as, b :: bs => eq a b && eqList as bs
  | _, _ => false
termination_by structural a => a

/-- Keys are matched by the order, values by equality. -/
def eqEntries : List (Value × Value) → List (Value × Value) → Bool
  | [], [] => true
  | (k, v) :: as, (k', v') :: bs => cmp k k' == .eq && eq v v' && eqEntries as bs
  | _, _ => false
termination_by structural a => a

/-- Slots are matched by name. -/
def eqSlots : List (Symbol × Value) → List (Symbol × Value) → Bool
  | [], [] => true
  | (k, v) :: as, (k', v') :: bs => k.same k' && eq v v' && eqSlots as bs
  | _, _ => false
termination_by structural a => a

/-- Both absent, or both present and equal. -/
def eqOption : Option Value → Option Value → Bool
  | .none, .none => true
  | .some a, .some b => eq a b
  | _, _ => false
termination_by structural a => a

end

mutual

/-- Equality that minds case in strings and, through lists, in the strings they hold (`eq_case_sensitive`).
Every other kind is compared by `eq`. -/
def eqCase : Value → Value → Bool
  | .str a, .str b => a == b
  | .list as, .list bs => eqCaseList as bs
  | a, b => eq a b
termination_by structural a => a

/-- Lists of the same length whose elements are equal minding case. -/
def eqCaseList : List Value → List Value → Bool
  | [], [] => true
  | a :: as, b :: bs => eqCase a b && eqCaseList as bs
  | _, _ => false
termination_by structural a => a

end

/-- Whether a value equals a copy of it that shares its storage: all but a bare NaN do. -/
def eqSelf : Value → Bool
  | .float x => x.numEq x
  | _ => true

mutual

/-- Whether a value equals, minding case, a copy of it that shares its storage. Lists are looked into. -/
def eqCaseSelf : Value → Bool
  | .list items => eqCaseSelfList items
  | v => eqSelf v
termination_by structural a => a

/-- Whether every element does. -/
def eqCaseSelfList : List Value → Bool
  | [] => true
  | v :: vs => eqCaseSelf v && eqCaseSelfList vs
termination_by structural a => a

end

/-- Sorts values by the order; values that compare equal keep their places. -/
def sort (items : List Value) : List Value :=
  items.mergeSort fun a b => cmp a b != .gt

/-- Drops every element that equals the one kept before it. -/
def dedup : List Value → List Value
  | [] => []
  | [a] => [a]
  | a :: b :: rest => if eq a b then dedup (a :: rest) else a :: dedup (b :: rest)
termination_by items => items.length

/-! ## Maps and flyweights -/

/-- The entries of a map built by inserting pairs in turn. -/
def entriesOf (pairs : List (Value × Value)) : List (Value × Value) := Assoc.ofList cmp pairs

/-- A map built by inserting pairs in turn (`mk_map`). -/
def mapOf (pairs : List (Value × Value)) : Value := .map (entriesOf pairs)

/-- The value under a key. -/
def entry? (k : Value) (entries : List (Value × Value)) : Option Value := Assoc.get? cmp k entries

/-- The entries with a key bound to a value (`set`). -/
def setEntry (k v : Value) (entries : List (Value × Value)) : List (Value × Value) :=
  Assoc.insert cmp k v entries

/-- A flyweight whose slots are built by inserting pairs in turn (`mk_flyweight`). -/
def flyweightOf (delegate : Obj) (slots : List (Symbol × Value)) (contents : List Value) : Value :=
  .flyweight delegate (Assoc.ofList Symbol.cmp slots) contents

end MooWorld.Value
