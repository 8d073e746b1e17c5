import MooWorld.Value.Order
/-!
# Versions of lists and maps

Lists and maps are never changed in place, so earlier versions live on beside later ones and share
what they hold. An element remembers the insertion that it came from: two elements from one insertion
share their storage and are equal as such, any others are compared by content.

The entries of a map lie in leaves. An insertion writes one leaf anew and leaves the others as they are, so
two versions may have leaves in common. A comparison passes over a row of common leaves once it has looked at
its first entry, which shows only for values that differ from themselves.

`entries_set` says that leaves do not matter for what a map holds.
-/
namespace MooWorld.Value

/-- A value and the insertion it came from. -/
structure Kept where
  origin : Nat
  value : Value

namespace Kept

/-- Equality of held values, which share storage if they came from one insertion. -/
def eq (a b : Kept) : Bool := if a.origin = b.origin then a.value.eqSelf else a.value.eq b.value

/-- Whether elements are equal, one by one. -/
def eqItems : List Kept → List Kept → Bool
  | [], [] => true
  | a :: as, b :: bs => a.eq b && eqItems as bs
  | _, _ => false

/-- Whether entries are equal, one by one. -/
def eqEntries : List (Value × Kept) → List (Value × Kept) → Bool
  | [], [] => true
  | (k, a) :: as, (k', b) :: bs => cmp k k' == .eq && a.eq b && eqEntries as bs
  | _, _ => false

end Kept

/-- A version of a list. -/
abbrev ListVersion := List Kept

namespace ListVersion

/-- The first version of a list, with an insertion for each element. -/
def ofList (items : List Value) : ListVersion := (List.range items.length).zipWith Kept.mk items

/-- The list. -/
def toList (l : ListVersion) : List Value := l.map (·.value)

/-- Adds an element at the end. -/
def push (l : ListVersion) (k : Kept) : ListVersion := l ++ [k]

/-- Whether two versions are equal, element by element. -/
def eq (a b : ListVersion) : Bool := Kept.eqItems a b

end ListVersion

/-- A leaf, known by the insertion that wrote it last. One that is split in two gives a left and a right one
of the same insertion. -/
structure Leaf where
  writer : Nat
  isRight : Bool
  deriving DecidableEq

/-- A value in a map, and the leaf it lies in. -/
structure Cell where
  kept : Kept
  leaf : Leaf

/-- A version of a map. -/
abbrev MapVersion := List (Value × Cell)

namespace MapVersion

/-- The entries. -/
def entries (m : MapVersion) : List (Value × Value) := m.map fun (k, c) => (k, c.kept.value)

/-! ## Insertions -/

/-- How many entries a leaf holds at most. -/
def leafSize : Nat := 64

/-- The leaf where a key belongs: that of the last key which is not above it, or else the first leaf. -/
def home? (m : MapVersion) (k : Value) : Option Leaf :=
  let below := m.takeWhile fun (k', _) => cmp k' k != .gt
  (below.getLast?.or m.head?).map (·.2.leaf)

/-- Puts all entries into one leaf. -/
def gather (m : MapVersion) (leaf : Leaf) : MapVersion := m.map fun (k, c) => (k, { c with leaf })

/-- Writes the entries of a leaf anew. If they are too many, they are split in the middle of what was there
before the insertion. -/
def refresh (m : MapVersion) (writer : Nat) : MapVersion :=
  if m.length ≤ leafSize then m.gather ⟨writer, false⟩
  else
    let half := leafSize / 2
    let place := m.findIdx (·.2.kept.origin = writer)
    let left := if place < half then half + 1 else half
    gather (m.take left) ⟨writer, false⟩ ++ gather (m.drop left) ⟨writer, true⟩

/-- Writes one leaf anew. -/
def refreshLeaf (m : MapVersion) (leaf : Leaf) (writer : Nat) : MapVersion :=
  let rest := m.dropWhile (·.2.leaf ≠ leaf)
  m.takeWhile (·.2.leaf ≠ leaf) ++ refresh (rest.takeWhile (·.2.leaf = leaf)) writer ++
    rest.dropWhile (·.2.leaf = leaf)

/-- Binds a key. -/
def set (m : MapVersion) (k : Value) (v : Kept) : MapVersion :=
  let leaf := (m.home? k).getD ⟨v.origin, false⟩
  refreshLeaf (Assoc.insert cmp k ⟨v, leaf⟩ m) leaf v.origin

/-- The first version of a map, with an insertion for each entry. -/
def ofList (entries : List (Value × Value)) : MapVersion :=
  ((List.range entries.length).zip entries).foldl (fun m (i, k, v) => m.set k ⟨i, v⟩) []

/-! ## Comparisons -/

/-- The entries that a comparison looks at: all that lie in leaves of this version alone, and the first one of
each row of the others. The flag says that such a row has begun. -/
def visible (common : Leaf → Bool) : Bool → MapVersion → List (Value × Kept)
  | _, [] => []
  | inRow, (k, c) :: rest =>
    if common c.leaf then
      if inRow then visible common true rest else (k, c.kept) :: visible common true rest
    else (k, c.kept) :: visible common false rest

/-- The entries at which a version is compared with another. -/
def against (a b : MapVersion) : List (Value × Kept) :=
  visible (fun leaf => b.any (·.2.leaf = leaf)) false a

/-- Whether two versions are equal, as far as the comparison looks. -/
def eq (a b : MapVersion) : Bool :=
  a.length == b.length && Kept.eqEntries (a.against b) (b.against a)

/-! ## What an insertion does to the entries -/

@[simp]
theorem entries_append (a b : MapVersion) : entries (a ++ b) = entries a ++ entries b := by
  simp [entries]

@[simp]
theorem entries_gather (m : MapVersion) (leaf : Leaf) : (m.gather leaf).entries = m.entries := by
  simp [entries, gather]

@[simp]
theorem entries_refresh (m : MapVersion) (writer : Nat) : (m.refresh writer).entries = m.entries := by
  unfold refresh
  split
  · simp
  · simp only [entries_append, entries_gather]
    rw [← entries_append, List.take_append_drop]

@[simp]
theorem entries_refreshLeaf (m : MapVersion) (leaf : Leaf) (writer : Nat) :
    (m.refreshLeaf leaf writer).entries = m.entries := by
  simp only [refreshLeaf, entries_append, entries_refresh, List.append_assoc]
  simp only [← entries_append, List.takeWhile_append_dropWhile]

theorem entries_insert (m : MapVersion) (k : Value) (c : Cell) :
    entries (Assoc.insert cmp k c m) = Assoc.insert cmp k c.kept.value m.entries := by
  induction m with
  | nil => rfl
  | cons e m ih =>
    simp only [entries, Assoc.insert, List.map_cons]
    split <;> simp_all [entries]

/-- An insertion does to the entries what it does to an association list. -/
theorem entries_set (m : MapVersion) (k : Value) (v : Kept) :
    (m.set k v).entries = Assoc.insert cmp k v.value m.entries := by
  simp [set, entries_insert]

end MapVersion

end MooWorld.Value
