import MooWorld.Value.Basic
/-!
# Sizes

The byte cost of a value, by which quotas are enforced. `cost` is the cost as a sum over the structure
of the value. `size` is the estimate that quotas use: it walks the value with a stack of pending parts,
so that depth does not matter, and stops counting at the largest 64-bit number.
-/
namespace MooWorld.Value

/-- What every value costs. -/
def slotBytes : Nat := 16

/-- What a list, map or flyweight costs besides. -/
def headerBytes : Nat := 16

mutual

/-- The cost of a value and everything in it. -/
def cost : Value → Nat
  | .none => slotBytes
  | .bool _ => slotBytes
  | .obj _ => slotBytes
  | .int _ => slotBytes
  | .float _ => slotBytes
  | .str s => slotBytes + s.utf8ByteSize
  | .err _ message detail => slotBytes + (message.elim 0 String.utf8ByteSize) + costOption detail
  | .list items => slotBytes + headerBytes + costList items
  | .map entries => slotBytes + headerBytes + costEntries entries
  | .flyweight _ slots contents => slotBytes + headerBytes + costSlots slots + costList contents
termination_by structural a => a

/-- The cost of the elements. -/
def costList : List Value → Nat
  | [] => 0
  | v :: vs => cost v + costList vs
termination_by structural a => a

/-- The cost of the keys and values. -/
def costEntries : List (Value × Value) → Nat
  | [] => 0
  | (k, v) :: rest => cost k + cost v + costEntries rest
termination_by structural a => a

/-- The cost of the slot names, as spelled, and the slot values. -/
def costSlots : List (Symbol × Value) → Nat
  | [] => 0
  | (k, v) :: rest => k.name.utf8ByteSize + cost v + costSlots rest
termination_by structural a => a

/-- The cost of a value that may be absent. -/
def costOption : Option Value → Nat
  | .none => 0
  | .some v => cost v
termination_by structural a => a

end

/-- The largest size that is told apart. -/
def maxSize : Nat := UInt64.size - 1

/-- Addition that stops at the largest size. -/
def addSize (a b : Nat) : Nat := min maxSize (a + b)

/-- What a value adds to the size by itself, charge by charge. -/
def charges : Value → List Nat
  | .none => [slotBytes]
  | .bool _ => [slotBytes]
  | .obj _ => [slotBytes]
  | .int _ => [slotBytes]
  | .float _ => [slotBytes]
  | .str s => [slotBytes, s.utf8ByteSize]
  | .err _ message _ => slotBytes :: (message.map String.utf8ByteSize).toList
  | .list _ => [slotBytes, headerBytes]
  | .map _ => [slotBytes, headerBytes]
  | .flyweight _ slots _ => slotBytes :: headerBytes :: slots.map (·.1.name.utf8ByteSize)

/-- The values that a value holds directly. -/
def parts : Value → List Value
  | .list items => items
  | .map entries => entries.flatMap fun (k, v) => [k, v]
  | .err _ _ detail => detail.toList
  | .flyweight _ slots contents => slots.map (·.2) ++ contents
  | _ => []

mutual

/-- How many values there are in a value, itself included. -/
def nodes : Value → Nat
  | .list items => 1 + nodesList items
  | .map entries => 1 + nodesEntries entries
  | .err _ _ detail => 1 + nodesOption detail
  | .flyweight _ slots contents => 1 + nodesSlots slots + nodesList contents
  | _ => 1
termination_by structural a => a

/-- The sum over a list. -/
def nodesList : List Value → Nat
  | [] => 0
  | v :: vs => nodes v + nodesList vs
termination_by structural a => a

/-- The sum over entries. -/
def nodesEntries : List (Value × Value) → Nat
  | [] => 0
  | (k, v) :: rest => nodes k + nodes v + nodesEntries rest
termination_by structural a => a

/-- The sum over slots. -/
def nodesSlots : List (Symbol × Value) → Nat
  | [] => 0
  | (_, v) :: rest => nodes v + nodesSlots rest
termination_by structural a => a

/-- The count of a value that may be absent. -/
def nodesOption : Option Value → Nat
  | .none => 0
  | .some v => nodes v
termination_by structural a => a

end

theorem nodesList_append (as bs : List Value) :
    nodesList (as ++ bs) = nodesList as + nodesList bs := by
  induction as with
  | nil => simp [nodesList]
  | cons a as ih => simp [nodesList, ih, Nat.add_assoc]

theorem nodesList_entries (entries : List (Value × Value)) :
    nodesList (entries.flatMap fun (k, v) => [k, v]) = nodesEntries entries := by
  induction entries with
  | nil => rfl
  | cons e rest ih => obtain ⟨k, v⟩ := e; simp_all [nodesList, nodesEntries, Nat.add_assoc]

theorem nodesList_slots (slots : List (Symbol × Value)) :
    nodesList (slots.map (·.2)) = nodesSlots slots := by
  induction slots with
  | nil => rfl
  | cons e rest ih => obtain ⟨k, v⟩ := e; simp_all [nodesList, nodesSlots]

theorem nodesList_option (detail : Option Value) : nodesList detail.toList = nodesOption detail := by
  cases detail <;> simp [nodesList, nodesOption]

/-- The parts of a value hold fewer values than the value does. -/
theorem nodesList_parts (v : Value) : nodesList v.parts + 1 = nodes v := by
  cases v <;>
    simp [parts, nodes, nodesList, nodesList_append, nodesList_entries, nodesList_slots,
      nodesList_option] <;> omega

theorem nodesList_reverse (vs : List Value) : nodesList vs.reverse = nodesList vs := by
  induction vs with
  | nil => rfl
  | cons v vs ih => simp [nodesList, nodesList_append, ih, Nat.add_comm]

/-- Adds the charges of all pending values, and of everything in them, to a total. The pending values are
a stack with its top in front: the parts of a value are put on it one after another, so the last of them is
looked at first. -/
def sizeWalk (total : Nat) : List Value → Nat
  | [] => total
  | v :: pending => sizeWalk (v.charges.foldl addSize total) (v.parts.reverse ++ pending)
termination_by pending => nodesList pending
decreasing_by
  have := nodesList_parts v
  simp only [nodesList_append, nodesList_reverse, nodesList]
  omega

/-- The size of a value, as quotas see it (`estimated_size`). -/
def size (v : Value) : Nat := sizeWalk 0 [v]

end MooWorld.Value
