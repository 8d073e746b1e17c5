import Mathlib.Algebra.Ring.Nat
import Mathlib.Logic.Function.Iterate
import MooWorld.Value.Size
/-!
# The size of a value

`size` walks a value with a stack of pending parts and stops at the largest size in every single addition;
`cost` follows the structure of the value and adds without a bound. `size_eq_min_cost` says that the walk
comes to an end, after one turn for each value in the value, and that its total is the cost, cut off once.

The invariant of the walk is about any total and any stack (`sizeWalk_eq`): what the walk ends with is the
total so far and the cost of all that is pending, cut off. An addition that stops early does no harm there,
since what is cut off stays cut off, in whatever order the rest is added.
-/
namespace MooWorld.Value

/-! ## The cost as a sum -/

theorem costList_eq (items : List Value) : costList items = (items.map cost).sum := by
  induction items with
  | nil => rfl
  | cons v items ih => simp [costList, ih]

theorem costEntries_eq (entries : List (Value × Value)) :
    costEntries entries = (entries.map fun e => cost e.1 + cost e.2).sum := by
  induction entries with
  | nil => rfl
  | cons e entries ih => simp [costEntries, ih]

theorem costSlots_eq (slots : List (Symbol × Value)) :
    costSlots slots = (slots.map fun e => e.1.name.utf8ByteSize + cost e.2).sum := by
  induction slots with
  | nil => rfl
  | cons e slots ih => simp [costSlots, ih]

theorem costOption_eq (detail : Option Value) : costOption detail = detail.elim 0 cost := by
  cases detail <;> rfl

/-- What it is to be the cost of values: 16 for each value and 16 more for a container, the bytes of
strings, messages and slot names, and the cost of all that is held. -/
structure IsCost (S : Value → Nat) : Prop where
  none : S .none = 16
  bool : ∀ b, S (.bool b) = 16
  obj : ∀ o, S (.obj o) = 16
  int : ∀ i, S (.int i) = 16
  float : ∀ x, S (.float x) = 16
  str : ∀ s, S (.str s) = 16 + s.utf8ByteSize
  err : ∀ code message detail,
    S (.err code message detail) = 16 + message.elim 0 String.utf8ByteSize + detail.elim 0 S
  list : ∀ items, S (.list items) = 32 + (items.map S).sum
  map : ∀ entries, S (.map entries) = 32 + (entries.map fun e => S e.1 + S e.2).sum
  flyweight : ∀ delegate slots contents, S (.flyweight delegate slots contents) =
    32 + (slots.map fun e => e.1.name.utf8ByteSize + S e.2).sum + (contents.map S).sum

theorem isCost_cost : IsCost cost where
  none := rfl
  bool _ := rfl
  obj _ := rfl
  int _ := rfl
  float _ := rfl
  str _ := rfl
  err code message detail := by rw [cost, costOption_eq]; rfl
  list items := by rw [cost, costList_eq]; rfl
  map entries := by rw [cost, costEntries_eq]; rfl
  flyweight delegate slots contents := by rw [cost, costSlots_eq, costList_eq]; rfl

theorem sum_map_slots (slots : List (Symbol × Value)) :
    (slots.map fun e => e.1.name.utf8ByteSize + cost e.2).sum =
      (slots.map (·.1.name.utf8ByteSize)).sum + (slots.map (cost ·.2)).sum := by
  induction slots with
  | nil => rfl
  | cons e slots ih => simp only [List.map_cons, List.sum_cons, ih]; omega

theorem sum_map_entries (entries : List (Value × Value)) :
    ((entries.flatMap fun e => [e.1, e.2]).map cost).sum =
      (entries.map fun e => cost e.1 + cost e.2).sum := by
  induction entries with
  | nil => rfl
  | cons e entries ih => simp [← ih, Nat.add_assoc]

/-- A value costs what it is charged for by itself, and what its parts cost. -/
theorem cost_eq (v : Value) : v.cost = v.charges.sum + (v.parts.map cost).sum := by
  cases v with
  | err code message detail =>
    rw [isCost_cost.err]
    cases message <;> cases detail <;> simp [charges, parts, slotBytes]
  | list items => rw [isCost_cost.list]; rfl
  | map entries =>
    rw [isCost_cost.map, ← sum_map_entries]; rfl
  | flyweight delegate slots contents =>
    rw [isCost_cost.flyweight, sum_map_slots]
    simp [charges, parts, slotBytes, headerBytes, Function.comp_def]
    omega
  | _ => simp [charges, parts, cost]

/-! ## Additions that stop -/

/-- To stop at the largest size in each addition is to stop there once. -/
theorem foldl_addSize (charges : List Nat) (total : Nat) :
    charges.foldl addSize (min maxSize total) = min maxSize (total + charges.sum) := by
  induction charges generalizing total with
  | nil => rfl
  | cons n charges ih =>
    have hadd : addSize (min maxSize total) n = min maxSize (total + n) := by
      unfold addSize; omega
    rw [List.foldl_cons, hadd, ih, List.sum_cons, Nat.add_assoc]

/-! ## The walk -/

/-- The walk adds the cost of what is pending to the total. -/
theorem sizeWalk_eq (total : Nat) (pending : List Value) :
    sizeWalk (min maxSize total) pending = min maxSize (total + (pending.map cost).sum) := by
  generalize htop : min maxSize total = top
  induction top, pending using sizeWalk.induct generalizing total with
  | case1 top => rw [sizeWalk, ← htop]; rfl
  | case2 top v pending ih =>
    rw [sizeWalk, ih (total + v.charges.sum) (by rw [← htop, foldl_addSize])]
    simp only [List.map_append, List.map_reverse, List.sum_append, List.sum_reverse, List.map_cons,
      List.sum_cons, cost_eq v]
    congr 1
    omega

theorem size_eq (v : Value) : v.size = min maxSize v.cost := by
  have h := sizeWalk_eq 0 [v]
  rw [Nat.min_zero, Nat.zero_add] at h
  exact h

/-- One turn of the walk: the value on top of the stack is charged for, and its parts take its place. -/
def turn : Nat × List Value → Nat × List Value
  | (total, []) => (total, [])
  | (total, v :: pending) => (v.charges.foldl addSize total, v.parts.reverse ++ pending)

theorem sizeWalk_turn (s : Nat × List Value) : sizeWalk (turn s).1 (turn s).2 = sizeWalk s.1 s.2 := by
  obtain ⟨total, _ | ⟨v, pending⟩⟩ := s
  · rfl
  · rw [sizeWalk]; rfl

/-- Each turn is done with one value. -/
theorem nodesList_turn (s : Nat × List Value) : nodesList (turn s).2 = nodesList s.2 - 1 := by
  obtain ⟨total, _ | ⟨v, pending⟩⟩ := s
  · rfl
  · have hv := nodesList_parts v
    simp only [turn, nodesList_append, nodesList_reverse, nodesList]
    omega

theorem nodesList_eq_zero {pending : List Value} : nodesList pending = 0 ↔ pending = [] := by
  cases pending with
  | nil => simp [nodesList]
  | cons v pending =>
    have hv := nodesList_parts v
    simp only [nodesList, reduceCtorEq, iff_false]
    omega

theorem sizeWalk_turns (n : Nat) (s : Nat × List Value) :
    sizeWalk (turn^[n] s).1 (turn^[n] s).2 = sizeWalk s.1 s.2 := by
  induction n generalizing s with
  | zero => rfl
  | succ n ih => rw [Function.iterate_succ_apply, ih, sizeWalk_turn]

theorem nodesList_turns (n : Nat) (s : Nat × List Value) :
    nodesList (turn^[n] s).2 = nodesList s.2 - n := by
  induction n generalizing s with
  | zero => rfl
  | succ n ih => rw [Function.iterate_succ_apply, ih, nodesList_turn, Nat.sub_sub, Nat.add_comm]

/-- The stack is empty after as many turns as there are values in the value, and not before. -/
theorem turns_eq_nil_iff (v : Value) (n : Nat) : (turn^[n] (0, [v])).2 = [] ↔ v.nodes ≤ n := by
  rw [← nodesList_eq_zero, nodesList_turns, Nat.sub_eq_zero_iff_le]
  rfl

/-- **The size of a value is its cost, as far as 64 bits go.** The walk is over after exactly as many turns
as there are values in the value. What it has counted by then is the size, and this is the cost of the
value, or the largest number of 64 bits if the cost is larger. -/
theorem size_eq_min_cost : IsCost cost ∧ ∀ v : Value,
    v.size = min (2 ^ 64 - 1) v.cost ∧
    (∀ n, (turn^[n] (0, [v])).2 = [] ↔ v.nodes ≤ n) ∧ turn^[v.nodes] (0, [v]) = (v.size, []) := by
  refine ⟨isCost_cost, fun v => ⟨size_eq v, turns_eq_nil_iff v, ?_⟩⟩
  have hnil := (turns_eq_nil_iff v v.nodes).2 (Nat.le_refl _)
  have hwalk := sizeWalk_turns v.nodes (0, [v])
  rw [hnil, sizeWalk] at hwalk
  exact Prod.ext hwalk hnil

end MooWorld.Value
