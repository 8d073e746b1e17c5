import Mathlib.Data.List.Forall2
import MooWorld.Proofs.ValueOrder
import MooWorld.Store.Inheritance
import MooWorld.Value.Hash
/-!
# Equality, order and hash of values

Equality and the order are looked at in the same way: two values are alike if they are alike without the
values in them, if the keys of maps are alike one by one, and if the other values in them are. `Shell` is
what is left of a value without the values in it. Two values compare equal if their shells are the same
(`cmp_eq_iff`); they are equal if their shells are the same up to messages and the sign of zeros, and are
no NaN (`eq_iff`); in both cases keys have to compare equal. Shells that are the same up to messages are
enough for a hash (`hashInto_congr`).

So what is between the relations is in the shells: a zero with a sign, a NaN, an error. Whether such a value
stands somewhere in another is `Within`.
-/
namespace MooWorld

open List (Forall₂)
open Std (OrientedCmp TransCmp)

/-! ## Lists, one by one -/

theorem forall₂_imp_mem {α β : Type} {R S : α → β → Prop} {as : List α} {bs : List β}
    (h : Forall₂ R as bs) (hi : ∀ a ∈ as, ∀ b ∈ bs, R a b → S a b) : Forall₂ S as bs := by
  induction h with
  | nil => exact .nil
  | cons hab _ ih =>
    refine .cons (hi _ List.mem_cons_self _ List.mem_cons_self hab) (ih fun a ma b mb => ?_)
    exact hi a (List.mem_cons_of_mem _ ma) b (List.mem_cons_of_mem _ mb)

theorem forall₂_append_iff {α β : Type} {R : α → β → Prop} {as as' : List α} {bs bs' : List β}
    (hl : as.length = bs.length) :
    Forall₂ R (as ++ as') (bs ++ bs') ↔ Forall₂ R as bs ∧ Forall₂ R as' bs' := by
  induction as generalizing bs with
  | nil => cases bs <;> simp_all
  | cons a as ih =>
    cases bs with
    | nil => cases hl
    | cons b bs =>
      simp only [List.cons_append, List.forall₂_cons, ih (Nat.succ.inj hl), and_assoc]

theorem forall₂_trans_mem {α : Type} {R : α → α → Prop} {as bs cs : List α} (h : Forall₂ R as bs)
    (h' : Forall₂ R bs cs) (ht : ∀ a ∈ as, ∀ b c, R a b → R b c → R a c) : Forall₂ R as cs := by
  induction h generalizing cs with
  | nil => exact h'
  | cons hab _ ih =>
    obtain ⟨c, cs, hbc, hrest, rfl⟩ := List.forall₂_cons_left_iff.1 h'
    exact .cons (ht _ List.mem_cons_self _ _ hab hbc)
      (ih hrest fun a m => ht a (List.mem_cons_of_mem _ m))

/-! ## Numbers and codes -/

namespace Double

theorem orderKey_inj {x y : Double} (h : x.orderKey = y.orderKey) : x = y := by
  have hx : x.bits.toNat < 18446744073709551616 := x.bits.toNat_lt
  have hy : y.bits.toNat < 18446744073709551616 := y.bits.toNat_lt
  have hbits : x.bits.toNat = y.bits.toNat := by
    simp only [orderKey, isNegative, magnitude, Nat.pow_eq, Nat.reducePow, decide_eq_true_eq] at h
    split at h <;> split at h <;> omega
  obtain ⟨bx⟩ := x
  obtain ⟨bY⟩ := y
  exact congrArg Double.mk (UInt64.toNat_inj.1 hbits)

theorem totalCmp_eq_iff {x y : Double} : x.totalCmp y = .eq ↔ x = y := by
  rw [totalCmp, Std.compare_eq_iff_eq]
  exact ⟨orderKey_inj, congrArg _⟩

/-- The number without the sign of a zero. -/
def unsigned (x : Double) : Double := if x.isZero then ⟨0⟩ else x

/-- A zero has no bits below the sign. -/
theorem eq_of_isZero {x : Double} (h : x.isZero = true) : x = ⟨0⟩ ∨ x = ⟨0x8000000000000000⟩ := by
  obtain ⟨b⟩ := x
  have hb : b.toNat < 18446744073709551616 := b.toNat_lt
  simp only [isZero, magnitude, Nat.pow_eq, Nat.reducePow, beq_iff_eq] at h
  have : b.toNat = 0 ∨ b.toNat = 9223372036854775808 := by omega
  rcases this with h0 | h0
  · left; exact congrArg Double.mk (UInt64.toNat_inj.1 h0)
  · right; exact congrArg Double.mk (UInt64.toNat_inj.1 h0)

theorem isNaN_of_isZero {x : Double} (h : x.isZero = true) : x.isNaN = false := by
  rcases eq_of_isZero h with rfl | rfl <;> decide

/-- Numbers that are the same without the sign of a zero are the same, or are both zeros. -/
theorem unsigned_eq_iff {x y : Double} :
    x.unsigned = y.unsigned ↔ x = y ∨ x.isZero = true ∧ y.isZero = true := by
  have h0 : isZero ⟨0⟩ = true := by decide
  unfold unsigned
  by_cases hx : x.isZero = true <;> by_cases hy : y.isZero = true
  · simp [hx, hy]
  · simp only [if_pos hx, hy]
    constructor
    · rintro rfl; exact absurd h0 hy
    · rintro (rfl | ⟨-, h⟩)
      · exact absurd hx hy
      · cases h
  · simp only [if_pos hy, hx]
    constructor
    · rintro rfl; exact absurd h0 hx
    · rintro (rfl | ⟨h, -⟩)
      · exact absurd hy hx
      · cases h
  · simp [hx, hy]

theorem isNaN_of_unsigned_eq {x y : Double} (h : x.unsigned = y.unsigned) : x.isNaN = y.isNaN := by
  rcases unsigned_eq_iff.1 h with rfl | ⟨hx, hy⟩
  · rfl
  · rw [isNaN_of_isZero hx, isNaN_of_isZero hy]

theorem numEq_iff {x y : Double} : x.numEq y = true ↔ x.unsigned = y.unsigned ∧ x.isNaN = false := by
  have hbits : x.bits = y.bits ↔ x = y := by cases x; cases y; simp
  simp only [numEq, Bool.and_eq_true, Bool.or_eq_true, Bool.not_eq_true', beq_iff_eq, hbits]
  constructor
  · rintro ⟨⟨hx, -⟩, h⟩; exact ⟨unsigned_eq_iff.2 h, hx⟩
  · rintro ⟨h, hx⟩
    exact ⟨⟨hx, (isNaN_of_unsigned_eq h).symm.trans hx⟩, unsigned_eq_iff.1 h⟩

/-- The sign of a zero is all that numbers which are the same without it can differ in. -/
theorem eq_of_unsigned_eq {x y : Double} (h : x.unsigned = y.unsigned) (hx : x ≠ ⟨0x8000000000000000⟩)
    (hy : y ≠ ⟨0x8000000000000000⟩) : x = y := by
  rcases unsigned_eq_iff.1 h with rfl | ⟨hzx, hzy⟩
  · rfl
  · rw [(eq_of_isZero hzx).resolve_right hx, (eq_of_isZero hzy).resolve_right hy]

end Double

theorem ErrorCode.cmp_eq_eq {c d : ErrorCode} :
    c.cmp d = .eq ↔ c.rank = d.rank ∧ c.customKey = d.customKey := by
  rw [ErrorCode.cmp, Ordering.then_eq_eq, Std.compare_eq_iff_eq, Std.compare_eq_iff_eq]

theorem ErrorCode.isCustom_eq (c : ErrorCode) : c.isCustom = (c.rank == 16) := by
  cases c <;> rfl

namespace Value

/-! ## Shells -/

/-- What is left of a value without the values in it. -/
inductive Shell where
  | none
  | bool (b : Bool)
  | obj (o : Obj)
  | int (i : Int64)
  | float (x : Double)
  | list
  | str (folded : List Char)
  | map
  | err (rank : Nat) (name : List Char) (message : Option String)
  | flyweight (delegate : Obj) (names : List (List Char))

namespace Shell

/-- Without the message of an error. -/
def silent : Shell → Shell
  | .err rank name _ => .err rank name .none
  | s => s

/-- Without the message of an error and without the sign of a zero. -/
def plain : Shell → Shell
  | .float x => .float x.unsigned
  | s => s.silent

/-- Whether this is a NaN. -/
def isNaN : Shell → Bool
  | .float x => x.isNaN
  | _ => false

end Shell

/-- The value without the values in it. -/
def shell : Value → Shell
  | .none => .none
  | .bool b => .bool b
  | .obj o => .obj o
  | .int i => .int i
  | .float x => .float x
  | .list _ => .list
  | .str s => .str (Text.fold s)
  | .map _ => .map
  | .err code message _ => .err code.rank code.customKey message
  | .flyweight delegate slots _ => .flyweight delegate (slots.map (·.1.folded))

/-- The keys of a map. -/
def keys : Value → List Value
  | .map entries => entries.map (·.1)
  | _ => []

/-- The values that a value holds, but for the keys of a map. -/
def held : Value → List Value
  | .list items => items
  | .map entries => entries.map (·.2)
  | .err _ _ detail => detail.toList
  | .flyweight _ slots contents => slots.map (·.2) ++ contents
  | _ => []

/-- Two values compare equal. -/
def CmpEq (a b : Value) : Prop := cmp a b = .eq

/-- Two values give the same bytes, whatever follows them. -/
def HashEq (a b : Value) : Prop := hashInto a = hashInto b

/-! ## The order -/

theorem cmpList_eq_eq : ∀ {as bs : List Value}, cmpList as bs = .eq ↔ Forall₂ CmpEq as bs
  | [], [] => by simp [cmpList]
  | [], _ :: _ => by simp [cmpList]
  | _ :: _, [] => by simp [cmpList]
  | a :: as, b :: bs => by
    rw [cmpList, Ordering.then_eq_eq, cmpList_eq_eq, List.forall₂_cons, CmpEq]

theorem cmpEntries_eq_eq : ∀ {as bs : List (Value × Value)}, cmpEntries as bs = .eq ↔
    Forall₂ CmpEq (as.map (·.1)) (bs.map (·.1)) ∧ Forall₂ CmpEq (as.map (·.2)) (bs.map (·.2))
  | [], [] => by simp [cmpEntries]
  | [], _ :: _ => by simp [cmpEntries]
  | _ :: _, [] => by simp [cmpEntries]
  | (k, v) :: as, (k', v') :: bs => by
    simp only [cmpEntries, Ordering.then_eq_eq, cmpEntries_eq_eq, List.map_cons, List.forall₂_cons, CmpEq]
    tauto

theorem cmpSlots_eq_eq : ∀ {as bs : List (Symbol × Value)}, cmpSlots as bs = .eq ↔
    as.map (·.1.folded) = bs.map (·.1.folded) ∧ Forall₂ CmpEq (as.map (·.2)) (bs.map (·.2))
  | [], [] => by simp [cmpSlots]
  | [], _ :: _ => by simp [cmpSlots]
  | _ :: _, [] => by simp [cmpSlots]
  | (k, v) :: as, (k', v') :: bs => by
    simp only [cmpSlots, Ordering.then_eq_eq, cmpSlots_eq_eq, Symbol.cmp_eq_eq, List.map_cons,
      List.cons.injEq, List.forall₂_cons, CmpEq]
    tauto

theorem cmpOption_eq_eq {d d' : Option Value} :
    cmpOption d d' = .eq ↔ Forall₂ CmpEq d.toList d'.toList := by
  cases d <;> cases d' <;> simp [cmpOption, CmpEq]

/-- Values compare equal if their shells are the same, and the values in them compare equal. -/
theorem cmp_eq_iff {a b : Value} : cmp a b = .eq ↔
    a.shell = b.shell ∧ Forall₂ CmpEq a.keys b.keys ∧ Forall₂ CmpEq a.held b.held := by
  cases a <;> cases b
  case obj.obj o o' => simp [cmp, shell, keys, held, Store.cmp_eq_iff]
  case float.float x y => simp [cmp, shell, keys, held, Double.totalCmp_eq_iff]
  case list.list as bs => simp [cmp, shell, keys, held, cmpList_eq_eq]
  case map.map as bs => simp [cmp, shell, keys, held, cmpEntries_eq_eq]
  case err.err c m d c' m' d' =>
    simp [cmp, shell, keys, held, ErrorCode.cmp_eq_eq, cmpOption_eq_eq, and_assoc]
  case flyweight.flyweight o s c o' s' c' =>
    simp only [cmp, Ordering.then_eq_eq, Store.cmp_eq_iff, cmpSlots_eq_eq, cmpList_eq_eq, shell,
      Shell.flyweight.injEq, keys, List.forall₂_nil_left_iff, true_and, held, and_assoc]
    refine and_congr_right fun _ => and_congr_right fun hn => ?_
    have hl : s.length = s'.length := by simpa using congrArg List.length hn
    rw [forall₂_append_iff (by simpa using hl)]
  all_goals simp [cmp, shell, keys, held, rank]

/-! ## Equality -/

/-- Two values are equal. -/
def Equal (a b : Value) : Prop := eq a b = true

theorem eqList_iff : ∀ {as bs : List Value}, eqList as bs = true ↔ Forall₂ Equal as bs
  | [], [] => by simp [eqList]
  | [], _ :: _ => by simp [eqList]
  | _ :: _, [] => by simp [eqList]
  | a :: as, b :: bs => by
    rw [eqList, Bool.and_eq_true, eqList_iff, List.forall₂_cons, Equal]

theorem eqEntries_iff : ∀ {as bs : List (Value × Value)}, eqEntries as bs = true ↔
    Forall₂ CmpEq (as.map (·.1)) (bs.map (·.1)) ∧ Forall₂ Equal (as.map (·.2)) (bs.map (·.2))
  | [], [] => by simp [eqEntries]
  | [], _ :: _ => by simp [eqEntries]
  | _ :: _, [] => by simp [eqEntries]
  | (k, v) :: as, (k', v') :: bs => by
    simp only [eqEntries, Bool.and_eq_true, beq_iff_eq, eqEntries_iff, List.map_cons, List.forall₂_cons,
      CmpEq, Equal]
    tauto

theorem eqSlots_iff : ∀ {as bs : List (Symbol × Value)}, eqSlots as bs = true ↔
    as.map (·.1.folded) = bs.map (·.1.folded) ∧ Forall₂ Equal (as.map (·.2)) (bs.map (·.2))
  | [], [] => by simp [eqSlots]
  | [], _ :: _ => by simp [eqSlots]
  | _ :: _, [] => by simp [eqSlots]
  | (k, v) :: as, (k', v') :: bs => by
    simp only [eqSlots, Symbol.same, Bool.and_eq_true, beq_iff_eq, eqSlots_iff, List.map_cons,
      List.cons.injEq, List.forall₂_cons, Equal]
    tauto

theorem eqOption_iff {d d' : Option Value} : eqOption d d' = true ↔ Forall₂ Equal d.toList d'.toList := by
  cases d <;> cases d' <;> simp [eqOption, Equal]

/-- Values are equal if their shells are the same up to messages and the signs of zeros, and are no NaN, if
the keys in them compare equal, and if the other values in them are equal. -/
theorem eq_iff {a b : Value} : eq a b = true ↔
    (a.shell.plain = b.shell.plain ∧ a.shell.isNaN = false) ∧
      Forall₂ CmpEq a.keys b.keys ∧ Forall₂ Equal a.held b.held := by
  cases a <;> cases b
  case float.float x y => simp [eq, shell, Shell.plain, Shell.isNaN, keys, held, Double.numEq_iff]
  case list.list as bs => simp [eq, shell, Shell.plain, Shell.isNaN, keys, held, eqList_iff]
  case map.map as bs => simp [eq, shell, Shell.plain, Shell.isNaN, keys, held, eqEntries_iff]
  case err.err c m d c' m' d' =>
    simp [eq, shell, Shell.plain, Shell.silent, Shell.isNaN, keys, held, ErrorCode.same, eqOption_iff]
  case flyweight.flyweight o s c o' s' c' =>
    simp only [eq, Bool.and_eq_true, beq_iff_eq, eqSlots_iff, eqList_iff, shell, Shell.plain, Shell.silent,
      Shell.flyweight.injEq, Shell.isNaN, and_true, keys, List.forall₂_nil_left_iff, true_and, held, and_assoc]
    refine and_congr_right fun _ => and_congr_right fun hn => ?_
    have hl : s.length = s'.length := by simpa using congrArg List.length hn
    rw [forall₂_append_iff (by simpa using hl)]
  all_goals simp [eq, shell, Shell.plain, Shell.silent, Shell.isNaN, keys, held]

/-! ## Hash streams -/

theorem hashList_congr {as bs : List Value} (h : Forall₂ HashEq as bs) (rest : List UInt8) :
    hashList as rest = hashList bs rest := by
  induction h with
  | nil => rfl
  | cons hab _ ih => rw [hashList, hashList, ih, hab]

theorem hashEntries_congr : ∀ {as bs : List (Value × Value)},
    Forall₂ HashEq (as.map (·.1)) (bs.map (·.1)) → Forall₂ HashEq (as.map (·.2)) (bs.map (·.2)) →
    ∀ rest, hashEntries as rest = hashEntries bs rest
  | [], [], _, _, _ => rfl
  | (k, v) :: as, (k', v') :: bs, hk, hv, rest => by
    obtain ⟨hkk, hks⟩ := List.forall₂_cons.1 hk
    obtain ⟨hvv, hvs⟩ := List.forall₂_cons.1 hv
    rw [hashEntries, hashEntries, hashEntries_congr hks hvs, hkk, hvv]

theorem hashSlots_congr : ∀ {as bs : List (Symbol × Value)},
    as.map (·.1.folded) = bs.map (·.1.folded) → Forall₂ HashEq (as.map (·.2)) (bs.map (·.2)) →
    ∀ rest, hashSlots as rest = hashSlots bs rest
  | [], [], _, _, _ => rfl
  | (k, v) :: as, (k', v') :: bs, hk, hv, rest => by
    obtain ⟨hkk, hks⟩ : k.folded = k'.folded ∧ _ := List.cons.inj hk
    obtain ⟨hvv, hvs⟩ := List.forall₂_cons.1 hv
    rw [hashSlots, hashSlots, hashSlots_congr hks hvs, hkk, hvv]

theorem codeBytes_congr {c d : ErrorCode} (hr : c.rank = d.rank) (hk : c.customKey = d.customKey)
    (rest : List UInt8) : codeBytes c rest = codeBytes d rest := by
  simp only [codeBytes, ErrorCode.isCustom_eq, hr, hk]

/-- Values give the same bytes if their shells are the same up to messages, and the values in them give the
same bytes. -/
theorem hashInto_congr {a b : Value} (hs : a.shell.silent = b.shell.silent)
    (hk : Forall₂ HashEq a.keys b.keys) (hh : Forall₂ HashEq a.held b.held) : HashEq a b := by
  funext rest
  cases a <;> cases b <;>
    simp only [shell, Shell.silent, reduceCtorEq, Shell.bool.injEq, Shell.obj.injEq, Shell.int.injEq,
      Shell.float.injEq, Shell.str.injEq, Shell.err.injEq, Shell.flyweight.injEq, and_true] at hs
  case none.none => rfl
  case list.list as bs =>
    have hitems : Forall₂ HashEq as bs := hh
    rw [hashInto, hashInto, hashList_congr hitems, hitems.length_eq]
  case map.map as bs =>
    have hl : as.length = bs.length := by simpa [keys] using hk.length_eq
    rw [hashInto, hashInto, hashEntries_congr hk hh, hl]
  case err.err c m d c' m' d' => rw [hashInto, hashInto, codeBytes_congr hs.1 hs.2]
  case flyweight.flyweight o s c o' s' c' =>
    obtain ⟨rfl, hn⟩ := hs
    have hl : s.length = s'.length := by simpa using congrArg List.length hn
    obtain ⟨hslots, hcontents⟩ := (forall₂_append_iff (by simpa using hl)).1 hh
    rw [hashInto, hashInto, hashSlots_congr hn hslots, hashList_congr hcontents, hcontents.length_eq]
  all_goals rw [hashInto, hashInto, hs]

/-! ## Values within values -/

/-- A value is another one or stands somewhere in it, be it as a key. -/
inductive Within (w : Value) : Value → Prop where
  | self : Within w w
  | part {v p : Value} (hp : p ∈ v.parts) (h : Within w p) : Within w v

theorem mem_parts_of_mem_keys {v k : Value} (h : k ∈ v.keys) : k ∈ v.parts := by
  cases v with
  | map entries =>
    obtain ⟨e, m, rfl⟩ := List.mem_map.1 h
    exact List.mem_flatMap.2 ⟨e, m, List.mem_cons_self⟩
  | _ => cases h

theorem mem_parts_of_mem_held {v w : Value} (h : w ∈ v.held) : w ∈ v.parts := by
  cases v with
  | map entries =>
    obtain ⟨e, m, rfl⟩ := List.mem_map.1 h
    exact List.mem_flatMap.2 ⟨e, m, List.mem_cons_of_mem _ List.mem_cons_self⟩
  | list | err | flyweight => exact h
  | _ => cases h

/-- A zero with a sign stands nowhere in the value. -/
def Unsigned (v : Value) : Prop := ¬ Within negativeZero v

/-- A NaN stands nowhere in the value. -/
def NoNaN (v : Value) : Prop := ∀ x, Within (.float x) v → x.isNaN = false

/-- An error stands nowhere in the value. -/
def NoError (v : Value) : Prop := ∀ code message detail, ¬ Within (.err code message detail) v

theorem Unsigned.held {v w : Value} (h : Unsigned v) (m : w ∈ v.held) : Unsigned w :=
  fun hw => h (.part (mem_parts_of_mem_held m) hw)

theorem NoNaN.held {v w : Value} (h : NoNaN v) (m : w ∈ v.held) : NoNaN w :=
  fun x hw => h x (.part (mem_parts_of_mem_held m) hw)

theorem NoError.held {v w : Value} (h : NoError v) (m : w ∈ v.held) : NoError w :=
  fun c t d hw => h c t d (.part (mem_parts_of_mem_held m) hw)

theorem NoNaN.shell {v : Value} (h : NoNaN v) : v.shell.isNaN = false := by
  cases v with
  | float x => exact h x .self
  | _ => rfl

/-- Without zeros with a sign, shells that count as equal differ in messages only. -/
theorem Unsigned.silent_eq {a b : Value} (ha : Unsigned a) (hb : Unsigned b)
    (h : a.shell.plain = b.shell.plain) : a.shell.silent = b.shell.silent := by
  cases a <;> cases b
  case float.float x y =>
    have hx : x ≠ ⟨0x8000000000000000⟩ := by rintro rfl; exact ha .self
    have hy : y ≠ ⟨0x8000000000000000⟩ := by rintro rfl; exact hb .self
    rw [Double.eq_of_unsigned_eq (Shell.float.inj h) hx hy]
  all_goals first | exact h | cases h

theorem NoError.silent_eq {v : Value} (h : NoError v) : v.shell.silent = v.shell := by
  cases v with
  | err c m d => exact absurd .self (h c m d)
  | _ => rfl

/-! ## How the relations agree -/

theorem hashEq_of_cmp (a : Value) : ∀ b, cmp a b = .eq → HashEq a b := by
  refine parts_induct (P := fun a => ∀ b, cmp a b = .eq → HashEq a b) (fun a ih b h => ?_) a
  obtain ⟨hs, hk, hh⟩ := cmp_eq_iff.1 h
  refine hashInto_congr (congrArg _ hs) ?_ ?_
  · exact forall₂_imp_mem hk fun v m w _ => ih v (mem_parts_of_mem_keys m) w
  · exact forall₂_imp_mem hh fun v m w _ => ih v (mem_parts_of_mem_held m) w

theorem hashEq_of_eq (a : Value) : ∀ b, eq a b = true → Unsigned a → Unsigned b → HashEq a b := by
  refine parts_induct (P := fun a => ∀ b, eq a b = true → Unsigned a → Unsigned b → HashEq a b)
    (fun a ih b h ha hb => ?_) a
  obtain ⟨⟨hs, -⟩, hk, hh⟩ := eq_iff.1 h
  -- keys compare equal, whatever equality says of the other values
  refine hashInto_congr (ha.silent_eq hb hs) (hk.imp hashEq_of_cmp) ?_
  exact forall₂_imp_mem hh fun v m w m' hvw =>
    ih v (mem_parts_of_mem_held m) w hvw (ha.held m) (hb.held m')

theorem eq_of_cmp (a : Value) : ∀ b, NoNaN a → cmp a b = .eq → eq a b = true := by
  refine parts_induct (P := fun a => ∀ b, NoNaN a → cmp a b = .eq → eq a b = true) (fun a ih b ha h => ?_) a
  obtain ⟨hs, hk, hh⟩ := cmp_eq_iff.1 h
  refine eq_iff.2 ⟨⟨congrArg _ hs, ha.shell⟩, hk, ?_⟩
  exact forall₂_imp_mem hh fun v m w _ => ih v (mem_parts_of_mem_held m) w (ha.held m)

theorem cmp_of_eq (a : Value) : ∀ b, Unsigned a → Unsigned b → NoError a → NoError b → eq a b = true →
    cmp a b = .eq := by
  refine parts_induct (P := fun a => ∀ b, Unsigned a → Unsigned b → NoError a → NoError b → eq a b = true →
    cmp a b = .eq) (fun a ih b ha hb hea heb h => ?_) a
  obtain ⟨⟨hs, -⟩, hk, hh⟩ := eq_iff.1 h
  have hshell : a.shell = b.shell := by
    rw [← hea.silent_eq, ← heb.silent_eq]
    exact ha.silent_eq hb hs
  refine cmp_eq_iff.2 ⟨hshell, hk, ?_⟩
  exact forall₂_imp_mem hh fun v m w m' hvw => ih v (mem_parts_of_mem_held m) w (ha.held m) (hb.held m')
    (hea.held m) (heb.held m') hvw

theorem isNaN_of_plain_eq {a b : Value} (h : a.shell.plain = b.shell.plain) :
    a.shell.isNaN = b.shell.isNaN := by
  cases a <;> cases b
  case float.float x y => exact Double.isNaN_of_unsigned_eq (Shell.float.inj h)
  all_goals first | rfl | cases h

theorem eq_symm (a : Value) : ∀ b, eq a b = true → eq b a = true := by
  refine parts_induct (P := fun a => ∀ b, eq a b = true → eq b a = true) (fun a ih b h => ?_) a
  obtain ⟨⟨hs, hnan⟩, hk, hh⟩ := eq_iff.1 h
  refine eq_iff.2 ⟨⟨hs.symm, (isNaN_of_plain_eq hs).symm.trans hnan⟩, .flip ?_, .flip ?_⟩
  · exact hk.imp fun _ _ => OrientedCmp.eq_symm
  · exact forall₂_imp_mem hh fun v m w _ => ih v (mem_parts_of_mem_held m) w

theorem eq_trans (a : Value) : ∀ b c, eq a b = true → eq b c = true → eq a c = true := by
  refine parts_induct (P := fun a => ∀ b c, eq a b = true → eq b c = true → eq a c = true)
    (fun a ih b c h h' => ?_) a
  obtain ⟨⟨hs, hnan⟩, hk, hh⟩ := eq_iff.1 h
  obtain ⟨⟨hs', -⟩, hk', hh'⟩ := eq_iff.1 h'
  refine eq_iff.2 ⟨⟨hs.trans hs', hnan⟩, ?_, ?_⟩
  · exact forall₂_trans_mem hk hk' fun _ _ _ _ => TransCmp.eq_trans
  · exact forall₂_trans_mem hh hh' fun v m => ih v (mem_parts_of_mem_held m)

/-- **Equality, the order and the hash agree, but for signed zeros, NaNs and errors.** Values that compare
equal have the same hash stream. Equal values do if no zero in them has a sign. Values that compare equal are
equal if there is no NaN in them, and equal values compare equal if there is neither a zero with a sign nor
an error in them. Equality is symmetric and transitive. -/
theorem eq_cmp_hash_agree :
    (∀ a b, cmp a b = .eq → hashBytes a = hashBytes b) ∧
    (∀ a b, eq a b = true → Unsigned a → Unsigned b → hashBytes a = hashBytes b) ∧
    (∀ a b, NoNaN a → cmp a b = .eq → eq a b = true) ∧
    (∀ a b, Unsigned a → Unsigned b → NoError a → NoError b → eq a b = true → cmp a b = .eq) ∧
    (∀ a b, eq a b = true → eq b a = true) ∧
    (∀ a b c, eq a b = true → eq b c = true → eq a c = true) := by
  refine ⟨fun a b h => ?_, fun a b h ha hb => ?_, eq_of_cmp, cmp_of_eq, eq_symm, eq_trans⟩
  · exact congrFun (hashEq_of_cmp a b h) []
  · exact congrFun (hashEq_of_eq a b h ha hb) []

/-- None of the exceptions can be left out: a zero with a sign equals one without, a NaN compares equal to
itself, and an error equals one with another message. -/
example : eq negativeZero (.float ⟨0⟩) = true ∧ hashBytes negativeZero ≠ hashBytes (.float ⟨0⟩) ∧
    cmp negativeZero (.float ⟨0⟩) ≠ .eq ∧
    eq (.float ⟨0x7FF8000000000000⟩) (.float ⟨0x7FF8000000000000⟩) = false ∧
    cmp (.err .noError (some "a") .none) (.err .noError .none .none) ≠ .eq := by
  decide

/-- A flyweight with an empty slot and one value. -/
def charm (slot : String) (v : Value) : Value := .flyweight ⟨1⟩ [(⟨slot⟩, .none)] [v]

theorem within_charm {slot : String} {v w : Value} (hv : v.parts = []) (h : Within w (charm slot v)) :
    w = charm slot v ∨ w = .none ∨ w = v := by
  cases h with
  | self => exact .inl rfl
  | @part _ p hp h =>
    have hnil : p.parts = [] ∧ (p = .none ∨ p = v) := by
      rcases List.mem_cons.1 hp with rfl | hp
      · exact ⟨rfl, .inl rfl⟩
      · rw [List.mem_singleton.1 hp]; exact ⟨hv, .inr rfl⟩
    cases h with
    | self => exact .inr hnil.2
    | part hp' => rw [hnil.1] at hp'; cases hp'

/-- A flyweight with a NaN compares equal to one whose slot is written otherwise, and so has the same hash.
With an error in it, it equals one with another message. With a number that is not zero, all is the same. -/
theorem eq_cmp_hash_agree_charm :
    hashBytes (charm "Slot" (.float ⟨0x7FF8000000000000⟩)) =
      hashBytes (charm "sLOT" (.float ⟨0x7FF8000000000000⟩)) ∧
    eq (charm "Slot" (.err .noError (some "a") .none)) (charm "slot" (.err .noError .none .none)) = true ∧
    hashBytes (charm "Slot" (.err .noError (some "a") .none)) =
      hashBytes (charm "slot" (.err .noError .none .none)) ∧
    eq (charm "Slot" (.int 1)) (charm "slot" (.int 1)) = true ∧
    cmp (charm "Slot" (.int 1)) (charm "slot" (.int 1)) = .eq ∧
    eq (charm "SLOT" negativeZero) (charm "Slot" negativeZero) = true := by
  obtain ⟨hcmp, hhash, hnan, hsame, hsymm, htrans⟩ := eq_cmp_hash_agree
  have hunsigned : ∀ {slot v}, v.parts = [] → v ≠ negativeZero → Unsigned (charm slot v) := by
    intro slot v hv hne h
    rcases within_charm hv h with h | h | h
    · cases h
    · cases h
    · exact hne h.symm
  have hnoError : ∀ slot, NoError (charm slot (.int 1)) := by
    intro slot code message detail h
    rcases within_charm rfl h with h | h | h <;> cases h
  have hnoNaN : NoNaN (charm "Slot" (.int 1)) := by
    intro x h
    rcases within_charm rfl h with h | h | h <;> cases h
  have herr : eq (charm "Slot" (.err .noError (some "a") .none)) (charm "slot" (.err .noError .none .none)) =
      true := by decide
  have hone : eq (charm "Slot" (.int 1)) (charm "slot" (.int 1)) = true := hnan _ _ hnoNaN (by decide)
  have hzero : eq (charm "Slot" negativeZero) (charm "slot" (.float ⟨0⟩)) = true := by decide
  exact ⟨hcmp _ _ (by decide), herr, hhash _ _ herr (hunsigned rfl nofun) (hunsigned rfl nofun), hone,
    hsame _ _ (hunsigned rfl nofun) (hunsigned rfl nofun) (hnoError _) (hnoError _) hone,
    htrans _ _ _ (by decide) (hsymm _ _ hzero)⟩

end Value

end MooWorld
