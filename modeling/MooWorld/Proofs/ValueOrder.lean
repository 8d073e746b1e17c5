import MooWorld.Value.Order
import MooWorld.Value.Size
/-!
# The order of values is a total order

Values are compared by rank, and within a rank by content, which may hold further values. An argument
about all values goes by induction over the values that a value holds directly (`parts_induct`).

What is carried through the induction is `LawfulAt cmp a`: comparing with `a` the other way round gives
the reverse, and of three values in ascending order, of which `a` is the first, the outer two compare as
the first strict step says (`Chain`). The latter says more than transitivity, and unlike transitivity it
survives a comparison by one thing and then by another. There is one lemma for each way in which the
comparison of a container is made from comparisons of its parts: `LawfulAt.pair`, `LawfulAt.lex`,
`lawfulAt_cmpOption`.
-/
namespace MooWorld

open Std (OrientedCmp TransCmp)

/-! ## Comparisons in a chain -/

/-- How the outer two of three things compare when no thing is greater than the next: as the first strict
step says, and alike if there is none. -/
def Chain (ab bc ac : Ordering) : Prop := ab ≠ .gt → bc ≠ .gt → ac = ab.then bc

theorem Chain.andThen {ab bc ac ab' bc' ac' : Ordering} (h : Chain ab bc ac) (h' : Chain ab' bc' ac') :
    Chain (ab.then ab') (bc.then bc') (ac.then ac') := by
  intro hab hbc
  cases ab with
  | gt => exact absurd rfl hab
  | lt =>
    cases bc with
    | gt => exact absurd rfl hbc
    | lt => rw [h (by decide) (by decide)]; rfl
    | eq => rw [h (by decide) (by decide)]; rfl
  | eq =>
    cases bc with
    | gt => exact absurd rfl hbc
    | lt =>
      rw [h (by decide) (by decide)]
      cases ab' with
      | gt => exact absurd rfl hab
      | lt => rfl
      | eq => rfl
    | eq =>
      rw [h (by decide) (by decide)]
      exact h' hab hbc

/-- A comparison behaves as one by an order, as far as one thing is concerned. -/
structure LawfulAt {α : Type} (cmp : α → α → Ordering) (a : α) : Prop where
  swap : ∀ b, cmp b a = (cmp a b).swap
  chain : ∀ b c, Chain (cmp a b) (cmp b c) (cmp a c)

namespace LawfulAt

variable {α : Type} {cmp : α → α → Ordering} {a : α}

theorem of_transCmp [TransCmp cmp] (a : α) : LawfulAt cmp a := by
  refine ⟨fun b => OrientedCmp.eq_swap, ?_⟩
  intro b c hab hbc
  cases h : cmp a b with
  | gt => exact absurd h hab
  | lt =>
    cases h' : cmp b c with
    | gt => exact absurd h' hbc
    | lt => exact TransCmp.lt_trans h h'
    | eq => exact TransCmp.lt_of_lt_of_eq h h'
  | eq => exact TransCmp.congr_left h

theorem transCmp (h : ∀ a, LawfulAt cmp a) : TransCmp cmp where
  eq_swap {a b} := (h b).swap a
  isLE_trans {a b c} hab hbc := by
    rw [Ordering.isLE_iff_ne_gt] at hab hbc ⊢
    rw [(h a).chain b c hab hbc]
    cases hx : cmp a b with
    | gt => exact absurd hx hab
    | lt => intro hgt; cases hgt
    | eq => exact hbc

/-- Things that are compared by what they are mapped to. -/
theorem comap {β : Type} {p : β → α} {b : β} (h : LawfulAt cmp (p b)) :
    LawfulAt (fun x y => cmp (p x) (p y)) b :=
  ⟨fun x => h.swap (p x), fun x y => h.chain (p x) (p y)⟩

/-- Pairs that are compared by their first parts and then by their second. -/
theorem pair {β : Type} {cmp' : β → β → Ordering} {b : β} (h : LawfulAt cmp a) (h' : LawfulAt cmp' b) :
    LawfulAt (fun x y : α × β => (cmp x.1 y.1).then (cmp' x.2 y.2)) (a, b) := by
  refine ⟨fun x => ?_, fun x y => (h.chain x.1 y.1).andThen (h'.chain x.2 y.2)⟩
  show (cmp x.1 a).then (cmp' x.2 b) = ((cmp a x.1).then (cmp' b x.2)).swap
  rw [h.swap, h'.swap, Ordering.swap_then]

/-- Lists that are compared element by element. -/
theorem lex {as : List α} (h : ∀ a ∈ as, LawfulAt cmp a) : LawfulAt (List.compareLex cmp) as := by
  induction as with
  | nil =>
    refine ⟨fun bs => by cases bs <;> rfl, fun bs cs => ?_⟩
    cases bs with
    | nil => cases cs <;> exact fun _ _ => rfl
    | cons b bs =>
      cases cs with
      | nil => intro _ hbc; exact absurd List.compareLex_cons_nil hbc
      | cons c cs => exact fun _ _ => rfl
  | cons a as ih =>
    have ha := h a List.mem_cons_self
    have has := ih fun a m => h a (List.mem_cons_of_mem _ m)
    refine ⟨fun bs => ?_, fun bs cs => ?_⟩
    · cases bs with
      | nil => rfl
      | cons b bs =>
        rw [List.compareLex_cons_cons, List.compareLex_cons_cons, ha.swap, has.swap, Ordering.swap_then]
    · cases bs with
      | nil => intro hab; exact absurd List.compareLex_cons_nil hab
      | cons b bs =>
        cases cs with
        | nil => intro _ hbc; exact absurd List.compareLex_cons_nil hbc
        | cons c cs =>
          simp only [List.compareLex_cons_cons]
          exact (ha.chain b c).andThen (has.chain bs cs)

end LawfulAt

instance : TransCmp Obj.cmp where
  eq_swap := Std.OrientedOrd.eq_swap
  isLE_trans := Std.TransOrd.isLE_trans

instance : TransCmp Symbol.cmp where
  eq_swap := Std.OrientedOrd.eq_swap
  isLE_trans := Std.TransOrd.isLE_trans

theorem Symbol.cmp_eq_eq {s t : Symbol} : s.cmp t = .eq ↔ s.folded = t.folded := by
  rw [Symbol.cmp, Std.compare_eq_iff_eq]

instance : TransCmp Double.totalCmp where
  eq_swap := Std.OrientedOrd.eq_swap
  isLE_trans := Std.TransOrd.isLE_trans

instance : TransCmp ErrorCode.cmp :=
  LawfulAt.transCmp fun c =>
    ((LawfulAt.of_transCmp c.rank).pair (.of_transCmp c.customKey)).comap
      (p := fun c : ErrorCode => (c.rank, c.customKey))

namespace Value

/-! ## Induction over the values in a value -/

theorem nodes_le_nodesList {w : Value} : ∀ {l : List Value}, w ∈ l → nodes w ≤ nodesList l
  | v :: l, m => by
    simp only [nodesList]
    rcases List.mem_cons.1 m with rfl | m
    · exact Nat.le_add_right _ _
    · exact Nat.le_trans (nodes_le_nodesList m) (Nat.le_add_left _ _)

/-- What holds of a value whenever it holds of the values that it holds directly, holds of all values. -/
theorem parts_induct {P : Value → Prop} (h : ∀ v, (∀ w ∈ v.parts, P w) → P v) (v : Value) : P v := by
  refine h v fun w m => ?_
  have hw := nodes_le_nodesList m
  have hv := nodesList_parts v
  exact parts_induct h w
termination_by nodes v
decreasing_by omega

/-! ## Values of different kinds -/

theorem cmp_of_rank_ne {a b : Value} (h : a.rank ≠ b.rank) : cmp a b = compare a.rank b.rank := by
  cases a <;> cases b <;> simp_all [cmp, rank]

theorem rank_le_of_cmp {a b : Value} (h : cmp a b ≠ .gt) : a.rank ≤ b.rank := by
  by_cases hr : a.rank = b.rank
  · exact Nat.le_of_eq hr
  · rw [cmp_of_rank_ne hr] at h
    exact Nat.compare_ne_gt.1 h

theorem cmp_of_rank_lt {a b : Value} (h : a.rank < b.rank) : cmp a b = .lt := by
  rw [cmp_of_rank_ne (Nat.ne_of_lt h)]
  exact Nat.compare_eq_lt.2 h

/-- The values of one kind are compared by their content, so it is enough to look at the content. -/
theorem lawfulAt_kind {α : Type} {f : α → α → Ordering} (mk : α → Value)
    (hf : ∀ x y, cmp (mk x) (mk y) = f x y) (hk : ∀ x b, b.rank = (mk x).rank → ∃ y, b = mk y) {x : α}
    (h : LawfulAt f x) : LawfulAt cmp (mk x) := by
  refine ⟨fun b => ?_, fun b c hab hbc => ?_⟩
  · by_cases hr : b.rank = (mk x).rank
    · obtain ⟨y, rfl⟩ := hk x b hr
      rw [hf, hf, h.swap]
    · rw [cmp_of_rank_ne hr, cmp_of_rank_ne fun e => hr e.symm]
      exact Std.OrientedOrd.eq_swap
  · have hrab := rank_le_of_cmp hab
    have hrbc := rank_le_of_cmp hbc
    rcases Nat.lt_or_eq_of_le hrab with hlt | hb
    · rw [cmp_of_rank_lt hlt, cmp_of_rank_lt (Nat.lt_of_lt_of_le hlt hrbc)]
      rfl
    · obtain ⟨y, rfl⟩ := hk x b hb.symm
      rcases Nat.lt_or_eq_of_le hrbc with hlt | hc
      · rw [cmp_of_rank_lt hlt, cmp_of_rank_lt (Nat.lt_of_le_of_lt hrab hlt)]
        cases h : cmp (mk x) (mk y) with
        | gt => exact absurd h hab
        | lt => rfl
        | eq => rfl
      · obtain ⟨z, rfl⟩ := hk x c (hc.symm.trans hb.symm)
        rw [hf] at hab hbc ⊢
        rw [hf, hf]
        exact h.chain y z hab hbc

/-! ## Values that hold values -/

theorem cmpList_eq : ∀ as bs : List Value, cmpList as bs = List.compareLex cmp as bs
  | [], [] => rfl
  | [], _ :: _ => rfl
  | _ :: _, [] => rfl
  | a :: as, b :: bs => by rw [cmpList, cmpList_eq as bs, List.compareLex_cons_cons]

/-- Entries are compared by key and then by value. -/
def cmpEntry (x y : Value × Value) : Ordering := (cmp x.1 y.1).then (cmp x.2 y.2)

theorem cmpEntries_eq : ∀ as bs : List (Value × Value), cmpEntries as bs = List.compareLex cmpEntry as bs
  | [], [] => rfl
  | [], _ :: _ => rfl
  | _ :: _, [] => rfl
  | (k, v) :: as, (k', v') :: bs => by
    rw [cmpEntries, cmpEntries_eq as bs, List.compareLex_cons_cons, cmpEntry, Ordering.then_assoc]

/-- Slots are compared by name and then by value. -/
def cmpSlot (x y : Symbol × Value) : Ordering := (x.1.cmp y.1).then (cmp x.2 y.2)

theorem cmpSlots_eq : ∀ as bs : List (Symbol × Value), cmpSlots as bs = List.compareLex cmpSlot as bs
  | [], [] => rfl
  | [], _ :: _ => rfl
  | _ :: _, [] => rfl
  | (k, v) :: as, (k', v') :: bs => by
    rw [cmpSlots, cmpSlots_eq as bs, List.compareLex_cons_cons, cmpSlot, Ordering.then_assoc]

theorem lawfulAt_cmpOption {d : Option Value} (h : ∀ v ∈ d, LawfulAt cmp v) : LawfulAt cmpOption d := by
  cases d with
  | none =>
    refine ⟨fun b => by cases b <;> rfl, fun b c => ?_⟩
    cases b with
    | none => cases c <;> exact fun _ _ => rfl
    | some b =>
      cases c with
      | none => intro _ hbc; exact absurd rfl hbc
      | some c => exact fun _ _ => rfl
  | some v =>
    have hv := h v rfl
    refine ⟨fun b => ?_, fun b c => ?_⟩
    · cases b with
      | none => rfl
      | some b => exact hv.swap b
    · cases b with
      | none => intro hab; exact absurd rfl hab
      | some b =>
        cases c with
        | none => intro _ hbc; exact absurd rfl hbc
        | some c => exact hv.chain b c

theorem lawfulAt_list {items : List Value} (h : ∀ v ∈ items, LawfulAt cmp v) :
    LawfulAt cmp (.list items) :=
  lawfulAt_kind .list (fun as bs => by rw [cmp, cmpList_eq])
    (fun _ b hr => by cases b <;> simp_all [rank]) (LawfulAt.lex h)

theorem lawfulAt_map {entries : List (Value × Value)}
    (h : ∀ e ∈ entries, LawfulAt cmp e.1 ∧ LawfulAt cmp e.2) : LawfulAt cmp (.map entries) := by
  have hentry : ∀ e ∈ entries, LawfulAt cmpEntry e := fun e m => (h e m).1.pair (h e m).2
  exact lawfulAt_kind .map (fun as bs => by rw [cmp, cmpEntries_eq])
    (fun _ b hr => by cases b <;> simp_all [rank]) (LawfulAt.lex hentry)

theorem lawfulAt_err (code : ErrorCode) (message : Option String) {detail : Option Value}
    (h : ∀ v ∈ detail, LawfulAt cmp v) : LawfulAt cmp (.err code message detail) :=
  lawfulAt_kind (fun x : ErrorCode × Option String × Option Value => .err x.1 x.2.1 x.2.2)
    (fun _ _ => rfl) (fun _ b hr => by cases b <;> simp_all [rank])
    (.pair (.of_transCmp code) (.pair (.of_transCmp message) (lawfulAt_cmpOption h)))

theorem lawfulAt_flyweight (delegate : Obj) {slots : List (Symbol × Value)} {contents : List Value}
    (hs : ∀ e ∈ slots, LawfulAt cmp e.2) (hv : ∀ v ∈ contents, LawfulAt cmp v) :
    LawfulAt cmp (.flyweight delegate slots contents) := by
  have hslot : ∀ e ∈ slots, LawfulAt cmpSlot e := fun e m => (LawfulAt.of_transCmp e.1).pair (hs e m)
  exact lawfulAt_kind (fun x : Obj × List (Symbol × Value) × List Value => .flyweight x.1 x.2.1 x.2.2)
    (fun _ _ => by rw [cmp, cmpSlots_eq, cmpList_eq]) (fun _ b hr => by cases b <;> simp_all [rank])
    (.pair (.of_transCmp delegate) (.pair (LawfulAt.lex hslot) (LawfulAt.lex hv)))

/-! ## The order -/

theorem lawfulAt_cmp (a : Value) : LawfulAt cmp a := by
  refine parts_induct (P := LawfulAt cmp) (fun v ih => ?_) a
  cases v with
  | none =>
    have hunit : LawfulAt (fun _ _ : Unit => Ordering.eq) () := ⟨fun _ => rfl, fun _ _ _ _ => rfl⟩
    exact lawfulAt_kind (fun _ => .none) (fun _ _ => rfl) (fun _ b hr => by cases b <;> simp_all [rank]) hunit
  | bool b =>
    exact lawfulAt_kind (f := compare) .bool (fun _ _ => rfl)
      (fun _ b hr => by cases b <;> simp_all [rank]) (.of_transCmp b)
  | obj o =>
    exact lawfulAt_kind (f := Obj.cmp) .obj (fun _ _ => rfl)
      (fun _ b hr => by cases b <;> simp_all [rank]) (.of_transCmp o)
  | int i =>
    exact lawfulAt_kind (f := compare) .int (fun _ _ => rfl)
      (fun _ b hr => by cases b <;> simp_all [rank]) (.of_transCmp i)
  | float x =>
    exact lawfulAt_kind (f := Double.totalCmp) .float (fun _ _ => rfl)
      (fun _ b hr => by cases b <;> simp_all [rank]) (.of_transCmp x)
  | str s =>
    exact lawfulAt_kind .str (fun _ _ => rfl) (fun _ b hr => by cases b <;> simp_all [rank])
      (LawfulAt.of_transCmp (Text.fold s)).comap
  | list items => exact lawfulAt_list ih
  | map entries =>
    refine lawfulAt_map fun e m => ⟨ih e.1 ?_, ih e.2 ?_⟩
    · exact List.mem_flatMap.2 ⟨e, m, List.mem_cons_self⟩
    · exact List.mem_flatMap.2 ⟨e, m, List.mem_cons_of_mem _ List.mem_cons_self⟩
  | err code message detail => exact lawfulAt_err code message fun v m => ih v (Option.mem_toList.2 m)
  | flyweight delegate slots contents =>
    refine lawfulAt_flyweight delegate (fun e m => ih e.2 ?_) fun v m => ih v ?_
    · exact List.mem_append_left _ (List.mem_map.2 ⟨e, m, rfl⟩)
    · exact List.mem_append_right _ m

instance : TransCmp cmp := LawfulAt.transCmp lawfulAt_cmp

/-- **The order of values is total, up to values that compare equal.** Every value compares equal to itself;
the other way round the answer is the reverse; what is not greater than something that is not greater than
a third value is not greater than that; and values that compare equal compare alike with all others. -/
theorem cmp_total_order :
    (∀ a, cmp a a = .eq) ∧ (∀ a b, cmp b a = (cmp a b).swap) ∧
    (∀ a b c, cmp a b ≠ .gt → cmp b c ≠ .gt → cmp a c ≠ .gt) ∧
    (∀ a b c, cmp a b = .eq → cmp a c = cmp b c) := by
  refine ⟨fun a => Std.ReflCmp.compare_self, fun a b => OrientedCmp.eq_swap, ?_, ?_⟩
  · intro a b c hab hbc
    exact Ordering.isLE_iff_ne_gt.1 (TransCmp.isLE_trans (Ordering.isLE_iff_ne_gt.2 hab)
      (Ordering.isLE_iff_ne_gt.2 hbc))
  · intro a b c hab
    exact TransCmp.congr_left hab

/-- A map with one entry, whose key is a map with a NaN under a name. -/
def nested (name : String) (v : Value) : Value :=
  .map [(.map [(.str name, .float ⟨0x7FF8000000000000⟩)], v)]

/-- The zero with a sign. -/
def negativeZero : Value := .float ⟨0x8000000000000000⟩

theorem cmp_total_order_nested :
    cmp (nested "K" negativeZero) (nested "k" negativeZero) = .eq ∧
    cmp (nested "k" negativeZero) (nested "k" (.float ⟨0⟩)) = .lt ∧
    cmp (nested "K" negativeZero) (nested "k" (.float ⟨0⟩)) ≠ .gt ∧
    cmp (nested "K" negativeZero) (nested "k" (.float ⟨0⟩)) =
      cmp (nested "k" negativeZero) (nested "k" (.float ⟨0⟩)) := by
  have heq : cmp (nested "K" negativeZero) (nested "k" negativeZero) = .eq := by decide
  have hlt : cmp (nested "k" negativeZero) (nested "k" (.float ⟨0⟩)) = .lt := by decide
  refine ⟨heq, hlt, ?_, cmp_total_order.2.2.2 _ _ _ heq⟩
  exact cmp_total_order.2.2.1 _ _ _ (by rw [heq]; decide) (by rw [hlt]; decide)

end Value

end MooWorld
