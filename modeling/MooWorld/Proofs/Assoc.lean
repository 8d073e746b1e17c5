import Mathlib.Data.List.Sort
import Mathlib.Data.Set.Card
import MooWorld.Assoc
/-!
# Ordered association lists as finite functions

The order of the keys may take different keys as equal, and the keys that are equal to one another are a
class. A list that was built by inserting pairs in turn stands for a function from classes: what it has for a
class is the last pair of that class, key and all, and nothing else (`Holds`). From this it follows what a
look-up gives and how many entries there are, and that two lists are the same if every class ends with the
same pair (`Holds.unique`), in whatever order the pairs came.

All rests on what one insertion does to an ascending list: it adds the pair and drops the entry of its class
(`mem_insert`).
-/
namespace MooWorld.Assoc

open Std (OrientedCmp ReflCmp TransCmp)

variable {κ α : Type} {cmp : κ → κ → Ordering}

/-! ## Ascending lists -/

/-- The keys grow strictly. -/
def Ascending (cmp : κ → κ → Ordering) (l : List (κ × α)) : Prop :=
  l.Pairwise fun e e' => cmp e.1 e'.1 = .lt

/-- The last of some pairs whose key is equal to a key. -/
def last? (cmp : κ → κ → Ordering) (k : κ) (pairs : List (κ × α)) : Option (κ × α) :=
  (pairs.filter fun p => cmp k p.1 = .eq).getLast?

/-- An ascending list has, for each class of keys, the last of some pairs, and nothing else. -/
structure Holds (cmp : κ → κ → Ordering) (pairs l : List (κ × α)) : Prop where
  ascending : Ascending cmp l
  mem_iff : ∀ e, e ∈ l ↔ last? cmp e.1 pairs = some e

theorem holds_nil : Holds cmp ([] : List (κ × α)) [] :=
  ⟨List.Pairwise.nil, fun e => by simp [last?]⟩

theorem last?_concat (k : κ) (pairs : List (κ × α)) (p : κ × α) :
    last? cmp k (pairs ++ [p]) = if cmp k p.1 = .eq then some p else last? cmp k pairs := by
  unfold last?
  by_cases h : cmp k p.1 = .eq <;> simp [List.filter_append, h]

/-- The last pair of a class is one of the pairs, and is of that class. -/
theorem last?_eq_some {k : κ} {pairs : List (κ × α)} {p : κ × α} (h : last? cmp k pairs = some p) :
    p ∈ pairs ∧ cmp k p.1 = .eq := by
  simpa using List.mem_of_getLast? h

theorem last?_isSome {k : κ} {pairs : List (κ × α)} {p : κ × α} (m : p ∈ pairs)
    (h : cmp k p.1 = .eq) : (last? cmp k pairs).isSome = true := by
  have hne : pairs.filter (fun p => cmp k p.1 = .eq) ≠ [] :=
    List.ne_nil_of_mem (List.mem_filter.2 ⟨m, by simpa using h⟩)
  rw [last?, List.getLast?_eq_some_getLast hne]
  rfl

theorem get?_eq_none {k : κ} {l : List (κ × α)} : get? cmp k l = none ↔ ∀ e ∈ l, cmp k e.1 ≠ .eq := by
  induction l with
  | nil => simp [get?]
  | cons p l ih =>
    obtain ⟨k', a'⟩ := p
    by_cases hk : cmp k k' = .eq <;> simp [get?, hk, ih]

/-- If the classes are told apart by a name, an insertion makes the pair the entry of its name and leaves the
entries of the others, spelling and all. -/
theorem find?_insert {γ : Type} [DecidableEq γ] {f : κ → γ} (hf : ∀ j k, cmp j k = .eq ↔ f j = f k)
    (k : κ) (a : α) (l : List (κ × α)) (name : γ) :
    (insert cmp k a l).find? (fun e => f e.1 = name) =
      if f k = name then some (k, a) else l.find? fun e => f e.1 = name := by
  induction l with
  | nil => by_cases h : f k = name <;> simp [insert, h]
  | cons p l ih =>
    obtain ⟨k', a'⟩ := p
    cases hc : cmp k k' with
    | lt => by_cases h : f k = name <;> simp [insert, hc, h]
    | eq =>
      have hsame : f k = f k' := (hf k k').1 hc
      by_cases h : f k' = name <;> simp [insert, hc, hsame, h]
    | gt =>
      by_cases h : f k' = name
      · have hne : f k ≠ name := fun hk => by
          rw [(hf k k').2 (hk.trans h.symm)] at hc; cases hc
        simp [insert, hc, h, hne]
      · simp [insert, hc, h, ih]

section Lawful

variable [TransCmp cmp]

theorem not_lt_self (k : κ) : cmp k k ≠ .lt := by
  have hself : cmp k k = .eq := ReflCmp.compare_self
  rw [hself]; decide

theorem last?_congr {k k' : κ} (h : cmp k k' = .eq) (pairs : List (κ × α)) :
    last? cmp k pairs = last? cmp k' pairs := by
  unfold last?
  rw [List.filter_congr fun p _ => by rw [TransCmp.congr_left h]]

theorem Ascending.nodup {l : List (κ × α)} (h : Ascending cmp l) : l.Nodup := by
  refine List.Pairwise.imp ?_ h
  rintro e e' hlt rfl
  exact not_lt_self e.1 hlt

/-- What comes after a key that is not below another comes after that other. -/
theorem Ascending.lt_of_mem {e : κ × α} {l : List (κ × α)} (h : Ascending cmp (e :: l)) {k : κ}
    (hk : cmp k e.1 ≠ .gt) : ∀ e' ∈ l, cmp k e'.1 = .lt := by
  intro e' m
  have hlt := (List.pairwise_cons.1 h).1 e' m
  cases hc : cmp k e.1 with
  | lt => exact TransCmp.lt_trans hc hlt
  | eq => exact TransCmp.lt_of_eq_of_lt hc hlt
  | gt => exact absurd hc hk

/-- A class has one entry. -/
theorem Ascending.eq_of_mem {l : List (κ × α)} (h : Ascending cmp l) {e e' : κ × α} (m : e ∈ l)
    (m' : e' ∈ l) (hk : cmp e.1 e'.1 = .eq) : e = e' := by
  induction l with
  | nil => cases m
  | cons p l ih =>
    have hlt := (List.pairwise_cons.1 h).1
    rcases List.mem_cons.1 m with rfl | hm
    · rcases List.mem_cons.1 m' with rfl | hm'
      · rfl
      · rw [hlt e' hm'] at hk; cases hk
    · rcases List.mem_cons.1 m' with rfl | hm'
      · have hk' := OrientedCmp.eq_symm hk
        rw [hlt e hm] at hk'; cases hk'
      · exact ih (List.pairwise_cons.1 h).2 hm hm'

/-- Ascending lists with the same entries are the same. -/
theorem Ascending.ext {l l' : List (κ × α)} (h : Ascending cmp l) (h' : Ascending cmp l')
    (hm : ∀ e, e ∈ l ↔ e ∈ l') : l = l' := by
  have : Std.Irrefl fun e e' : κ × α => cmp e.1 e'.1 = .lt := ⟨fun e => not_lt_self e.1⟩
  have : Std.Antisymm fun e e' : κ × α => cmp e.1 e'.1 = .lt := ⟨fun e e' he he' => by
    rw [OrientedCmp.gt_of_lt he'] at he; cases he⟩
  exact List.Pairwise.eq_of_mem_iff h h' hm

/-! ## One insertion -/

/-- An insertion adds the pair, and drops the entry of its class. -/
theorem mem_insert {l : List (κ × α)} (h : Ascending cmp l) {k : κ} {a : α} {e : κ × α} :
    e ∈ insert cmp k a l ↔ e = (k, a) ∨ e ∈ l ∧ cmp k e.1 ≠ .eq := by
  induction l with
  | nil => simp [insert]
  | cons p l ih =>
    obtain ⟨k', a'⟩ := p
    have hrest : cmp k k' ≠ .gt → ∀ e ∈ l, cmp k e.1 ≠ .eq := fun hk e m => by
      rw [h.lt_of_mem hk e m]; decide
    cases hc : cmp k k' with
    | lt =>
      have hne : ∀ e ∈ (k', a') :: l, cmp k e.1 ≠ .eq := by
        refine List.forall_mem_cons.2 ⟨?_, hrest (by rw [hc]; decide)⟩
        rw [hc]; decide
      simp only [insert, hc, List.mem_cons (a := e) (b := (k, a))]
      exact or_congr_right ⟨fun m => ⟨m, hne e m⟩, And.left⟩
    | eq =>
      have hne := hrest (by rw [hc]; decide)
      simp only [insert, hc, List.mem_cons]
      refine or_congr_right ⟨fun m => ⟨.inr m, hne e m⟩, ?_⟩
      rintro ⟨rfl | m, hk⟩
      · exact absurd hc hk
      · exact m
    | gt =>
      simp only [insert, hc, List.mem_cons, ih (List.pairwise_cons.1 h).2]
      constructor
      · rintro (rfl | rfl | ⟨m, hk⟩)
        · exact .inr ⟨.inl rfl, by rw [hc]; decide⟩
        · exact .inl rfl
        · exact .inr ⟨.inr m, hk⟩
      · rintro (rfl | ⟨rfl | m, hk⟩)
        · exact .inr (.inl rfl)
        · exact .inl rfl
        · exact .inr (.inr ⟨m, hk⟩)

theorem ascending_insert {l : List (κ × α)} (h : Ascending cmp l) (k : κ) (a : α) :
    Ascending cmp (insert cmp k a l) := by
  induction l with
  | nil => exact List.pairwise_singleton _ _
  | cons p l ih =>
    obtain ⟨k', a'⟩ := p
    obtain ⟨hlt, hl⟩ := List.pairwise_cons.1 h
    cases hc : cmp k k' with
    | lt =>
      simp only [insert, hc]
      have hbelow := h.lt_of_mem (k := k) (by rw [hc]; decide)
      exact List.pairwise_cons.2 ⟨List.forall_mem_cons.2 ⟨hc, hbelow⟩, h⟩
    | eq =>
      simp only [insert, hc]
      exact List.pairwise_cons.2 ⟨h.lt_of_mem (by rw [hc]; decide), hl⟩
    | gt =>
      simp only [insert, hc]
      refine List.pairwise_cons.2 ⟨fun e m => ?_, ih hl⟩
      rcases (mem_insert hl).1 m with rfl | ⟨m, -⟩
      · exact OrientedCmp.gt_iff_lt.1 hc
      · exact hlt e m

/-- The entries after an insertion, up to their order. -/
theorem insert_perm {l : List (κ × α)} (h : Ascending cmp l) (k : κ) (a : α) :
    (insert cmp k a l).Perm ((k, a) :: l.filter fun e => cmp k e.1 ≠ .eq) := by
  have hnew : (k, a) ∉ l.filter fun e => cmp k e.1 ≠ .eq := by
    simp [ReflCmp.compare_self]
  refine (List.perm_ext_iff_of_nodup (ascending_insert h k a).nodup
    (List.nodup_cons.2 ⟨hnew, h.nodup.filter _⟩)).2 fun e => ?_
  simp [mem_insert h]

/-- The entry of a class is the only one that is found there. -/
theorem Ascending.filter_eq {l : List (κ × α)} (h : Ascending cmp l) (k : κ) :
    (l.filter fun e => cmp k e.1 = .eq) = (l.find? fun e => cmp k e.1 = .eq).toList := by
  induction l with
  | nil => rfl
  | cons e l ih =>
    by_cases hk : cmp k e.1 = .eq
    · have hnil : (l.filter fun e => cmp k e.1 = .eq) = [] := by
        refine List.filter_eq_nil_iff.2 fun e' m => ?_
        rw [h.lt_of_mem (by rw [hk]; decide) e' m]
        decide
      simp [hk, hnil]
    · simpa [hk] using ih (List.pairwise_cons.1 h).2

/-! ## Look-ups -/

theorem get?_eq_some {l : List (κ × α)} (h : Ascending cmp l) {k : κ} {a : α} :
    get? cmp k l = some a ↔ ∃ k', (k', a) ∈ l ∧ cmp k k' = .eq := by
  induction l with
  | nil => simp [get?]
  | cons p l ih =>
    obtain ⟨k', a'⟩ := p
    rw [get?]
    split
    · rename_i hk
      constructor
      · intro e; cases e; exact ⟨k', List.mem_cons_self, hk⟩
      · rintro ⟨k'', m, hk''⟩
        cases h.eq_of_mem m List.mem_cons_self (TransCmp.eq_trans (OrientedCmp.eq_symm hk'') hk)
        rfl
    · rename_i hk
      rw [ih (List.pairwise_cons.1 h).2]
      refine exists_congr fun k'' => ?_
      simp only [List.mem_cons, Prod.mk.injEq]
      constructor
      · rintro ⟨m, hk''⟩; exact ⟨.inr m, hk''⟩
      · rintro ⟨⟨rfl, -⟩ | m, hk''⟩
        · exact absurd hk'' hk
        · exact ⟨m, hk''⟩

/-- An insertion gives the key its value and leaves the other classes alone, in any list. -/
theorem get?_insert (k j : κ) (a : α) (l : List (κ × α)) :
    get? cmp j (insert cmp k a l) = if cmp j k = .eq then some a else get? cmp j l := by
  induction l with
  | nil => rfl
  | cons p l ih =>
    obtain ⟨k', a'⟩ := p
    cases hc : cmp k k' with
    | lt => simp only [insert, hc, get?]
    | eq =>
      have hsame : cmp j k = cmp j k' := TransCmp.congr_right hc
      by_cases hj : cmp j k' = .eq <;> simp [insert, hc, get?, hsame, hj]
    | gt =>
      simp only [insert, hc, get?, ih]
      by_cases hj : cmp j k' = .eq
      · have hne : cmp j k ≠ .eq := by
          rw [TransCmp.congr_left hj, OrientedCmp.gt_iff_lt.1 hc]
          decide
        simp [hj, hne]
      · simp [hj]

/-- So does an update. -/
theorem get?_update (k j : κ) (a : α) (l : List (κ × α)) :
    get? cmp j (update cmp k a l) = if cmp j k = .eq then some a else get? cmp j l := by
  have hsame : ∀ l : List (κ × α), get? cmp j (update cmp k a l) = get? cmp j (insert cmp k a l) := by
    intro l
    induction l with
    | nil => rfl
    | cons p l ih =>
      obtain ⟨k', a'⟩ := p
      cases hc : cmp k k' with
      | lt => simp only [update, insert, hc]
      | eq => simp only [update, insert, hc, get?, TransCmp.congr_right hc]
      | gt => simp only [update, insert, hc, get?, ih]
  rw [hsame, get?_insert]

theorem get?_erase_of_ne {k j : κ} (h : cmp k j ≠ .eq) (l : List (κ × α)) :
    get? cmp j (erase cmp k l) = get? cmp j l := by
  induction l with
  | nil => rfl
  | cons p l ih =>
    obtain ⟨k', a'⟩ := p
    by_cases hk : cmp k k' = .eq
    · have hj : cmp j k' ≠ .eq := fun hj => h (TransCmp.eq_trans hk (OrientedCmp.eq_symm hj))
      simp [erase, get?, hk, hj]
    · simp [erase, get?, hk, ih]

/-! ## Erasures and updates -/

theorem erase_eq_filter {l : List (κ × α)} (h : Ascending cmp l) (k : κ) :
    erase cmp k l = l.filter fun e => cmp k e.1 ≠ .eq := by
  induction l with
  | nil => rfl
  | cons p l ih =>
    obtain ⟨k', a'⟩ := p
    by_cases hk : cmp k k' = .eq
    · -- no entry after this one is of its class
      have hrest : l.filter (fun e => cmp k e.1 ≠ .eq) = l := List.filter_eq_self.2 fun e m => by
        rw [h.lt_of_mem (by rw [hk]; decide) e m]; rfl
      rw [List.filter_cons_of_neg (by simpa using hk), hrest, erase, if_pos hk]
    · simp [erase, hk, ih (List.pairwise_cons.1 h).2]

theorem ascending_erase {l : List (κ × α)} (h : Ascending cmp l) (k : κ) :
    Ascending cmp (erase cmp k l) := by
  rw [erase_eq_filter h]
  exact List.Pairwise.filter _ h

theorem get?_erase_self {l : List (κ × α)} (h : Ascending cmp l) (k : κ) :
    get? cmp k (erase cmp k l) = none := by
  rw [erase_eq_filter h, get?_eq_none]
  intro e m
  simpa using (List.mem_filter.1 m).2

/-- The key that stands for the class of a key, which is this one if the class has no entry yet. -/
def spelling (cmp : κ → κ → Ordering) (k : κ) (l : List (κ × α)) : κ :=
  ((l.find? fun e => cmp k e.1 = .eq).map (·.1)).getD k

theorem cmp_spelling (k : κ) (l : List (κ × α)) : cmp k (spelling cmp k l) = .eq := by
  unfold spelling
  cases h : l.find? fun e => cmp k e.1 = .eq with
  | none => exact ReflCmp.compare_self
  | some e => simpa using List.find?_some h

/-- An update is an insertion under the key that is there. -/
theorem update_eq_insert {l : List (κ × α)} (h : Ascending cmp l) (k : κ) (a : α) :
    update cmp k a l = insert cmp (spelling cmp k l) a l := by
  induction l with
  | nil => rfl
  | cons p l ih =>
    obtain ⟨k', a'⟩ := p
    cases hc : cmp k k' with
    | lt =>
      have hnone : l.find? (fun e => cmp k e.1 = .eq) = none := List.find?_eq_none.2 fun e m => by
        rw [h.lt_of_mem (by rw [hc]; decide) e m]; decide
      have hkey : spelling cmp k ((k', a') :: l) = k := by simp [spelling, hc, hnone]
      simp only [hkey, update, insert, hc]
    | eq =>
      have hkey : spelling cmp k ((k', a') :: l) = k' := by simp [spelling, hc]
      have hself : cmp k' k' = .eq := ReflCmp.compare_self
      simp only [hkey, update, insert, hc, hself]
    | gt =>
      have hkey : spelling cmp k ((k', a') :: l) = spelling cmp k l := by simp [spelling, hc]
      have hsame : cmp k (spelling cmp k l) = .eq := cmp_spelling k l
      have hgt : cmp (spelling cmp k l) k' = .gt := by rw [← TransCmp.congr_left hsame, hc]
      simp only [hkey, update, insert, hc, hgt, ih (List.pairwise_cons.1 h).2]

theorem ascending_update {l : List (κ × α)} (h : Ascending cmp l) (k : κ) (a : α) :
    Ascending cmp (update cmp k a l) := by
  rw [update_eq_insert h]
  exact ascending_insert h _ a

/-! ## What some pairs leave behind -/

/-- Keys of one class. -/
def sameClass (cmp : κ → κ → Ordering) [TransCmp cmp] : Setoid κ where
  r a b := cmp a b = .eq
  iseqv := ⟨fun _ => ReflCmp.compare_self, OrientedCmp.eq_symm, TransCmp.eq_trans⟩

/-- The classes of the keys of some pairs. -/
def classes (cmp : κ → κ → Ordering) [TransCmp cmp] (pairs : List (κ × α)) :
    Set (Quotient (sameClass cmp)) :=
  {c | ∃ p ∈ pairs, Quotient.mk _ p.1 = c}

theorem Holds.insert {pairs l : List (κ × α)} (h : Holds cmp pairs l) (k : κ) (a : α) :
    Holds cmp (pairs ++ [(k, a)]) (Assoc.insert cmp k a l) := by
  refine ⟨ascending_insert h.ascending k a, fun e => ?_⟩
  rw [mem_insert h.ascending, h.mem_iff, last?_concat]
  by_cases hk : cmp e.1 k = .eq
  · rw [if_pos hk, Option.some.injEq, eq_comm]
    simp [OrientedCmp.eq_symm hk]
  · have hk' : cmp k e.1 ≠ .eq := fun h => hk (OrientedCmp.eq_symm h)
    have hne : e ≠ (k, a) := by rintro rfl; exact hk ReflCmp.compare_self
    simp [hk, hk', hne]

theorem Holds.foldl {pairs l : List (κ × α)} (h : Holds cmp pairs l) (more : List (κ × α)) :
    Holds cmp (pairs ++ more) (more.foldl (fun l (k, a) => Assoc.insert cmp k a l) l) := by
  induction more generalizing pairs l with
  | nil => rw [List.append_nil]; exact h
  | cons p more ih =>
    rw [List.append_cons]
    exact ih (h.insert p.1 p.2)

theorem holds_ofList (pairs : List (κ × α)) : Holds cmp pairs (ofList cmp pairs) :=
  holds_nil.foldl pairs

/-- If every class ends with the same pair, the same is left, whatever the order of the pairs was. -/
theorem Holds.unique {pairs pairs' l l' : List (κ × α)} (h : Holds cmp pairs l)
    (h' : Holds cmp pairs' l') (hp : ∀ k, last? cmp k pairs = last? cmp k pairs') : l = l' :=
  h.ascending.ext h'.ascending fun e => by rw [h.mem_iff, h'.mem_iff, hp]

/-- A look-up gives the last value of the class. -/
theorem Holds.get? {pairs l : List (κ × α)} (h : Holds cmp pairs l) (k : κ) :
    Assoc.get? cmp k l = (last? cmp k pairs).map (·.2) := by
  refine Option.ext fun a => ?_
  rw [get?_eq_some h.ascending, Option.map_eq_some_iff]
  constructor
  · rintro ⟨k', m, hk⟩
    exact ⟨(k', a), (last?_congr hk pairs).trans ((h.mem_iff _).1 m), rfl⟩
  · rintro ⟨⟨k', a'⟩, hl, rfl⟩
    have hk := (last?_eq_some hl).2
    exact ⟨k', (h.mem_iff _).2 ((last?_congr hk pairs).symm.trans hl), hk⟩

/-- There are as many entries as classes. -/
theorem Holds.length_eq {pairs l : List (κ × α)} (h : Holds cmp pairs l) :
    l.length = (classes cmp pairs).ncard := by
  classical
  have hnodup : (l.map fun e => (Quotient.mk (sameClass cmp) e.1)).Nodup := by
    refine List.pairwise_map.2 (List.Pairwise.imp (fun {e e'} hlt heq => ?_) h.ascending)
    have hk : cmp e.1 e'.1 = .eq := Quotient.exact heq
    rw [hlt] at hk; cases hk
  have hclasses : classes cmp pairs = (l.map fun e => (Quotient.mk (sameClass cmp) e.1)).toFinset := by
    ext c
    simp only [classes, Set.mem_ofPred_eq, List.coe_toFinset, List.mem_map]
    constructor
    · rintro ⟨p, m, rfl⟩
      have hself : cmp p.1 p.1 = .eq := ReflCmp.compare_self
      obtain ⟨e, he⟩ := Option.isSome_iff_exists.1 (last?_isSome m hself)
      have hk := (last?_eq_some he).2
      exact ⟨e, (h.mem_iff e).2 ((last?_congr hk pairs).symm.trans he),
        Quotient.sound (OrientedCmp.eq_symm hk)⟩
    · rintro ⟨e, m, rfl⟩
      exact ⟨e, (last?_eq_some ((h.mem_iff e).1 m)).1, rfl⟩
  rw [hclasses, Set.ncard_coe_finset, List.toFinset_card_of_nodup hnodup, List.length_map]

/-- A list is the function that some pairs define, the later ones over the earlier: the keys grow strictly,
a look-up gives the last value of the class of a key, the entries are the last pairs of their classes, as the
keys were spelled there, and there is one for each class. -/
structure FunctionOf (cmp : κ → κ → Ordering) [TransCmp cmp] (pairs l : List (κ × α)) : Prop where
  ascending : Ascending cmp l
  get? : ∀ k, Assoc.get? cmp k l = (last? cmp k pairs).map (·.2)
  spelled : ∀ e, e ∈ l ↔ last? cmp e.1 pairs = some e
  length : l.length = (classes cmp pairs).ncard

theorem Holds.functionOf {pairs l : List (κ × α)} (h : Holds cmp pairs l) : FunctionOf cmp pairs l :=
  ⟨h.ascending, h.get?, h.mem_iff, h.length_eq⟩

end Lawful

end MooWorld.Assoc
