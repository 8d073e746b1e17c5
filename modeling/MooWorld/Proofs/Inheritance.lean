import Mathlib.Data.List.Shortlex
import MooWorld.Store.Inheritance
/-!
# Which definition an object inherits

A path is a list of numbers that say which parent to go to next; `follow` says where it leads. Paths are
ordered by length and then number by number (`Before`). A property is found on the object at the end of
the first path, in this order, that leads to an object defining it, whatever cycles, repeated parents and
missing objects there are (`resolve_shortlex`).

The search keeps a queue of objects. In the proof each object of the queue stands for the path that it was
reached by, and `Frontier` says what is true of these paths: they are in order, whatever is reached from
one of them comes after all of them, and an object that was visited was reached by an earlier path. So the
first path to a definition begins with a path of the queue as long as the search goes on
(`search_of_first`).
-/
namespace MooWorld

theorem Record.property?_isSome {r : Record} {name : Symbol} :
    (r.property? name).isSome ↔ ∃ e ∈ r.properties, e.1.folded = name.folded := by
  unfold Record.property?
  induction r.properties with
  | nil => simp [Assoc.get?]
  | cons e rest ih =>
    have hcmp : Symbol.cmp name e.1 = .eq ↔ e.1.folded = name.folded := by
      rw [Symbol.cmp, Std.compare_eq_iff_eq, eq_comm]
    by_cases he : e.1.folded = name.folded <;> simp [Assoc.get?, hcmp, he, ih]

namespace Store

/-! ## Paths -/

/-- A way from an object to one of its ancestors: which parent to go to, and so on from there. -/
abbrev Path := List Nat

/-- Where a path leads. There is no way on from an object that does not exist. -/
def follow (s : Store) (o : Obj) : Path → Option Obj
  | [] => some o
  | i :: p => (s.get? o).bind fun r => (r.parents[i]?).bind fun parent => s.follow parent p

/-- Shorter paths come before longer ones, and among those of one length earlier parents before later. -/
def Before (p q : Path) : Prop := List.Shortlex (· < ·) p q

/-- The definition of a property on an object itself. -/
def definition? (s : Store) (o : Obj) (name : Symbol) : Option Property :=
  (s.get? o).bind (·.property? name)

/-- The object exists and has a property of this name, in whatever case it is written. -/
def Defines (s : Store) (o : Obj) (name : Symbol) : Prop :=
  ∃ r, s.get? o = some r ∧ ∃ e ∈ r.properties, e.1.folded = name.folded

theorem definition?_isSome {s : Store} {o : Obj} {name : Symbol} :
    (s.definition? o name).isSome ↔ s.Defines o name := by
  simp only [definition?, Defines, ← Record.property?_isSome]
  cases s.get? o <;> simp

theorem follow_append (s : Store) (o : Obj) (p q : Path) :
    s.follow o (p ++ q) = (s.follow o p).bind fun o' => s.follow o' q := by
  induction p generalizing o with
  | nil => rfl
  | cons i p ih => simp only [List.cons_append, follow, ih, Option.bind_assoc]

theorem follow_concat {s : Store} {start o : Obj} {p : Path} {r : Record}
    (hp : s.follow start p = some o) (hr : s.get? o = some r) (i : Nat) :
    s.follow start (p ++ [i]) = r.parents[i]? := by
  rw [follow_append, hp]
  simp [follow, hr]

theorem lex_append {p q : Path} (h : List.Lex (· < ·) p q) (hl : p.length = q.length) (u v : Path) :
    List.Lex (· < ·) (p ++ u) (q ++ v) := by
  induction h with
  | nil => cases hl
  | cons _ ih => exact .cons (ih (Nat.succ.inj hl))
  | rel h => exact .rel h

theorem Before.append {p q : Path} (h : Before p q) {u v : Path} (hl : u.length = v.length) :
    Before (p ++ u) (q ++ v) := by
  rcases List.shortlex_def.1 h with hlt | ⟨heq, hlex⟩
  · exact .of_length_lt (by simp only [List.length_append]; omega)
  · exact .of_lex (by simp only [List.length_append]; omega) (lex_append hlex heq u v)

theorem before_append_cons (p : Path) (i : Nat) (q : Path) : Before p (p ++ i :: q) :=
  .of_length_lt (by simp)

theorem before_wf : WellFounded Before :=
  List.Shortlex.wf Nat.lt_wfRel.wf

/-- Where in a list the elements are that pass a test. -/
theorem filter_places {α : Type} (f : α → Bool) (l : List α) :
    ∃ places : List Nat, places.Pairwise (· < ·) ∧ places.map (l[·]?) = (l.filter f).map some ∧
      ∀ i a, l[i]? = some a → f a = true → i ∈ places := by
  refine ⟨(l.zipIdx.filter fun x => f x.1).map (·.2), ?_, ?_, ?_⟩
  · have hp : (l.zipIdx.map (·.2)).Pairwise (· < ·) := by
      rw [List.zipIdx_map_snd]; exact List.pairwise_lt_range'
    exact hp.sublist (List.filter_sublist.map _)
  · have hfst : (l.filter f).map some = (l.zipIdx.filter fun x => f x.1).map fun x => some x.1 := by
      conv => lhs; rw [← List.zipIdx_map_fst 0 l, List.filter_map, List.map_map]
      rfl
    rw [hfst, List.map_map]
    refine List.map_congr_left fun x m => ?_
    exact List.mem_zipIdx_iff_getElem?.1 (List.mem_of_mem_filter m)
  · intro i a ha hf
    refine List.mem_map.2 ⟨(a, i), List.mem_filter.2 ⟨?_, hf⟩, rfl⟩
    exact List.mem_zipIdx_iff_getElem?.2 ha

/-! ## The paths that a search has before it -/

/-- What is true of the paths to the objects of the queue in a search from an object. -/
structure Frontier (s : Store) (start : Obj) (paths : List Path) (queue visited : List Obj) : Prop where
  ends : paths.map (s.follow start) = queue.map some
  sorted : paths.Pairwise Before
  beyond : ∀ p ∈ paths, ∀ q ∈ paths, ∀ i, Before p (q ++ [i])
  earlier : ∀ o ∈ visited, ∃ p, s.follow start p = some o ∧ ∀ q ∈ paths, Before p q

theorem frontier_start (s : Store) (start : Obj) : Frontier s start [[]] [start] [] := by
  refine ⟨rfl, List.pairwise_singleton _ _, ?_, by simp⟩
  intro p hp q hq i
  rw [List.mem_singleton.1 hp, List.mem_singleton.1 hq]
  exact before_append_cons [] i []

theorem Frontier.path {s : Store} {start o : Obj} {paths : List Path} {queue visited : List Obj}
    (h : Frontier s start paths (o :: queue) visited) :
    ∃ p rest, paths = p :: rest ∧ s.follow start p = some o := by
  cases paths with
  | nil => cases h.ends
  | cons p rest => exact ⟨p, rest, rfl, (List.cons.inj h.ends).1⟩

/-- The object at the head of the queue is passed over. -/
theorem Frontier.tail {s : Store} {start o : Obj} {p : Path} {rest : List Path} {queue visited : List Obj}
    (h : Frontier s start (p :: rest) (o :: queue) visited) : Frontier s start rest queue visited := by
  refine ⟨(List.cons.inj h.ends).2, (List.pairwise_cons.1 h.sorted).2, ?_, ?_⟩
  · intro q m q' m' i
    exact h.beyond q (List.mem_cons_of_mem _ m) q' (List.mem_cons_of_mem _ m') i
  · intro o' m
    obtain ⟨q, hq, hb⟩ := h.earlier o' m
    exact ⟨q, hq, fun q' m' => hb q' (List.mem_cons_of_mem _ m')⟩

/-- The object at the head of the queue is visited, and some of its parents are put at the end. -/
theorem Frontier.expand {s : Store} {start o : Obj} {p : Path} {rest : List Path}
    {queue visited : List Obj} {places : List Nat} {parents : List Obj}
    (h : Frontier s start (p :: rest) (o :: queue) visited) (hsorted : places.Pairwise (· < ·))
    (hends : places.map (fun i => s.follow start (p ++ [i])) = parents.map some) :
    Frontier s start (rest ++ places.map fun i => p ++ [i]) (queue ++ parents) (o :: visited) := by
  obtain ⟨hp, hrest⟩ := List.cons.inj h.ends
  obtain ⟨hlt, hrs⟩ := List.pairwise_cons.1 h.sorted
  have hnew : ∀ q ∈ rest, ∀ i, Before q (p ++ [i]) := fun q m i =>
    h.beyond q (List.mem_cons_of_mem _ m) p List.mem_cons_self i
  have hmem : ∀ {q}, q ∈ rest ++ places.map (fun i => p ++ [i]) → q ∈ rest ∨ ∃ i, q = p ++ [i] := by
    intro q m
    rcases List.mem_append.1 m with m | m
    · exact .inl m
    · obtain ⟨i, -, rfl⟩ := List.mem_map.1 m
      exact .inr ⟨i, rfl⟩
  refine ⟨?_, ?_, ?_, ?_⟩
  · rw [List.map_append, List.map_append, hrest, List.map_map, ← hends]
    rfl
  · refine List.pairwise_append.2 ⟨hrs, List.pairwise_map.2 (hsorted.imp fun hij => ?_), ?_⟩
    · exact List.Shortlex.append_left ((List.shortlex_singleton_iff _ _).2 hij) p
    · intro q m q' m'
      obtain ⟨i, -, rfl⟩ := List.mem_map.1 m'
      exact hnew q m i
  · intro q m q' m' j
    rcases hmem m with m | ⟨i, rfl⟩
    · rcases hmem m' with m' | ⟨i', rfl⟩
      · exact h.beyond q (List.mem_cons_of_mem _ m) q' (List.mem_cons_of_mem _ m') j
      · exact (hnew q m i').append_right [j]
    · rcases hmem m' with m' | ⟨i', rfl⟩
      · exact (hlt q' m').append rfl
      · exact .of_length_lt (by simp)
  · intro o' m
    rcases List.mem_cons.1 m with rfl | m
    · refine ⟨p, hp, fun q m => ?_⟩
      rcases hmem m with m | ⟨i, rfl⟩
      · exact hlt q m
      · exact before_append_cons p i []
    · obtain ⟨q₀, hq₀, hb⟩ := h.earlier o' m
      refine ⟨q₀, hq₀, fun q m => ?_⟩
      rcases hmem m with m | ⟨i, rfl⟩
      · exact hb q (List.mem_cons_of_mem _ m)
      · exact (hb p List.mem_cons_self).append_right [i]

/-- An object that was visited, that at the head of the queue included, was reached before any parent of
the latter. -/
theorem Frontier.reached {s : Store} {start o o' : Obj} {p : Path} {rest : List Path}
    {queue visited : List Obj} (h : Frontier s start (p :: rest) (o :: queue) visited)
    (m : o' ∈ o :: visited) : ∃ q, s.follow start q = some o' ∧ ∀ i, Before q (p ++ [i]) := by
  rcases List.mem_cons.1 m with rfl | m
  · exact ⟨p, (List.cons.inj h.ends).1, fun i => before_append_cons p i []⟩
  · obtain ⟨q, hq, hb⟩ := h.earlier o' m
    exact ⟨q, hq, fun i => (hb p List.mem_cons_self).append_right [i]⟩

/-! ## The first path to a definition -/

/-- No path before this one leads to an object that defines the property. -/
def First (s : Store) (start : Obj) (name : Symbol) (p : Path) : Prop :=
  ∀ q o, s.follow start q = some o → (s.definition? o name).isSome → ¬ Before q p

/-- A path with a detour, where the object could be reached by an earlier path, is not the first. -/
theorem First.no_detour {s : Store} {start o o' : Obj} {name : Symbol} {p q r : Path}
    (hf : First s start name (q ++ r)) (ho : s.follow start (q ++ r) = some o)
    (hd : (s.definition? o name).isSome) (hq : s.follow start q = some o')
    (hp : s.follow start p = some o') (hlt : Before p q) : False := by
  refine hf (p ++ r) o ?_ hd (hlt.append rfl)
  rw [follow_append, hp]
  rwa [follow_append, hq] at ho

/-- While the search goes on, the first path to a definition begins with a path of the queue, and so the
search comes to its end. -/
theorem search_of_first {s : Store} {start o : Obj} {name : Symbol} {p : Path}
    (ho : s.follow start p = some o) (hd : (s.definition? o name).isSome)
    (hf : First s start name p) (queue visited : List Obj) :
    ∀ paths, Frontier s start paths queue visited → (∃ q ∈ paths, q <+: p) →
      (s.search name queue visited).found = s.definition? o name := by
  fun_induction search s name queue visited with
  | case1 visited =>
    rintro paths h ⟨q, m, -⟩
    have hnil : paths = [] := List.map_eq_nil_iff.1 h.ends
    rw [hnil] at m; cases m
  | case2 visited o₁ queue hv next ih =>
    rintro paths h ⟨q, m, hpre⟩
    obtain ⟨p₁, rest, rfl, hp₁⟩ := h.path
    refine ih rest h.tail ⟨q, ?_, hpre⟩
    rcases List.mem_cons.1 m with rfl | m
    · obtain ⟨r, rfl⟩ := hpre
      obtain ⟨p₀, hp₀, hlt⟩ := h.earlier o₁ (by simpa using hv)
      exact (hf.no_detour ho hd hp₁ hp₀ (hlt q List.mem_cons_self)).elim
    · exact m
  | case3 visited o₁ queue hv hr next ih =>
    rintro paths h ⟨q, m, hpre⟩
    obtain ⟨p₁, rest, rfl, hp₁⟩ := h.path
    have h' : Frontier s start (rest ++ ([] : List Nat).map fun i => p₁ ++ [i]) (queue ++ [])
      (o₁ :: visited) := h.expand .nil rfl
    simp only [List.map_nil, List.append_nil] at h'
    refine ih rest h' ⟨q, ?_, hpre⟩
    rcases List.mem_cons.1 m with rfl | m
    · obtain ⟨r, rfl⟩ := hpre
      rw [follow_append, hp₁] at ho
      cases r with
      | nil => cases ho; simp [definition?, hr] at hd
      | cons i r => simp [follow, hr] at ho
    · exact m
  | case4 visited o₁ queue hv r hr prop hprop =>
    rintro paths h ⟨q, m, hpre⟩
    obtain ⟨p₁, rest, rfl, hp₁⟩ := h.path
    have hd₁ : s.definition? o₁ name = some prop := by simp [definition?, hr, hprop]
    have hnot : ¬ Before p₁ p := hf p₁ o₁ hp₁ (by rw [hd₁]; rfl)
    have hp : p = p₁ := by
      obtain ⟨t, rfl⟩ := hpre
      rcases List.mem_cons.1 m with rfl | m
      · cases t with
        | nil => exact List.append_nil _
        | cons i t => exact absurd (before_append_cons q i t) hnot
      · have hlt := (List.pairwise_cons.1 h.sorted).1 q m
        exact absurd (hlt.append_right t) hnot
    subst hp
    rw [ho] at hp₁
    cases hp₁
    exact hd₁.symm
  | case5 visited o₁ queue hv r hr hnone fresh next ih =>
    rintro paths h ⟨q, m, hpre⟩
    obtain ⟨p₁, rest, rfl, hp₁⟩ := h.path
    obtain ⟨places, hps, hpe, hpm⟩ := filter_places (fun x => !(o₁ :: visited).contains x) r.parents
    have hend : places.map (fun i => s.follow start (p₁ ++ [i])) = fresh.map some := by
      rw [← hpe]; exact List.map_congr_left fun i _ => follow_concat hp₁ hr i
    refine ih _ (h.expand hps hend) ?_
    rcases List.mem_cons.1 m with rfl | m
    · obtain ⟨t, rfl⟩ := hpre
      cases t with
      | nil =>
        rw [List.append_nil, hp₁] at ho
        cases ho
        simp [definition?, hr, hnone] at hd
      | cons i t =>
        rw [List.append_cons] at ho hf
        obtain ⟨parent, hi, -⟩ := Option.bind_eq_some_iff.1 ((follow_append s start _ _).symm.trans ho)
        refine ⟨q ++ [i], List.mem_append_right _ (List.mem_map.2 ⟨i, ?_, rfl⟩), t, by simp⟩
        refine hpm i parent (by rw [← follow_concat hp₁ hr]; exact hi) ?_
        -- a parent that was visited could be reached by an earlier path
        rw [Bool.not_eq_true', Bool.eq_false_iff]
        intro hc
        obtain ⟨p₀, hp₀, hlt⟩ := h.reached (by simpa using hc)
        exact hf.no_detour ho hd hi hp₀ (hlt i)
    · exact ⟨q, List.mem_append_left _ m, hpre⟩

theorem resolve_of_first {s : Store} {start o : Obj} {name : Symbol} {p : Path}
    (ho : s.follow start p = some o) (hd : (s.definition? o name).isSome)
    (hf : First s start name p) : s.resolve start name = s.definition? o name :=
  search_of_first ho hd hf [start] [] [[]] (frontier_start s start)
    ⟨[], List.mem_singleton_self _, List.nil_prefix⟩

/-- What is found is defined on an object that some path leads to. -/
theorem search_sound {s : Store} {start : Obj} {name : Symbol} {prop : Property}
    (queue visited : List Obj) (hq : ∀ o ∈ queue, ∃ p, s.follow start p = some o)
    (hf : (s.search name queue visited).found = some prop) :
    ∃ p o, s.follow start p = some o ∧ s.definition? o name = some prop := by
  fun_induction search s name queue visited with
  | case1 visited => cases hf
  | case2 visited o queue hv next ih => exact ih (fun o' m => hq o' (List.mem_cons_of_mem _ m)) hf
  | case3 visited o queue hv hr next ih => exact ih (fun o' m => hq o' (List.mem_cons_of_mem _ m)) hf
  | case4 visited o queue hv r hr found hfound =>
    obtain ⟨p, hp⟩ := hq o List.mem_cons_self
    exact ⟨p, o, hp, by rw [definition?, hr, ← hf]; exact hfound⟩
  | case5 visited o queue hv r hr hnone fresh next ih =>
    refine ih (fun o' m => ?_) hf
    rcases List.mem_append.1 m with m | m
    · exact hq o' (List.mem_cons_of_mem _ m)
    · obtain ⟨p, hp⟩ := hq o List.mem_cons_self
      obtain ⟨i, hi⟩ := List.mem_iff_getElem?.1 (List.mem_of_mem_filter m)
      exact ⟨p ++ [i], by rw [follow_concat hp hr, hi]⟩

theorem resolve_sound {s : Store} {start : Obj} {name : Symbol} {prop : Property}
    (h : s.resolve start name = some prop) :
    ∃ p o, s.follow start p = some o ∧ s.definition? o name = some prop := by
  refine search_sound [start] [] (fun o m => ⟨[], ?_⟩) h
  rw [List.mem_singleton.1 m]; rfl

/-- If any path leads to a definition, there is a first one. -/
theorem exists_first {s : Store} {start o : Obj} {name : Symbol} {p : Path}
    (ho : s.follow start p = some o) (hd : (s.definition? o name).isSome) :
    ∃ q o', s.follow start q = some o' ∧ (s.definition? o' name).isSome ∧ First s start name q := by
  induction p using before_wf.induction generalizing o with
  | h p ih =>
    by_cases hf : First s start name p
    · exact ⟨p, o, ho, hd, hf⟩
    · simp only [First, not_forall, not_not] at hf
      obtain ⟨q, o', hq, hd', hlt⟩ := hf
      exact ih q hlt hq hd'

/-- The first path is the least one. -/
theorem first_iff {s : Store} {start : Obj} {name : Symbol} {p : Path} :
    First s start name p ↔
      ∀ q o, s.follow start q = some o → s.Defines o name → q = p ∨ Before p q := by
  constructor
  · intro hf q o hq hd
    have hnot := hf q o hq (definition?_isSome.2 hd)
    by_contra hne
    obtain ⟨hne, hlt⟩ := not_or.1 hne
    exact hne (List.Shortlex.trichotomous.trichotomous q p hnot hlt)
  · intro hl q o hq hd hlt
    rcases hl q o hq (definition?_isSome.1 hd) with rfl | hlt'
    · exact before_wf.asymmetric _ _ hlt hlt
    · exact before_wf.asymmetric _ _ hlt hlt'

/-- An object sees the definition at the end of the least of the paths that lead to one, and no definition
only if none leads to one. -/
theorem resolve_shortlex (s : Store) (start : Obj) (name : Symbol) :
    (s.resolve start name = none ↔ ∀ p o, s.follow start p = some o → ¬ s.Defines o name) ∧
      ∀ prop, s.resolve start name = some prop ↔
        ∃ p o r, s.follow start p = some o ∧ s.get? o = some r ∧ r.property? name = some prop ∧
          ∀ q o', s.follow start q = some o' → s.Defines o' name → q = p ∨ Before p q := by
  refine ⟨⟨fun hnone p o ho hd => ?_, fun hno => ?_⟩, fun prop => ⟨fun h => ?_, ?_⟩⟩
  · obtain ⟨q, o', hq, hd', hf⟩ := exists_first ho (definition?_isSome.2 hd)
    rw [← resolve_of_first hq hd' hf, hnone] at hd'
    cases hd'
  · cases h : s.resolve start name with
    | none => rfl
    | some prop =>
      obtain ⟨p, o, ho, hd⟩ := resolve_sound h
      exact absurd (definition?_isSome.1 (by rw [hd]; rfl)) (hno p o ho)
  · obtain ⟨p, o, ho, hd⟩ := resolve_sound h
    obtain ⟨q, o', hq, hd', hf⟩ := exists_first ho (by rw [hd]; rfl)
    obtain ⟨r, hr, hprop⟩ := Option.bind_eq_some_iff.1 ((resolve_of_first hq hd' hf).symm.trans h)
    exact ⟨q, o', r, hq, hr, hprop, first_iff.1 hf⟩
  · rintro ⟨p, o, r, ho, hr, hprop, hl⟩
    have hd : s.definition? o name = some prop := Option.bind_eq_some_iff.2 ⟨r, hr, hprop⟩
    rw [resolve_of_first ho (by rw [hd]; rfl) (first_iff.2 hl), hd]

end Store

end MooWorld
