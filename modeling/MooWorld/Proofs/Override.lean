import MooWorld.Proofs.Assoc
import MooWorld.Proofs.Limits
import MooWorld.Proofs.ValueOrder
/-!
# What a change of the store does to inheritance

A search sees no more of the store than the objects that it asks for, and of each of these no more than its
definition of the name and its parents (`glimpse`). So two stores that agree there are searched in the same
way (`search_congr`), and what happens elsewhere cannot be noticed. If an object that was asked for comes to
define the name, the search goes as before until it comes to this object, and stops there
(`search_override`).

The objects asked for are those that a path leads to before any path leads to a definition (`mem_asked_iff`).
This follows from the above: an object was asked for if and only if a definition of its own would be found.
-/
namespace MooWorld

theorem Record.property?_withProperty (r : Record) (name other : Symbol) (p : Property) :
    (r.withProperty name p).property? other =
      if other.folded = name.folded then some p else r.property? other := by
  simp only [property?, withProperty, Assoc.get?_update, Symbol.cmp_eq_eq]

namespace Store

/-! ## Look-ups after a change -/

theorem get?_insert (s : Store) (r : Record) (o : Obj) :
    (s.insert r).get? o = if o = r.id then some r else s.get? o := by
  simp only [get?, insert, Assoc.get?_insert, cmp_eq_iff]

theorem get?_erase_of_ne {o o' : Obj} (h : o' ≠ o) (s : Store) : (s.erase o).get? o' = s.get? o' :=
  Assoc.get?_erase_of_ne (fun e => h ((cmp_eq_iff o o').1 e).symm) _

/-- A change that succeeds is one of an object that exists, and of no other. -/
theorem modify_eq_ok {s s' : Store} {o : Obj} {f : Record → Record} (h : s.modify o f = .ok s') :
    ∃ r, s.get? o = some r ∧ ∀ o', s'.get? o' = if o' = o then some (f r) else s.get? o' := by
  unfold modify at h
  cases hr : s.get? o with
  | none => simp [hr] at h
  | some r =>
    simp only [hr, Except.ok.injEq] at h
    subst h
    exact ⟨r, rfl, fun o' => by simp only [get?, Assoc.get?_insert, cmp_eq_iff]⟩

theorem exists_modify {s : Store} {o : Obj} (h : s.valid o = true) (f : Record → Record) :
    ∃ s', s.modify o f = .ok s' := by
  obtain ⟨r, hr⟩ := Option.isSome_iff_exists.1 h
  exact ⟨_, by simp only [modify, hr]; rfl⟩

/-! ## What a search sees -/

/-- What a search for a name sees of an object: its own definition and its parents. -/
def glimpse (s : Store) (name : Symbol) (o : Obj) : Option (Option Property × List Obj) :=
  (s.get? o).map fun r => (r.property? name, r.parents)

theorem glimpse_congr {s s' : Store} {o : Obj} (h : s'.get? o = s.get? o) (name : Symbol) :
    s'.glimpse name o = s.glimpse name o := by
  rw [glimpse, glimpse, h]

theorem glimpse_of_get? {s : Store} {o : Obj} {r : Record} (h : s.get? o = some r) (name : Symbol) :
    s.glimpse name o = some (r.property? name, r.parents) := by
  rw [glimpse, h, Option.map_some]

theorem definition?_eq_glimpse (s : Store) (o : Obj) (name : Symbol) :
    s.definition? o name = (s.glimpse name o).bind (·.1) := by
  unfold definition? glimpse
  cases s.get? o <;> rfl

section Search

variable {s s' : Store} {name : Symbol} {o : Obj} {queue visited : List Obj}

theorem search_visited (h : o ∈ visited) : s.search name (o :: queue) visited =
    { s.search name queue visited with rounds := (s.search name queue visited).rounds + 1 } := by
  rw [search]
  simp [h]

theorem search_missing (hv : o ∉ visited) (hg : s.glimpse name o = none) :
    s.search name (o :: queue) visited =
      ⟨(s.search name queue (o :: visited)).found, o :: (s.search name queue (o :: visited)).asked,
        (s.search name queue (o :: visited)).rounds + 1⟩ := by
  have hr : s.get? o = none := Option.map_eq_none_iff.1 hg
  rw [search, dif_neg (by simpa using hv)]
  split
  · rfl
  · simp_all

theorem search_defining (hv : o ∉ visited) {p : Property} {parents : List Obj}
    (hg : s.glimpse name o = some (some p, parents)) :
    s.search name (o :: queue) visited = ⟨some p, [o], 1⟩ := by
  obtain ⟨r, hr, hg⟩ := Option.map_eq_some_iff.1 hg
  obtain ⟨hp, -⟩ := Prod.mk.inj hg
  rw [search, dif_neg (by simpa using hv)]
  split <;> simp_all

theorem search_passing (hv : o ∉ visited) {parents : List Obj}
    (hg : s.glimpse name o = some (none, parents)) :
    s.search name (o :: queue) visited =
      let next := s.search name (queue ++ parents.filter fun p => !(o :: visited).contains p) (o :: visited)
      ⟨next.found, o :: next.asked, next.rounds + 1⟩ := by
  obtain ⟨r, hr, hg⟩ := Option.map_eq_some_iff.1 hg
  obtain ⟨hp, rfl⟩ := Prod.mk.inj hg
  rw [search, dif_neg (by simpa using hv)]
  split <;> simp_all

/-- A search goes the same way in every store that looks the same where it asks. -/
theorem search_congr (queue visited : List Obj)
    (h : ∀ o ∈ (s.search name queue visited).asked, s'.glimpse name o = s.glimpse name o) :
    s'.search name queue visited = s.search name queue visited := by
  fun_induction search s name queue visited with
  | case1 visited => rw [search]
  | case2 visited o queue hv next ih =>
    rw [search_visited (by simpa using hv), ih h]
  | case3 visited o queue hv hr next ih =>
    obtain ⟨ho, hrest⟩ := List.forall_mem_cons.1 h
    rw [search_missing (by simpa using hv) (by rw [ho, glimpse, hr]; rfl), ih hrest]
  | case4 visited o queue hv r hr p hp =>
    have ho := h o List.mem_cons_self
    rw [glimpse_of_get? hr, hp] at ho
    exact search_defining (by simpa using hv) ho
  | case5 visited o queue hv r hr hp fresh next ih =>
    obtain ⟨ho, hrest⟩ := List.forall_mem_cons.1 h
    rw [glimpse_of_get? hr, hp] at ho
    rw [search_passing (by simpa using hv) ho, ih hrest]

/-- If one object comes to define the name and no other changes, a search that had asked for this object
stops there. -/
theorem search_override {p : Property} (hdef : s'.definition? o name = some p)
    (hsame : ∀ y, y ≠ o → s'.glimpse name y = s.glimpse name y) (queue visited : List Obj)
    (hm : o ∈ (s.search name queue visited).asked) : (s'.search name queue visited).found = some p := by
  -- the object itself, when the search comes to it
  have here : ∀ {queue visited : List Obj}, o ∉ visited →
      (s'.search name (o :: queue) visited).found = some p := by
    intro queue visited hv
    rw [definition?_eq_glimpse] at hdef
    obtain ⟨⟨_, parents⟩, hg, rfl⟩ := Option.bind_eq_some_iff.1 hdef
    rw [search_defining hv hg]
  fun_induction search s name queue visited with
  | case1 visited => cases hm
  | case2 visited y queue hv next ih =>
    rw [search_visited (by simpa using hv)]
    exact ih hm
  | case3 visited y queue hv hr next ih =>
    by_cases hy : y = o
    · subst hy; exact here (by simpa using hv)
    · have hg := hsame y hy
      rw [glimpse, glimpse, hr] at hg
      rw [search_missing (by simpa using hv) hg]
      exact ih ((List.mem_cons.1 hm).resolve_left fun e => hy e.symm)
  | case4 visited y queue hv r hr p' hp =>
    rw [List.mem_singleton.1 hm] at here
    exact here (by simpa using hv)
  | case5 visited y queue hv r hr hp fresh next ih =>
    by_cases hy : y = o
    · subst hy; exact here (by simpa using hv)
    · have hg := hsame y hy
      rw [glimpse_of_get? hr, hp] at hg
      rw [search_passing (by simpa using hv) hg]
      exact ih ((List.mem_cons.1 hm).resolve_left fun e => hy e.symm)

/-- A search that finds something ends at the first object asked for that defines the name, and one that
finds nothing has asked for none that does. -/
structure Stops (s : Store) (name : Symbol) (r : Search) : Prop where
  found : ∀ p, r.found = some p → ∃ earlier stop, r.asked = earlier ++ [stop] ∧
    s.definition? stop name = some p ∧ ∀ y ∈ earlier, s.definition? y name = none
  missed : r.found = none → ∀ y ∈ r.asked, s.definition? y name = none

theorem Stops.cons {next : Search} (h : Stops s name next) (ho : s.definition? o name = none) (n : Nat) :
    Stops s name ⟨next.found, o :: next.asked, n⟩ where
  found p hp := by
    obtain ⟨earlier, stop, he, hd, hnone⟩ := h.found p hp
    exact ⟨o :: earlier, stop, by rw [he]; rfl, hd, List.forall_mem_cons.2 ⟨ho, hnone⟩⟩
  missed hn := List.forall_mem_cons.2 ⟨ho, h.missed hn⟩

theorem search_stops (queue visited : List Obj) : Stops s name (s.search name queue visited) := by
  fun_induction search s name queue visited with
  | case1 visited =>
    refine ⟨fun p hp => ?_, fun _ y m => ?_⟩
    · cases hp
    · cases m
  | case2 visited o queue hv next ih => exact ⟨ih.found, ih.missed⟩
  | case3 visited o queue hv hr next ih => exact ih.cons (by simp [definition?, hr]) _
  | case4 visited o queue hv r hr p hp =>
    have hd : s.definition? o name = some p := by simp [definition?, hr, hp]
    refine ⟨fun q hq => ⟨[], o, rfl, hd.trans hq, fun y m => ?_⟩, fun hn => ?_⟩
    · cases m
    · cases hn
  | case5 visited o queue hv r hr hp fresh next ih => exact ih.cons (by simp [definition?, hr, hp]) _

end Search

/-! ## The objects asked for -/

/-- The objects that the search for an object's property asks for, in order. -/
def asked (s : Store) (start : Obj) (name : Symbol) : List Obj := (s.search name [start] []).asked

/-- What is not asked for is not noticed. -/
theorem resolve_congr {s s' : Store} {start : Obj} {name : Symbol}
    (h : ∀ o ∈ s.asked start name, s'.glimpse name o = s.glimpse name o) :
    s'.resolve start name = s.resolve start name :=
  congrArg Search.found (search_congr [start] [] h)

/-- The parents of an object; a missing one has none. -/
def parentsOf (s : Store) (o : Obj) : List Obj := ((s.get? o).map (·.parents)).getD []

theorem follow_cons (s : Store) (o : Obj) (i : Nat) (p : Path) :
    s.follow o (i :: p) = ((s.parentsOf o)[i]?).bind fun parent => s.follow parent p := by
  unfold parentsOf
  rw [follow]
  cases s.get? o <;> simp

theorem follow_congr {s s' : Store} (h : ∀ o, s'.parentsOf o = s.parentsOf o) (o : Obj) (p : Path) :
    s'.follow o p = s.follow o p := by
  induction p generalizing o with
  | nil => rfl
  | cons i p ih => simp only [follow_cons, h, ih]

/-- The store in which an object defines a name and nothing else, with the parents that it has. -/
def defining (s : Store) (o : Obj) (name : Symbol) (p : Property) : Store :=
  s.insert { id := o, parents := s.parentsOf o, properties := [(name, p)] }

section Defining

variable {s : Store} {o start : Obj} {name : Symbol} {p : Property}

theorem get?_defining_of_ne {y : Obj} (h : y ≠ o) : (s.defining o name p).get? y = s.get? y := by
  rw [defining, get?_insert, if_neg h]

theorem definition?_defining_self : (s.defining o name p).definition? o name = some p := by
  simp [definition?, defining, get?_insert, Record.property?, Assoc.get?, Symbol.cmp_eq_eq]

theorem definition?_defining_of_ne {y : Obj} (h : y ≠ o) :
    (s.defining o name p).definition? y name = s.definition? y name := by
  rw [definition?, definition?, get?_defining_of_ne h]

theorem follow_defining (q : Path) : (s.defining o name p).follow start q = s.follow start q := by
  refine follow_congr (fun y => ?_) start q
  by_cases hy : y = o
  · subst hy
    simp [parentsOf, defining, get?_insert]
  · rw [parentsOf, parentsOf, get?_defining_of_ne hy]

/-- What comes first when the object defines the name came first before. -/
theorem First.of_defining {q : Path} (h : First (s.defining o name p) start name q) :
    First s start name q := by
  intro q' y hq' hy
  refine h q' y ((follow_defining q').trans hq') ?_
  by_cases hyo : y = o
  · rw [hyo, definition?_defining_self]; rfl
  · rwa [definition?_defining_of_ne hyo]

end Defining

theorem exists_ne_resolve (s : Store) (start : Obj) (name : Symbol) :
    ∃ p, s.resolve start name ≠ some p := by
  by_cases h : s.resolve start name = some ⟨.int 0, .system, .empty⟩
  · exact ⟨⟨.int 1, .system, .empty⟩, by rw [h]; simp⟩
  · exact ⟨_, h⟩

/-- The objects asked for are those that a path leads to before any path leads to a definition. -/
theorem mem_asked_iff {s : Store} {start o : Obj} {name : Symbol} :
    o ∈ s.asked start name ↔ ∃ path, s.follow start path = some o ∧ First s start name path := by
  -- a definition on the object that is told from what was found before
  obtain ⟨p, hp⟩ := s.exists_ne_resolve start name
  constructor
  · intro hm
    have hfound : (s.defining o name p).resolve start name = some p :=
      search_override definition?_defining_self
        (fun y hy => glimpse_congr (get?_defining_of_ne hy) name) [start] [] hm
    obtain ⟨path, y, hy, hd, hfirst⟩ := resolve_eq_some.1 hfound
    rw [follow_defining] at hy
    by_cases hyo : y = o
    · exact ⟨path, hyo ▸ hy, hfirst.of_defining⟩
    · rw [definition?_defining_of_ne hyo] at hd
      exact absurd (resolve_eq_some.2 ⟨path, y, hy, hd, hfirst.of_defining⟩) hp
  · rintro ⟨path, hpath, hfirst⟩
    by_contra hm
    have hsame : (s.defining o name p).resolve start name = s.resolve start name := by
      refine resolve_congr fun y hy => glimpse_congr (get?_defining_of_ne fun e => hm ?_) name
      rwa [← e]
    have hdef : ((s.defining o name p).definition? o name).isSome := by
      rw [definition?_defining_self]; rfl
    obtain ⟨q, y, hq, hy, hq₁⟩ := exists_first ((follow_defining path).trans hpath) hdef
    have hfound := resolve_of_first hq hy hq₁
    by_cases hyo : y = o
    · rw [hyo, definition?_defining_self, hsame] at hfound
      exact hp hfound
    · rw [definition?_defining_of_ne hyo] at hy
      rw [follow_defining] at hq
      have heq : q = path := List.Shortlex.trichotomous.trichotomous q path (hfirst q y hq hy)
        (hq₁ path o ((follow_defining path).trans hpath) hdef)
      rw [heq, hpath] at hq
      exact hyo (Option.some.inj hq).symm

end Store

/-! ## Changes -/

/-- The object whose record a change is about. -/
def Upkeep.subject? : Upkeep → Option Obj
  | .insert r => some r.id
  | .remove o | .updateProperty o _ _ | .setParents o _ => some o
  | .reload => none

namespace Store

theorem get?_modify_of_ne {o o' : Obj} (h : o' ≠ o) (s : Store) (f : Record → Record) :
    ((s.modify o f).toOption.getD s).get? o' = s.get? o' := by
  cases hm : s.modify o f with
  | error e => rfl
  | ok s' =>
    obtain ⟨r, -, hget⟩ := modify_eq_ok hm
    exact (hget o').trans (if_neg h)

theorem get?_upkeep {e : Upkeep} {o : Obj} (h : e.subject? ≠ some o) (s : Store) :
    (e.store s).get? o = s.get? o := by
  cases e with
  | insert r => exact (s.get?_insert r o).trans (if_neg fun ho => h (congrArg some ho.symm))
  | remove o' => exact get?_erase_of_ne (fun ho => h (congrArg some ho.symm)) s
  | updateProperty o' _ _ => exact get?_modify_of_ne (fun ho => h (congrArg some ho.symm)) s _
  | setParents o' _ => exact get?_modify_of_ne (fun ho => h (congrArg some ho.symm)) s _
  | reload => rfl

theorem glimpse_updateProperty {s s' : Store} {o : Obj} {name other : Symbol} {p : Property}
    (h : s.updateProperty o name p = .ok s') (hn : other.folded ≠ name.folded) (y : Obj) :
    s'.glimpse other y = s.glimpse other y := by
  obtain ⟨r, hr, hget⟩ := modify_eq_ok h
  by_cases hy : y = o
  · subst hy
    rw [glimpse, hget, if_pos rfl, glimpse_of_get? hr, Option.map_some, Record.property?_withProperty,
      if_neg hn]
    rfl
  · exact glimpse_congr ((hget y).trans (if_neg hy)) other

theorem definition?_updateProperty {s s' : Store} {o : Obj} {name other : Symbol} {p : Property}
    (h : s.updateProperty o name p = .ok s') (hn : other.folded = name.folded) :
    s'.definition? o other = some p := by
  obtain ⟨r, -, hget⟩ := modify_eq_ok h
  rw [definition?, hget, if_pos rfl, Option.bind_some, Record.property?_withProperty, if_pos hn]

/-- **Overriding.** The search for a property asks for the objects that a path leads to before any path
leads to a definition, and ends with the first of them that has one. A definition of the name put on one of
them is found afterwards. Put on any other object it changes nothing, nor does a definition of another name
wherever it is put, nor anything at all that happens to objects that are not asked for. -/
theorem resolve_after_change (s : Store) (start : Obj) (name : Symbol) :
    (∀ o, o ∈ s.asked start name ↔ ∃ path, s.follow start path = some o ∧
      ∀ q y, s.follow start q = some y → s.Defines y name → q = path ∨ Before path q) ∧
    (∀ p, s.resolve start name = some p → ∃ earlier stop,
      s.asked start name = earlier ++ [stop] ∧ s.definition? stop name = some p ∧
        ∀ y ∈ earlier, ¬ s.Defines y name) ∧
    (s.resolve start name = none → ∀ y ∈ s.asked start name, ¬ s.Defines y name) ∧
    (∀ o spelling p, s.valid o = true → spelling.folded = name.folded →
      ∃ s', s.updateProperty o spelling p = .ok s' ∧
        (o ∈ s.asked start name → s'.resolve start name = some p) ∧
        (o ∉ s.asked start name → s'.resolve start name = s.resolve start name) ∧
        ∀ x other, other.folded ≠ name.folded → s'.resolve x other = s.resolve x other) ∧
    (∀ s' : Store, (∀ o ∈ s.asked start name, s'.get? o = s.get? o) →
      s'.resolve start name = s.resolve start name) ∧
    ∀ e : Upkeep, (∀ o ∈ s.asked start name, e.subject? ≠ some o) →
      (e.store s).resolve start name = s.resolve start name := by
  have undefined : ∀ y, s.definition? y name = none → ¬ s.Defines y name := by
    intro y hy
    rw [← definition?_isSome, hy]
    simp
  have hstops : Stops s name (s.search name [start] []) := search_stops [start] []
  refine ⟨fun o => ?_, fun p hp => ?_, fun hn y hy => undefined y (hstops.missed hn y hy),
    fun o spelling p ho hn => ?_, fun s' h => ?_, fun e he => ?_⟩
  · simp only [mem_asked_iff, first_iff]
  · obtain ⟨earlier, stop, ha, hd, hnone⟩ := hstops.found p hp
    exact ⟨earlier, stop, ha, hd, fun y hy => undefined y (hnone y hy)⟩
  · obtain ⟨s', hs'⟩ := exists_modify ho (·.withProperty spelling p)
    obtain ⟨r, -, hget⟩ := modify_eq_ok hs'
    have hsame : ∀ y, y ≠ o → s'.glimpse name y = s.glimpse name y :=
      fun y hy => glimpse_congr ((hget y).trans (if_neg hy)) name
    refine ⟨s', hs', fun hm => ?_, fun hm => ?_, fun x other hother => ?_⟩
    · exact search_override (definition?_updateProperty hs' hn.symm) hsame [start] [] hm
    · exact resolve_congr fun y hy => hsame y fun e => hm (e ▸ hy)
    · exact resolve_congr fun y _ => glimpse_updateProperty hs' (hn ▸ hother) y
  · exact resolve_congr fun o ho => glimpse_congr (h o ho) name
  · exact resolve_congr fun o ho => glimpse_congr (get?_upkeep (he o ho) s) name

/-- An object with two parents: the first is also its child, and the second defines a name and has a parent
of its own. -/
def loop : Store := .ofList
  [{ id := ⟨1⟩, parents := [⟨2⟩, ⟨3⟩] }, { id := ⟨2⟩, parents := [⟨1⟩] },
    { id := ⟨3⟩, parents := [⟨4⟩], properties := [(⟨"name"⟩, ⟨.int 3, .system, .empty⟩)] }, { id := ⟨4⟩ }]

/-- A definition on the first parent is found, and one behind the second is not. -/
theorem resolve_after_change_loop : loop.asked ⟨1⟩ ⟨"Name"⟩ = [⟨1⟩, ⟨2⟩, ⟨3⟩] ∧
    (∃ s', loop.updateProperty ⟨2⟩ ⟨"NAME"⟩ ⟨.int 2, .system, .empty⟩ = .ok s' ∧
      s'.resolve ⟨1⟩ ⟨"Name"⟩ = some ⟨.int 2, .system, .empty⟩) ∧
    (∃ s', loop.updateProperty ⟨4⟩ ⟨"NAME"⟩ ⟨.int 4, .system, .empty⟩ = .ok s' ∧
      s'.resolve ⟨1⟩ ⟨"Name"⟩ = loop.resolve ⟨1⟩ ⟨"Name"⟩) ∧
    ((Upkeep.remove ⟨4⟩).store loop).resolve ⟨1⟩ ⟨"Name"⟩ = loop.resolve ⟨1⟩ ⟨"Name"⟩ := by
  have hasked : loop.asked ⟨1⟩ ⟨"Name"⟩ = [⟨1⟩, ⟨2⟩, ⟨3⟩] := by
    have h₁ : loop.glimpse ⟨"Name"⟩ ⟨1⟩ = some (none, [⟨2⟩, ⟨3⟩]) := rfl
    have h₂ : loop.glimpse ⟨"Name"⟩ ⟨2⟩ = some (none, [⟨1⟩]) := rfl
    have h₃ : loop.glimpse ⟨"Name"⟩ ⟨3⟩ = some (some ⟨.int 3, .system, .empty⟩, [⟨4⟩]) := rfl
    rw [asked, search_passing (by decide) h₁]
    simp [search_passing _ h₂, search_defining _ h₃]
  obtain ⟨-, -, -, update, -, upkeep⟩ := resolve_after_change loop ⟨1⟩ ⟨"Name"⟩
  simp only [hasked] at update upkeep
  obtain ⟨s₂, h₂, found, -, -⟩ := update ⟨2⟩ ⟨"NAME"⟩ ⟨.int 2, .system, .empty⟩ rfl (by decide)
  obtain ⟨s₄, h₄, -, same, -⟩ := update ⟨4⟩ ⟨"NAME"⟩ ⟨.int 4, .system, .empty⟩ rfl (by decide)
  exact ⟨hasked, ⟨s₂, h₂, found (by decide)⟩, ⟨s₄, h₄, same (by decide)⟩,
    upkeep (.remove ⟨4⟩) (by decide)⟩

end Store

end MooWorld
