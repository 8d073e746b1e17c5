import Mathlib.Algebra.BigOperators.Group.Finset.Basic
import Mathlib.Algebra.Order.BigOperators.Group.Finset
import Mathlib.Algebra.Ring.Nat
import MooWorld.Proofs.Override
/-!
# How long a search takes

The search for a property puts parents in its queue that it has not visited yet. `explore` is that search with
the choice of the parents left open: with `unseen` it is the search itself (`search_eq_explore`), and with no
choice at all every parent goes into the queue, however often it was met before.

Every round takes one entry off the queue, and an object's parents go into it no more than once, when the object
is asked for. So what is in the queue, together with the parents of all ancestors that are still to be visited
(`ahead`), is a bound for the rounds to come, whatever the choice (`explore_rounds_le`).

What was visited is passed over when it comes off the queue. So a search depends on no more of its queue than the
unvisited objects there, in their order, and a choice that leaves out visited objects only is not noticed
(`explore_answer`).
-/
namespace MooWorld.Store

/-! ## Searches with a choice -/

/-- The object was not visited. -/
def unseen (visited : List Obj) (o : Obj) : Bool := !visited.contains o

theorem unseen_iff {visited : List Obj} {o : Obj} : unseen visited o = true ↔ o ∉ visited := by
  simp [unseen]

/-- The search that puts into its queue the parents that are picked by `keep`, which knows the objects that
were visited. -/
def explore (s : Store) (keep : List Obj → Obj → Bool) (name : Symbol) (queue visited : List Obj) : Search :=
  match queue with
  | [] => ⟨none, [], 0⟩
  | o :: rest =>
    if _hv : visited.contains o then
      let next := explore s keep name rest visited
      { next with rounds := next.rounds + 1 }
    else
      match hr : s.get? o with
      | none =>
        let next := explore s keep name rest (o :: visited)
        ⟨next.found, o :: next.asked, next.rounds + 1⟩
      | some r =>
        match r.property? name with
        | some p => ⟨some p, [o], 1⟩
        | none =>
          let next := explore s keep name (rest ++ r.parents.filter (keep (o :: visited))) (o :: visited)
          ⟨next.found, o :: next.asked, next.rounds + 1⟩
termination_by (s.unvisited visited, queue.length)
decreasing_by
  · exact Prod.Lex.right _ (by simp)
  · rcases Nat.lt_or_eq_of_le (s.unvisited_le visited o) with h | h
    · exact Prod.Lex.left _ _ h
    · rw [h]
      exact Prod.Lex.right _ (by simp)
  · exact Prod.Lex.left _ _ (unvisited_lt hr (by simpa using _hv))

theorem search_eq_explore (s : Store) (name : Symbol) (queue visited : List Obj) :
    s.search name queue visited = s.explore unseen name queue visited := by
  fun_induction explore s unseen name queue visited with
  | case1 visited => rw [search]
  | case2 visited o rest hv next ih => rw [search_visited (by simpa using hv), ih]
  | case3 visited o rest hv hr next ih =>
    rw [search_missing (by simpa using hv) (by rw [glimpse, hr]; rfl), ih]
  | case4 visited o rest hv r hr p hp =>
    exact search_defining (by simpa using hv) (by rw [glimpse_of_get? hr, hp])
  | case5 visited o rest hv r hr hp next ih =>
    rw [search_passing (by simpa using hv) (by rw [glimpse_of_get? hr, hp])]
    exact congrArg (fun n : Search => (⟨n.found, o :: n.asked, n.rounds + 1⟩ : Search)) ih

/-! ## Rounds -/

/-- A path leads from one object to the other. -/
def Reaches (s : Store) (start o : Obj) : Prop := ∃ path, s.follow start path = some o

theorem Reaches.parent {s : Store} {start o p : Obj} {r : Record} (h : s.Reaches start o)
    (hr : s.get? o = some r) (hp : p ∈ r.parents) : s.Reaches start p := by
  obtain ⟨path, ho⟩ := h
  obtain ⟨i, hi⟩ := List.mem_iff_getElem?.1 hp
  exact ⟨path ++ [i], by rw [follow_concat ho hr, hi]⟩

open Classical in
/-- The objects that exist and that a path leads to, the first one included. -/
noncomputable def ancestry (s : Store) (start : Obj) : Finset Obj :=
  (s.records.map (·.1)).toFinset.filter fun o => s.valid o = true ∧ s.Reaches start o

theorem mem_ancestry {s : Store} {start o : Obj} :
    o ∈ s.ancestry start ↔ s.valid o = true ∧ s.Reaches start o := by
  simp only [ancestry, Finset.mem_filter, List.mem_toFinset, and_iff_right_iff_imp]
  rintro ⟨hv, -⟩
  obtain ⟨r, hr⟩ := Option.isSome_iff_exists.1 hv
  exact List.mem_map_of_mem (f := (·.1)) (get?_mem hr)

/-- The entries of the queue, and the parents of all ancestors that were not visited. -/
noncomputable def ahead (s : Store) (start : Obj) (queue visited : List Obj) : Nat :=
  queue.length + ∑ o ∈ s.ancestry start with o ∉ visited, (s.parentsOf o).length

section Rounds

variable {s : Store} {start o : Obj} {queue visited : List Obj}

theorem ahead_visit_le : s.ahead start queue (o :: visited) ≤ s.ahead start queue visited := by
  unfold ahead
  refine Nat.add_le_add_left (Finset.sum_le_sum_of_subset fun o' m => ?_) _
  simp only [Finset.mem_filter, List.mem_cons, not_or] at m ⊢
  exact ⟨m.1, m.2.2⟩

/-- The parents of an ancestor are no longer ahead when it is visited. -/
theorem ahead_visit (hm : o ∈ s.ancestry start) (hv : o ∉ visited) :
    (s.parentsOf o).length + s.ahead start queue (o :: visited) = s.ahead start queue visited := by
  have herase : {o' ∈ s.ancestry start | o' ∉ o :: visited} =
      {o' ∈ s.ancestry start | o' ∉ visited}.erase o := by
    ext o'
    simp only [Finset.mem_filter, Finset.mem_erase, List.mem_cons, not_or]
    tauto
  unfold ahead
  rw [herase, ← Finset.add_sum_erase _ _ (Finset.mem_filter.2 ⟨hm, hv⟩)]
  omega

theorem ahead_append (added : List Obj) :
    s.ahead start (queue ++ added) visited = added.length + s.ahead start queue visited := by
  simp only [ahead, List.length_append]
  omega

theorem ahead_cons : s.ahead start (o :: queue) visited = s.ahead start queue visited + 1 := by
  simp only [ahead, List.length_cons]
  omega

/-- There are no more rounds than there is ahead. -/
theorem explore_rounds_le (keep : List Obj → Obj → Bool) (name : Symbol) (queue visited : List Obj)
    (hq : ∀ o ∈ queue, s.Reaches start o) :
    (s.explore keep name queue visited).rounds ≤ s.ahead start queue visited := by
  fun_induction explore s keep name queue visited with
  | case1 visited => exact Nat.zero_le _
  | case2 visited o rest hv next ih =>
    rw [ahead_cons]
    exact Nat.succ_le_succ (ih (List.forall_mem_cons.1 hq).2)
  | case3 visited o rest hv hr next ih =>
    have hnext := ih (List.forall_mem_cons.1 hq).2
    rw [ahead_cons]
    exact Nat.succ_le_succ (hnext.trans ahead_visit_le)
  | case4 visited o rest hv r hr p hp =>
    rw [ahead_cons]
    exact Nat.le_add_left _ _
  | case5 visited o rest hv r hr hp next ih =>
    obtain ⟨ho, hrest⟩ := List.forall_mem_cons.1 hq
    have hreached : ∀ o' ∈ rest ++ r.parents.filter (keep (o :: visited)), s.Reaches start o' := by
      intro o' m
      rcases List.mem_append.1 m with m | m
      · exact hrest o' m
      · exact ho.parent hr (List.mem_of_mem_filter m)
    have hnext : next.rounds ≤ _ := ih hreached
    -- the parents are taken from what is ahead of the object, and no more of them come into the queue
    have hkept := List.length_filter_le (keep (o :: visited)) r.parents
    have hparents : s.parentsOf o = r.parents := by rw [parentsOf, hr]; rfl
    have hm : o ∈ s.ancestry start := mem_ancestry.2 ⟨by rw [valid, hr]; rfl, ho⟩
    have hvisit : r.parents.length + s.ahead start rest (o :: visited) = s.ahead start rest visited :=
      hparents ▸ ahead_visit hm (by simpa using hv)
    rw [ahead_append] at hnext
    rw [ahead_cons]
    show next.rounds + 1 ≤ _
    omega

end Rounds

/-! ## Objects asked for -/

/-- No object is asked for that was visited, and none twice. Each is asked for in a round of its own. -/
structure AsksOnce (visited : List Obj) (r : Search) : Prop where
  unvisited : ∀ o ∈ r.asked, o ∉ visited
  nodup : r.asked.Nodup
  rounds : r.asked.length ≤ r.rounds

theorem AsksOnce.cons {o : Obj} {visited : List Obj} {next : Search} (h : AsksOnce (o :: visited) next)
    (ho : o ∉ visited) : AsksOnce visited ⟨next.found, o :: next.asked, next.rounds + 1⟩ where
  unvisited := List.forall_mem_cons.2 ⟨ho, fun o' m hv => h.unvisited o' m (List.mem_cons_of_mem _ hv)⟩
  nodup := List.nodup_cons.2 ⟨fun m => h.unvisited o m List.mem_cons_self, h.nodup⟩
  rounds := Nat.succ_le_succ h.rounds

section Explore

variable {s : Store} {keep : List Obj → Obj → Bool} {name : Symbol}

theorem explore_asksOnce (queue visited : List Obj) :
    AsksOnce visited (s.explore keep name queue visited) := by
  fun_induction explore s keep name queue visited with
  | case1 visited => exact ⟨List.forall_mem_nil _, List.nodup_nil, Nat.le_refl _⟩
  | case2 visited o rest hv next ih => exact ⟨ih.unvisited, ih.nodup, Nat.le_succ_of_le ih.rounds⟩
  | case3 visited o rest hv hr next ih => exact ih.cons (by simpa using hv)
  | case4 visited o rest hv r hr p hp =>
    exact ⟨by simpa using hv, List.nodup_singleton o, Nat.le_refl _⟩
  | case5 visited o rest hv r hr hp next ih => exact ih.cons (by simpa using hv)

/-! ## Choices that are not noticed -/

/-- What a search answers, however many rounds it took: the definition found and the objects asked for. -/
def Search.answer (r : Search) : Option Property × List Obj := (r.found, r.asked)

/-- Visited objects at the head of the queue are passed over. -/
theorem search_skip {skipped queue visited : List Obj} (h : ∀ o ∈ skipped, o ∈ visited) :
    (s.search name (skipped ++ queue) visited).answer = (s.search name queue visited).answer := by
  induction skipped with
  | nil => rfl
  | cons o skipped ih =>
    obtain ⟨ho, hskipped⟩ := List.forall_mem_cons.1 h
    rw [List.cons_append, search_visited ho]
    exact ih hskipped

/-- Nothing is left out but what was visited. -/
def LeavesVisited (keep : List Obj → Obj → Bool) : Prop :=
  ∀ visited o, keep visited o = false → o ∈ visited

theorem leavesVisited_unseen : LeavesVisited unseen := fun visited o h => by simpa [unseen] using h

theorem filter_unseen_keep (hkeep : LeavesVisited keep) (visited l : List Obj) :
    (l.filter (keep visited)).filter (unseen visited) = l.filter (unseen visited) := by
  rw [List.filter_filter]
  refine List.filter_congr fun o _ => ?_
  cases hk : keep visited o with
  | true => rw [Bool.and_true]
  | false => simp [unseen, hkeep visited o hk]

theorem filter_unseen_cons (o : Obj) (visited l : List Obj) :
    l.filter (unseen (o :: visited)) = (l.filter (unseen visited)).filter (unseen [o]) := by
  rw [List.filter_filter]
  refine List.filter_congr fun o' _ => ?_
  simp [unseen, Bool.not_or]

/-- A queue that has the same unvisited objects as one with an unvisited object at its head comes to this object
after some visited ones. -/
theorem exists_skipped {o : Obj} {queue rest visited : List Obj} (ho : o ∉ visited)
    (h : queue.filter (unseen visited) = (o :: rest).filter (unseen visited)) :
    ∃ skipped rest', queue = skipped ++ o :: rest' ∧ (∀ y ∈ skipped, y ∈ visited) ∧
      rest'.filter (unseen visited) = rest.filter (unseen visited) := by
  rw [List.filter_cons_of_pos (unseen_iff.2 ho)] at h
  obtain ⟨skipped, rest', hqueue, hskipped, -, hrest⟩ := List.filter_eq_cons_iff.1 h
  refine ⟨skipped, rest', hqueue, fun y m => ?_, hrest⟩
  by_contra hy
  exact hskipped y m (unseen_iff.2 hy)

/-- Queues with the same unvisited objects, in the same order, are searched with the same answer, if only
visited objects are left out along the way. -/
theorem explore_answer (hkeep : LeavesVisited keep) (queue visited : List Obj) :
    ∀ queue', queue'.filter (unseen visited) = queue.filter (unseen visited) →
      (s.explore keep name queue visited).answer = (s.search name queue' visited).answer := by
  fun_induction explore s keep name queue visited with
  | case1 visited =>
    intro queue' hsame
    have hskipped : ∀ y ∈ queue', y ∈ visited := fun y m => by
      by_contra hy
      exact List.filter_eq_nil_iff.1 hsame y m (unseen_iff.2 hy)
    rw [← List.append_nil queue', search_skip hskipped, search]
  | case2 visited o rest hv next ih =>
    intro queue' hsame
    rw [List.filter_cons_of_neg (by simpa [unseen] using hv)] at hsame
    exact ih queue' hsame
  | case3 visited o rest hv hr next ih =>
    intro queue' hsame
    have ho : o ∉ visited := by simpa using hv
    obtain ⟨skipped, rest', rfl, hskipped, hrest⟩ := exists_skipped ho hsame
    rw [search_skip hskipped, search_missing ho (by rw [glimpse, hr]; rfl)]
    have hnext := ih rest' (by rw [filter_unseen_cons, hrest, ← filter_unseen_cons])
    exact congrArg (Prod.map id (o :: ·)) hnext
  | case4 visited o rest hv r hr p hp =>
    intro queue' hsame
    have ho : o ∉ visited := by simpa using hv
    obtain ⟨skipped, rest', rfl, hskipped, -⟩ := exists_skipped ho hsame
    rw [search_skip hskipped, search_defining ho (by rw [glimpse_of_get? hr, hp])]
  | case5 visited o rest hv r hr hp next ih =>
    intro queue' hsame
    have ho : o ∉ visited := by simpa using hv
    obtain ⟨skipped, rest', rfl, hskipped, hrest⟩ := exists_skipped ho hsame
    rw [search_skip hskipped, search_passing ho (by rw [glimpse_of_get? hr, hp])]
    -- of the parents, both queues get those that were not visited
    have hqueues : (rest' ++ r.parents.filter (unseen (o :: visited))).filter (unseen (o :: visited)) =
        (rest ++ r.parents.filter (keep (o :: visited))).filter (unseen (o :: visited)) := by
      rw [List.filter_append, List.filter_append, filter_unseen_keep hkeep,
        filter_unseen_keep leavesVisited_unseen, filter_unseen_cons o visited rest', hrest, ← filter_unseen_cons]
    exact congrArg (Prod.map id (o :: ·)) (ih _ hqueues)

end Explore

/-- **A search ends, and asks for no object twice.** It takes at most one round more than the objects that exist
and that a path leads to have parents, each of these objects counted once, whatever cycles, repeated parents and
missing objects there are; and no object is asked for more than once. If all parents are put into the queue,
visited ones too, the same is found, the same objects are asked for, and the bound is the same. -/
theorem search_ends (s : Store) (start : Obj) (name : Symbol) :
    let bound := 1 + ∑ o ∈ s.ancestry start, (s.parentsOf o).length
    let search := s.search name [start] []
    let unfiltered := s.explore (fun _ _ => true) name [start] []
    search.rounds ≤ bound ∧ search.asked.Nodup ∧ search.asked.length ≤ search.rounds ∧
      unfiltered.found = s.resolve start name ∧ unfiltered.asked = search.asked ∧
      unfiltered.rounds ≤ bound := by
  intro bound search unfiltered
  have hstart : ∀ o ∈ [start], s.Reaches start o := fun o m => ⟨[], by rw [List.mem_singleton.1 m]; rfl⟩
  have hbound : s.ahead start [start] [] = bound := by simp [ahead, bound]
  have hsearch : search = s.explore unseen name [start] [] := s.search_eq_explore name [start] []
  have hasks : AsksOnce [] search := hsearch ▸ explore_asksOnce [start] []
  have hanswer : unfiltered.answer = search.answer :=
    explore_answer (fun _ _ hkeep => by cases hkeep) [start] [] [start] rfl
  obtain ⟨hfound, hasked⟩ := Prod.mk.inj hanswer
  refine ⟨?_, hasks.nodup, hasks.rounds, hfound, hasked, ?_⟩
  · rw [hsearch, ← hbound]
    exact explore_rounds_le unseen name [start] [] hstart
  · rw [← hbound]
    exact explore_rounds_le _ name [start] [] hstart

end MooWorld.Store
