import MooWorld.Store.Basic
/-!
# Inheritance

A property is looked for on the object itself and then, breadth first, on its parents in their order.
The first object that defines it wins: the object's own definition before any inherited one, a nearer
generation before a farther one, an earlier parent before a later one. Parents may form cycles and may
be missing; an object is looked at once, and a missing one has no properties and no parents.
-/
namespace MooWorld.Store

/-- How a search went. -/
structure Search where
  /-- The definition that was found. -/
  found : Option Property
  /-- The objects that were asked for, in order. -/
  asked : List Obj
  /-- How many entries were taken off the queue. -/
  rounds : Nat

/-- How many objects of the store are not among the visited ones. -/
def unvisited (s : Store) (visited : List Obj) : Nat :=
  s.records.countP fun e => !visited.contains e.1

theorem cmp_eq_iff (o p : Obj) : Obj.cmp o p = .eq ↔ o = p := by
  obtain ⟨a⟩ := o
  obtain ⟨b⟩ := p
  simp [Obj.cmp]

theorem get?_mem {records : List (Obj × Record)} {o : Obj} {r : Record}
    (h : Assoc.get? Obj.cmp o records = some r) : (o, r) ∈ records := by
  induction records with
  | nil => simp [Assoc.get?] at h
  | cons e rest ih =>
    obtain ⟨k, a⟩ := e
    simp only [Assoc.get?] at h
    split at h
    · next hk => simp_all [(cmp_eq_iff o k).1 hk]
    · exact List.mem_cons_of_mem _ (ih h)

theorem countP_visit_le (records : List (Obj × Record)) (visited : List Obj) (o : Obj) :
    records.countP (fun e => !(o :: visited).contains e.1) ≤
      records.countP (fun e => !visited.contains e.1) := by
  apply List.countP_mono_left
  intro e _ h
  simp_all

theorem countP_visit_lt {records : List (Obj × Record)} {visited : List Obj} {o : Obj} {r : Record}
    (hm : (o, r) ∈ records) (hv : visited.contains o = false) :
    records.countP (fun e => !(o :: visited).contains e.1) <
      records.countP (fun e => !visited.contains e.1) := by
  induction records with
  | nil => simp at hm
  | cons e rest ih =>
    simp only [List.countP_cons]
    rcases List.mem_cons.1 hm with rfl | hm
    · rw [if_neg (by simp), if_pos (by rw [hv]; rfl)]
      exact Nat.lt_succ_of_le (countP_visit_le rest visited o)
    · have hone := countP_visit_le [e] visited o
      simp only [List.countP_singleton] at hone
      exact Nat.add_lt_add_of_lt_of_le (ih hm) hone

/-- Visiting an object never makes the unvisited ones more. -/
theorem unvisited_le (s : Store) (visited : List Obj) (o : Obj) :
    s.unvisited (o :: visited) ≤ s.unvisited visited :=
  countP_visit_le _ _ _

/-- Visiting an object that exists makes them fewer. -/
theorem unvisited_lt {s : Store} {visited : List Obj} {o : Obj} {r : Record}
    (hr : s.get? o = some r) (hv : visited.contains o = false) :
    s.unvisited (o :: visited) < s.unvisited visited :=
  countP_visit_lt (get?_mem hr) hv

/-- Searches the objects in the queue, then the parents of those that do not define the property. -/
def search (s : Store) (name : Symbol) (queue visited : List Obj) : Search :=
  match queue with
  | [] => ⟨none, [], 0⟩
  | o :: rest =>
    if _hv : visited.contains o then
      let next := search s name rest visited
      { next with rounds := next.rounds + 1 }
    else
      match hr : s.get? o with
      | none =>
        let next := search s name rest (o :: visited)
        ⟨next.found, o :: next.asked, next.rounds + 1⟩
      | some r =>
        match r.property? name with
        | some p => ⟨some p, [o], 1⟩
        | none =>
          let fresh := r.parents.filter fun p => !(o :: visited).contains p
          let next := search s name (rest ++ fresh) (o :: visited)
          ⟨next.found, o :: next.asked, next.rounds + 1⟩
termination_by (s.unvisited visited, queue.length)
decreasing_by
  · exact Prod.Lex.right _ (by simp)
  · rcases Nat.lt_or_eq_of_le (s.unvisited_le visited o) with h | h
    · exact Prod.Lex.left _ _ h
    · rw [h]
      exact Prod.Lex.right _ (by simp)
  · exact Prod.Lex.left _ _ (unvisited_lt hr (by simpa using _hv))

/-- The definition of a property that an object sees (`resolve_property`). -/
def resolve (s : Store) (o : Obj) (name : Symbol) : Option Property :=
  (s.search name [o] []).found

/-- The value of a property that an object sees (`resolve_property_value`). -/
def resolveValue (s : Store) (o : Obj) (name : String) : Except StoreError Value :=
  match s.resolve o ⟨name⟩ with
  | some p => .ok p.value
  | none => .error (.propertyNotFound o name)

end MooWorld.Store
