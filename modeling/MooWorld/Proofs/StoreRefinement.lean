import MooWorld.Proofs.Override
/-!
# The store as a function

What the store holds can be told without saying how it is kept: for each object its flags, its parents and,
for each folded name, a property and the spelling of its name (`AbstractRecord`). A change of the store is
then a change of that function at one object, and a change of a property is one at a single folded name
(`apply`).

The store keeps its records in order, each under its own number and with its names in order (`WellFormed`),
and this is enough for its abstraction to go the way of the function (`toAbstract_upkeep`), step by step and so
through any sequence of changes (`visits_refine`).
-/
namespace MooWorld

/-- An object without its number, and with its properties as a function of folded names. -/
structure AbstractRecord where
  flags : FlagSet ObjectFlag
  parents : List Obj
  /-- A property, and its name as it is spelled there. -/
  properties : List Char → Option (Symbol × Property)

/-- Sets the property of a folded name. The spelling that is there is kept. -/
def AbstractRecord.define (p : AbstractRecord) (name : Symbol) (prop : Property) : AbstractRecord :=
  { p with properties := fun key =>
      if key = name.folded then some (((p.properties key).map (·.1)).getD name, prop) else p.properties key }

/-- What a record says, however it is kept. -/
def Record.toAbstract (r : Record) : AbstractRecord where
  flags := r.flags
  parents := r.parents
  properties key := r.properties.find? fun e => e.1.folded = key

/-- What there is to know of each object that exists. -/
abbrev AbstractStore := Obj → Option AbstractRecord

/-- What a change makes of it: a record is put in whole or taken out, and a property or the parents are
changed if the object exists. -/
def AbstractStore.apply (m : AbstractStore) : Upkeep → AbstractStore
  | .insert r => Function.update m r.id (some r.toAbstract)
  | .remove o => Function.update m o none
  | .updateProperty o name p => Function.update m o ((m o).map (·.define name p))
  | .setParents o parents => Function.update m o ((m o).map ({ · with parents }))
  | .reload => m

/-- What the store says of all objects. -/
def Store.toAbstract (s : Store) : AbstractStore := fun o => (s.get? o).map (·.toAbstract)

/-! ## Records -/

namespace Record

/-- The names of the properties are in order, so that no two of them are the same up to case. -/
def WellFormed (r : Record) : Prop := Assoc.Ascending Symbol.cmp r.properties

theorem WellFormed.names {r : Record} (h : r.WellFormed) :
    r.properties.Pairwise fun e e' => e.1.folded ≠ e'.1.folded := by
  refine List.Pairwise.imp (fun {e e'} hlt heq => ?_) h
  rw [Symbol.cmp_eq_eq.2 heq] at hlt
  cases hlt

theorem WellFormed.withProperty {r : Record} (h : r.WellFormed) (name : Symbol) (p : Property) :
    (r.withProperty name p).WellFormed :=
  Assoc.ascending_update h name p

/-- The record was made by defining its properties, one after the other. -/
def Built (r : Record) : Prop :=
  ∃ defs : List (Symbol × Property),
    r = defs.foldl (fun r d => r.withProperty d.1 d.2) { r with properties := [] }

theorem Built.wellFormed {r : Record} (h : r.Built) : r.WellFormed := by
  obtain ⟨defs, hr⟩ := h
  have hstart : WellFormed { r with properties := [] } := List.Pairwise.nil
  rw [hr]
  generalize { r with properties := [] } = start at hstart
  clear hr
  induction defs generalizing start with
  | nil => exact hstart
  | cons d defs ih => exact ih _ (hstart.withProperty d.1 d.2)

theorem property?_eq (r : Record) (name : Symbol) :
    r.property? name = (r.toAbstract.properties name.folded).map (·.2) := by
  simp only [property?, toAbstract]
  induction r.properties with
  | nil => rfl
  | cons e l ih =>
    rw [Assoc.get?, List.find?_cons]
    by_cases h : e.1.folded = name.folded
    · simp [Symbol.cmp_eq_eq.2 h.symm, h]
    · have hne : Symbol.cmp name e.1 ≠ .eq := fun hc => h (Symbol.cmp_eq_eq.1 hc).symm
      simp [hne, h, ih]

theorem toAbstract_withProperty {r : Record} (h : r.WellFormed) (name : Symbol) (p : Property) :
    (r.withProperty name p).toAbstract = r.toAbstract.define name p := by
  have hkey : Assoc.spelling Symbol.cmp name r.properties =
      ((r.toAbstract.properties name.folded).map (·.1)).getD name := by
    simp only [Assoc.spelling, toAbstract, Symbol.cmp_eq_eq, eq_comm (a := name.folded)]
  have hfolded : (Assoc.spelling Symbol.cmp name r.properties).folded = name.folded :=
    (Symbol.cmp_eq_eq.1 (Assoc.cmp_spelling name r.properties)).symm
  simp only [toAbstract, AbstractRecord.define, withProperty, AbstractRecord.mk.injEq, true_and]
  funext key
  rw [Assoc.update_eq_insert h, Assoc.find?_insert (f := Symbol.folded) (fun _ _ => Symbol.cmp_eq_eq), hfolded,
    hkey]
  by_cases hk : key = name.folded
  · subst hk
    simp [toAbstract]
  · simp [hk, Ne.symm hk]

theorem WellFormed.mem_properties {r : Record} (h : r.WellFormed) {e : Symbol × Property} :
    e ∈ r.properties ↔ r.toAbstract.properties e.1.folded = some e := by
  simp only [toAbstract]
  constructor
  · intro m
    cases hf : r.properties.find? fun e' => e'.1.folded = e.1.folded with
    | none => simpa using List.find?_eq_none.1 hf e m
    | some e' =>
      have hk : e'.1.folded = e.1.folded := by simpa using List.find?_some hf
      rw [Assoc.Ascending.eq_of_mem h (List.mem_of_find?_eq_some hf) m (Symbol.cmp_eq_eq.2 hk)]
  · exact List.mem_of_find?_eq_some

/-- A record has no more to it than its number and its abstraction. -/
theorem eq_of_toAbstract {r r' : Record} (h : r.WellFormed) (h' : r'.WellFormed) (hid : r.id = r'.id)
    (hp : r.toAbstract = r'.toAbstract) : r = r' := by
  have hflags : r.flags = r'.flags := congrArg AbstractRecord.flags hp
  have hparents : r.parents = r'.parents := congrArg AbstractRecord.parents hp
  have hprops : r.properties = r'.properties :=
    Assoc.Ascending.ext h h' fun e => by rw [h.mem_properties, h'.mem_properties, hp]
  cases r
  cases r'
  simp_all

end Record

/-! ## Stores -/

namespace Store

/-- The records are in order, each of them under its own number and well-formed. -/
structure WellFormed (s : Store) : Prop where
  ascending : Assoc.Ascending Obj.cmp s.records
  own : ∀ e ∈ s.records, e.2.id = e.1
  names : ∀ e ∈ s.records, e.2.WellFormed

theorem wellFormed_empty : WellFormed {} :=
  ⟨List.Pairwise.nil, List.forall_mem_nil _, List.forall_mem_nil _⟩

theorem get?_eq_some {s : Store} (h : s.WellFormed) {o : Obj} {r : Record} :
    s.get? o = some r ↔ (o, r) ∈ s.records := by
  rw [get?, Assoc.get?_eq_some h.ascending]
  constructor
  · rintro ⟨o', m, hc⟩
    rw [(cmp_eq_iff o o').1 hc]
    exact m
  · exact fun m => ⟨o, m, (cmp_eq_iff o o).2 rfl⟩

theorem WellFormed.insert {s : Store} (h : s.WellFormed) {r : Record} (hr : r.WellFormed) :
    (s.insert r).WellFormed := by
  refine ⟨Assoc.ascending_insert h.ascending _ _, fun e m => ?_, fun e m => ?_⟩
  · rcases (Assoc.mem_insert h.ascending).1 m with rfl | ⟨m, -⟩
    · rfl
    · exact h.own e m
  · rcases (Assoc.mem_insert h.ascending).1 m with rfl | ⟨m, -⟩
    · exact hr
    · exact h.names e m

theorem WellFormed.erase {s : Store} (h : s.WellFormed) (o : Obj) : (s.erase o).WellFormed := by
  have hmem : ∀ e ∈ (s.erase o).records, e ∈ s.records := by
    intro e m
    rw [Store.erase, Assoc.erase_eq_filter h.ascending] at m
    exact (List.mem_filter.1 m).1
  exact ⟨Assoc.ascending_erase h.ascending o, fun e m => h.own e (hmem e m),
    fun e m => h.names e (hmem e m)⟩

theorem toAbstract_insert (s : Store) (r : Record) :
    (s.insert r).toAbstract = Function.update s.toAbstract r.id (some r.toAbstract) := by
  funext o
  rw [toAbstract, get?_insert, Function.update_apply]
  split <;> rfl

theorem toAbstract_erase {s : Store} (h : s.WellFormed) (o : Obj) :
    (s.erase o).toAbstract = Function.update s.toAbstract o none := by
  funext o'
  rw [toAbstract, Function.update_apply]
  split
  · next ho =>
    rw [ho, get?, erase, Assoc.get?_erase_self h.ascending]
    rfl
  · next ho => rw [get?_erase_of_ne ho, ← toAbstract]

section Modify

variable {s : Store} {f : Record → Record}

/-- A change of one record that keeps its number is the insertion of the changed record. -/
theorem WellFormed.modify_eq (h : s.WellFormed) (hid : ∀ r, (f r).id = r.id) {o : Obj} {r : Record}
    (hr : s.get? o = some r) : s.modify o f = .ok (s.insert (f r)) := by
  have ho : (f r).id = o := (hid r).trans (h.own _ ((get?_eq_some h).1 hr))
  simp only [modify, hr, Store.insert, ho]

theorem modify_of_absent {o : Obj} (h : s.get? o = none) : s.modify o f = .error (.objectNotFound o) := by
  simp only [modify, h]

theorem modify_eq_error {o : Obj} {e : StoreError} :
    s.modify o f = .error e ↔ s.get? o = none ∧ e = .objectNotFound o := by
  cases hr : s.get? o with
  | none => simp [modify_of_absent hr, eq_comm]
  | some r => simp [modify, hr]

theorem WellFormed.modify (h : s.WellFormed) (hid : ∀ r, (f r).id = r.id)
    (hf : ∀ r : Record, r.WellFormed → (f r).WellFormed) (o : Obj) :
    ((s.modify o f).toOption.getD s).WellFormed := by
  cases hr : s.get? o with
  | none => rw [modify_of_absent hr]; exact h
  | some r =>
    rw [h.modify_eq hid hr]
    exact h.insert (hf r (h.names _ ((get?_eq_some h).1 hr)))

theorem toAbstract_modify (h : s.WellFormed) (hid : ∀ r, (f r).id = r.id) {g : AbstractRecord → AbstractRecord}
    (hg : ∀ r : Record, r.WellFormed → (f r).toAbstract = g r.toAbstract) (o : Obj) :
    ((s.modify o f).toOption.getD s).toAbstract = Function.update s.toAbstract o ((s.toAbstract o).map g) := by
  cases hr : s.get? o with
  | none =>
    have hm : s.toAbstract o = none := by rw [toAbstract, hr]; rfl
    rw [modify_of_absent hr, hm, Option.map_none, ← hm, Function.update_eq_self]
    rfl
  | some r =>
    have hm := (get?_eq_some h).1 hr
    rw [h.modify_eq hid hr, Except.toOption, Option.getD_some, toAbstract_insert, hid, h.own _ hm,
      hg r (h.names _ hm), toAbstract, hr]
    rfl

end Modify

/-! ## Changes -/

theorem WellFormed.upkeep {s : Store} (h : s.WellFormed) {e : Upkeep}
    (he : ∀ r, e = .insert r → r.WellFormed) : (e.store s).WellFormed := by
  cases e with
  | insert r => exact h.insert (he r rfl)
  | remove o => exact h.erase o
  | updateProperty o name p =>
    exact h.modify (f := (·.withProperty name p)) (fun _ => rfl) (fun _ hr => hr.withProperty name p) o
  | setParents o parents => exact h.modify (f := ({ · with parents })) (fun _ => rfl) (fun _ hr => hr) o
  | reload => exact h

/-- The abstraction goes the way of the function. -/
theorem toAbstract_upkeep {s : Store} (h : s.WellFormed) (e : Upkeep) :
    (e.store s).toAbstract = s.toAbstract.apply e := by
  cases e with
  | insert r => exact s.toAbstract_insert r
  | remove o => exact toAbstract_erase h o
  | updateProperty o name p =>
    exact toAbstract_modify (f := (·.withProperty name p)) (g := (·.define name p)) h (fun _ => rfl)
      (fun _ hr => Record.toAbstract_withProperty hr name p) o
  | setParents o parents =>
    exact toAbstract_modify (f := ({ · with parents })) (g := ({ · with parents })) h (fun _ => rfl)
      (fun _ _ => rfl) o
  | reload => rfl

/-- There are as many records as objects that the function knows. -/
theorem encard_toAbstract {s : Store} (h : s.WellFormed) : {o | (s.toAbstract o).isSome}.encard = s.size := by
  classical
  have hnodup : (s.records.map (·.1)).Nodup := by
    refine List.pairwise_map.2 (List.Pairwise.imp (fun {e e'} hlt heq => ?_) h.ascending)
    rw [(cmp_eq_iff _ _).2 heq] at hlt
    cases hlt
  have hset : {o | (s.toAbstract o).isSome} = ((s.records.map (·.1)).toFinset : Set Obj) := by
    ext o
    simp only [Set.mem_ofPred_eq, toAbstract, Option.isSome_map, Option.isSome_iff_exists, get?_eq_some h,
      List.coe_toFinset, List.mem_map, Prod.exists, exists_and_right, exists_eq_right]
  rw [hset, Set.encard_coe_eq_coe_finsetCard, List.toFinset_card_of_nodup hnodup, List.length_map]
  rfl

end Store

/-! ## Sequences of changes -/

/-- A change of a store, or a look at an object, of which whoever looks keeps what is there. -/
inductive Visit where
  | change (e : Upkeep)
  | take (o : Obj)

namespace Visit

/-- One visit to something that can be changed and looked at, and what was taken from it so far, in order. -/
def step {α β : Type} (change : α → Upkeep → α) (look : α → Obj → Option β) (s : α × List (Option β)) :
    Visit → α × List (Option β)
  | .change e => (change s.1 e, s.2)
  | .take o => (s.1, s.2 ++ [look s.1 o])

/-- What was taken stays. -/
theorem prefix_foldl_step {α β : Type} (change : α → Upkeep → α) (look : α → Obj → Option β)
    (vs : List Visit) (s : α × List (Option β)) : s.2 <+: (vs.foldl (step change look) s).2 := by
  induction vs generalizing s with
  | nil => exact List.prefix_refl _
  | cons v vs ih =>
    refine List.IsPrefix.trans ?_ (ih _)
    cases v with
    | change e => exact List.prefix_refl _
    | take o => exact List.prefix_append _ _

end Visit

/-- A store after some visits, and the records that were taken. -/
def Store.visits (vs : List Visit) : Store × List (Option Record) :=
  vs.foldl (Visit.step (fun s e => e.store s) Store.get?) ({}, [])

/-- The function after some visits, and what was taken of it. -/
def AbstractStore.visits (vs : List Visit) : AbstractStore × List (Option AbstractRecord) :=
  vs.foldl (Visit.step AbstractStore.apply fun m o => m o) (fun _ => none, [])

namespace Store

/-- The abstractions of a store and of the records that were taken from it. -/
def abstracted (k : Store × List (Option Record)) : AbstractStore × List (Option AbstractRecord) :=
  (k.1.toAbstract, k.2.map (·.map Record.toAbstract))

theorem abstracted_step {k : Store × List (Option Record)} (h : k.1.WellFormed) (v : Visit) :
    abstracted (v.step (fun s e => e.store s) get? k) =
      v.step AbstractStore.apply (fun m o => m o) (abstracted k) := by
  cases v with
  | change e => simp only [abstracted, Visit.step, toAbstract_upkeep h]
  | take o => simp only [abstracted, Visit.step, List.map_append]; rfl

theorem abstracted_foldl {vs : List Visit} (hvs : ∀ r, .change (.insert r) ∈ vs → r.WellFormed)
    {k : Store × List (Option Record)} (h : k.1.WellFormed) :
    (vs.foldl (Visit.step (fun s e => e.store s) get?) k).1.WellFormed ∧
    abstracted (vs.foldl (Visit.step (fun s e => e.store s) get?) k) =
      vs.foldl (Visit.step AbstractStore.apply fun m o => m o) (abstracted k) := by
  induction vs generalizing k with
  | nil => exact ⟨h, rfl⟩
  | cons v vs ih =>
    rw [List.foldl_cons, List.foldl_cons, ← abstracted_step h]
    refine ih (fun r m => hvs r (List.mem_cons_of_mem _ m)) ?_
    cases v with
    | change e => exact h.upkeep fun r he => hvs r (by rw [he]; exact List.mem_cons_self)
    | take o => exact h

/-- A property or the parents of an object that exists are changed, and nothing else of it. -/
theorem get?_changed {s : Store} (h : s.WellFormed) {o : Obj} {r : Record} (hr : s.get? o = some r) :
    (∀ name p, ∃ r', ((Upkeep.updateProperty o name p).store s).get? o = some r' ∧ r'.id = r.id ∧
      r'.toAbstract = r.toAbstract.define name p) ∧
    ∀ parents, ((Upkeep.setParents o parents).store s).get? o = some { r with parents } := by
  have hm := (get?_eq_some h).1 hr
  refine ⟨fun name p => ⟨r.withProperty name p, ?_, rfl, Record.toAbstract_withProperty (h.names _ hm) name p⟩,
    fun parents => ?_⟩
  · have hok : s.updateProperty o name p = .ok (s.insert (r.withProperty name p)) :=
      h.modify_eq (f := (·.withProperty name p)) (fun _ => rfl) hr
    rw [Upkeep.store, hok, Except.toOption, Option.getD_some, get?_insert]
    exact if_pos (h.own _ hm).symm
  · have hok : s.setParents o parents = .ok (s.insert { r with parents }) :=
      h.modify_eq (f := ({ · with parents })) (fun _ => rfl) hr
    rw [Upkeep.store, hok, Except.toOption, Option.getD_some, get?_insert]
    exact if_pos (h.own _ hm).symm

/-- **The store is a function from objects, and an object one from folded names.** Take any sequence of
changes, in which the records that are inserted were made by defining their properties, with looks at objects
in between. Let the same changes be made to the function that has nothing at first. An object then has a record
if and only if the function knows it; the record has its own number and no name twice up to case, and it is the
only one with this number and this abstraction. Its own properties, whether an object exists, its flags and the
number of objects are those of the function.

A change of a property or of the parents is refused if and only if the object does not exist, and then nothing
has changed. A change leaves every other object as it is; a change of a property leaves the number, the flags,
the parents and every other property of its object, and the spelling of the name if it was there; a change of
the parents leaves all else. What was taken is what the function had at that point, and stays so whatever comes
after. -/
theorem visits_refine {vs : List Visit} (hvs : ∀ r, .change (.insert r) ∈ vs → r.Built) :
    let s := (visits vs).1
    let m := (AbstractStore.visits vs).1
    (∀ o r, s.get? o = some r ↔ r.WellFormed ∧ r.id = o ∧ m o = some r.toAbstract) ∧
    (∀ o r, s.get? o = some r → r.properties.Pairwise fun e e' => e.1.folded ≠ e'.1.folded) ∧
    (∀ o r name, s.get? o = some r →
      r.property? name = ((m o).bind (·.properties name.folded)).map (·.2)) ∧
    (∀ o, s.valid o = (m o).isSome) ∧
    (∀ o, s.flagsOf o = (m o).elim (.error (.objectNotFound o)) (.ok ·.flags)) ∧
    {o | (m o).isSome}.encard = s.size ∧
    (∀ o name p e, s.updateProperty o name p = .error e ↔ m o = none ∧ e = .objectNotFound o) ∧
    (∀ o parents e, s.setParents o parents = .error e ↔ m o = none ∧ e = .objectNotFound o) ∧
    (∀ o, m o = none → (∀ name p, (Upkeep.updateProperty o name p).store s = s) ∧
      ∀ parents, (Upkeep.setParents o parents).store s = s) ∧
    (∀ (e : Upkeep) o, e.subject? ≠ some o → (e.store s).get? o = s.get? o) ∧
    (∀ o r, s.get? o = some r →
      (∀ name p, ∃ r', ((Upkeep.updateProperty o name p).store s).get? o = some r' ∧ r'.id = r.id ∧
        r'.toAbstract = r.toAbstract.define name p) ∧
      ∀ parents, ((Upkeep.setParents o parents).store s).get? o = some { r with parents }) ∧
    (visits vs).2.map (·.map Record.toAbstract) = (AbstractStore.visits vs).2 ∧
    ∀ vs', (visits vs).2 <+: (visits (vs ++ vs')).2 := by
  intro s m
  obtain ⟨hs, habstracted⟩ :=
    abstracted_foldl (k := ({}, [])) (fun r m => (hvs r m).wellFormed) wellFormed_empty
  change s.WellFormed at hs
  have hm : s.toAbstract = m := congrArg Prod.fst habstracted
  have habsent : ∀ o, m o = none ↔ s.get? o = none := fun o => by
    rw [← hm, toAbstract, Option.map_eq_none_iff]
  refine ⟨fun o r => ?_, fun o r hr => ?_, fun o r name hr => ?_, fun o => ?_, fun o => ?_, ?_,
    fun o name p e => ?_, fun o parents e => ?_, fun o ho => ⟨fun name p => ?_, fun parents => ?_⟩,
    fun e o ho => get?_upkeep ho s, fun o r hr => get?_changed hs hr, congrArg Prod.snd habstracted,
    fun vs' => ?_⟩
  · constructor
    · intro hr
      have hmem := (get?_eq_some hs).1 hr
      exact ⟨hs.names _ hmem, hs.own _ hmem, by rw [← hm, toAbstract, hr]; rfl⟩
    · rintro ⟨hwf, rfl, hp⟩
      rw [← hm, toAbstract] at hp
      obtain ⟨r', hr', hp⟩ := Option.map_eq_some_iff.1 hp
      have hmem := (get?_eq_some hs).1 hr'
      have hsame : r' = r := Record.eq_of_toAbstract (hs.names _ hmem) hwf (hs.own _ hmem) hp
      rw [hr', hsame]
  · exact (hs.names _ ((get?_eq_some hs).1 hr)).names
  · rw [← hm, toAbstract, hr, Record.property?_eq]
    rfl
  · rw [← hm, toAbstract, valid, Option.isSome_map]
  · rw [← hm, toAbstract, flagsOf]
    cases s.get? o <;> rfl
  · rw [← hm, encard_toAbstract hs]
  · rw [habsent]
    exact modify_eq_error
  · rw [habsent]
    exact modify_eq_error
  · rw [Upkeep.store, updateProperty, modify_of_absent ((habsent o).1 ho)]
    rfl
  · rw [Upkeep.store, setParents, modify_of_absent ((habsent o).1 ho)]
    rfl
  · rw [visits, visits, List.foldl_append]
    exact Visit.prefix_foldl_step _ _ vs' _

/-- An object is put in with two properties, and looked at. One of them is then given another value under
another spelling of its name, the object gets a parent, and another object is changed that does not exist. -/
def respelled : List Visit :=
  [.change (.insert { id := ⟨1⟩, properties :=
      [(⟨"Name"⟩, ⟨.int 1, .system, .empty⟩), (⟨"owner"⟩, ⟨.obj ⟨5⟩, .system, .empty⟩)] }),
    .take ⟨1⟩, .change (.updateProperty ⟨1⟩ ⟨"NAME"⟩ ⟨.int 2, ⟨7⟩, .empty⟩),
    .change (.setParents ⟨1⟩ [⟨2⟩]), .change (.updateProperty ⟨9⟩ ⟨"name"⟩ ⟨.int 3, ⟨7⟩, .empty⟩)]

/-- The name keeps its first spelling, and the record that was taken its first value. -/
theorem visits_refine_respelled : (∀ r, .change (.insert r) ∈ respelled → r.Built) ∧
    (visits respelled).1.get? ⟨1⟩ = some { id := ⟨1⟩, parents := [⟨2⟩], properties :=
      [(⟨"Name"⟩, ⟨.int 2, ⟨7⟩, .empty⟩), (⟨"owner"⟩, ⟨.obj ⟨5⟩, .system, .empty⟩)] } ∧
    ((AbstractStore.visits respelled).1 ⟨1⟩).bind (·.properties (Symbol.folded ⟨"nAme"⟩)) =
      some (⟨"Name"⟩, ⟨.int 2, ⟨7⟩, .empty⟩) ∧
    ((AbstractStore.visits respelled).2.map fun p => p.bind (·.properties (Symbol.folded ⟨"nAme"⟩))) =
      [some (⟨"Name"⟩, ⟨.int 1, .system, .empty⟩)] ∧
    {o | ((AbstractStore.visits respelled).1 o).isSome}.encard = 1 := by
  have hvs : ∀ r, .change (.insert r) ∈ respelled → r.Built := by
    intro r m
    simp only [respelled, List.mem_cons, Visit.change.injEq, Upkeep.insert.injEq, reduceCtorEq,
      List.not_mem_nil, or_false] at m
    subst m
    exact ⟨[(⟨"owner"⟩, ⟨.obj ⟨5⟩, .system, .empty⟩), (⟨"Name"⟩, ⟨.int 0, .system, .empty⟩),
      (⟨"NAME"⟩, ⟨.int 1, .system, .empty⟩)], rfl⟩
  obtain ⟨hget, -, -, -, -, hsize, -, -, -, -, -, htaken, -⟩ := visits_refine hvs
  have hrecord : (visits respelled).1.get? ⟨1⟩ = some { id := ⟨1⟩, parents := [⟨2⟩], properties :=
      [(⟨"Name"⟩, ⟨.int 2, ⟨7⟩, .empty⟩), (⟨"owner"⟩, ⟨.obj ⟨5⟩, .system, .empty⟩)] } := by rfl
  refine ⟨hvs, hrecord, ?_, ?_, hsize⟩
  · rw [((hget _ _).1 hrecord).2.2]
    rfl
  · rw [← htaken]
    rfl

end Store

end MooWorld
