import MooWorld.Proofs.Inheritance
import MooWorld.Quota
/-!
# The limits after any history

Between two readings of the limits the store may change in any way. A reading finds a limit if the system
object inherits the name of an options object, and that object inherits an integer for the limit (`Sets`).
A slot holds what the last reading found that found something for it, and is unset before the first such
reading (`slots_after_history`).

The limits see no more of a history than the stores at which they were read (`readings`), so the argument
goes by induction on the list of these.
-/
namespace MooWorld

namespace Store

/-- An object sees a definition: it stands at the end of the first path that leads to one. -/
def Sees (s : Store) (start : Obj) (name : Symbol) (prop : Property) : Prop :=
  ∃ p o, s.follow start p = some o ∧ s.definition? o name = some prop ∧ First s start name p

theorem resolve_eq_some {s : Store} {start : Obj} {name : Symbol} {prop : Property} :
    s.resolve start name = some prop ↔ s.Sees start name prop := by
  constructor
  · intro h
    obtain ⟨p, o, ho, hd⟩ := resolve_sound h
    obtain ⟨q, o', hq, hd', hf⟩ := exists_first ho (by rw [hd]; rfl)
    exact ⟨q, o', hq, (resolve_of_first hq hd' hf).symm.trans h, hf⟩
  · rintro ⟨p, o, ho, hd, hf⟩
    rw [resolve_of_first ho (by rw [hd]; rfl) hf, hd]

theorem Sees.unique {s : Store} {start : Obj} {name : Symbol} {prop prop' : Property}
    (h : s.Sees start name prop) (h' : s.Sees start name prop') : prop = prop' :=
  Option.some.inj ((resolve_eq_some.2 h).symm.trans (resolve_eq_some.2 h'))

/-- An object without a definition of its own sees that of its first parent. -/
theorem sees_of_parent {s : Store} {start o : Obj} {name : Symbol} {prop : Property}
    (hown : s.definition? start name = none) (ho : s.follow start [0] = some o)
    (hd : s.definition? o name = some prop) : s.Sees start name prop := by
  refine ⟨[0], o, ho, hd, fun q o' hq hdq hlt => ?_⟩
  rcases q with _ | ⟨i, _ | ⟨j, rest⟩⟩
  · cases hq
    rw [hown] at hdq
    cases hdq
  · exact Nat.not_lt_zero i ((List.shortlex_singleton_iff i 0).1 hlt)
  · rcases List.shortlex_def.1 hlt with hlen | ⟨hlen, -⟩ <;> simp at hlen

end Store

/-! ## Histories -/

/-- What can happen to a store and to the limits that are read from it. -/
inductive Upkeep where
  | insert (r : Record)
  | remove (o : Obj)
  | updateProperty (o : Obj) (name : Symbol) (p : Property)
  | setParents (o : Obj) (parents : List Obj)
  /-- The limits are read anew. -/
  | reload

namespace Upkeep

/-- The store afterwards. What fails leaves it as it was. -/
def store (s : Store) : Upkeep → Store
  | .insert r => s.insert r
  | .remove o => s.erase o
  | .updateProperty o name p => (s.updateProperty o name p).toOption.getD s
  | .setParents o parents => (s.setParents o parents).toOption.getD s
  | .reload => s

/-- The limits afterwards, if they are read from this store. -/
def quota (s : Store) (q : Quota) : Upkeep → Quota
  | .reload => (q.reload s).2
  | _ => q

/-- The store and the limits after a history. -/
def run (s : Store) (q : Quota) : List Upkeep → Store × Quota
  | [] => (s, q)
  | e :: es => run (e.store s) (e.quota s q) es

/-- The stores at which the limits were read, the first one first. -/
def readings (s : Store) : List Upkeep → List Store
  | [] => []
  | .reload :: es => s :: readings s es
  | e :: es => readings (e.store s) es

end Upkeep

namespace Quota

/-- The limits after they were read from several stores in turn. -/
def reloads (q : Quota) (stores : List Store) : Quota := stores.foldl (fun q s => (q.reload s).2) q

theorem run_quota (es : List Upkeep) (s : Store) (q : Quota) :
    (Upkeep.run s q es).2 = q.reloads (Upkeep.readings s es) := by
  induction es generalizing s q with
  | nil => rfl
  | cons e es ih => cases e <;> exact ih _ _

/-! ## One reading -/

/-- A store sets a limit: the system object sees a property that names the options object, and that object
sees one that holds the limit. -/
def Sets (s : Store) (kind : QuotaKind) (n : Int64) : Prop :=
  ∃ p options limit, s.Sees .system optionsProperty p ∧ p.value = .obj options ∧
    s.Sees options (propertyOf kind) limit ∧ limit.value = .int n

/-- What a reading finds for a limit. -/
def found? (s : Store) (kind : QuotaKind) : Option Int64 :=
  (optionsObject? s).bind fun options => stored? s options kind

theorem obj?_eq_some {v : Value} {o : Obj} : v.obj? = some o ↔ v = .obj o := by
  cases v <;> simp [Value.obj?]

theorem int?_eq_some {v : Value} {n : Int64} : v.int? = some n ↔ v = .int n := by
  cases v <;> simp [Value.int?]

theorem found?_eq_some {s : Store} {kind : QuotaKind} {n : Int64} :
    found? s kind = some n ↔ Sets s kind n := by
  simp only [found?, optionsObject?, stored?, Option.bind_eq_some_iff, Store.resolve_eq_some, obj?_eq_some,
    int?_eq_some, Sets]
  constructor
  · rintro ⟨options, ⟨p, hp, ho⟩, limit, hl, hn⟩; exact ⟨p, options, limit, hp, ho, hl, hn⟩
  · rintro ⟨p, options, limit, hp, ho, hl, hn⟩; exact ⟨options, ⟨p, hp, ho⟩, limit, hl, hn⟩

theorem found?_eq_none {s : Store} {kind : QuotaKind} : found? s kind = none ↔ ∀ n, ¬ Sets s kind n := by
  simp only [← found?_eq_some, Option.eq_none_iff_forall_ne_some, ne_eq]

theorem slots_reload (q : Quota) (s : Store) (kind : QuotaKind) :
    (q.reload s).2.slots.get kind = reloadSlot (q.slots.get kind) (found? s kind) := by
  unfold reload found?
  cases optionsObject? s with
  | none => rfl
  | some options => cases kind <;> rfl

theorem defaults_reload (q : Quota) (s : Store) : (q.reload s).2.defaults = q.defaults := by
  unfold reload
  split <;> rfl

theorem reload_of_sets {q : Quota} {s : Store} {kind : QuotaKind} {n : Int64} (h : Sets s kind n) :
    (q.reload s).2.slots.get kind = .loaded n := by
  rw [slots_reload, found?_eq_some.2 h]; rfl

theorem reload_of_not_sets {q : Quota} {s : Store} {kind : QuotaKind} (h : ∀ n, ¬ Sets s kind n) :
    (q.reload s).2.slots.get kind = q.slots.get kind := by
  rw [slots_reload, found?_eq_none.2 h]; rfl

/-- A reading counts the limits that it finds. -/
theorem reload_count (q : Quota) (s : Store) :
    ∃ kinds : List QuotaKind, kinds.Nodup ∧ (∀ kind, kind ∈ kinds ↔ ∃ n, Sets s kind n) ∧
      (q.reload s).1 = kinds.length := by
  refine ⟨[.string, .list, .map].filter fun kind => (found? s kind).isSome, ?_, fun kind => ?_, ?_⟩
  · exact List.Pairwise.filter _ (by decide)
  · simp only [List.mem_filter, Option.isSome_iff_exists, found?_eq_some]
    cases kind <;> simp
  · rw [← List.countP_eq_length_filter]
    unfold reload found?
    cases optionsObject? s <;> rfl

/-! ## Many readings -/

theorem defaults_reloads (stores : List Store) (q : Quota) : (q.reloads stores).defaults = q.defaults := by
  induction stores generalizing q with
  | nil => rfl
  | cons s stores ih => exact (ih _).trans (defaults_reload q s)

theorem reloads_append (q : Quota) (stores stores' : List Store) :
    q.reloads (stores ++ stores') = (q.reloads stores).reloads stores' :=
  List.foldl_append

/-- Readings that find nothing for a slot leave it alone. -/
theorem reloads_of_not_sets {kind : QuotaKind} (stores : List Store) (q : Quota)
    (h : ∀ s ∈ stores, ∀ n, ¬ Sets s kind n) : (q.reloads stores).slots.get kind = q.slots.get kind := by
  induction stores generalizing q with
  | nil => rfl
  | cons s stores ih =>
    have hrest := ih (q.reload s).2 fun s' m => h s' (List.mem_cons_of_mem _ m)
    exact hrest.trans (reload_of_not_sets (h s List.mem_cons_self))

/-- Of several stores, the last one that sets a limit sets it to this. -/
def LastSets (stores : List Store) (kind : QuotaKind) (n : Int64) : Prop :=
  ∃ earlier s later, stores = earlier ++ s :: later ∧ Sets s kind n ∧
    ∀ s' ∈ later, ∀ m, ¬ Sets s' kind m

theorem reloads_of_lastSets {stores : List Store} {kind : QuotaKind} {n : Int64}
    (h : LastSets stores kind n) (q : Quota) : (q.reloads stores).slots.get kind = .loaded n := by
  obtain ⟨earlier, s, later, rfl, hs, hl⟩ := h
  rw [reloads_append]
  exact (reloads_of_not_sets later _ hl).trans (reload_of_sets hs)

theorem lastSets_or_none (stores : List Store) (kind : QuotaKind) :
    (∃ n, LastSets stores kind n) ∨ ∀ s ∈ stores, ∀ n, ¬ Sets s kind n := by
  induction stores with
  | nil => right; simp
  | cons s stores ih =>
    rcases ih with ⟨n, earlier, s', later, rfl, hs, hl⟩ | hnone
    · exact .inl ⟨n, s :: earlier, s', later, rfl, hs, hl⟩
    · cases hf : found? s kind with
      | some n => exact .inl ⟨n, [], s, stores, rfl, found?_eq_some.1 hf, hnone⟩
      | none => exact .inr (List.forall_mem_cons.2 ⟨found?_eq_none.1 hf, hnone⟩)

/-! ## What is enforced -/

/-- Only a positive limit is enforced. -/
theorem positive_eq_some {limit : Option Int64} {l : Nat} :
    ((limit.filter (0 < ·)).map fun n => n.toInt.toNat) = some l ↔
      ∃ n, limit = some n ∧ 0 < n.toInt ∧ n.toInt = l := by
  have hpos : ∀ n : Int64, 0 < n ↔ 0 < n.toInt := fun n => Int64.lt_iff_toInt_lt
  simp only [Option.map_eq_some_iff, Option.filter_eq_some_iff, decide_eq_true_eq, hpos, and_assoc]
  refine exists_congr fun n => and_congr_right fun _ => and_congr_right fun h => ?_
  omega

/-- A limit in force comes from the slot, or from the default if the slot is unset. -/
theorem effective_eq_some {slot : QuotaSlot} {fallback : Option Int64} {l : Nat} :
    slot.effective fallback = some l ↔
      ∃ n : Int64, (slot = .loaded n ∨ slot = .unset ∧ fallback = some n) ∧ 0 < n.toInt ∧ n.toInt = l := by
  cases slot with
  | unset => exact positive_eq_some.trans (by simp)
  | loaded m => exact positive_eq_some.trans (by simp)

/-- A slot goes by the default, whatever that is, if and only if it is unset. -/
theorem eq_unset_iff {slot : QuotaSlot} : slot = .unset ↔ ∀ (fallback : Option Int64) (l : Nat),
    slot.effective fallback = some l ↔ ∃ n : Int64, fallback = some n ∧ 0 < n.toInt ∧ n.toInt = l := by
  constructor
  · rintro rfl fallback l
    simp [effective_eq_some]
  · intro h
    cases slot with
    | unset => rfl
    | loaded n =>
      -- a default of one is not overruled only if one was loaded, and then no default is
      have hone := (h (some 1) 1).2 ⟨1, rfl, by decide, rfl⟩
      have hnone := (h none 1).1 hone
      simp at hnone

theorem check_eq_error {q : Quota} {kind : QuotaKind} {v : Value} {e : QuotaError} :
    q.check kind v = .error e ↔ ∃ l, q.limit? kind = some l ∧ l < v.size ∧ e = ⟨kind, v.size, l⟩ := by
  unfold check
  cases q.limit? kind with
  | none => simp
  | some l =>
    by_cases h : l < v.size
    · simp [h, eq_comm]
    · simp [h]

/-! ## The limits after a history -/

/-- The limits after a history that begins with none loaded. -/
def after (defaults : PerQuota (Option Int64)) (s : Store) (es : List Upkeep) : Quota :=
  (Upkeep.run s { defaults } es).2

theorem after_eq (defaults : PerQuota (Option Int64)) (s : Store) (es : List Upkeep) :
    after defaults s es = Quota.reloads { defaults } (Upkeep.readings s es) :=
  run_quota es s { defaults }

theorem readings_append (es es' : List Upkeep) (s : Store) : ∃ stores,
    Upkeep.readings s (es ++ es') = Upkeep.readings s es ++ stores := by
  induction es generalizing s with
  | nil => exact ⟨_, rfl⟩
  | cons e es ih =>
    obtain ⟨stores, h⟩ := ih (e.store s)
    cases e with
    | reload => exact ⟨stores, congrArg (s :: ·) h⟩
    | _ => exact ⟨stores, h⟩

theorem after_of_lastSets {s : Store} {es : List Upkeep} {kind : QuotaKind} {n : Int64}
    (h : LastSets (Upkeep.readings s es) kind n) (defaults : PerQuota (Option Int64)) :
    (after defaults s es).slots.get kind = .loaded n := by
  rw [after_eq]; exact reloads_of_lastSets h _

theorem after_of_not_sets {s : Store} {es : List Upkeep} {kind : QuotaKind}
    (h : ∀ s' ∈ Upkeep.readings s es, ∀ n, ¬ Sets s' kind n) (defaults : PerQuota (Option Int64)) :
    (after defaults s es).slots.get kind = .unset := by
  rw [after_eq, reloads_of_not_sets _ _ h]; cases kind <;> rfl

/-- A slot that was loaded stays loaded, whatever is read later. -/
theorem loaded_reloads {kind : QuotaKind} (stores : List Store) {q : Quota} {n : Int64}
    (h : q.slots.get kind = .loaded n) : ∃ m, (q.reloads stores).slots.get kind = .loaded m := by
  rcases lastSets_or_none stores kind with ⟨m, hm⟩ | hnone
  · exact ⟨m, reloads_of_lastSets hm q⟩
  · exact ⟨n, (reloads_of_not_sets stores q hnone).trans h⟩

/-- **What the limits are after any history of the store.** A slot holds an integer if and only if that is
what the last reading found that found one for it, and is unset if and only if no reading did. A reading
gives the number of the limits it found, and leaves the other slots alone; a slot that was loaded stays
loaded. A slot goes by the configured default if and only if it is unset, and otherwise by what was loaded,
of either of which only a positive number is enforced. -/
theorem slots_after_history (defaults : PerQuota (Option Int64)) (s : Store) (es : List Upkeep)
    (kind : QuotaKind) :
    (∀ n, (after defaults s es).slots.get kind = .loaded n ↔ LastSets (Upkeep.readings s es) kind n) ∧
    ((after defaults s es).slots.get kind = .unset ↔
      ∀ s' ∈ Upkeep.readings s es, ∀ n, ¬ Sets s' kind n) ∧
    (∀ s', (∃ kinds : List QuotaKind, kinds.Nodup ∧ (∀ k, k ∈ kinds ↔ ∃ n, Sets s' k n) ∧
        ((after defaults s es).reload s').1 = kinds.length) ∧
      ((∀ n, ¬ Sets s' kind n) → ((after defaults s es).reload s').2.slots.get kind =
        (after defaults s es).slots.get kind)) ∧
    (∀ es' n, (after defaults s es).slots.get kind = .loaded n →
      ∃ m, (after defaults s (es ++ es')).slots.get kind = .loaded m) ∧
    ((after defaults s es).slots.get kind = .unset ↔ ∀ (fallback : Option Int64) (l : Nat),
      ((after defaults s es).slots.get kind).effective fallback = some l ↔
        ∃ n : Int64, fallback = some n ∧ 0 < n.toInt ∧ n.toInt = l) ∧
    (∀ l, (after defaults s es).limit? kind = some l ↔ ∃ n : Int64,
      ((after defaults s es).slots.get kind = .loaded n ∨
        (after defaults s es).slots.get kind = .unset ∧ defaults.get kind = some n) ∧
      0 < n.toInt ∧ n.toInt = l) ∧
    (∀ v e, (after defaults s es).check kind v = .error e ↔
      ∃ l, (after defaults s es).limit? kind = some l ∧ l < v.size ∧ e = ⟨kind, v.size, l⟩) ∧
    (∀ n, (after defaults s es).slots.get kind = .loaded n → n.toInt ≤ 0 →
      ∀ v, (after defaults s es).check kind v = .ok ()) := by
  have hslot := lastSets_or_none (Upkeep.readings s es) kind
  have hlimit : ∀ l, (after defaults s es).limit? kind = some l ↔ ∃ n : Int64,
      ((after defaults s es).slots.get kind = .loaded n ∨
        (after defaults s es).slots.get kind = .unset ∧ defaults.get kind = some n) ∧
      0 < n.toInt ∧ n.toInt = l := by
    intro l
    have hdefaults : (after defaults s es).defaults = defaults := by
      rw [after_eq, defaults_reloads]
    rw [limit?, effective_eq_some, hdefaults]
  refine ⟨fun n => ⟨fun hn => ?_, fun h => after_of_lastSets h defaults⟩,
    ⟨fun hu => ?_, fun h => after_of_not_sets h defaults⟩,
    fun s' => ⟨reload_count _ s', reload_of_not_sets⟩, fun es' n hn => ?_, eq_unset_iff, hlimit,
    fun v e => check_eq_error, fun n hn hle v => ?_⟩
  · rcases hslot with ⟨m, hm⟩ | hnone
    · rw [after_of_lastSets hm] at hn
      cases hn
      exact hm
    · rw [after_of_not_sets hnone] at hn
      cases hn
  · rcases hslot with ⟨m, hm⟩ | hnone
    · rw [after_of_lastSets hm] at hu
      cases hu
    · exact hnone
  · obtain ⟨stores, h⟩ := readings_append es es' s
    rw [after_eq, h, reloads_append, ← after_eq]
    exact loaded_reloads stores hn
  · cases hc : (after defaults s es).check kind v with
    | ok => rfl
    | error e =>
      obtain ⟨l, hl, -, -⟩ := check_eq_error.1 hc
      obtain ⟨m, hm | ⟨hm, -⟩, hpos, -⟩ := (hlimit l).1 hl
      · rw [hn] at hm; cases hm; omega
      · rw [hn] at hm; cases hm

/-- The system object inherits the name of the options object from its parent, and the options object the
limit on lists from its own. -/
def limitStore (limit : Value) : Store :=
  let prop (v : Value) : Property := ⟨v, .system, .empty⟩
  .ofList [{ id := .system, parents := [⟨1⟩] },
    { id := ⟨1⟩, properties := [(⟨"Server_Options"⟩, prop (.obj ⟨7⟩))] },
    { id := ⟨7⟩, parents := [⟨8⟩] },
    { id := ⟨8⟩, properties := [(⟨"max_list_value_bytes"⟩, prop limit)] }]

/-- The limit is read, changed to no integer and read again, and then switched off and read once more. -/
def limitHistory : List Upkeep :=
  let update (v : Value) : Upkeep := .updateProperty ⟨8⟩ ⟨"MAX_list_value_bytes"⟩ ⟨v, .system, .empty⟩
  [.reload, update (.str "none"), .reload, update (.int 0), .reload]

theorem sets_limitStore (n : Int64) : Sets (limitStore (.int n)) .list n :=
  ⟨_, ⟨7⟩, _, Store.sees_of_parent rfl rfl rfl, rfl, Store.sees_of_parent rfl rfl rfl, rfl⟩

theorem not_sets_limitStore (text : String) (n : Int64) : ¬ Sets (limitStore (.str text)) .list n := by
  rintro ⟨p, options, limit, hp, ho, hl, hn⟩
  cases hp.unique (Store.sees_of_parent rfl rfl rfl)
  cases ho
  cases hl.unique (Store.sees_of_parent rfl rfl rfl)
  cases hn

/-- After the second reading the limit on lists is still what the first one found. After the third it is off,
although there is a default. -/
theorem slots_after_history_switchedOff :
    (after ⟨some 50, some 50, none⟩ (limitStore (.int 100)) (limitHistory.take 4)).slots.get .list =
      .loaded 100 ∧
    (after ⟨some 50, some 50, none⟩ (limitStore (.int 100)) limitHistory).slots.get .list = .loaded 0 ∧
    ∀ v, (after ⟨some 50, some 50, none⟩ (limitStore (.int 100)) limitHistory).check .list v = .ok () := by
  obtain ⟨hkept, -⟩ :=
    slots_after_history ⟨some 50, some 50, none⟩ (limitStore (.int 100)) (limitHistory.take 4) .list
  obtain ⟨hlast, -, -, -, -, -, -, hoff⟩ :=
    slots_after_history ⟨some 50, some 50, none⟩ (limitStore (.int 100)) limitHistory .list
  have hzero := (hlast 0).2
    ⟨[limitStore (.int 100), limitStore (.str "none")], _, [], rfl, sets_limitStore 0, by simp⟩
  refine ⟨(hkept 100).2 ⟨[], _, [limitStore (.str "none")], rfl, sets_limitStore 100, ?_⟩, hzero,
    hoff 0 hzero (by decide)⟩
  intro s' m
  rw [List.mem_singleton.1 m]
  exact not_sets_limitStore "none"

end Quota

end MooWorld
