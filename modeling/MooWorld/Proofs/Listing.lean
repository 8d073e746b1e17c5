import MooWorld.Proofs.Privilege
import MooWorld.Proofs.TaskControl
import MooWorld.Proofs.Transition
/-!
# What the listing of queued tasks shows

A task sees in the listing the queued tasks that it could kill, each once and in the order of their numbers
(`listing_exact`). What it may kill is decided by who owns a task, and that is whoever the task was created
for (`run_owner`). What is shown is the innermost frame of the task as it is now, which may act for
someone else.
-/
namespace MooWorld

variable {σ : Type}

/-! ## Listings -/

namespace Registry

variable {r : Registry σ} {id : TaskId}

/-- How a live task is listed, if it is. -/
def listing? (e : TaskId × Control σ) : Option Listing :=
  if e.2.status = .queued then
    (e.2.task.bind (·.calls.top?)).map fun top => ⟨e.1, e.2.owner, e.2.status, e.2.queuedAt, top⟩
  else none

theorem queued_eq (r : Registry σ) : r.queued = r.tasks.filterMap listing? := rfl

theorem listing?_eq_some {e : TaskId × Control σ} {l : Listing} : listing? e = some l ↔
    e.2.status = .queued ∧ ∃ t, e.2.task = some t ∧ t.calls.top? = some l.top ∧
      l = ⟨e.1, e.2.owner, e.2.status, e.2.queuedAt, l.top⟩ := by
  unfold listing?
  constructor
  · intro h
    split at h
    · rename_i hq
      obtain ⟨top, htop, rfl⟩ := Option.map_eq_some_iff.1 h
      obtain ⟨t, ht, htop⟩ := Option.bind_eq_some_iff.1 htop
      exact ⟨hq, t, ht, htop, rfl⟩
    · cases h
  · rintro ⟨hq, t, ht, htop, hl⟩
    rw [if_pos hq, ht, Option.bind_some, htop, Option.map_some, ← hl]

theorem mem_queued (hn : r.ids.Nodup) {l : Listing} : l ∈ r.queued ↔
    ∃ k t, r.find? l.id = some k ∧ k.status = .queued ∧ k.task = some t ∧ t.calls.top? = some l.top ∧
      l = ⟨l.id, k.owner, k.status, k.queuedAt, l.top⟩ := by
  rw [queued_eq, List.mem_filterMap]
  constructor
  · rintro ⟨⟨id, k⟩, hm, hl⟩
    obtain ⟨hq, t, ht, htop, hl⟩ := listing?_eq_some.1 hl
    have hid : l.id = id := congrArg Listing.id hl
    rw [hid]
    exact ⟨k, t, (mem_tasks hn).1 hm, hq, ht, htop, hl⟩
  · rintro ⟨k, t, hk, hq, ht, htop, hl⟩
    exact ⟨(l.id, k), (mem_tasks hn).2 hk, listing?_eq_some.2 ⟨hq, t, ht, htop, hl⟩⟩

/-- The queued tasks are listed in the order of the registry. -/
theorem queued_ids_sublist (r : Registry σ) : (r.queued.map (·.id)).Sublist r.ids := by
  rw [queued_eq, ids]
  induction r.tasks with
  | nil => exact .slnil
  | cons e rest ih =>
    rw [List.filterMap_cons, List.map_cons]
    cases hl : listing? e with
    | none => exact ih.cons _
    | some l =>
      obtain ⟨-, t, -, -, hl⟩ := listing?_eq_some.1 hl
      have hid : l.id = e.1 := congrArg Listing.id hl
      rw [List.map_cons, hid]
      exact ih.cons_cons _

/-- Who may kill a task. -/
theorem exists_kill_iff {who : Obj} {wizard : Bool} : (∃ r', r.kill id who wizard = .ok r') ↔
    ∃ k, r.find? id = some k ∧ (k.owner = who ∨ wizard = true) := by
  simp only [kill_eq_ok, authorize_iff]
  constructor
  · rintro ⟨r', k, hk, ha, -⟩; exact ⟨k, hk, ha⟩
  · rintro ⟨k, hk, ha⟩; exact ⟨_, k, hk, ha, rfl⟩

end Registry

theorem Permission.controls_iff {p : Permission} {owner : Obj} :
    p.controls owner = true ↔ owner = p.who ∨ p.isWizard = true := by
  unfold controls
  rw [authorize_iff, eq_comm]

/-! ## Owners -/

namespace TaskQueue

variable {d d' : TaskQueue σ} {id : TaskId} {k' : Control σ}

/-- A live task has the owner that it had, or is created by the step for its owner. -/
theorem step_owner {e : Event σ} (hi : Inv d) (hs : d.step e = some d') (hk' : d'.registry.find? id = some k') :
    (∃ k, d.registry.find? id = some k ∧ k'.owner = k.owner) ∨
    ∃ clock entry program, e = .create clock entry program ∧
      (d.registry.create clock entry program).1 = .ok id ∧ k'.owner = entry.programmer := by
  have ht := step_transition hi hs id
  rw [hk'] at ht
  cases hk : d.registry.find? id with
  | some k =>
    rw [hk] at ht
    refine .inl ⟨k, rfl, ?_⟩
    -- whatever becomes of a live task, its owner is copied
    cases ht <;> rfl
  | none =>
    rw [hk] at ht
    right
    cases ht with
    | @created _ clock entry program =>
      refine ⟨clock, entry, program, rfl, ?_⟩
      simp only [step, Option.some.injEq] at hs
      subst hs
      rcases d.registry.create_cases clock entry program with eq | ⟨calls, eq⟩
      · rw [eq] at hk'
        exact absurd (hk.symm.trans hk') (by simp)
      · rw [eq, Registry.find?_enroll, hk, Option.none_or] at hk'
        split at hk'
        · rename_i hid
          cases hk'
          rw [eq, hid]
          exact ⟨rfl, rfl⟩
        · cases hk'

/-- A live task of a run was live before with the same owner, or was created in the run for its owner. -/
theorem run_owner : ∀ {es : List (Event σ)} {d : TaskQueue σ}, Inv d → d.run es = some d' →
    d'.registry.find? id = some k' →
    (∃ k, d.registry.find? id = some k ∧ k'.owner = k.owner) ∨
    ∃ es₁ clock entry program es₂ d₁, es = es₁ ++ .create clock entry program :: es₂ ∧
      d.run es₁ = some d₁ ∧ (d₁.registry.create clock entry program).1 = .ok id ∧
      k'.owner = entry.programmer
  | [], d, _, hr, hk' => by
    cases hr
    exact .inl ⟨k', hk', rfl⟩
  | e :: es, d, hi, hr, hk' => by
    obtain ⟨d₁, hs, hr⟩ := run_cons.1 hr
    rcases run_owner (inv_step hi hs) hr hk' with ⟨k, hk, ho⟩ |
      ⟨es₁, clock, entry, program, es₂, d₂, rfl, hr₁, hc, ho⟩
    · rcases step_owner hi hs hk with ⟨k₀, hk₀, ho₀⟩ | ⟨clock, entry, program, rfl, hc, ho₀⟩
      · exact .inl ⟨k₀, hk₀, ho.trans ho₀⟩
      · exact .inr ⟨[], clock, entry, program, es, d, rfl, rfl, hc, ho.trans ho₀⟩
    · exact .inr ⟨e :: es₁, clock, entry, program, es₂, d₂, rfl, run_cons.2 ⟨d₁, hs, hr₁⟩, hc, ho⟩

end TaskQueue

/-! ## The listing -/

namespace Context

variable {c : Context σ} {me : Record}

theorem acting_of_exists (hme : c.world.store.get? c.calls.taskPerms = some me) :
    c.acting = .ok ⟨c.calls.taskPerms, me.flags⟩ :=
  acting_eq_ok.2 ⟨me, hme, rfl⟩

/-- The listings that the caller is shown. -/
def shown (c : Context σ) (me : Record) : List Listing :=
  c.world.registry.queued.filter fun l => Permission.controls ⟨c.calls.taskPerms, me.flags⟩ l.owner

theorem queuedTasks_eq (hme : c.world.store.get? c.calls.taskPerms = some me) :
    Builtin.queuedTasks [] c = .ok (.value (.list ((c.shown me).map Builtin.listingEntry)), c) := by
  unfold Builtin.queuedTasks
  rw [acting_of_exists hme]
  rfl

/-- A function call that kills another task does what the registry does. -/
theorem killTask_eq_ok {c' : Context σ} {i : Int64}
    (hme : c.world.store.get? c.calls.taskPerms = some me) (hi : 0 ≤ i)
    (hother : i.toInt.toNat ≠ c.calls.taskId) : Builtin.killTask [.int i] c = .ok (.nothing, c') ↔
      ∃ r, c.world.registry.kill i.toInt.toNat c.calls.taskPerms (me.flags.has .wizard) = .ok r ∧
        c' = c.withRegistry r := by
  have harg : Builtin.taskArgument "kill_task" [.int i] = .ok i.toInt.toNat :=
    if_neg (Int64.not_lt.2 hi)
  unfold Builtin.killTask
  rw [acting_of_exists hme, harg]
  simp only [List.length_singleton, ne_eq, not_true_eq_false, if_false, if_neg hother,
    Permission.isWizard]
  cases c.world.registry.kill i.toInt.toNat c.calls.taskPerms (me.flags.has .wizard) with
  | error e => simp
  | ok r => simp [eq_comm]

theorem mem_shown {loans : List (Task σ)} (hi : TaskQueue.Inv ⟨c.world.registry, loans⟩) {l : Listing} :
    l ∈ c.shown me ↔ ∃ k t, c.world.registry.find? l.id = some k ∧ k.status = .queued ∧
      k.task = some t ∧ t.calls.top? = some l.top ∧
      (k.owner = c.calls.taskPerms ∨ me.flags.has .wizard = true) ∧
      l = ⟨l.id, k.owner, k.status, k.queuedAt, l.top⟩ := by
  unfold shown
  rw [List.mem_filter, Registry.mem_queued hi.nodup, Permission.controls_iff]
  constructor
  · rintro ⟨⟨k, t, hk, hq, ht, htop, hl⟩, ha⟩
    rw [hl] at ha
    exact ⟨k, t, hk, hq, ht, htop, ha, hl⟩
  · rintro ⟨k, t, hk, hq, ht, htop, ha, hl⟩
    refine ⟨⟨k, t, hk, hq, ht, htop, hl⟩, ?_⟩
    rw [hl]
    exact ha

/-- **The listing of queued tasks.** At any time, for a caller that exists: the listing has one entry for each
queued task with a frame that the caller could kill at that time, in the order of the numbers, and no
other. The entry tells of the innermost frame of the task as it is. Who could kill a task is decided by its
owner, for whom it was created, and the function that kills asks for nothing else. -/
theorem listing_exact {now maxDepth : Nat} {es : List (TaskQueue.Event σ)} {loans : List (Task σ)}
    (hr : (TaskQueue.empty now maxDepth).run es = some ⟨c.world.registry, loans⟩)
    (hme : c.world.store.get? c.calls.taskPerms = some me) :
    (∃ entries : List (TaskId × Value),
      Builtin.queuedTasks [] c = .ok (.value (.list (entries.map (·.2))), c) ∧
      (entries.map (·.1)).Pairwise (· < ·) ∧
      ∀ id v, (id, v) ∈ entries ↔ ∃ k t top, c.world.registry.find? id = some k ∧ k.status = .queued ∧
        k.task = some t ∧ t.calls.frames.head? = some top ∧
        (∃ r, c.world.registry.kill id c.calls.taskPerms (me.flags.has .wizard) = .ok r) ∧
        v = .list [.ofNat id, .ofNat (k.queuedAt / nanosPerSecond), .int 0, .int 0,
          .obj top.programmer, .obj top.definer, .str top.verb.name, .ofNat top.line, top.this]) ∧
    (∀ id k, c.world.registry.find? id = some k → ∃ es₁ clock entry program es₂ d,
      es = es₁ ++ .create clock entry program :: es₂ ∧ (TaskQueue.empty now maxDepth).run es₁ = some d ∧
      (d.registry.create clock entry program).1 = .ok id ∧ k.owner = entry.programmer ∧
      ((∃ r, c.world.registry.kill id c.calls.taskPerms (me.flags.has .wizard) = .ok r) ↔
        entry.programmer = c.calls.taskPerms ∨ me.flags.has .wizard = true)) ∧
    ∀ i : Int64, 0 ≤ i → i.toInt.toNat ≠ c.calls.taskId → ∀ c',
      (Builtin.killTask [.int i] c = .ok (.nothing, c') ↔
        ∃ r, c.world.registry.kill i.toInt.toNat c.calls.taskPerms (me.flags.has .wizard) = .ok r ∧
          c' = c.withRegistry r) := by
  have hi := TaskQueue.inv_run hr
  refine ⟨⟨(c.shown me).map fun l => (l.id, Builtin.listingEntry l), ?_, ?_, fun id v => ?_⟩,
    fun id k hk => ?_, fun i h0 hother c' => killTask_eq_ok hme h0 hother⟩
  · rw [queuedTasks_eq hme, List.map_map]
    rfl
  · rw [List.map_map]
    refine hi.sorted.sublist (List.Sublist.trans ?_ c.world.registry.queued_ids_sublist)
    exact List.filter_sublist.map _
  · simp only [List.mem_map, Prod.mk.injEq, mem_shown hi, Registry.exists_kill_iff]
    constructor
    · rintro ⟨l, ⟨k, t, hk, hq, ht, htop, ha, hl⟩, rfl, rfl⟩
      refine ⟨k, t, l.top, hk, hq, ht, htop, ⟨k, hk, ha⟩, ?_⟩
      rw [hl]
      rfl
    · rintro ⟨k, t, top, hk, hq, ht, htop, ⟨k', hk', ha⟩, rfl⟩
      rw [hk] at hk'
      cases hk'
      exact ⟨⟨id, k.owner, k.status, k.queuedAt, top⟩, ⟨k, t, hk, hq, ht, htop, ha, rfl⟩, rfl, rfl⟩
  · rcases TaskQueue.run_owner (TaskQueue.inv_empty now maxDepth) hr hk with ⟨k₀, hk₀, -⟩ |
      ⟨es₁, clock, entry, program, es₂, d, hes, hd, hc, ho⟩
    · cases hk₀
    · refine ⟨es₁, clock, entry, program, es₂, d, hes, hd, hc, ho, ?_⟩
      rw [Registry.exists_kill_iff, ← ho]
      simp [hk]

/-- A task is created for one object, acts for another from its first slice on, is suspended and resumed. -/
def disguised : List (TaskQueue.Event Unit) :=
  let entry := { TaskQueue.idleFrame with programmer := ⟨5⟩ }
  let calls : CallStack := { taskId := 1, maxDepth := 5, frames := [entry] }
  [.create {} entry (), .dispatch 1,
    .finish {} { id := 1, owner := ⟨5⟩, calls := calls.setTaskPerms ⟨9⟩, program := () } (.suspend .indefinite),
    .resume {} 1 (.int 0) ⟨5⟩ false]

/-- Another task that acts for someone after that. Neither of the two objects is a wizard. -/
def onlooker (who : Obj) : Context Unit where
  calls := { taskId := 2, maxDepth := 5, frames := [{ TaskQueue.idleFrame with programmer := who }] }
  world :=
    { store := .ofList [{ id := ⟨5⟩ }, { id := ⟨9⟩ }]
      registry := (((TaskQueue.empty 0 5).run disguised).map (·.registry)).getD (.empty 0 5) }

/-- The owner sees the task, with the other object as its programmer, and the other object does not. -/
theorem listing_exact_disguised :
    (∃ entries : List (TaskId × Value),
      Builtin.queuedTasks [] (onlooker ⟨5⟩) = .ok (.value (.list (entries.map (·.2))), onlooker ⟨5⟩) ∧
      (1, .list [.int 1, .int 0, .int 0, .int 0, .obj ⟨9⟩, .obj .nothing, .str "idle", .int 0, .none]) ∈
        entries) ∧
    (∃ r, (onlooker ⟨5⟩).world.registry.kill 1 ⟨5⟩ false = .ok r) ∧
    Builtin.queuedTasks [] (onlooker ⟨9⟩) = .ok (.value (.list []), onlooker ⟨9⟩) ∧
    (onlooker ⟨9⟩).world.registry.kill 1 ⟨9⟩ false = .error (.permissionDenied 1) := by
  have hr : (TaskQueue.empty 0 5).run disguised = some ⟨(onlooker ⟨5⟩).world.registry, []⟩ := rfl
  obtain ⟨⟨entries, hcall, -, hmem⟩, -⟩ := @listing_exact Unit (onlooker ⟨5⟩) { id := ⟨5⟩ } 0 5 _ _ hr rfl
  refine ⟨⟨entries, hcall, (hmem _ _).2 ?_⟩, ⟨_, rfl⟩, rfl, rfl⟩
  exact ⟨_, _, _, rfl, rfl, rfl, rfl, ⟨_, rfl⟩, rfl⟩

end Context

end MooWorld
