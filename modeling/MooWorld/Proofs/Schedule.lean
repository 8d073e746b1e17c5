import MooWorld.Proofs.WorkerPool
import MooWorld.Scheduler
/-!
# The scheduler and its worker pool

All that the scheduler does is a number of moves of the pool: it moves the wheel on, takes out the tasks
that were announced, and lets its workers go on with their slices until these end or time passes. So is a
slice that the world runs from its beginning to its end. `Leads` says that histories go on from one pool to
another; a move leads on (`leads_step`), and what the scheduler does is put together from moves
(`leads_await`).
-/
namespace MooWorld

variable {σ : Type}

/-- The worker pool of a scheduler. The tasks taken out are on loan, also those that wait for a worker. -/
def Scheduler.pool (s : Scheduler σ) : WorkerPool σ := ⟨s.world, (s.active ++ s.waiting).map (⟨·, none⟩)⟩

namespace WorkerPool

open TaskQueue (Event)

/-- Whether a task was created already, or programs of every kind will do. -/
def Settled (P : σ → Prop) (id : TaskId) (s : WorkerPool σ) : Prop :=
  id < s.world.registry.nextId ∨ ∀ p, P p

/-- Whether every history of one pool goes on to another. -/
def Leads (step : StepFn σ) (P : σ → Prop) (id : TaskId) (s s' : WorkerPool σ) : Prop :=
  ∀ seen given n, Settled P id s → History step P id s seen given n → Settled P id s' ∧
    ∃ seen' given' n', History step P id s' (seen ++ seen') (given ++ given') (n + n')

section Leads

variable {step : StepFn σ} {P : σ → Prop} {id : TaskId} {s s' s'' : WorkerPool σ}

theorem Leads.refl (s : WorkerPool σ) : Leads step P id s s := fun _ _ _ hset hc =>
  ⟨hset, [], [], 0, by simpa using hc⟩

theorem Leads.trans (h : Leads step P id s s') (h' : Leads step P id s' s'') :
    Leads step P id s s'' := by
  intro seen given n hset hc
  obtain ⟨hset₁, seen₁, given₁, n₁, hc₁⟩ := h seen given n hset hc
  obtain ⟨hset₂, seen₂, given₂, n₂, hc₂⟩ := h' _ _ _ hset₁ hc₁
  refine ⟨hset₂, seen₁ ++ seen₂, given₁ ++ given₂, n₁ + n₂, ?_⟩
  simpa [List.append_assoc, Nat.add_assoc] using hc₂

/-- A task whose number was used is not created any more. -/
theorem gather_born_eq_nil {es : List (Event σ)} : ∀ {d d' : TaskQueue σ},
    id < d.registry.nextId → d.run es = some d' → d.gather (TaskQueue.born id) es = [] := by
  induction es with
  | nil => intro d d' _ _; rfl
  | cons e es ih =>
    intro d d' hid hr
    obtain ⟨d₁, hs, hr'⟩ := TaskQueue.run_cons.1 hr
    have hid₁ := Nat.lt_of_lt_of_le hid (TaskQueue.nextId_le_step hs)
    rw [TaskQueue.gather_cons hs, ih hid₁ hr', List.append_nil]
    cases e with
    | create clock entry program =>
      rcases d.registry.create_cases clock entry program with e | ⟨calls, e⟩
      · simp [TaskQueue.born, e]
      · simp [TaskQueue.born, e, Nat.ne_of_gt hid]
    | _ => rfl

/-- A move is a run of the task queue, which gives out the same numbers. -/
theorem run_events {m : Move σ} (hsound : Sound s) (hs : Step step s m s') :
    ∃ d, s.queue.run (s.events m) = some d ∧ d.registry.nextId = s'.world.registry.nextId := by
  cases hs with
  | call ho hs => exact ⟨_, TaskQueue.run_cons.2 ⟨_, hs, rfl⟩, rfl⟩
  | lend hd => exact ⟨_, TaskQueue.run_cons.2 ⟨_, step_lend hd, rfl⟩, rfl⟩
  | turn hl ht ha => exact ⟨_, ha.run, rfl⟩
  | back hl => exact ⟨_, TaskQueue.run_cons.2 ⟨_, hsound.step_back hl, rfl⟩, rfl⟩
  | pass => exact ⟨_, rfl, rfl⟩

theorem leads_step {m : Move σ} (hs : Step step s m s') : Leads step P id s s' := by
  intro seen given n hset hc
  rcases hset with hid | hall
  · obtain ⟨d, hr, hnext⟩ := run_events (history_sound hc) hs
    have hborn : ∀ p ∈ s.queue.gather (TaskQueue.born id) (s.events m), P p := by
      rw [gather_born_eq_nil hid hr]; simp
    refine ⟨.inl ?_, _, _, _, hc.move hs hborn⟩
    rw [← hnext]
    exact Nat.lt_of_lt_of_le hid (TaskQueue.nextId_le_run hr)
  · exact ⟨.inr hall, _, _, _, hc.move hs fun p _ => hall p⟩

/-! ## Slices -/

theorem acts_turn (hlaw : Lawful step) (s : WorkerPool σ) (t : Task σ) :
    ∃ calls, s.Acts calls (t.turn step s.world).2.2 := by
  rcases t.turn_cases step s.world with ⟨-, eq⟩ | ⟨-, -, eq⟩ | ⟨-, -, e, -, eq⟩
  · rw [eq]; exact ⟨[], by simp, rfl, rfl⟩
  · rw [eq]; exact ⟨[], by simp, rfl, rfl⟩
  · rw [eq]; exact hlaw t.program ⟨t.calls, t.wake, s.world⟩ s.loans

variable {l₁ l₂ : List (Loan σ)}

theorem leads_turn (hlaw : Lawful step) {w w' : World σ} {t t' : Task σ} {e : Option SliceEnd}
    (ht : t.turn step w = (e, t', w')) : w'.settings = w.settings ∧
      Leads step P id ⟨w, l₁ ++ ⟨t, none⟩ :: l₂⟩ ⟨w', l₁ ++ ⟨t', e⟩ :: l₂⟩ := by
  obtain ⟨calls, ha⟩ := acts_turn hlaw ⟨w, l₁ ++ ⟨t, none⟩ :: l₂⟩ t
  rw [ht] at ha
  exact ⟨ha.settings, leads_step (.turn rfl ht ha)⟩

/-- The turns of a slice, until it ends. -/
theorem leads_turns (hlaw : Lawful step) (budget : Nat) : ∀ {t : Task σ} {w : World σ},
    t.ticks + budget = w.settings.maxTicks → Leads step P id ⟨w, l₁ ++ ⟨t, none⟩ :: l₂⟩
      ⟨(t.turns step budget w).2.2,
        l₁ ++ ⟨(t.turns step budget w).2.1, some (t.turns step budget w).1⟩ :: l₂⟩ := by
  induction budget with
  | zero =>
    intro t w hticks
    have hturn : t.turn step w = (some (t.turns step 0 w).1, t, w) := by
      have hle : w.settings.maxTicks ≤ t.ticks := Nat.le_of_eq hticks.symm
      cases hk : w.registry.isKilled t.id <;> simp [Task.turn, Task.turns, hk, hle]
    exact (leads_turn hlaw hturn).2
  | succ budget ih =>
    intro t w hticks
    rcases hturn : t.turn step w with ⟨e, t', w'⟩
    have hleads : w'.settings = w.settings ∧
        Leads step P id ⟨w, l₁ ++ ⟨t, none⟩ :: l₂⟩ ⟨w', l₁ ++ ⟨t', e⟩ :: l₂⟩ := leads_turn hlaw hturn
    cases e with
    | some e => simpa only [Task.turns, hturn] using hleads.2
    | none =>
      simp only [Task.turns, hturn]
      have htick := (Task.turn_spec hturn).2.2.2 rfl
      refine hleads.2.trans (ih ?_)
      rw [htick, hleads.1, ← hticks]
      omega

/-- A slice of a task on loan, run from its beginning to its end. -/
theorem leads_run (hlaw : Lawful step) (w : World σ) (t : Task σ) :
    Leads step P id ⟨w, l₁ ++ ⟨t.fresh, none⟩ :: l₂⟩ ⟨(w.run step t).2, l₁ ++ l₂⟩ :=
  (leads_turns hlaw w.settings.maxTicks (Nat.zero_add _)).trans (leads_step (.back rfl))

/-- The turns of a slice, until it ends or time passes. -/
theorem leads_turnsNow (hlaw : Lawful step) (budget : Nat) : ∀ {t : Task σ} {w : World σ},
    Leads step P id ⟨w, l₁ ++ ⟨t, none⟩ :: l₂⟩
      ⟨(Scheduler.turnsNow step budget t w).2.2,
        l₁ ++ ⟨(Scheduler.turnsNow step budget t w).2.1, (Scheduler.turnsNow step budget t w).1⟩ :: l₂⟩ := by
  induction budget with
  | zero => intro t w; exact .refl _
  | succ budget ih =>
    intro t w
    rcases hturn : t.turn step w with ⟨e, t', w'⟩
    have hleads : Leads step P id ⟨w, l₁ ++ ⟨t, none⟩ :: l₂⟩ ⟨w', l₁ ++ ⟨t', e⟩ :: l₂⟩ :=
      (leads_turn hlaw hturn).2
    cases e with
    | some e => simpa only [Scheduler.turnsNow, hturn] using hleads
    | none =>
      simp only [Scheduler.turnsNow, hturn]
      split
      · exact hleads.trans ih
      · exact hleads

end Leads

end WorkerPool

/-! ## Turns of the scheduler -/

namespace Scheduler

open WorkerPool

variable {step : StepFn σ} {P : σ → Prop} {id : TaskId}

/-- A worker goes on with its slice, while the tasks before it had their turn and those after it wait. -/
theorem leads_work (hlaw : Lawful step) (s : Scheduler σ) (t : Task σ) (rest : List (Task σ)) :
    Leads step P id ⟨s.world, (s.active ++ t :: rest ++ s.waiting).map (⟨·, none⟩)⟩
      ⟨(work step s t).world,
        ((work step s t).active ++ rest ++ (work step s t).waiting).map (⟨·, none⟩)⟩ := by
  have h : Leads step P id
      ⟨s.world, s.active.map (⟨·, none⟩) ++ ⟨t, none⟩ :: (rest ++ s.waiting).map (⟨·, none⟩)⟩ _ :=
    leads_turnsNow hlaw (s.world.settings.maxTicks + 1)
  unfold work
  generalize turnsNow step (s.world.settings.maxTicks + 1) t s.world = out at h ⊢
  obtain ⟨e, t', w⟩ := out
  cases e with
  | none => simpa using h
  | some e => simpa using h.trans (leads_step (.back rfl))

theorem leads_foldl_work (hlaw : Lawful step) : ∀ (ts : List (Task σ)) (s : Scheduler σ),
    Leads step P id ⟨s.world, (s.active ++ ts ++ s.waiting).map (⟨·, none⟩)⟩ (ts.foldl (work step) s).pool
  | [], s => by rw [List.append_nil]; exact .refl _
  | t :: ts, s => (leads_work hlaw s t ts).trans (leads_foldl_work hlaw ts (work step s t))

theorem leads_workAll (hlaw : Lawful step) (s : Scheduler σ) :
    Leads step P id s.pool (s.workAll step).pool :=
  leads_foldl_work hlaw s.active { s with active := [] }

theorem pool_fill (s : Scheduler σ) : s.fill.pool = s.pool := by
  simp only [fill, pool, List.append_assoc, List.take_append_drop]

theorem leads_dispatch (s : Scheduler σ) (ids : List TaskId) :
    Leads step P id s.pool (ids.foldl (fun s id =>
      match s.world.registry.dispatch id with
      | some (t, r) => { s.withRegistry r with waiting := s.waiting ++ [t.fresh] }
      | none => s) s).pool := by
  induction ids generalizing s with
  | nil => exact .refl _
  | cons j ids ih =>
    rw [List.foldl_cons]
    refine Leads.trans ?_ (ih _)
    cases hd : s.world.registry.dispatch j with
    | none => exact .refl _
    | some x =>
      have hlend : Leads step P id s.pool
          ⟨{ s.world with registry := x.2 }, s.pool.loans ++ [⟨x.1.fresh, none⟩]⟩ :=
        leads_step (.lend hd)
      simpa [pool, withRegistry] using hlend

theorem leads_dispatchReady (s : Scheduler σ) : Leads step P id s.pool s.dispatchReady.pool := by
  have hpass : Leads step P id s.pool (s.withRegistry { s.world.registry with ready := [] }).pool :=
    leads_step (.pass s.world.clock s.world.store s.world.quota [])
  exact hpass.trans (leads_dispatch _ s.world.registry.ready)

/-- A turn of the scheduler. -/
theorem leads_round (hlaw : Lawful step) (s : Scheduler σ) :
    Leads step P id s.pool (s.turn step).pool := by
  have hwork : ∀ s : Scheduler σ, Leads step P id s.pool (s.fill.workAll step).pool := by
    intro s
    rw [← s.pool_fill]
    exact leads_workAll hlaw s.fill
  unfold turn
  split
  · have hwake : Leads step P id s.pool
        (s.withRegistry (s.world.registry.advance s.world.clock).2).pool :=
      leads_step (.call (e := .advance s.world.clock) rfl rfl)
    exact (hwake.trans (leads_dispatchReady _)).trans (hwork _)
  · exact hwork s

theorem leads_settle (hlaw : Lawful step) (fuel : Nat) (s : Scheduler σ) :
    Leads step P id s.pool (s.settle step fuel).pool := by
  induction fuel generalizing s with
  | zero => exact .refl _
  | succ fuel ih =>
    unfold settle
    dsimp only
    split
    · exact leads_round hlaw s
    · exact (leads_round hlaw s).trans (ih _)

/-- Turns of the scheduler while time passes. -/
theorem leads_await (hlaw : Lawful step) (fuel : Nat) (q : Scheduler σ → Bool) (millis : Nat)
    (s : Scheduler σ) : Leads step P id s.pool (s.await step fuel q millis).pool := by
  induction millis generalizing s with
  | zero => exact .refl _
  | succ millis ih =>
    unfold await
    dsimp only
    split
    · exact leads_settle hlaw fuel s
    · refine ((leads_settle hlaw fuel s).trans ?_).trans (ih _)
      exact leads_step (.pass _ _ _ (s.settle step fuel).world.registry.ready)

end Scheduler

end MooWorld
