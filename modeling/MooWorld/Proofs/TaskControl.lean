import MooWorld.Proofs.Lifecycle
/-!
# Who may control a task, and what that does

A request to resume or to kill a task is ruled on in a fixed order: the task must be live, whoever asks must
own it or be a wizard, and the task must be in a state for it (`Ruling`). So one who may not control a live
task learns that it is live, and not what it is doing. A request that is refused leaves no trace. One that
is granted concerns the task and nothing else (`Touched`): the other tasks stay as they are and in their
order, and the wheel keeps its timers, of which one more is stale if the task was in a timed suspension.
-/
namespace MooWorld

variable {σ : Type}

/-- Why something was refused, if it was. -/
def refusal? {α : Type} : Except TaskError α → Option TaskError
  | .ok _ => none
  | .error e => some e

theorem refusal?_eq_some {α : Type} {x : Except TaskError α} {e : TaskError} :
    refusal? x = some e ↔ x = .error e := by
  cases x <;> simp [refusal?]

namespace Registry

/-! ## Rulings -/

/-- How a request to control a task is ruled on, if the task has to be in some state for it: the reason for
a refusal, or none. -/
inductive Ruling (r : Registry σ) (id : TaskId) (who : Obj) (wizard : Bool) (fit : Status → Prop) :
    Option TaskError → Prop where
  | unknown (hc : r.find? id = none) : Ruling r id who wizard fit (some (.notFound id))
  | stranger {c : Control σ} (hc : r.find? id = some c) (hn : ¬ (c.owner = who ∨ wizard = true)) :
    Ruling r id who wizard fit (some (.permissionDenied id))
  | unfit {c : Control σ} (hc : r.find? id = some c) (ha : c.owner = who ∨ wizard = true)
      (hs : ¬ fit c.status) : Ruling r id who wizard fit (some (.notFound id))
  | granted {c : Control σ} (hc : r.find? id = some c) (ha : c.owner = who ∨ wizard = true)
      (hs : fit c.status) : Ruling r id who wizard fit none

variable {r : Registry σ} {id : TaskId} {who : Obj} {wizard : Bool}

theorem Ruling.unique {fit : Status → Prop} {e e' : Option TaskError} (h : Ruling r id who wizard fit e)
    (h' : Ruling r id who wizard fit e') : e = e' := by
  cases h <;> cases h' <;> simp_all

theorem ruling_resume (r : Registry σ) (clock : Clock) (id : TaskId) (v : Value) (who : Obj)
    (wizard : Bool) :
    Ruling r id who wizard (· = .suspended) (refusal? (r.resume clock id v who wizard)) := by
  unfold resume
  cases hc : r.find? id with
  | none => exact .unknown hc
  | some c =>
    by_cases ha : authorize (c.owner == who) wizard = true
    · by_cases hs : c.status = .suspended
      · simp only [ha, hs, Bool.not_true, Bool.false_eq_true, if_false, ne_eq, not_true_eq_false]
        exact .granted hc (authorize_iff.1 ha) hs
      · simp only [ha, hs, Bool.not_true, Bool.false_eq_true, if_false, ne_eq, not_false_eq_true, if_true]
        exact .unfit hc (authorize_iff.1 ha) hs
    · simp only [Bool.eq_false_iff.2 ha, Bool.not_false, if_true]
      exact .stranger hc fun h => ha (authorize_iff.2 h)

theorem ruling_kill (r : Registry σ) (id : TaskId) (who : Obj) (wizard : Bool) :
    Ruling r id who wizard (fun _ => True) (refusal? (r.kill id who wizard)) := by
  unfold kill
  cases hc : r.find? id with
  | none => exact .unknown hc
  | some c =>
    by_cases ha : authorize (c.owner == who) wizard = true
    · simp only [ha, Bool.not_true, Bool.false_eq_true, if_false]
      exact .granted hc (authorize_iff.1 ha) trivial
    · simp only [Bool.eq_false_iff.2 ha, Bool.not_false, if_true]
      exact .stranger hc fun h => ha (authorize_iff.2 h)

/-! ## What is touched -/

/-- What a task was known as is changed or removed, and no other: the others stay in their order. One more
timer is stale if the task was in a timed suspension, and the timers stay on the wheel. -/
structure Touched (id : TaskId) (c : Control σ) (r r' : Registry σ) : Prop where
  others : r'.tasks.filter (·.1 ≠ id) = r.tasks.filter (·.1 ≠ id)
  timers : r'.timers = { r.timers with
    stale := r.timers.stale + if c.status = .suspended ∧ c.deadline.isSome then 1 else 0 }
  nextId : r'.nextId = r.nextId
  maxDepth : r'.maxDepth = r.maxDepth

/-- The task is queued with a value in the place that it had, and announced. -/
structure Resumed (clock : Clock) (v : Value) (id : TaskId) (c : Control σ) (r r' : Registry σ) : Prop
    extends Touched id c r r' where
  ids : r'.ids = r.ids
  entry : ∃ t, c.task = some t ∧ r'.find? id = some
    { owner := c.owner, status := .queued, task := some { t with wake := some v }, deadline := none
      generation := c.generation + 1, queuedAt := clock.date }
  ready : r'.ready = r.ready ++ [id]
  killed : r'.killed = r.killed
  outcomes : r'.outcomes = r.outcomes

/-- The task is gone, its kill switch is set, and it has left an outcome behind. -/
structure Killed (id : TaskId) (c : Control σ) (r r' : Registry σ) : Prop extends Touched id c r r' where
  entry : r'.find? id = none
  ready : r'.ready = r.ready
  clear : r.isKilled id = false
  killed : r'.killed = r.killed ++ [id]
  outcomes : r'.outcomes = r.outcomes ++ [(id, .error .cancelled)]

theorem filter_put (r : Registry σ) (id : TaskId) (c : Control σ) :
    (r.put id c).tasks.filter (·.1 ≠ id) = r.tasks.filter (·.1 ≠ id) := by
  unfold put
  induction r.tasks with
  | nil => rfl
  | cons e rest ih => by_cases h : e.1 = id <;> simp_all

theorem filter_drop (r : Registry σ) (id : TaskId) :
    (r.drop id).tasks.filter (·.1 ≠ id) = r.tasks.filter (·.1 ≠ id) := by
  simp [drop, List.filter_filter]

end Registry

namespace TaskQueue

open Registry

variable {d : TaskQueue σ} {id : TaskId} {who : Obj} {wizard : Bool} {r : Registry σ}

/-- A deadline is that of a timed suspension. -/
theorem Inv.timed (hi : Inv d) {c : Control σ} (hc : d.registry.find? id = some c) :
    c.deadline.isSome ↔ c.status = .suspended ∧ c.deadline.isSome :=
  ⟨fun h => ⟨(hi.kept id c hc).deadline h, h⟩, And.right⟩

theorem resumed_of_ok (hi : Inv d) {clock : Clock} {v : Value}
    (h : d.registry.resume clock id v who wizard = .ok r) :
    ∃ c, d.registry.find? id = some c ∧ Resumed clock v id c d.registry r := by
  obtain ⟨c, hc, -, hs, rfl⟩ := resume_eq_ok.1 h
  obtain ⟨⟨t, ht, -, -⟩, -⟩ := (hi.kept id c hc).held (by rw [hs]; decide)
  rw [cancelTimer_eq]
  refine ⟨c, hc, ⟨⟨filter_put _ id _, ?_, rfl, rfl⟩, ids_put _ id _, ⟨t, ht, ?_⟩, rfl, rfl, rfl⟩⟩
  · simp only [announce, put, ← hi.timed hc]
  · refine (find?_put_self (c.requeue clock v) hc).trans ?_
    simp [Control.requeue, ht]

theorem killed_of_ok (hi : Inv d) (h : d.registry.kill id who wizard = .ok r) :
    ∃ c, d.registry.find? id = some c ∧ Killed id c d.registry r := by
  obtain ⟨c, hc, -, rfl⟩ := kill_eq_ok.1 h
  rw [cancelTimer_eq]
  refine ⟨c, hc, ⟨⟨filter_drop _ id, ?_, rfl, rfl⟩, ?_, rfl, ?_, rfl, rfl⟩⟩
  · simp only [drop, ← hi.timed hc]
  · exact (find?_drop d.registry id id).trans (if_pos rfl)
  · simpa [isKilled] using (hi.kept id c hc).clear

/-- **Control of tasks.** At any time, whoever asks and for whatever task: a request to resume it or to kill
it is refused for the reason that the ruling gives, and granted if there is none. A refusal changes nothing
at all. A task that is resumed must be suspended, and is queued with the value and announced once more;
one that is killed may be in any state, and leaves one outcome behind. Nothing else is touched. -/
theorem control_exact {now maxDepth : Nat} {es : List (Event σ)} {d : TaskQueue σ}
    (hr : (empty now maxDepth).run es = some d) (id : TaskId) (who : Obj) (wizard : Bool) :
    (∀ clock v,
      (∀ e, refusal? (d.registry.resume clock id v who wizard) = e ↔
        Ruling d.registry id who wizard (· = .suspended) e) ∧
      (∀ e, d.registry.resume clock id v who wizard = .error e →
        d.step (.resume clock id v who wizard) = some d) ∧
      ∀ r, d.registry.resume clock id v who wizard = .ok r →
        d.step (.resume clock id v who wizard) = some { d with registry := r } ∧
        ∃ c, d.registry.find? id = some c ∧ Resumed clock v id c d.registry r) ∧
    (∀ e, refusal? (d.registry.kill id who wizard) = e ↔
      Ruling d.registry id who wizard (fun _ => True) e) ∧
    (∀ e, d.registry.kill id who wizard = .error e → d.step (.kill id who wizard) = some d) ∧
    ∀ r, d.registry.kill id who wizard = .ok r →
      d.step (.kill id who wizard) = some { d with registry := r } ∧
      ∃ c, d.registry.find? id = some c ∧ Killed id c d.registry r := by
  have hi := inv_run hr
  refine ⟨fun clock v => ⟨fun e => ?_, fun e he => ?_, fun r h => ⟨?_, resumed_of_ok hi h⟩⟩,
    fun e => ?_, fun e he => ?_, fun r h => ⟨?_, killed_of_ok hi h⟩⟩
  · have hruling := ruling_resume d.registry clock id v who wizard
    exact ⟨fun h => h ▸ hruling, hruling.unique⟩
  · simp only [step, he]
  · simp only [step, h]
  · have hruling := ruling_kill d.registry id who wizard
    exact ⟨fun h => h ▸ hruling, hruling.unique⟩
  · simp only [step, he]
  · simp only [step, h]

/-- Two tasks of one owner; the first is suspended for a second. -/
def napping : List (Event Unit) :=
  let entry := { idleFrame with programmer := ⟨7⟩ }
  [.create {} entry (), .create {} entry (), .dispatch 1,
    .finish {} { idleTask 1 with owner := ⟨7⟩ } (.suspend (.timed nanosPerSecond))]

/-- A stranger learns no more than that the tasks are live. The owner cannot resume the one that is queued,
resumes the other before its time, which leaves its timer stale, and a wizard kills it with the same
effect on the wheel. -/
theorem control_exact_napping : ∃ d : TaskQueue Unit, (empty 0 5).run napping = some d ∧
    (d.registry.resume {} 1 (.int 3) ⟨9⟩ false = .error (.permissionDenied 1) ∧
      d.step (.resume {} 1 (.int 3) ⟨9⟩ false) = some d) ∧
    (d.registry.resume {} 2 (.int 3) ⟨7⟩ false = .error (.notFound 2) ∧
      Ruling d.registry 2 ⟨7⟩ false (· = .suspended) (some (.notFound 2))) ∧
    (∃ r c, d.registry.resume {} 1 (.int 3) ⟨7⟩ false = .ok r ∧ r.timers.stale = 1 ∧
      Resumed {} (.int 3) 1 c d.registry r) ∧
    ∃ r c, d.registry.kill 1 ⟨9⟩ true = .ok r ∧ r.timers.stale = 1 ∧ Killed 1 c d.registry r := by
  refine ⟨_, rfl, ⟨rfl, ?_⟩, ⟨rfl, ?_⟩, ?_, ?_⟩
  · exact ((@control_exact Unit 0 5 napping _ rfl 1 ⟨9⟩ false).1 {} (.int 3)).2.1 _ rfl
  · exact (((@control_exact Unit 0 5 napping _ rfl 2 ⟨7⟩ false).1 {} (.int 3)).1 _).1 rfl
  · obtain ⟨-, c, -, h⟩ := ((@control_exact Unit 0 5 napping _ rfl 1 ⟨7⟩ false).1 {} (.int 3)).2.2 _ rfl
    exact ⟨_, c, rfl, rfl, h⟩
  · obtain ⟨-, c, -, h⟩ := (@control_exact Unit 0 5 napping _ rfl 1 ⟨9⟩ true).2.2.2 _ rfl
    exact ⟨_, c, rfl, rfl, h⟩

end TaskQueue

end MooWorld
