import MooWorld.Proofs.Effect
/-!
# What a task can do without being a wizard

A task acts for the programmer of its innermost frame. If that is no wizard, or does not exist, then the
task stays who it is whatever built-in functions it calls, it reads no limits anew, and the tasks of all
others stay as they are (`Confined`). The checks are those of `Context.Effect`, so that one case for each
effect is enough; over many calls the store and the call stack are the same before each of them.
-/
namespace MooWorld

variable {σ : Type}

namespace Registry

variable {r r' r'' : Registry σ} {who : Obj}

/-- The tasks of everyone but `who` are known as they were, their kill switches are as they were, and they
have left nothing more behind. -/
def Spares (who : Obj) (r r' : Registry σ) : Prop :=
  ∀ id c, r.find? id = some c → c.owner ≠ who →
    r'.find? id = some c ∧ r'.isKilled id = r.isKilled id ∧ r'.messages id = r.messages id

theorem Spares.refl (who : Obj) (r : Registry σ) : Spares who r r := fun _ _ hc _ => ⟨hc, rfl, rfl⟩

theorem Spares.trans (h : Spares who r r') (h' : Spares who r' r'') : Spares who r r'' := by
  intro id c hc ho
  obtain ⟨hf, hk, hm⟩ := h id c hc ho
  obtain ⟨hf', hk', hm'⟩ := h' id c hf ho
  exact ⟨hf', hk'.trans hk, hm'.trans hm⟩

/-- A task that someone other than a wizard has control of is not one of another owner. -/
theorem ne_of_authorize {id j : TaskId} {c d : Control σ} (hc : r.find? id = some c)
    (ha : authorize (c.owner == who) false = true) (hd : r.find? j = some d) (hne : d.owner ≠ who) :
    j ≠ id := by
  rintro rfl
  rw [hc] at hd
  cases hd
  exact hne (by simpa [authorize] using ha)

theorem spares_kill {id : TaskId} (h : r.kill id who false = .ok r') : Spares who r r' := by
  obtain ⟨c, hc, ha, rfl⟩ := kill_eq_ok.1 h
  intro j d hd hne
  have hj := ne_of_authorize hc ha hd hne
  rw [cancelTimer_eq]
  refine ⟨?_, ?_, ?_⟩
  · show (r.drop id).find? j = some d
    rw [find?_drop, if_neg hj, hd]
  · simp [isKilled, hj]
  · show (r.deliver id (.error .cancelled)).messages j = r.messages j
    rw [messages_deliver, if_neg hj, List.append_nil]

theorem spares_resume {clock : Clock} {id : TaskId} {v : Value}
    (h : r.resume clock id v who false = .ok r') : Spares who r r' := by
  have hq := quiet_resume h
  obtain ⟨c, hc, ha, -, rfl⟩ := resume_eq_ok.1 h
  intro j d hd hne
  have hj := ne_of_authorize hc ha hd hne
  refine ⟨?_, by rw [isKilled, isKilled, hq.killed], hq.messages j⟩
  rw [cancelTimer_eq]
  show (r.put id (c.requeue clock v)).find? j = some d
  rw [find?_put_of_ne _ hj, hd]

end Registry

theorem CallStack.setTaskPerms_taskPerms (s : CallStack) : s.setTaskPerms s.taskPerms = s := by
  obtain ⟨taskId, maxDepth, frames⟩ := s
  cases frames <;> rfl

namespace Context

variable {c c' c'' : Context σ}

/-- Whoever the task acts for does not exist, or is no wizard. -/
def Unprivileged (c : Context σ) : Prop :=
  ∀ r, c.world.store.get? c.calls.taskPerms = some r → r.flags.has .wizard = false

theorem acting_eq_ok {p : Permission} : c.acting = .ok p ↔
    ∃ r, c.world.store.get? c.calls.taskPerms = some r ∧ p = ⟨c.calls.taskPerms, r.flags⟩ := by
  unfold acting permission Store.flagsOf
  cases c.world.store.get? c.calls.taskPerms with
  | none => simp
  | some r => simp [eq_comm]

theorem Unprivileged.acting (hu : c.Unprivileged) {p : Permission} (hp : c.acting = .ok p) :
    p.who = c.calls.taskPerms ∧ p.isWizard = false := by
  obtain ⟨r, hr, rfl⟩ := acting_eq_ok.1 hp
  exact ⟨rfl, hu r hr⟩

/-- What a task can do to its context if it is not privileged. -/
structure Confined (c c' : Context σ) : Prop where
  calls : c'.calls = c.calls
  store : c'.world.store = c.world.store
  quota : c'.world.quota = c.world.quota
  others : c.world.registry.Spares c.calls.taskPerms c'.world.registry

theorem Confined.refl (c : Context σ) : Confined c c := ⟨rfl, rfl, rfl, .refl _ _⟩

theorem Confined.trans (h : Confined c c') (h' : Confined c' c'') : Confined c c'' := by
  refine ⟨h'.calls.trans h.calls, h'.store.trans h.store, h'.quota.trans h.quota, h.others.trans ?_⟩
  rw [← h.calls]
  exact h'.others

theorem Unprivileged.after (hu : c.Unprivileged) (h : Confined c c') : c'.Unprivileged := by
  unfold Unprivileged
  rw [h.calls, h.store]
  exact hu

theorem Effect.confined (h : c.Effect c') (hu : c.Unprivileged) : Confined c c' := by
  cases h with
  | nothing => exact .refl c
  | @perms p o hp ho =>
    obtain ⟨hwho, hno⟩ := hu.acting hp
    have hself : o = c.calls.taskPerms := by
      rcases ho with hw | ho
      · rw [hno] at hw; cases hw
      · exact ho.trans hwho
    subst hself
    rw [CallStack.setTaskPerms_taskPerms]
    exact .refl c
  | @kill p id r hp hr =>
    obtain ⟨hwho, hno⟩ := hu.acting hp
    rw [hwho, hno] at hr
    exact ⟨rfl, rfl, rfl, Registry.spares_kill hr⟩
  | @resume p id v r hp hr =>
    obtain ⟨hwho, hno⟩ := hu.acting hp
    rw [hwho, hno] at hr
    exact ⟨rfl, rfl, rfl, Registry.spares_resume hr⟩
  | @reload p hp hw =>
    obtain ⟨-, hno⟩ := hu.acting hp
    simp [Permission.checkWizard, hno] at hw

/-! ## One call after another -/

/-- The context after a call. One that fails leaves it as it was. -/
def afterCall (c : Context σ) (name : Symbol) (args : List Value) : Context σ :=
  match c.call name args with
  | .ok (_, c') => c'
  | .error _ => c

/-- The context after calls, one after another. -/
def afterCalls (c : Context σ) : List (Symbol × List Value) → Context σ
  | [] => c
  | (name, args) :: rest => (c.afterCall name args).afterCalls rest

theorem confined_afterCall (hu : c.Unprivileged) (name : Symbol) (args : List Value) :
    Confined c (c.afterCall name args) := by
  unfold afterCall
  split
  · rename_i hc; exact (effect_call hc).confined hu
  · exact .refl c

theorem confined_afterCalls {c : Context σ} (hu : c.Unprivileged) :
    ∀ calls : List (Symbol × List Value), Confined c (c.afterCalls calls)
  | [] => .refl c
  | (name, args) :: rest => by
    have h := confined_afterCall hu name args
    exact h.trans (confined_afterCalls (hu.after h) rest)

/-- **Without being a wizard a task gains no privilege by built-in functions, and exercises none.** Let the
one it acts for be no wizard, or not exist. After any calls of built-in functions, by any names and with any
arguments, the call stack and the limits are what they were, and so is all that is known of any live task
of another owner: no kill switch of such a task was set, and no outcome of it was delivered. -/
theorem unprivileged_calls (c : Context σ) (hu : c.Unprivileged) (calls : List (Symbol × List Value)) :
    (c.afterCalls calls).calls = c.calls ∧
    (c.afterCalls calls).world.quota = c.world.quota ∧
    ∀ id control, c.world.registry.find? id = some control → control.owner ≠ c.calls.taskPerms →
      (c.afterCalls calls).world.registry.find? id = some control ∧
      (c.afterCalls calls).world.registry.isKilled id = c.world.registry.isKilled id ∧
      (c.afterCalls calls).world.registry.messages id = c.world.registry.messages id := by
  have h := confined_afterCalls hu calls
  exact ⟨h.calls, h.quota, h.others⟩

/-- A suspended task of an owner. -/
def sleeper (id : TaskId) (owner : Obj) : Control Unit :=
  { owner, status := .suspended, task := some { TaskQueue.idleTask id with owner }, queuedAt := 0 }

/-- Someone who is no wizard runs a task. Beside it they have one that is suspended, and so has another. -/
def lodger : Context Unit where
  calls := { taskId := 1, maxDepth := 1, frames := [{ TaskQueue.idleFrame with programmer := ⟨5⟩ }] }
  world :=
    { store := .ofList [{ id := ⟨2⟩, flags := .ofList [.wizard] }, { id := ⟨5⟩ }]
      registry :=
        { tasks :=
            [(1, { owner := ⟨5⟩, status := .running, task := none, queuedAt := 0 }), (2, sleeper 2 ⟨5⟩),
             (3, sleeper 3 ⟨9⟩)]
          timers := { moved := 0 }
          nextId := 4
          maxDepth := 1 } }

/-- They try to act for the wizard, to read the limits anew, and to kill and resume the task of the other,
all in vain, and then kill their own. -/
def lodgerCalls : List (Symbol × List Value) :=
  [(⟨"Set_Task_Perms"⟩, [.obj ⟨2⟩]), (⟨"load_server_options"⟩, []), (⟨"kill_task"⟩, [.int 3]),
   (⟨"resume"⟩, [.int 3, .int 7]), (⟨"KILL_TASK"⟩, [.int 2])]

theorem unprivileged_calls_lodger : lodger.Unprivileged ∧
    (lodger.afterCalls lodgerCalls).world.registry.find? 2 = none ∧
    (lodger.afterCalls lodgerCalls).calls = lodger.calls ∧
    (lodger.afterCalls lodgerCalls).world.registry.find? 3 = some (sleeper 3 ⟨9⟩) := by
  have hu : lodger.Unprivileged := by
    intro r hr
    have : lodger.world.store.get? lodger.calls.taskPerms = some { id := ⟨5⟩ } := by rfl
    rw [this] at hr
    cases hr
    rfl
  have h := unprivileged_calls lodger hu lodgerCalls
  exact ⟨hu, by rfl, h.1, (h.2.2 3 (sleeper 3 ⟨9⟩) rfl (by decide)).1⟩

end Context

end MooWorld
