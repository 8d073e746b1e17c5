import MooWorld.Proofs.WorkerPool
import MooWorld.Script
/-!
# What a script does to the world

A built-in function that succeeds leaves the context of its caller as it was, but for one thing: it changes
who the task acts for, it kills or resumes a task, or it reads the limits anew (`Effect`). A script reaches
the world through built-in functions and a few instructions of its own; so it acts on the registry through
its operations (`lawful_step`), and it takes the wake value at the beginning of each step and logs it
(`takes_step`).
-/
namespace MooWorld

variable {σ : Type}

open TaskQueue (Event)

/-- What a built-in function can do to the context of its caller. -/
inductive Context.Effect (c : Context σ) : Context σ → Prop where
  | nothing : Effect c c
  | perms {p : Permission} {o : Obj} (hp : c.acting = .ok p) (ho : p.isWizard = true ∨ o = p.who) :
    Effect c { c with calls := c.calls.setTaskPerms o }
  | kill {p : Permission} {id : TaskId} {r : Registry σ} (hp : c.acting = .ok p)
      (hr : c.world.registry.kill id p.who p.isWizard = .ok r) : Effect c (c.withRegistry r)
  | resume {p : Permission} {id : TaskId} {v : Value} {r : Registry σ} (hp : c.acting = .ok p)
      (hr : c.world.registry.resume c.world.clock id v p.who p.isWizard = .ok r) :
    Effect c (c.withRegistry r)
  | reload {p : Permission} (hp : c.acting = .ok p) (hw : p.checkWizard = .ok ()) :
    Effect c { c with world := { c.world with quota := (c.world.quota.reload c.world.store).2 } }

namespace Builtin

variable {c c' : Context σ} {args : List Value} {reply : Reply}

theorem within_context {kind : QuotaKind} {v : Value} (h : within kind v c = .ok (reply, c')) : c' = c := by
  unfold within at h
  split at h <;> cases h
  rfl

/-- The functions that change nothing. -/
def readOnly (σ : Type) : List (Builtin σ) :=
  [callerPerms, callers, taskId, suspend, queuedTasks, validTask, tostr, listAppend, mapInsert, valueBytes,
   raise]

theorem context_of_mem_readOnly : ∀ f ∈ readOnly σ, f args c = .ok (reply, c') → c' = c := by
  simp only [readOnly, List.forall_mem_cons, List.not_mem_nil, false_imp_iff, implies_true, and_true]
  refine ⟨?_, ?_, ?_, ?_, ?_, ?_, within_context, ?_, ?_, ?_, ?_⟩
  · intro h; unfold callerPerms at h; split at h <;> cases h; rfl
  · intro h; unfold callers at h; split at h <;> cases h <;> rfl
  · intro h; unfold taskId at h; split at h <;> cases h; rfl
  · intro h
    unfold suspend at h
    split at h; · cases h
    split at h; · cases h
    split at h <;> cases h
    rfl
  · intro h
    unfold queuedTasks at h
    split at h; · cases h
    split at h <;> cases h
    rfl
  · intro h
    unfold validTask at h
    split at h; · cases h
    split at h
    · cases h; rfl
    · split at h <;> cases h; rfl
  · intro h
    unfold listAppend at h
    split at h
    · exact within_context h
    · cases h
    · cases h
  · intro h
    unfold mapInsert at h
    split at h
    · exact within_context h
    · cases h
    · cases h
  · intro h; unfold valueBytes at h; split at h <;> cases h; rfl
  · intro h
    unfold raise at h
    dsimp only at h
    repeat' split at h
    all_goals cases h

theorem effect_setTaskPerms (h : setTaskPerms args c = .ok (reply, c')) : c.Effect c' := by
  unfold setTaskPerms at h
  split at h
  · split at h; · cases h
    split at h; · cases h
    rename_i p hp
    split at h <;> cases h
    rename_i hno
    refine .perms hp ?_
    simpa [Decidable.not_and_iff_or_not, Decidable.or_iff_not_imp_left] using hno
  · cases h

theorem effect_killTask (h : killTask args c = .ok (reply, c')) : c.Effect c' := by
  unfold killTask at h
  split at h; · cases h
  split at h; · cases h
  split at h
  · cases h; exact .nothing
  · split at h; · cases h
    rename_i p hp
    split at h <;> cases h
    rename_i r hr
    exact .kill hp hr

theorem effect_resume (h : resume args c = .ok (reply, c')) : c.Effect c' := by
  unfold resume at h
  split at h; · cases h
  split at h; · cases h
  split at h; · cases h
  split at h; · cases h
  rename_i p hp
  dsimp only at h
  split at h <;> cases h
  rename_i r hr
  exact .resume hp hr

theorem effect_loadServerOptions (h : loadServerOptions args c = .ok (reply, c')) : c.Effect c' := by
  unfold loadServerOptions at h
  split at h; · cases h
  split at h; · cases h
  rename_i p hp
  split at h <;> cases h
  rename_i hw
  exact .reload hp hw

theorem mem_table {e : Symbol × Builtin σ} (h : e ∈ table σ) : e.2 ∈ readOnly σ ∨ e.2 = setTaskPerms ∨
    e.2 = killTask ∨ e.2 = resume ∨ e.2 = loadServerOptions := by
  revert e
  simp [table, readOnly]

end Builtin

theorem Context.effect_call {c c' : Context σ} {name : Symbol} {args : List Value} {reply : Reply}
    (h : c.call name args = .ok (reply, c')) : c.Effect c' := by
  unfold call at h
  split at h
  · rename_i f hf
    obtain ⟨e, he, rfl⟩ := Option.map_eq_some_iff.1 hf
    rcases Builtin.mem_table (List.mem_of_find?_eq_some he) with hl | hf | hf | hf | hf
    · rw [Builtin.context_of_mem_readOnly _ hl h]; exact .nothing
    · rw [hf] at h; exact Builtin.effect_setTaskPerms h
    · rw [hf] at h; exact Builtin.effect_killTask h
    · rw [hf] at h; exact Builtin.effect_resume h
    · rw [hf] at h; exact Builtin.effect_loadServerOptions h
  · cases h

/-! ## Acting on the world -/

/-- What a program may do to its context: it leaves the wake value alone, and acts on the world as programs
may. -/
def Context.Acted (c c' : Context σ) : Prop :=
  c'.wake = c.wake ∧ ∀ loans, ∃ calls, WorkerPool.Acts ⟨c.world, loans⟩ calls c'.world

theorem Context.acted_of_registry {c c' : Context σ} (hw : c'.wake = c.wake)
    (hr : c'.world.registry = c.world.registry) (hs : c'.world.settings = c.world.settings) :
    c.Acted c' :=
  ⟨hw, fun _ => ⟨[], by simp, by rw [hr]; rfl, hs⟩⟩

theorem Context.acted_kill {c : Context σ} {id : TaskId} {who : Obj} {wizard : Bool} {r : Registry σ}
    (hr : c.world.registry.kill id who wizard = .ok r) : c.Acted (c.withRegistry r) := by
  refine ⟨rfl, fun loans => ⟨[.kill id who wizard], ?_, ?_, rfl⟩⟩
  · simp [Event.outside]
  · simp [TaskQueue.run, TaskQueue.step, WorkerPool.queue, hr, withRegistry]

theorem Context.Effect.acted {c c' : Context σ} (h : c.Effect c') : c.Acted c' := by
  cases h with
  | nothing => exact acted_of_registry rfl rfl rfl
  | perms => exact acted_of_registry rfl rfl rfl
  | kill hp hr => exact acted_kill hr
  | @resume p id v r hp hr =>
    refine ⟨rfl, fun loans => ⟨[.resume c.world.clock id v p.who p.isWizard], ?_, ?_, rfl⟩⟩
    · simp [Event.outside]
    · simp [TaskQueue.run, TaskQueue.step, WorkerPool.queue, hr, withRegistry]
  | reload => exact acted_of_registry rfl rfl rfl

/-- The wake value that an entry of the log tells of. -/
def Entry.woken? : Entry → Option Value
  | .woken v => some v
  | _ => none

namespace Script

theorem acted_call (name : Symbol) (args : Arguments) (probe : Bool) (s : Script) (c : Context Script) :
    c.Acted (call name args probe s c).2.2 := by
  unfold call
  dsimp only
  split
  · rename_i hc; exact (Context.effect_call hc).acted
  · rename_i hc; exact (Context.effect_call hc).acted
  · rename_i hc; exact (Context.effect_call hc).acted
  · split <;> exact Context.acted_of_registry rfl rfl rfl

theorem acted_execute (i : Instruction) (s : Script) (c : Context Script) :
    c.Acted (execute i s c).2.2 := by
  have still : ∀ c' : Context Script, c'.wake = c.wake → c'.world.registry = c.world.registry →
      c'.world.settings = c.world.settings → c.Acted c' := fun _ => Context.acted_of_registry
  cases i with
  | call name args probe => exact acted_call name args probe s.next c
  | push f => simp only [execute]; split <;> exact still _ rfl rfl rfl
  | resolve o name => simp only [execute]; split <;> exact still _ rfl rfl rfl
  | check v => simp only [execute]; split <;> exact still _ rfl rfl rfl
  | idle steps => simp only [execute]; split <;> exact still _ rfl rfl rfl
  | kill id who wizard =>
    simp only [execute]
    split
    · rename_i r hr; exact Context.acted_kill hr
    · exact still _ rfl rfl rfl
  | _ => exact still _ rfl rfl rfl

theorem wake_eq (s : Script) (c : Context Script) : (s.wake c).2 = { c with wake := none } := by
  unfold wake
  split
  · rfl
  · rename_i h; rw [← h]

theorem acted_step (s : Script) (c : Context Script) :
    ({ c with wake := none } : Context Script).Acted (step s c).2.2 := by
  unfold step
  dsimp only
  split
  · rw [wake_eq]; exact Context.acted_of_registry rfl rfl rfl
  · rw [wake_eq]; exact acted_execute _ _ _

/-! ## The log -/

/-- The wake values that the log tells of. -/
def wakeLog (s : Script) : List Value := s.log.toList.filterMap Entry.woken?

/-- A script logs what it did before, and no other wake value. -/
structure Kept (s s' : Script) : Prop where
  quiet : s'.quiet = s.quiet
  wakeLog : s'.wakeLog = s.wakeLog

theorem kept_of_log {s s' : Script} (hq : s'.quiet = s.quiet) (hl : s'.log = s.log) : Kept s s' :=
  ⟨hq, by rw [wakeLog, hl]; rfl⟩

theorem kept_note (s : Script) {e : Entry} (he : e.woken? = none) : Kept s (s.note e) := by
  unfold note
  split
  · exact ⟨rfl, rfl⟩
  · exact ⟨rfl, by simp [wakeLog, he]⟩

theorem Kept.trans {s s' s'' : Script} (h : Kept s s') (h' : Kept s' s'') : Kept s s'' :=
  ⟨h'.quiet.trans h.quiet, h'.wakeLog.trans h.wakeLog⟩

theorem kept_next (s : Script) : Kept s s.next := kept_of_log rfl rfl

theorem kept_call (name : Symbol) (args : Arguments) (probe : Bool) (s : Script) (c : Context Script) :
    Kept s (call name args probe s c).2.1 := by
  unfold call
  dsimp only
  split
  · exact (kept_note s rfl).trans (kept_of_log rfl rfl)
  · exact (kept_note s rfl).trans (kept_of_log rfl rfl)
  · exact kept_note s rfl
  · split
    · exact (kept_note s rfl).trans (kept_of_log rfl rfl)
    · exact kept_note s rfl

theorem kept_execute (i : Instruction) (s : Script) (c : Context Script) :
    Kept s (execute i s c).2.1 := by
  have noted : ∀ e : Entry, e.woken? = none → Kept s (s.next.note e) :=
    fun _ he => (kept_next s).trans (kept_note _ he)
  cases i with
  | call name args probe => exact (kept_next s).trans (kept_call name args probe s.next c)
  | push f =>
    simp only [execute]
    split
    · exact kept_next s
    · exact noted _ rfl
  | pop => exact noted _ rfl
  | info => exact noted _ rfl
  | resolve o name =>
    simp only [execute]
    split
    · exact (noted _ rfl).trans (kept_of_log rfl rfl)
    · exact noted _ rfl
  | check v =>
    simp only [execute]
    split
    · exact kept_next s
    · exact noted _ rfl
  | idle steps => simp only [execute]; split <;> exact kept_of_log rfl rfl
  | kill id who wizard => simp only [execute]; split <;> exact noted _ rfl
  | _ => exact kept_of_log rfl rfl

/-- A script that is not quiet logs the wake value before it does anything else. -/
theorem wakeLog_wake {s : Script} (hq : s.quiet = false) (c : Context Script) :
    (s.wake c).1.quiet = false ∧ (s.wake c).1.wakeLog = s.wakeLog ++ c.wake.toList := by
  unfold wake
  cases c.wake with
  | none => simp [hq]
  | some v => simp [note, hq, wakeLog, Entry.woken?]

theorem wakeLog_step {s : Script} (hq : s.quiet = false) (c : Context Script) :
    (step s c).2.1.quiet = false ∧ (step s c).2.1.wakeLog = s.wakeLog ++ c.wake.toList := by
  obtain ⟨hquiet, hlog⟩ := wakeLog_wake hq c
  unfold step
  dsimp only
  split
  · exact ⟨hquiet, hlog⟩
  · rename_i i _
    have hkept := kept_execute i (s.wake c).1 (s.wake c).2
    exact ⟨hkept.quiet.trans hquiet, hkept.wakeLog.trans hlog⟩

/-- Whether the log tells of these wake values, and will tell of others. -/
def Tells (seen : List Value) (s : Script) : Prop := s.quiet = false ∧ s.wakeLog = seen

theorem takes_step : WorkerPool.Takes step Tells := by
  refine ⟨fun _ s c _ => (acted_step s c).1, ?_⟩
  rintro _ s c ⟨hq, rfl⟩
  exact wakeLog_step hq c

theorem lawful_step : WorkerPool.Lawful step := fun s c => (acted_step s c).2

end Script

end MooWorld
