import MooWorld.Quota
import MooWorld.Task.Registry
/-!
# The world of a running task

What a running task can reach beyond its own state: the objects, the limits, the other tasks, the clock,
and the settings of the server.
-/
namespace MooWorld

/-- Settings of the server. -/
structure Settings where
  /-- How many steps a task may take in one slice. -/
  maxTicks : Nat := 60000
  /-- Whether yes and no are given as booleans, not as one and zero. -/
  booleanReturns : Bool := false

/-- Everything that tasks share (`TaskServices`). -/
structure World (σ : Type) where
  settings : Settings := {}
  store : Store := {}
  quota : Quota := {}
  registry : Registry σ
  clock : Clock := {}

/-- What a program can reach during a step (`TaskContext`): its call stack, the value it was woken with, the
world. -/
structure Context (σ : Type) where
  calls : CallStack
  wake : Option Value := none
  world : World σ

/-- What one step of a program asks for. -/
inductive Verdict where
  /-- Another step. -/
  | more
  /-- To be suspended. -/
  | suspend (s : Suspension)
  /-- To be done, with a value. -/
  | complete (v : Value)
  /-- To be ended by an error. -/
  | raise (f : Fault)

/-- How programs step (`TaskProgram`): the new state of the program, and what it did to its context. -/
abbrev StepFn (σ : Type) := σ → Context σ → Verdict × σ × Context σ

namespace Context

variable {σ : Type}

/-- The context with other tasks. -/
def withRegistry (c : Context σ) (r : Registry σ) : Context σ :=
  { c with world := { c.world with registry := r } }

/-- Who the task acts for, with their flags (`task_perms`). -/
def permission (c : Context σ) : Except StoreError Permission :=
  match c.world.store.flagsOf c.calls.taskPerms with
  | .ok flags => .ok ⟨c.calls.taskPerms, flags⟩
  | .error e => .error e

/-- Yes or no, in the way the settings ask for (`v_bool`). -/
def yesNo (c : Context σ) (b : Bool) : Value :=
  if c.world.settings.booleanReturns then .bool b else .int (if b then 1 else 0)

end Context

end MooWorld
