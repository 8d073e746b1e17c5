import MooWorld.Task.Slice
/-!
# The scheduler

Runs the tasks of a world on a number of workers. A turn of the scheduler wakes the tasks whose timers
have fired, takes out every task that was announced, gives the tasks taken out to free workers in order,
and lets each worker go on with its slice until the slice ends or time passes in it. A task that waits
for a worker counts as running. A scheduler that was stopped takes out no more tasks.

Between turns all that was asked for is done, except what needs time: that is what is looked at.
-/
namespace MooWorld

/-- A scheduler and the world it runs. -/
structure Scheduler (σ : Type) where
  world : World σ
  /-- How many slices run side by side. -/
  workers : Nat
  running : Bool := true
  /-- The slices on the workers. -/
  active : List (Task σ) := []
  /-- The tasks taken out that wait for a worker, oldest first. -/
  waiting : List (Task σ) := []
  /-- The programs of the tasks that ran, as their last turn left them. -/
  programs : List (TaskId × σ) := []

namespace Scheduler

variable {σ : Type}

/-- How many workers there are if nobody says. -/
def defaultWorkers : Nat := 4

/-- Starts a scheduler: the limits are read from the store. Zero workers are as good as no number. -/
def start (world : World σ) (workers : Option Nat) : Scheduler σ :=
  { world := { world with quota := (world.quota.reload world.store).2 }
    workers := (workers.filter (0 < ·)).getD defaultWorkers }

/-- Replaces the registry. -/
def withRegistry (s : Scheduler σ) (r : Registry σ) : Scheduler σ :=
  { s with world := { s.world with registry := r } }

/-- Asks for a new task (`submit_task`). -/
def submit (s : Scheduler σ) (entry : Frame) (program : σ) :
    Except TaskError TaskId × Scheduler σ :=
  if s.running then
    let (id, r) := s.world.registry.create s.world.clock entry program
    (id, s.withRegistry r)
  else (.error .notResponding, s)

/-- Stops the scheduler, and with it every live task (`stop`). -/
def stop (s : Scheduler σ) : Scheduler σ :=
  if s.running then
    { s.withRegistry (s.world.registry.abortAll s.world.clock) with running := false }
  else s

/-- The program of a task, as its last turn left it. -/
def program? (s : Scheduler σ) (id : TaskId) : Option σ := s.programs.lookup id

/-- Takes out the announced tasks. -/
def dispatchReady (s : Scheduler σ) : Scheduler σ :=
  let r := s.world.registry
  r.ready.foldl (fun s id =>
    match s.world.registry.dispatch id with
    | some (t, r) => { s.withRegistry r with waiting := s.waiting ++ [t.fresh] }
    | none => s) (s.withRegistry { r with ready := [] })

/-- Gives waiting tasks to free workers. -/
def fill (s : Scheduler σ) : Scheduler σ :=
  let free := s.workers - s.active.length
  { s with active := s.active ++ s.waiting.take free, waiting := s.waiting.drop free }

/-- Turns of a slice until it ends or time passes, at most as many as the budget says. -/
def turnsNow (step : StepFn σ) : Nat → Task σ → World σ → Option SliceEnd × Task σ × World σ
  | 0, t, w => (none, t, w)
  | budget + 1, t, w =>
    match t.turn step w with
    | (some e, t, after) => (some e, t, after)
    | (none, t, after) =>
      if after.clock.now = w.clock.now then turnsNow step budget t after else (none, t, after)

/-- Lets a worker go on with its slice. -/
def work (step : StepFn σ) (s : Scheduler σ) (t : Task σ) : Scheduler σ :=
  let (e, t, world) := turnsNow step (s.world.settings.maxTicks + 1) t s.world
  let s := { s with programs := (t.id, t.program) :: s.programs.filter (·.1 ≠ t.id) }
  match e with
  | some e => { s with world := world.finish t e }
  | none => { s with world, active := s.active ++ [t] }

/-- Lets every worker go on with its slice. -/
def workAll (step : StepFn σ) (s : Scheduler σ) : Scheduler σ :=
  s.active.foldl (work step) { s with active := [] }

/-- A turn of the scheduler (one round of `scheduler_loop`). -/
def turn (step : StepFn σ) (s : Scheduler σ) : Scheduler σ :=
  let s := if s.running then (s.withRegistry (s.world.registry.advance s.world.clock).2).dispatchReady else s
  s.fill.workAll step

/-- Whether there is nothing more to do at the moment. -/
def settled (s : Scheduler σ) : Bool :=
  (!s.running || s.world.registry.ready.isEmpty) &&
    (s.waiting.isEmpty || s.workers ≤ s.active.length)

/-- Turns, at least one, until there is nothing more to do at the moment. -/
def settle (step : StepFn σ) : Nat → Scheduler σ → Scheduler σ
  | 0, s => s
  | fuel + 1, s =>
    let s := s.turn step
    if s.settled then s else settle step fuel s

/-- Lets time pass, a millisecond at a time, until something is the case. -/
def await (step : StepFn σ) (fuel : Nat) (p : Scheduler σ → Bool) : Nat → Scheduler σ → Scheduler σ
  | 0, s => s
  | millis + 1, s =>
    let s := s.settle step fuel
    if p s then s
    else await step fuel p millis
      { s with world := { s.world with clock := s.world.clock.pass nanosPerMilli } }

/-- Lets some milliseconds pass. -/
def sleep (step : StepFn σ) (fuel millis : Nat) (s : Scheduler σ) : Scheduler σ :=
  let wake := s.world.clock.now + millis * nanosPerMilli
  s.await step fuel (fun s => wake ≤ s.world.clock.now) (millis + 1)

end Scheduler

end MooWorld
