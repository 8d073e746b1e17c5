import MooWorld.CallStack
import MooWorld.Store.Basic
import MooWorld.Timer
/-!
# The task registry

All live tasks, and what can be done with them: create, dispatch, suspend, resume, kill, complete. A live
task is queued, running or suspended. While it is queued or suspended the registry holds it; a running
one is out on loan to whoever dispatched it. Whenever a task becomes queued, its number is announced to
those who dispatch. A task that leaves the registry leaves one outcome behind.

`σ` is the type of programs that the tasks run. A name in brackets, here and in the other modules, is what
the server itself calls the thing.
-/
namespace MooWorld

/-- What a live task is doing (`TaskStatus`). There is no status for a task that was killed or has
completed: it leaves the registry in the same step, and nothing is known of it from then on but its outcome.
So that a registered task is in one of these three states is true by the type, and what has to be proved is
that such tasks do leave. -/
inductive Status where
  /-- Waiting to be run. -/
  | queued
  /-- Out on loan. -/
  | running
  /-- Waiting for a timer or to be resumed. -/
  | suspended
  deriving DecidableEq

/-- A task: a program with its call stack. -/
structure Task (σ : Type) where
  id : TaskId
  /-- Who the task belongs to, which decides who controls it. -/
  owner : Obj
  calls : CallStack
  program : σ
  /-- The value that the last suspension ended with, until the program takes it. -/
  wake : Option Value := none
  /-- The steps taken in the present slice. -/
  ticks : Nat := 0

/-- What the registry knows of a live task (`TaskControl`). -/
structure Control (σ : Type) where
  owner : Obj
  status : Status
  /-- The task, unless it is out on loan. -/
  task : Option (Task σ)
  /-- The date at which a timed suspension is over. -/
  deadline : Option Nat := none
  /-- Grows with every suspension and every return to the queue. Unbounded here, like the numbers of tasks,
  and with the same bound by the events of a run (`counters_fit`). -/
  generation : Nat := 0
  /-- The date at which the task last became queued. -/
  queuedAt : Nat

/-- What became of a task. -/
abbrev Outcome := Except TaskError Value

/-- All live tasks, and what they have left behind (`TaskQ`). -/
structure Registry (σ : Type) where
  /-- The live tasks in the order of creation. -/
  tasks : List (TaskId × Control σ) := []
  timers : Timers
  nextId : TaskId := 1
  /-- Announcements of queued tasks, oldest first. -/
  ready : List TaskId := []
  /-- The depth limit of the call stacks of new tasks. -/
  maxDepth : Nat
  /-- The tasks whose kill switch is set. -/
  killed : List TaskId := []
  /-- The outcomes of the tasks that left, oldest first. -/
  outcomes : List (TaskId × Outcome) := []

/-- A queued task as it is listed (`TaskDescription`). -/
structure Listing where
  id : TaskId
  owner : Obj
  status : Status
  queuedAt : Nat
  top : Frame

/-- The task is queued again, and its suspension ends with a value (`requeue`). -/
def Control.requeue {σ : Type} (c : Control σ) (clock : Clock) (v : Value) : Control σ :=
  { c with
    task := c.task.map ({ · with wake := some v })
    status := .queued
    deadline := none
    generation := c.generation + 1
    queuedAt := clock.date }

namespace Registry

variable {σ : Type}

/-- A registry without tasks, set up at a clock reading, whose tasks have call stacks of limited
depth. -/
def empty (now maxDepth : Nat) : Registry σ := { timers := { moved := now }, maxDepth }

/-- What is known of a live task. -/
def find? (r : Registry σ) (id : TaskId) : Option (Control σ) := r.tasks.lookup id

/-- Replaces what is known of a live task. -/
def put (r : Registry σ) (id : TaskId) (c : Control σ) : Registry σ :=
  { r with tasks := r.tasks.map fun e => if e.1 = id then (id, c) else e }

/-- Drops a task. -/
def drop (r : Registry σ) (id : TaskId) : Registry σ :=
  { r with tasks := r.tasks.filter (·.1 ≠ id) }

/-- Announces a queued task (`announce_ready`). -/
def announce (r : Registry σ) (id : TaskId) : Registry σ := { r with ready := r.ready ++ [id] }

/-- Records what became of a task. -/
def deliver (r : Registry σ) (id : TaskId) (o : Outcome) : Registry σ :=
  { r with outcomes := r.outcomes ++ [(id, o)] }

/-- Counts one more stale timer, if there was a timer. -/
def cancelTimer (r : Registry σ) (c : Control σ) : Registry σ :=
  if c.deadline.isSome then { r with timers := { r.timers with stale := r.timers.stale + 1 } } else r

/-- Whether the kill switch of a task is set. -/
def isKilled (r : Registry σ) (id : TaskId) : Bool := r.killed.contains id

/-- Whether a task is live (`valid_task`). -/
def valid (r : Registry σ) (id : TaskId) : Bool := (r.find? id).isSome

/-- What a live task is doing (`task_status`). -/
def status? (r : Registry σ) (id : TaskId) : Option Status := (r.find? id).map (·.status)

/-- When the timed suspension of a task is over (`wake_deadline`). -/
def deadline? (r : Registry σ) (id : TaskId) : Option Nat := (r.find? id).bind (·.deadline)

/-- How many tasks are live. -/
def size (r : Registry σ) : Nat := r.tasks.length

/-- Creates a queued task that starts in a frame and belongs to the frame's programmer (`create_task`). The
number is used up even if the task could not be started. -/
def create (r : Registry σ) (clock : Clock) (entry : Frame) (program : σ) :
    Except TaskError TaskId × Registry σ :=
  let id := r.nextId
  let r := { r with nextId := id + 1 }
  let stack : CallStack := { taskId := id, maxDepth := r.maxDepth }
  match stack.push entry with
  | .error _ => (.error .couldNotStart, r)
  | .ok calls =>
    let owner := entry.programmer
    let control : Control σ :=
      { owner, status := .queued, task := some { id, owner, calls, program }, queuedAt := clock.date }
    (.ok id, { r with tasks := r.tasks ++ [(id, control)] }.announce id)

/-- Lends out a queued task (`dispatch_task`). -/
def dispatch (r : Registry σ) (id : TaskId) : Option (Task σ × Registry σ) :=
  match r.find? id with
  | none => none
  | some c =>
    if c.status = .queued then
      c.task.map fun t => (t, r.put id { c with status := .running, task := none })
    else none

/-- Takes back a running task that wants to be suspended (`suspend_task`). One that is no longer live is
dropped. If the delay is over at once, the task is queued again, and so the suspension gives zero. -/
def suspend (r : Registry σ) (clock : Clock) (t : Task σ) (s : Suspension) : Registry σ :=
  match r.find? t.id with
  | none => r
  | some c =>
    if c.status ≠ .running then r
    else
      let parked : Control σ :=
        { c with status := .suspended, task := some t, deadline := none, generation := c.generation + 1 }
      match s with
      | .indefinite => r.put t.id parked
      | .timed delay =>
        match clock.dateAfter? delay with
        | none => r.put t.id parked
        | some date =>
          let timed : Control σ := { parked with deadline := some date }
          let timers := if delay = 0 then none
            else r.timers.insert? clock.now t.id timed.generation delay
          match timers with
          | some timers => { r.put t.id timed with timers }
          | none => (r.put t.id (timed.requeue clock (.int 0))).announce t.id

/-- Resumes a suspended task with a value, on behalf of its owner or of a wizard (`resume_task`). -/
def resume (r : Registry σ) (clock : Clock) (id : TaskId) (v : Value) (who : Obj) (wizard : Bool) :
    Except TaskError (Registry σ) :=
  match r.find? id with
  | none => .error (.notFound id)
  | some c =>
    if !authorize (c.owner == who) wizard then .error (.permissionDenied id)
    else if c.status ≠ .suspended then .error (.notFound id)
    else .ok (((r.put id (c.requeue clock v)).cancelTimer c).announce id)

/-- Kills a live task, on behalf of its owner or of a wizard (`kill_task`). -/
def kill (r : Registry σ) (id : TaskId) (who : Obj) (wizard : Bool) :
    Except TaskError (Registry σ) :=
  match r.find? id with
  | none => .error (.notFound id)
  | some c =>
    if !authorize (c.owner == who) wizard then .error (.permissionDenied id)
    else
      let r := (r.drop id).cancelTimer c
      .ok ({ r with killed := r.killed ++ [id] }.deliver id (.error .cancelled))

/-- Retires a task that has finished (`complete_task`). -/
def complete (r : Registry σ) (id : TaskId) (o : Outcome) : Registry σ :=
  if r.valid id then (r.drop id).deliver id o else r

/-- A timer has fired: the suspension it belongs to ends with zero, if it still runs. Counts those that
were woken and those that were not. -/
def fire (clock : Clock) (s : Registry σ × Nat × Nat) (timer : Timer) : Registry σ × Nat × Nat :=
  let (r, woken, ignored) := s
  match r.find? timer.task with
  | none => (r, woken, ignored + 1)
  | some c =>
    if c.status ≠ .suspended || c.generation ≠ timer.generation then (r, woken, ignored + 1)
    else ((r.put timer.task (c.requeue clock (.int 0))).announce timer.task, woken + 1, ignored)

/-- The timed suspensions that are running, with their generations and remaining delays, of a
millisecond at least. -/
def timedSuspensions (r : Registry σ) (clock : Clock) : List (TaskId × Nat × Nat) :=
  r.tasks.filterMap fun (id, c) =>
    if c.status = .suspended then
      c.deadline.map fun d => (id, c.generation, max (d - clock.date) nanosPerMilli)
    else none

/-- Sets up the wheel anew if too many of its timers are stale (`compact_timers`). -/
def compact (r : Registry σ) (clock : Clock) : Registry σ :=
  if r.timers.stale < Timers.compactAt then r
  else { r with timers := .rebuild clock.now (r.timedSuspensions clock) }

/-- Moves the timers on to the present, and wakes the tasks whose suspensions are over (`advance_timers`).
Gives their number. -/
def advance (r : Registry σ) (clock : Clock) : Nat × Registry σ :=
  let (fired, timers) := r.timers.advance clock.now
  let (r, woken, ignored) := fired.foldl (fire clock) ({ r with timers }, 0, 0)
  let r := { r with timers := { r.timers with stale := r.timers.stale - ignored } }
  (woken, r.compact clock)

/-- The queued tasks with a frame, in the order of creation (`queued_tasks`). -/
def queued (r : Registry σ) : List Listing :=
  r.tasks.filterMap fun (id, c) =>
    if c.status = .queued then
      (c.task.bind (·.calls.top?)).map fun top => ⟨id, c.owner, c.status, c.queuedAt, top⟩
    else none

/-- Ends everything (`abort_all`): every live task is stopped and told so. -/
def abortAll (r : Registry σ) (clock : Clock) : Registry σ :=
  { r with
    tasks := []
    timers := .rebuild clock.now []
    killed := r.killed ++ r.tasks.map (·.1)
    outcomes := r.outcomes ++ r.tasks.map fun e => (e.1, .error .notResponding) }

end Registry

end MooWorld
