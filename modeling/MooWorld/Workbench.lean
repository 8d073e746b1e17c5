import MooWorld.Script
/-!
# The workbench

Drives the registry by hand, one action at a time: take a task out and hold it, run one slice of it, put
it back. Nothing happens between the actions, and time passes only when asked to.
-/
namespace MooWorld

/-- A world whose tasks run scripts, with the tasks that were taken out. -/
structure Workbench where
  world : World Script
  /-- The tasks on loan to the workbench, at most one of each number. -/
  held : List (Task Script) := []
  /-- The tasks that were created. -/
  created : List TaskId := []
  /-- The tasks whose outcome has been read. -/
  collected : List TaskId := []

/-- What can be read of the outcome of a task. -/
inductive Reading where
  /-- There is no such task. -/
  | unknown
  /-- It is not there yet. -/
  | empty
  | outcome (o : Outcome)
  /-- It has been read before. -/
  | gone

namespace Workbench

/-- Replaces the registry. -/
def withRegistry (b : Workbench) (r : Registry Script) : Workbench :=
  { b with world := { b.world with registry := r } }

/-- Creates a task. -/
def create (b : Workbench) (entry : Frame) (code : Array Instruction) :
    Except TaskError TaskId × Workbench :=
  match b.world.registry.create b.world.clock entry { code } with
  | (.ok id, r) => (.ok id, { b.withRegistry r with created := id :: b.created })
  | (.error e, r) => (.error e, b.withRegistry r)

/-- Takes a queued task out. -/
def takeOut (b : Workbench) (id : TaskId) : Option (Task Script × Workbench) :=
  (b.world.registry.dispatch id).map fun (t, r) => (t, b.withRegistry r)

/-- Takes a queued task out and holds it, in place of one that was held under its number. -/
def dispatch (b : Workbench) (id : TaskId) : Option (Task Script × Workbench) :=
  (b.takeOut id).map fun (t, b) => (t, { b with held := t :: b.held.filter (·.id ≠ id) })

/-- Lets go of a task. -/
def release (b : Workbench) (id : TaskId) : Workbench :=
  { b with held := b.held.filter (·.id ≠ id) }

/-- The task of a number that is held. -/
def held? (b : Workbench) (id : TaskId) : Option (Task Script) := b.held.find? (·.id = id)

/-- Runs a slice of a task that has been taken out, and puts the task back. Gives what the slice
logged. -/
def runTask (b : Workbench) (t : Task Script) : List Entry × Workbench :=
  let (after, world) := b.world.run Script.step t
  (after.program.log.toList.drop t.program.log.size, { b with world })

/-- Runs a slice of the task of a number, which is held or taken out now. -/
def run (b : Workbench) (id : TaskId) : Option (List Entry × Workbench) :=
  match b.held? id with
  | some t => some ((b.release id).runTask t)
  | none => (b.takeOut id).map fun (t, b) => b.runTask t

/-- Takes all announcements. -/
def takeReady (b : Workbench) : List TaskId × Workbench :=
  (b.world.registry.ready, b.withRegistry { b.world.registry with ready := [] })

/-- Takes the announcements one by one and runs the tasks, until there are none or the fuel is used up.
Gives what each slice logged; a task that is not queued any more has none. Tasks that are held stay so. -/
def runReady : Nat → Workbench → List (TaskId × Option (List Entry)) × Workbench
  | 0, b => ([], b)
  | fuel + 1, b =>
    match b.world.registry.ready with
    | [] => ([], b)
    | id :: rest =>
      let b := b.withRegistry { b.world.registry with ready := rest }
      match b.takeOut id with
      | none =>
        let (runs, b) := runReady fuel b
        ((id, none) :: runs, b)
      | some (t, b) =>
        let (log, b) := b.runTask t
        let (runs, b) := runReady fuel b
        ((id, some log) :: runs, b)

/-- Puts a task back as if it had asked to be suspended. -/
def putBack (b : Workbench) (t : Task Script) (s : Suspension) : Workbench :=
  b.withRegistry (b.world.registry.suspend b.world.clock t s)

/-- Puts back a task that is held. -/
def park (b : Workbench) (id : TaskId) (s : Suspension) : Option Workbench :=
  (b.held? id).map fun t => (b.release id).putBack t s

/-- A task of the given number that did not come from here. -/
def foreignTask (id : TaskId) : Task Script :=
  let entry : Frame :=
    { this := .obj .nothing, verb := ⟨"foreign"⟩, definer := .nothing, player := .nothing,
      programmer := .nothing }
  { id, owner := .nothing, calls := { taskId := id, maxDepth := 1, frames := [entry] },
    program := { code := #[], quiet := true } }

/-- Puts back a task that did not come from here. -/
def parkForeign (b : Workbench) (id : TaskId) (s : Suspension) : Workbench :=
  b.putBack (foreignTask id) s

/-- Creates tasks that do nothing and suspends them all. -/
def spawnSuspended (entry : Frame) (s : Suspension) : Nat → Workbench → Workbench
  | 0, b => b
  | count + 1, b =>
    let b := match b.create entry #[] with
      | (.error _, b) => b
      | (.ok id, b) => ((b.takeOut id).map fun (t, b) => b.putBack t s).getD b
    spawnSuspended entry s count b

/-- Does something to each of several tasks, and counts those where it went well. -/
def each (f : TaskId → Registry Script → Except TaskError (Registry Script)) (ids : List TaskId)
    (b : Workbench) : Nat × Workbench :=
  ids.foldl (fun (n, b) id =>
    match f id b.world.registry with
    | .ok r => (n + 1, b.withRegistry r)
    | .error _ => (n, b)) (0, b)

/-- Reads the outcome of a task, which can be done once. -/
def collect (b : Workbench) (id : TaskId) : Reading × Workbench :=
  if !b.created.contains id then (.unknown, b)
  else if b.collected.contains id then (.gone, b)
  else
    match b.world.registry.outcomes.lookup id with
    | some o => (.outcome o, { b with collected := id :: b.collected })
    | none => (.empty, b)

/-- Whole seconds until the timed suspension of a task is over, rounded up. -/
def secondsLeft? (b : Workbench) (id : TaskId) : Option Nat :=
  (b.world.registry.deadline? id).map fun d =>
    (d - b.world.clock.date + (nanosPerSecond - 1)) / nanosPerSecond

/-- Lets time pass. -/
def sleep (b : Workbench) (nanos : Nat) : Workbench :=
  { b with world := { b.world with clock := b.world.clock.pass nanos } }

end Workbench

end MooWorld
