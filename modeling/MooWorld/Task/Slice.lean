import MooWorld.Task.World
import MooWorld.Value.Text
/-!
# Slices

A task runs in slices. In a slice its program steps until it completes, fails or asks to be suspended,
until the kill switch is set, or until the ticks are used up, which are counted anew in each slice. The
kill switch and the ticks are looked at before each step.
-/
namespace MooWorld

/-- How a slice ended (`SliceOutcome`). -/
inductive SliceEnd where
  | suspend (s : Suspension)
  | complete (v : Value)
  | raise (f : Fault)
  | outOfTicks (ticks : Nat)
  | killed

namespace Task

variable {σ : Type}

/-- One turn of the slice: it ends, or the program has made a step and wants another. -/
def turn (step : StepFn σ) (t : Task σ) (w : World σ) : Option SliceEnd × Task σ × World σ :=
  if w.registry.isKilled t.id then (some .killed, t, w)
  else if w.settings.maxTicks ≤ t.ticks then (some (.outOfTicks t.ticks), t, w)
  else
    let (verdict, program, c) := step t.program ⟨t.calls, t.wake, w⟩
    let t := { t with program, calls := c.calls, wake := c.wake, ticks := t.ticks + 1 }
    match verdict with
    | .more => (none, t, c.world)
    | .suspend s => (some (.suspend s), t, c.world)
    | .complete v => (some (.complete v), t, c.world)
    | .raise f => (some (.raise f), t, c.world)

/-- Turns until the slice ends, at most as many as the budget has ticks and one more. -/
def turns (step : StepFn σ) : Nat → Task σ → World σ → SliceEnd × Task σ × World σ
  | 0, t, w => (if w.registry.isKilled t.id then .killed else .outOfTicks t.ticks, t, w)
  | budget + 1, t, w =>
    match t.turn step w with
    | (some e, t, w) => (e, t, w)
    | (none, t, w) => turns step budget t w

/-- The task at the start of a slice. -/
def fresh (t : Task σ) : Task σ := { t with ticks := 0 }

/-- Runs one slice (`run_slice`). -/
def slice (step : StepFn σ) (t : Task σ) (w : World σ) : SliceEnd × Task σ × World σ :=
  turns step w.settings.maxTicks t.fresh w

/-- One line of a backtrace. -/
def traceLine (f : Frame) : Value :=
  .str (f.definer.text ++ ":" ++ f.verb.name ++ " (this == " ++ f.this.debug ++ "), line " ++
    toString f.line)

/-- The frames an error went through, innermost first. -/
def backtrace (t : Task σ) : List Value := t.calls.frames.map traceLine

end Task

namespace World

variable {σ : Type}

/-- Retires a task. -/
def complete (w : World σ) (id : TaskId) (o : Outcome) : World σ :=
  { w with registry := w.registry.complete id o }

/-- Hands a task back after a slice: it is suspended or retired. Whoever killed it has retired it
already. -/
def finish (w : World σ) (t : Task σ) : SliceEnd → World σ
  | .suspend s => { w with registry := w.registry.suspend w.clock t s }
  | .complete v => w.complete t.id (.ok v)
  | .raise f => w.complete t.id (.error (.uncaught ⟨f, t.backtrace⟩))
  | .outOfTicks n => w.complete t.id (.error (.outOfTicks n))
  | .killed => w

/-- Runs one slice of a task that is out on loan, and hands it back (`run_task`). Gives the task as the
slice left it. -/
def run (step : StepFn σ) (w : World σ) (t : Task σ) : Task σ × World σ :=
  let (e, t, w) := t.slice step w
  (t, w.finish t e)

end World

end MooWorld
