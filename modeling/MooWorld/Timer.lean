import MooWorld.Clock
import MooWorld.Task.Error
/-!
# Timers

Timers run in ticks of a millisecond from the moment the wheel was set up. The wheel is moved on by the
whole milliseconds since it was last moved; what is left over counts the next time. A timer belongs to
one suspension of one task, told by its generation. A timer is not taken out when its suspension ends
early: it is then stale, and is counted as such until it fires or the wheel is set up anew.

The wheel has four rings of 256 slots, one for each byte of a tick of 32 bits. A timer is put on the ring
of the highest byte in which its tick differs from the present one, and fires when the hands of that ring
and of the lower ones come to it. A tick beyond 32 bits is cut to them, so a timer whose tick has passed
the end of the count fires when its low bytes come round.
-/
namespace MooWorld

/-- A timer (`TimerEntry`): whom it wakes, from which suspension, and at which tick. -/
structure Timer where
  task : TaskId
  generation : Nat
  due : Nat
  deriving DecidableEq

/-- The wheel of timers (`Timers`). -/
structure Timers where
  /-- The timers that have not fired, in the order of insertion. -/
  pending : List Timer := []
  /-- The tick that was reached. -/
  tick : Nat := 0
  /-- The clock reading of that tick. -/
  moved : Nat
  /-- How many timers the wheel holds. -/
  entries : Nat := 0
  /-- How many of them are stale. -/
  stale : Nat := 0

namespace Timers

/-- The most ticks that the wheel is moved by at once. -/
def maxTicks : Nat := UInt32.size - 1

/-- After how many ticks the hands of a ring and of the lower ones are where they were, for the lowest
ring that tells two ticks apart. -/
def ringPeriod (tick target : Nat) : Nat :=
  if tick / 256 = target / 256 then 256
  else if tick / 65536 = target / 65536 then 65536
  else if tick / 16777216 = target / 16777216 then 16777216
  else UInt32.size

/-- In how many ticks from the present one a timer fires that is set for some ticks ahead. One for the
present tick is refused, and one that is too far ahead for the rings waits beside them. -/
def wait? (tick ticks : Nat) : Option Nat :=
  if maxTicks ≤ ticks then some ticks
  else
    let present := tick % UInt32.size
    let target := (present + ticks) % UInt32.size
    if target = present then none
    else some ((target + UInt32.size - present) % ringPeriod present target)

/-- A timer for the present tick is refused. -/
theorem wait?_zero (tick : Nat) : wait? tick 0 = none := by
  have present : tick % UInt32.size % UInt32.size = tick % UInt32.size := Nat.mod_mod _ _
  simp [wait?, maxTicks, present]

/-- A timer whose tick does not pass the end of the count fires at the tick it is set for. -/
theorem wait?_eq_some {tick ticks : Nat} (pos : 0 < ticks)
    (fits : tick % UInt32.size + ticks < UInt32.size) : wait? tick ticks = some ticks := by
  unfold wait?
  split
  · rfl
  · have target : (tick % UInt32.size + ticks) % UInt32.size = tick % UInt32.size + ticks :=
      Nat.mod_eq_of_lt fits
    simp only [target, ringPeriod]
    generalize tick % UInt32.size = present at fits
    simp only [UInt32.size] at fits ⊢
    rw [if_neg (by omega)]
    congr 1
    repeat' split
    all_goals omega

/-- Sets a timer (`insert`). The wheel lags behind the clock by the time since it was moved, which is added
to the delay; a delay of less than a tick is refused. -/
def insert? (w : Timers) (now : Nat) (task : TaskId) (generation delay : Nat) : Option Timers :=
  (wait? w.tick ((delay + (now - w.moved)) / nanosPerMilli)).map fun wait => { w with
    pending := w.pending ++ [⟨task, generation, w.tick + wait⟩]
    entries := w.entries + 1 }

/-- Moves the wheel on to the present (`advance`). Gives the timers that fire, by the tick they fire at and
in the order of insertion within a tick. -/
def advance (w : Timers) (now : Nat) : List Timer × Timers :=
  if now ≤ w.moved then ([], w)
  else
    let ticks := min maxTicks ((now - w.moved) / nanosPerMilli)
    let tick := w.tick + ticks
    let fired := (w.pending.filter (·.due ≤ tick)).mergeSort fun a b => a.due ≤ b.due
    (fired, { w with
      pending := w.pending.filter (tick < ·.due)
      tick := tick
      moved := w.moved + ticks * nanosPerMilli
      entries := w.entries - fired.length })

/-- A wheel set up now with one timer for each suspension that is still running, given as task, generation
and remaining delay (`rebuild`). -/
def rebuild (now : Nat) (live : List (TaskId × Nat × Nat)) : Timers :=
  live.foldl (fun w (task, generation, delay) => (w.insert? now task generation delay).getD w)
    { moved := now }

/-- How many stale timers are too many (`COMPACT_STALE_TIMERS`). -/
def compactAt : Nat := 256

end Timers

end MooWorld
