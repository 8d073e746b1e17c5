import MooWorld.Number.Double
/-!
# Time

Time is counted in nanoseconds. The clock has a reading that only grows and the date at which the
reading was zero. Dates are counted from 1970 and reach as far as a signed 64-bit number of seconds.
-/
namespace MooWorld

/-- Nanoseconds in a millisecond. -/
def nanosPerMilli : Nat := 1000000

/-- Nanoseconds in a second. -/
def nanosPerSecond : Nat := 1000000000

/-- A clock. -/
structure Clock where
  /-- The reading. -/
  now : Nat := 0
  /-- The date at reading zero. -/
  start : Nat := 0

namespace Clock

/-- The date. -/
def date (c : Clock) : Nat := c.start + c.now

/-- The clock after some time. -/
def pass (c : Clock) (nanos : Nat) : Clock := { c with now := c.now + nanos }

/-- The date after a delay, if it can be expressed. -/
def dateAfter? (c : Clock) (delay : Nat) : Option Nat :=
  if (c.date + delay) / nanosPerSecond < Nat.pow 2 63 then some (c.date + delay) else none

end Clock

/-- The longest delay that can be asked for. -/
def longestDelay : Nat := UInt64.size * nanosPerSecond - 1

/-- A quotient rounded to the nearest integer, a half to the even one. -/
def roundDiv (num den : Nat) : Nat :=
  let q := num / den
  match compare (2 * (num % den)) den with
  | .lt => q
  | .eq => q + q % 2
  | .gt => q + 1

/-- A finite, non-negative number of seconds as a delay, rounded to the nearest nanosecond. There is no
delay of `2 ^ 64` seconds or more. -/
def Double.delay? (x : Double) : Option Nat :=
  let num := x.significand * Nat.pow 2 x.scale.toNat
  let den := Nat.pow 2 (-x.scale).toNat
  if num < UInt64.size * den then some (roundDiv (num * nanosPerSecond) den) else none

/-- How long a task wants to be suspended. -/
inductive Suspension where
  /-- Until it is resumed. -/
  | indefinite
  /-- Until a delay is over, or it is resumed before. -/
  | timed (delay : Nat)

end MooWorld
