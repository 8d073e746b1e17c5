import MooWorld.Number.Decimal
import MooWorld.Number.Double
/-!
# Shortest decimals

The decimal with the fewest digits that reads back to a given number. The reals that round to
`m · 2 ^ q` form an interval that reaches halfway to both neighbours, its ends included when `m` is
even. On the grids of 1, 2, … 17 digits the number's two neighbours are tried; the first grid on which
one of them lies in the interval gives the digits, the nearer one if both do and the upper one at a tie.
All of it is exact arithmetic on naturals.
-/
namespace MooWorld

namespace Decimal

/-- Compares `a · 10 ^ k` with `b · 2 ^ p`. -/
def cmpScaled (a : Nat) (k : Int) (b : Nat) (p : Int) : Ordering :=
  compare (a * Nat.pow 10 k.toNat * Nat.pow 2 (-p).toNat) (b * Nat.pow 2 p.toNat * Nat.pow 10 (-k).toNat)

/-- Whether `a · 10 ^ k` rounds to the number `x`. In quarters of the last place of `x`, the interval
starts one or two below and ends two above. -/
def readsBack (x : Double) (a : Nat) (k : Int) : Bool :=
  let m := 4 * x.significand
  let below := m - if x.narrowBelow then 1 else 2
  let inclusive := x.significand % 2 == 0
  let reaches (o : Ordering) : Bool := o == .gt || o == .eq && inclusive
  reaches (cmpScaled a k below (x.scale - 2)) &&
    reaches (cmpScaled a k (m + 2) (x.scale - 2)).swap

/-- The least `k` with `x < 10 ^ k`, for a finite number other than zero. -/
def magnitudeOf (x : Double) : Int :=
  let estimate := ((x.significand.log2 + x.scale) * 30103).fdiv 100000 - 1
  match (List.range 5).find? fun i : Nat => cmpScaled 1 (estimate + i) x.significand x.scale == .gt with
  | some i => estimate + i
  | none => estimate + 5

/-- The decimal on the grid of `10 ^ k` that reads back to `x` and is nearest to it. -/
def onGrid? (x : Double) (k : Int) : Option Decimal :=
  let num := x.significand * Nat.pow 2 x.scale.toNat * Nat.pow 10 (-k).toNat
  let den := Nat.pow 2 (-x.scale).toNat * Nat.pow 10 k.toNat
  let low := num / den
  match readsBack x low k, readsBack x (low + 1) k with
  | true, true => some (if 2 * num < (2 * low + 1) * den then ⟨low, k⟩ else ⟨low + 1, k⟩)
  | true, false => some ⟨low, k⟩
  | false, true => some ⟨low + 1, k⟩
  | false, false => none

/-- The same number without zeros at the end of its digits. -/
def normalize (d : Decimal) : Decimal :=
  if _h : d.digits ≠ 0 ∧ d.digits % 10 = 0 then normalize ⟨d.digits / 10, d.exponent + 1⟩ else d
termination_by d.digits
decreasing_by omega

/-- The exact value of a finite number. -/
def exact (x : Double) : Decimal :=
  if x.scale < 0 then ⟨x.significand * Nat.pow 5 (-x.scale).toNat, x.scale⟩
  else ⟨x.significand * Nat.pow 2 x.scale.toNat, 0⟩

/-- The decimal with the fewest digits that reads back to a finite number, without its sign. -/
def shortest (x : Double) : Decimal :=
  let top := magnitudeOf x
  normalize ((((List.range 17).findSome? fun n : Nat => onGrid? x (top - (n + 1)))).getD (exact x))

end Decimal

end MooWorld
