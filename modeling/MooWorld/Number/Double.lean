/-!
# Double-precision numbers

A number in the 64-bit binary interchange format, held as its bits, so that the sign of a zero and
the payload of a NaN are kept. Two comparisons matter: numeric equality, in which a NaN equals nothing
and the zeros equal each other, and the total order of the format, in which all bit patterns differ.
-/
namespace MooWorld

/-- A floating-point number, by its bits. -/
structure Double where
  bits : UInt64
  deriving DecidableEq

namespace Double

/-- The bits below the sign. -/
def magnitude (x : Double) : Nat := x.bits.toNat % Nat.pow 2 63

/-- Whether the sign bit is set, on a zero or a NaN too. -/
def isNegative (x : Double) : Bool := Nat.pow 2 63 ≤ x.bits.toNat

/-- The eleven bits of the exponent. -/
def exponentField (x : Double) : Nat := x.magnitude / Nat.pow 2 52

/-- The fifty-two bits below the exponent. -/
def fraction (x : Double) : Nat := x.magnitude % Nat.pow 2 52

/-- The magnitude of the infinities; a NaN lies above it, a finite number below. -/
def infiniteMagnitude : Nat := 2047 * Nat.pow 2 52

/-- Whether this is not a number. -/
def isNaN (x : Double) : Bool := infiniteMagnitude < x.magnitude

/-- Whether this is one of the two infinities. -/
def isInfinite (x : Double) : Bool := x.magnitude == infiniteMagnitude

/-- Whether this is one of the two zeros. -/
def isZero (x : Double) : Bool := x.magnitude == 0

/-- Numeric equality. -/
def numEq (x y : Double) : Bool :=
  !x.isNaN && !y.isNaN && (x.bits == y.bits || x.isZero && y.isZero)

/-- The position of a number in the total order: negative patterns downwards from `-1`, the others
upwards from `0`. -/
def orderKey (x : Double) : Int :=
  if x.isNegative then -(x.magnitude : Int) - 1 else x.magnitude

/-- The total order: NaNs with a sign, negative numbers, the two zeros, positive numbers, NaNs. -/
def totalCmp (x y : Double) : Ordering := compare x.orderKey y.orderKey

/-- The integer `m` for which a finite number is `m · 2 ^ q` in magnitude. -/
def significand (x : Double) : Nat :=
  if x.exponentField = 0 then x.fraction else Nat.pow 2 52 + x.fraction

/-- The exponent `q` that goes with `significand`. -/
def scale (x : Double) : Int :=
  if x.exponentField = 0 then -1074 else (x.exponentField : Int) - 1075

/-- Whether the neighbour towards zero is only half as far away as the other one. -/
def narrowBelow (x : Double) : Bool := x.fraction = 0 && 1 < x.exponentField

end Double

end MooWorld
