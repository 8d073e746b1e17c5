/-!
# Decimals

A decimal is a whole number times a power of ten. Here is how one is spelled, and when it is too large for
a double: either by its own value, or by the product of its two factors as doubles.
-/
namespace MooWorld

/-- The number `digits · 10 ^ exponent`. -/
structure Decimal where
  digits : Nat
  exponent : Int

namespace Decimal

/-- The least number that rounds to infinity: halfway between the largest double and the next power of
two. -/
def overflow : Nat := Nat.pow 2 1024 - Nat.pow 2 970

/-- Whether the nearest double is finite. The number of digits settles it unless the decimal is close to
the limit. -/
def isFinite (d : Decimal) : Bool :=
  let length : Int := (Nat.toDigits 10 d.digits).length
  if d.digits = 0 || d.exponent + length < 300 then true
  else if 400 < d.exponent + length then false
  else d.digits * Nat.pow 10 d.exponent.toNat < overflow * Nat.pow 10 (-d.exponent).toNat

/-- The whole number of 53 significant bits that is nearest to a number, the even one of two. -/
def roundNat (n : Nat) : Nat :=
  let unit := Nat.pow 2 (n.log2 - 52)
  let q := n / unit
  let r := n % unit
  if unit < 2 * r || (unit = 2 * r && q % 2 = 1) then (q + 1) * unit else q * unit

/-- The largest power of ten that a double can hold. -/
def maxScale : Int := 308

/-- Whether the digits and the power of ten, each rounded to a double, have a finite product. A negative
exponent divides, and so never leads too far. -/
def isFiniteScaled (d : Decimal) : Bool :=
  if d.digits = 0 || d.exponent < 0 then true
  else if maxScale < d.exponent then false
  else roundNat d.digits * roundNat (Nat.pow 10 d.exponent.toNat) < overflow

/-- The number that digits spell. -/
def natOf (digits : List Char) : Nat := digits.foldl (fun n c => n * 10 + (c.toNat - '0'.toNat)) 0

/-- The whole part, the digits after the point and the exponent as one decimal. -/
def ofParts (whole fraction : List Char) (exponent : Int) : Decimal :=
  ⟨natOf (whole ++ fraction), exponent - fraction.length⟩

/-- Reads an exponent after its mark: a sign and at least one digit. -/
def exponent? (cs : List Char) : Option (Int × List Char) :=
  let (sign, rest) : Int × List Char := match cs with
    | '-' :: r => (-1, r)
    | '+' :: r => (1, r)
    | r => (1, r)
  let digits := rest.takeWhile Char.isDigit
  if digits.isEmpty then none
  else some (sign * (natOf digits : Nat), rest.dropWhile Char.isDigit)

end Decimal

end MooWorld
