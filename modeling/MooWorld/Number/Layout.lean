import MooWorld.Number.Shortest
/-!
# Layout of numbers

How the digits of a number are laid out as text: with the point in its place, or with one digit before
the point and a power of ten after an `e`. A layout says which of the two is used for which power of
ten, and whether a whole number keeps a point and a zero.
-/
namespace MooWorld

/-- The decisions of a number format. -/
structure Layout where
  /-- The least power of ten of the first digit that is written with the point in its place. -/
  positionalFrom : Option Int
  /-- The first power of ten that is too large for that. -/
  positionalTo : Option Int
  /-- Whether a whole number ends in `.0`. -/
  keepsPoint : Bool

namespace Layout

/-- Whether a number whose first digit has the weight `10 ^ e` is written positionally. -/
def isPositional (l : Layout) (e : Int) : Bool :=
  l.positionalFrom.all (· ≤ e) && l.positionalTo.all (e < ·)

/-- A row of zeros. -/
def zeros (n : Nat) : String := String.ofList (List.replicate n '0')

/-- A decimal with the point in its place. -/
def positional (l : Layout) (d : Decimal) : String :=
  let digits := toString d.digits
  let before := digits.length + d.exponent
  if before ≤ 0 then "0." ++ zeros (-before).toNat ++ digits
  else if d.exponent < 0 then
    String.ofList (digits.toList.take before.toNat) ++ "." ++
      String.ofList (digits.toList.drop before.toNat)
  else digits ++ zeros d.exponent.toNat ++ if l.keepsPoint then ".0" else ""

/-- A decimal with one digit before the point and a power of ten. -/
def scientific (d : Decimal) : String :=
  let digits := toString d.digits
  let power := toString (digits.length + d.exponent - 1)
  let rest := String.ofList (digits.toList.drop 1)
  String.ofList (digits.toList.take 1) ++ (if rest.isEmpty then "" else "." ++ rest) ++ "e" ++ power

/-- The text of a number. A NaN is written without its sign. -/
def render (l : Layout) (x : Double) : String :=
  if x.isNaN then "NaN"
  else
    let sign := if x.isNegative then "-" else ""
    if x.isInfinite then sign ++ "inf"
    else if x.isZero then sign ++ if l.keepsPoint then "0.0" else "0"
    else
      let d := Decimal.shortest x
      let first := (toString d.digits).length + d.exponent - 1
      sign ++ if l.isPositional first then l.positional d else scientific d

end Layout

end MooWorld
