/-!
# Character maps

A mapping from characters to short texts, given by a table: runs of code points that move together,
and single code points that expand to several. A character that no row mentions is mapped to itself.

Case folding and upper case are two such maps.
-/
namespace MooWorld.Text

/-- The code points `first, first + step, …, last`, moved together so that `first` lands on `target`. -/
structure Run where
  first : Nat
  last : Nat
  step : Nat
  target : Nat

namespace Run

/-- Whether the run mentions the code point. -/
def covers (r : Run) (n : Nat) : Bool :=
  r.first ≤ n && n ≤ r.last && (n - r.first) % r.step == 0

/-- Where the run moves a code point that it covers. -/
def image (r : Run) (n : Nat) : Nat := r.target + (n - r.first)

end Run

/-- A table of runs and expansions. -/
structure CharMap where
  runs : List Run
  expansions : List (Nat × List Nat)

namespace CharMap

/-- The text a character is mapped to; expansions come before runs. -/
def apply (m : CharMap) (c : Char) : List Char :=
  match m.expansions.lookup c.toNat with
  | some codes => codes.map Char.ofNat
  | none =>
    match m.runs.find? (·.covers c.toNat) with
    | some r => [Char.ofNat (r.image c.toNat)]
    | none => [c]

end CharMap

end MooWorld.Text
