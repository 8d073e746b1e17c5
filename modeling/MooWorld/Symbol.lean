import MooWorld.Text.CaseFold
import MooWorld.Text.Quoted
/-!
# Symbols

Names of properties, verbs, built-in functions and slots. Two symbols are the same when their case
foldings agree, and they are ordered by their case foldings; the spelling is kept for output.
-/
namespace MooWorld

/-- A name that ignores case. -/
structure Symbol where
  name : String
  deriving DecidableEq

namespace Symbol

/-- What identifies the symbol. -/
def folded (s : Symbol) : List Char := Text.fold s.name

/-- Order by case folding. -/
def cmp (s t : Symbol) : Ordering := compare s.folded t.folded

/-- Whether two spellings name the same thing. -/
def same (s t : Symbol) : Bool := s.folded == t.folded

/-- The spelling in quotes. -/
def quoted (s : Symbol) : String := Text.quote s.name

/-- Sorts symbols; spellings of the same one keep their places. -/
def sort (symbols : List Symbol) : List Symbol :=
  symbols.mergeSort fun s t => s.cmp t != .gt

/-- How many different symbols a list holds. -/
def distinct (symbols : List Symbol) : Nat := (symbols.map folded).eraseDups.length

end Symbol

end MooWorld
