/-!
# Flags

Objects and properties carry sets of flags. A set is the question which flags it holds. Each flag has a
name and a number.
-/
namespace MooWorld

/-- The flags of an object. -/
inductive ObjectFlag where
  | user
  | programmer
  | wizard
  | read
  | write
  | fertile
  deriving DecidableEq

/-- The flags of a property. -/
inductive PropertyFlag where
  | read
  | write
  | chown
  deriving DecidableEq

/-- A family of flags: all of them in their order, with names and numbers. -/
class FlagFamily (φ : Type) extends BEq φ where
  all : List φ
  name : φ → String
  number : φ → Nat

instance : FlagFamily ObjectFlag where
  all := [.user, .programmer, .wizard, .read, .write, .fertile]
  name
    | .user => "User"
    | .programmer => "Programmer"
    | .wizard => "Wizard"
    | .read => "Read"
    | .write => "Write"
    | .fertile => "Fertile"
  number
    | .user => 0
    | .programmer => 1
    | .wizard => 2
    | .read => 4
    | .write => 5
    | .fertile => 7

instance : FlagFamily PropertyFlag where
  all := [.read, .write, .chown]
  name
    | .read => "Read"
    | .write => "Write"
    | .chown => "Chown"
  number
    | .read => 0
    | .write => 1
    | .chown => 2

/-- The flag of a name. -/
def FlagFamily.named? (φ : Type) [FlagFamily φ] (s : String) : Option φ :=
  (all : List φ).find? (name · == s)

/-- The flag of a number. -/
def FlagFamily.numbered? (φ : Type) [FlagFamily φ] (n : Int) : Option φ :=
  (all : List φ).find? fun f => (number f : Int) == n

/-- A set of flags (`BitEnum`). -/
structure FlagSet (φ : Type) where
  has : φ → Bool

namespace FlagSet

variable {φ : Type} [FlagFamily φ]

/-- No flags. -/
def empty : FlagSet φ := ⟨fun _ => false⟩

/-- The set with a flag. -/
def set (s : FlagSet φ) (f : φ) : FlagSet φ := ⟨fun g => g == f || s.has g⟩

/-- The set without a flag. -/
def clear (s : FlagSet φ) (f : φ) : FlagSet φ := ⟨fun g => g != f && s.has g⟩

/-- The flags of either set. -/
def union (s t : FlagSet φ) : FlagSet φ := ⟨fun g => s.has g || t.has g⟩

/-- The set of the listed flags. -/
def ofList (flags : List φ) : FlagSet φ := flags.foldl set empty

/-- The flags of the set, in their order. -/
def toList (s : FlagSet φ) : List φ := FlagFamily.all.filter s.has

/-- Whether every flag of `t` is in `s` (`contains_all`). -/
def containsAll (s t : FlagSet φ) : Bool := t.toList.all s.has

/-- Whether the sets hold the same flags. -/
def sameAs (s t : FlagSet φ) : Bool := s.containsAll t && t.containsAll s

end FlagSet

namespace PropertyFlag

/-- Reads a set of property flags, one letter each, in any order. -/
def parse (s : String) : Option (FlagSet PropertyFlag) :=
  s.toList.foldl (fun acc c => acc.bind fun flags =>
    match c with
    | 'r' => some (flags.set .read)
    | 'w' => some (flags.set .write)
    | 'c' => some (flags.set .chown)
    | _ => none) (some .empty)

/-- Readable. -/
def r : FlagSet PropertyFlag := .ofList [.read]

/-- Readable, and owned by whoever owns a descendant. -/
def rc : FlagSet PropertyFlag := .ofList [.read, .chown]

end PropertyFlag

end MooWorld
