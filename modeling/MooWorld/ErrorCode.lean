import MooWorld.Symbol
import MooWorld.Text.UpperCase
/-!
# Error codes

Sixteen codes with a fixed name, in a fixed order, and custom codes named by a symbol, which come after
them and ignore case among themselves.
-/
namespace MooWorld

/-- The kind of an error. -/
inductive ErrorCode where
  | noError
  | typeMismatch
  | divisionByZero
  | permissionDenied
  | propertyNotFound
  | verbNotFound
  | variableNotFound
  | invalidIndirection
  | recursiveMove
  | tooManyCalls
  | rangeError
  | wrongArguments
  | moveRefused
  | invalidArgument
  | quotaExceeded
  | floatError
  | custom (name : Symbol)
  deriving DecidableEq

namespace ErrorCode

/-- The codes with a fixed name, in their order. -/
def fixed : List ErrorCode :=
  [.noError, .typeMismatch, .divisionByZero, .permissionDenied, .propertyNotFound, .verbNotFound,
   .variableNotFound, .invalidIndirection, .recursiveMove, .tooManyCalls, .rangeError,
   .wrongArguments, .moveRefused, .invalidArgument, .quotaExceeded, .floatError]

/-- The place of a code in the order; custom codes share the last place. -/
def rank : ErrorCode → Nat
  | .noError => 0
  | .typeMismatch => 1
  | .divisionByZero => 2
  | .permissionDenied => 3
  | .propertyNotFound => 4
  | .verbNotFound => 5
  | .variableNotFound => 6
  | .invalidIndirection => 7
  | .recursiveMove => 8
  | .tooManyCalls => 9
  | .rangeError => 10
  | .wrongArguments => 11
  | .moveRefused => 12
  | .invalidArgument => 13
  | .quotaExceeded => 14
  | .floatError => 15
  | .custom _ => 16

/-- The name as it is written. -/
def name : ErrorCode → String
  | .noError => "E_NONE"
  | .typeMismatch => "E_TYPE"
  | .divisionByZero => "E_DIV"
  | .permissionDenied => "E_PERM"
  | .propertyNotFound => "E_PROPNF"
  | .verbNotFound => "E_VERBNF"
  | .variableNotFound => "E_VARNF"
  | .invalidIndirection => "E_INVIND"
  | .recursiveMove => "E_RECMOVE"
  | .tooManyCalls => "E_MAXREC"
  | .rangeError => "E_RANGE"
  | .wrongArguments => "E_ARGS"
  | .moveRefused => "E_NACC"
  | .invalidArgument => "E_INVARG"
  | .quotaExceeded => "E_QUOTA"
  | .floatError => "E_FLOAT"
  | .custom s => s.name

/-- What the code means, for an error that has no message of its own. -/
def meaning : ErrorCode → String
  | .noError => "No error"
  | .typeMismatch => "Type mismatch"
  | .divisionByZero => "Division by zero"
  | .permissionDenied => "Permission denied"
  | .propertyNotFound => "Property not found"
  | .verbNotFound => "Verb not found"
  | .variableNotFound => "Variable not found"
  | .invalidIndirection => "Invalid indirection"
  | .recursiveMove => "Recursive move"
  | .tooManyCalls => "Too many verb calls"
  | .rangeError => "Range error"
  | .wrongArguments => "Incorrect number of arguments"
  | .moveRefused => "Move refused by destination"
  | .invalidArgument => "Invalid argument"
  | .quotaExceeded => "Resource limit exceeded"
  | .floatError => "Floating-point arithmetic error"
  | .custom s => "Custom error: " ++ s.name

/-- The folded name of a custom code. -/
def customKey : ErrorCode → List Char
  | .custom s => s.folded
  | _ => []

/-- Order by rank, custom codes by their folded names. -/
def cmp (c d : ErrorCode) : Ordering :=
  (compare c.rank d.rank).then (compare c.customKey d.customKey)

/-- Whether two codes are the same, custom ones up to case. -/
def same (c d : ErrorCode) : Bool := c.rank == d.rank && c.customKey == d.customKey

/-- Whether the code is a custom one. -/
def isCustom : ErrorCode → Bool
  | .custom _ => true
  | _ => false

/-- The code with the constructor shown, as in `ErrCustom("x")`. -/
def detailed : ErrorCode → String
  | .custom s => "ErrCustom(" ++ s.quoted ++ ")"
  | c => c.name

/-- Reads a code (`parse_str`): a fixed name in any case, otherwise a custom code that keeps the spelling.
-/
def parse (s : String) : ErrorCode :=
  let upper := Text.upper s
  (fixed.find? (·.name == upper)).getD (.custom ⟨s⟩)

end ErrorCode

end MooWorld
