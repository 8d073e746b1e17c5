import MooWorld.Value.Order
/-!
# Faults

An error as it is raised: a code, perhaps a message, perhaps a value. As a value it is an `err`.
-/
namespace MooWorld

/-- An error that can be raised (`Error`). -/
structure Fault where
  code : ErrorCode
  message : Option String := none
  detail : Option Value := none

namespace Fault

/-- The error as a value. -/
def toValue (f : Fault) : Value := .err f.code f.message f.detail

/-- The message, or what the code means. -/
def text (f : Fault) : String := f.message.getD f.code.meaning

/-- The code, with the message in brackets if there is one. -/
def display (f : Fault) : String :=
  match f.message with
  | some m => f.code.name ++ " (" ++ m ++ ")"
  | none => f.code.name

end Fault

/-- A fault of this code with a message. -/
def ErrorCode.withMessage (c : ErrorCode) (m : String) : Fault := { code := c, message := some m }

/-- A fault of this code alone. -/
def ErrorCode.fault (c : ErrorCode) : Fault := { code := c }

/-- The error, if the value is one. -/
def Value.fault? : Value → Option Fault
  | .err c m d => some ⟨c, m, d⟩
  | _ => Option.none

/-- The first element of a list and the others (`pop_front`). -/
def Value.popFront : List Value → Except Fault (Value × List Value)
  | [] => .error (ErrorCode.rangeError.withMessage "attempt to pop from empty list")
  | v :: rest => .ok (v, rest)

end MooWorld
