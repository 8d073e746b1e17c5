import MooWorld.Task.World
/-!
# Built-in functions

A built-in function is called by a running task with a list of arguments. It gives a value, gives
nothing, or asks for something in the task's place; or it fails, and then nothing has changed.
-/
namespace MooWorld

/-- What a built-in function gives (`BfRet`). -/
inductive Reply where
  | value (v : Value)
  | nothing
  /-- Something the task asks for by the call, such as to be suspended. -/
  | instruct (v : Verdict)

/-- How a built-in function fails (`BfErr`). -/
inductive Failure where
  /-- With an error of its own. -/
  | fault (f : Fault)
  /-- With a bare code. -/
  | code (c : ErrorCode)
  /-- With an error that the task asked to raise. -/
  | raised (f : Fault)

namespace Failure

/-- The error the task sees (`into_error`). -/
def toFault : Failure → Fault
  | .fault f => f
  | .code c => c.fault
  | .raised f => f

/-- The text of the failure. -/
def message : Failure → String
  | .fault f => "Error in built-in function: " ++ f.display
  | .code c => "Error in built-in function: " ++ c.name
  | .raised f => "Raised error: " ++ f.code.name

/-- A failure with a code and a message. -/
def because (c : ErrorCode) (message : String) : Failure := .fault (c.withMessage message)

end Failure

/-- A built-in function. -/
abbrev Builtin (σ : Type) := List Value → Context σ → Except Failure (Reply × Context σ)

/-- Who the task acts for, or the failure that a built-in function gives if they do not exist. -/
def Context.acting {σ : Type} (c : Context σ) : Except Failure Permission :=
  match c.permission with
  | .ok p => .ok p
  | .error e => .error (.fault e.fault)

end MooWorld
