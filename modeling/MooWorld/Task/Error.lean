import MooWorld.Fault
/-!
# Errors of tasks

Why a task could not be started, controlled or finished, and the error another task sees then.
-/
namespace MooWorld

/-- Tasks are numbered from one. Numbers are unbounded here; those of a run fit in 64 bits as long as it has
fewer than `2 ^ 64 - 1` events (`counters_fit`). -/
abbrev TaskId := Nat

/-- An error that nobody caught, with the frames it went through. -/
structure Uncaught where
  fault : Fault
  backtrace : List Value

/-- The text of an uncaught error. -/
def Uncaught.message (u : Uncaught) : String := "Uncaught exception: " ++ u.fault.display

/-- What can go wrong with a task (`SchedulerError`). -/
inductive TaskError where
  | notResponding
  | notFound (id : TaskId)
  | permissionDenied (id : TaskId)
  | couldNotStart
  | outOfTicks (ticks : Nat)
  | uncaught (u : Uncaught)
  | cancelled

namespace TaskError

/-- The text of the error. -/
def message : TaskError → String
  | .notResponding => "Scheduler not responding"
  | .notFound id => "Task not found: " ++ toString id
  | .permissionDenied id => "Permission denied for control of task " ++ toString id
  | .couldNotStart => "Could not start task (internal error)"
  | .outOfTicks n => "Task aborted due to limit: Ticks(" ++ toString n ++ ")"
  | .uncaught _ => "Task aborted due to exception"
  | .cancelled => "Task aborted due to cancellation."

/-- The error another task sees. -/
def fault : TaskError → Fault
  | .notFound id => ErrorCode.invalidArgument.withMessage ("Task " ++ toString id ++ " not found")
  | .permissionDenied id =>
    ErrorCode.permissionDenied.withMessage ("Permission denied for task " ++ toString id)
  | .uncaught u => u.fault
  | e => ErrorCode.invalidArgument.withMessage e.message

end TaskError

end MooWorld
