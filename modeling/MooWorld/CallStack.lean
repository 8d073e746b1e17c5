import MooWorld.Fault
/-!
# Call stacks

The frames of a task, one for each verb that is running. The programmer of the innermost frame is who
the task acts for at the moment, and the programmer of the frame below it is who called. The depth is
limited; a frame that the server pushed for its own purposes is left out when callers are listed.
-/
namespace MooWorld

/-- A running verb (`Activation`). -/
structure Frame where
  this : Value
  verb : Symbol
  definer : Obj
  player : Obj
  programmer : Obj
  line : Nat := 0
  /-- Whether the server pushed the frame by itself. -/
  server : Bool := false

/-- The frames of a task, innermost first (`ExecState`). -/
structure CallStack where
  taskId : Nat
  maxDepth : Nat
  frames : List Frame := []

namespace CallStack

/-- How many frames there are. -/
def depth (s : CallStack) : Nat := s.frames.length

/-- Enters a verb, unless the stack is full (`push_activation`). -/
def push (s : CallStack) (f : Frame) : Except Fault CallStack :=
  if s.maxDepth ≤ s.depth then
    .error (ErrorCode.tooManyCalls.withMessage
      ("Call stack depth limit of " ++ toString s.maxDepth ++ " reached"))
  else .ok { s with frames := f :: s.frames }

/-- Leaves the innermost verb, and gives its frame (`pop_activation`). -/
def pop (s : CallStack) : Option Frame × CallStack :=
  (s.frames.head?, { s with frames := s.frames.tail })

/-- The innermost frame. -/
def top? (s : CallStack) : Option Frame := s.frames.head?

/-- Changes the innermost frame, if there is one. -/
def modifyTop (s : CallStack) (f : Frame → Frame) : CallStack :=
  match s.frames with
  | [] => s
  | top :: rest => { s with frames := f top :: rest }

/-- Makes the innermost frame act for someone else (`set_task_perms`). -/
def setTaskPerms (s : CallStack) (o : Obj) : CallStack := s.modifyTop ({ · with programmer := o })

/-- Sets the line the innermost frame is at. -/
def setLine (s : CallStack) (n : Nat) : CallStack := s.modifyTop ({ · with line := n })

/-- Who the task acts for (`task_perms`). -/
def taskPerms (s : CallStack) : Obj := (s.frames.head?.map (·.programmer)).getD .nothing

/-- Who the verb that called the innermost one acts for (`caller_perms`). -/
def callerPerms (s : CallStack) : Obj := (s.frames.tail.head?.map (·.programmer)).getD .nothing

/-- The frames from the outermost one on. -/
def outermostFirst (s : CallStack) : List Frame := s.frames.reverse

/-- The frames that are shown as callers, outermost first (`callers`). -/
def callers (s : CallStack) : List Frame := s.outermostFirst.filter (!·.server)

end CallStack

end MooWorld
