import MooWorld.Builtin.Basic
/-!
# Who is acting

Functions by which a verb learns who called it, on whose behalf and through which frames, and by which
it gives up its own permissions.
-/
namespace MooWorld.Builtin

variable {σ : Type}

/-- Who the verb that called this one acts for, or nothing (`caller_perms`). -/
def callerPerms : Builtin σ := fun args c =>
  if !args.isEmpty then .error (.because .wrongArguments "caller_perms() does not take any arguments")
  else .ok (.value (.obj c.calls.callerPerms), c)

/-- Makes the present frame act for someone else, which only a wizard may unless it is the same one
(`set_task_perms`). -/
def setTaskPerms : Builtin σ := fun args c =>
  match args with
  | [a] =>
    match a.obj? with
    | none =>
      .error (.because .typeMismatch "set_task_perms() requires an object as the first argument")
    | some o =>
      match c.acting with
      | .error e => .error e
      | .ok p =>
        if !p.isWizard && o != p.who then
          .error (.because .permissionDenied
            "set_task_perms() requires the caller to be a wizard or the caller itself")
        else .ok (.nothing, { c with calls := c.calls.setTaskPerms o })
  | _ => .error (.because .wrongArguments "set_task_perms() requires 1 argument")

/-- A frame as callers are listed. -/
def callerEntry (withLine : Bool) (f : Frame) : Value :=
  .list ([f.this, .str f.verb.name, .obj f.programmer, .obj f.definer, .obj f.player] ++
    if withLine then [.ofNat f.line] else [])

/-- The frames of the task, outermost first, perhaps with line numbers (`callers`). -/
def callers : Builtin σ := fun args c =>
  let answer (withLine : Bool) : Except Failure (Reply × Context σ) :=
    .ok (.value (.list (c.calls.callers.map (callerEntry withLine))), c)
  match args with
  | [] => answer false
  | [.int i] => answer (i != 0)
  | [.bool b] => answer b
  | [_] =>
    .error (.because .typeMismatch "callers() requires an integer or boolean as the first argument")
  | _ => .error (.because .wrongArguments "callers() requires 0 or 1 arguments")

/-- The number of the task (`task_id`). -/
def taskId : Builtin σ := fun args c =>
  if !args.isEmpty then .error (.because .wrongArguments "task_id() does not take any arguments")
  else .ok (.value (.ofNat c.calls.taskId), c)

end MooWorld.Builtin
