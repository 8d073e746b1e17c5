import MooWorld.Builtin.Basic
/-!
# Task control

Functions by which a task suspends itself and by which tasks list, resume and kill each other. The
checks come in a fixed order: the number of arguments, their kinds, the task itself as target, who is
acting, and then what the registry says.
-/
namespace MooWorld.Builtin

variable {σ : Type}

/-- The task number given as the first argument. A negative number names no task. -/
def taskArgument (function : String) (args : List Value) : Except Failure TaskId :=
  match args.head?.bind Value.int? with
  | none =>
    .error (.because .typeMismatch (function ++ "() requires an integer as the first argument"))
  | some i =>
    if i < 0 then
      .error (.because .invalidArgument ("Task " ++ toString i.toInt ++ " not found"))
    else .ok i.toInt.toNat

/-- A suspension that ends at a date that can be expressed. -/
def timedSuspension (clock : Clock) (delay : Option Nat) : Except Failure Suspension :=
  match delay with
  | some d =>
    if (clock.dateAfter? d).isSome then .ok (.timed d)
    else .error (.because .invalidArgument "suspend() duration out of range")
  | none => .error (.because .invalidArgument "suspend() duration out of range")

/-- The suspension that the arguments ask for: without a number, or with one that is not positive, one
that lasts until the task is resumed. -/
def suspensionOf (clock : Clock) (args : List Value) : Except Failure Suspension :=
  match args with
  | [] => .ok .indefinite
  | .int i :: _ =>
    if i ≤ 0 then .ok .indefinite else timedSuspension clock (some (i.toInt.toNat * nanosPerSecond))
  | .float x :: _ =>
    if x.isNaN || x.isInfinite then
      .error (.because .invalidArgument "suspend() requires a finite number of seconds")
    else if x.isZero || x.isNegative then .ok .indefinite
    else timedSuspension clock x.delay?
  | _ => .error (.because .typeMismatch "suspend() requires a number as the first argument")

/-- Suspends the task, for a number of seconds or until it is resumed (`suspend`). -/
def suspend : Builtin σ := fun args c =>
  if 1 < args.length then .error (.because .wrongArguments "suspend() requires 0 or 1 arguments")
  else if c.calls.top?.isNone then
    .error (.because .invalidArgument "suspend() requires an active verb to suspend")
  else
    match suspensionOf c.world.clock args with
    | .ok s => .ok (.instruct (.suspend s), c)
    | .error e => .error e

/-- A queued task as it is listed: its number, the second since when it is queued, two zeros, and the
programmer, definer, verb, line and object of its innermost frame. -/
def listingEntry (l : Listing) : Value :=
  .list [.ofNat l.id, .ofNat (l.queuedAt / nanosPerSecond), .int 0, .int 0, .obj l.top.programmer,
    .obj l.top.definer, .str l.top.verb.name, .ofNat l.top.line, l.top.this]

/-- The queued tasks that the caller controls (`queued_tasks`). -/
def queuedTasks : Builtin σ := fun args c =>
  if !args.isEmpty then .error (.because .wrongArguments "queued_tasks() does not take any arguments")
  else
    match c.acting with
    | .error e => .error e
    | .ok p =>
      let listed := c.world.registry.queued.filter fun l => p.controls l.owner
      .ok (.value (.list (listed.map listingEntry)), c)

/-- Kills a task (`kill_task`). A task that kills itself just ends. -/
def killTask : Builtin σ := fun args c =>
  if args.length ≠ 1 then .error (.because .wrongArguments "kill_task() requires 1 argument")
  else
    match taskArgument "kill_task" args with
    | .error e => .error e
    | .ok id =>
      if id = c.calls.taskId then .ok (.instruct (.complete (.int 0)), c)
      else
        match c.acting with
        | .error e => .error e
        | .ok p =>
          match c.world.registry.kill id p.who p.isWizard with
          | .error e => .error (.fault e.fault)
          | .ok r => .ok (.nothing, c.withRegistry r)

/-- Resumes a suspended task, with a value or with zero (`resume`). -/
def resume : Builtin σ := fun args c =>
  if args.isEmpty || 2 < args.length then
    .error (.because .wrongArguments "resume() requires 1 or 2 arguments")
  else
    match taskArgument "resume" args with
    | .error e => .error e
    | .ok id =>
      if id = c.calls.taskId then
        .error (.because .invalidArgument "resume() cannot resume the current task")
      else
        match c.acting with
        | .error e => .error e
        | .ok p =>
          let v := (args[1]?).getD (.int 0)
          match c.world.registry.resume c.world.clock id v p.who p.isWizard with
          | .error e => .error (.fault e.fault)
          | .ok r => .ok (.nothing, c.withRegistry r)

/-- Whether a number names a live task (`valid_task`). -/
def validTask : Builtin σ := fun args c =>
  if args.length ≠ 1 then .error (.because .wrongArguments "valid_task() requires 1 argument")
  else
    match taskArgument "valid_task" args with
    | .ok id => .ok (.value (c.yesNo (id = c.calls.taskId || c.world.registry.valid id)), c)
    | .error e =>
      if e.toFault.code = .invalidArgument then .ok (.value (c.yesNo false), c) else .error e

end MooWorld.Builtin
