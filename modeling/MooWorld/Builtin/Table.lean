import MooWorld.Builtin.Control
import MooWorld.Builtin.Data
import MooWorld.Builtin.Identity
/-!
# The table of built-in functions

All built-in functions by name. Names are looked up without regard to case.
-/
namespace MooWorld

/-- The built-in functions. -/
def Builtin.table (σ : Type) : List (Symbol × Builtin σ) :=
  [(⟨"caller_perms"⟩, callerPerms),
   (⟨"set_task_perms"⟩, setTaskPerms),
   (⟨"callers"⟩, callers),
   (⟨"task_id"⟩, taskId),
   (⟨"suspend"⟩, suspend),
   (⟨"queued_tasks"⟩, queuedTasks),
   (⟨"kill_task"⟩, killTask),
   (⟨"resume"⟩, resume),
   (⟨"valid_task"⟩, validTask),
   (⟨"tostr"⟩, tostr),
   (⟨"listappend"⟩, listAppend),
   (⟨"mapinsert"⟩, mapInsert),
   (⟨"value_bytes"⟩, valueBytes),
   (⟨"load_server_options"⟩, loadServerOptions),
   (⟨"raise"⟩, raise)]

/-- The function of a name (`builtin_for`). -/
def Builtin.named? (σ : Type) (name : Symbol) : Option (Builtin σ) :=
  ((table σ).find? (·.1.same name)).map (·.2)

/-- Calls a function by name (`call_builtin`). -/
def Context.call {σ : Type} (c : Context σ) (name : Symbol) (args : List Value) :
    Except Failure (Reply × Context σ) :=
  match Builtin.named? σ name with
  | some f => f args c
  | none =>
    .error (.fault {
      code := .verbNotFound
      message := some ("Unknown built-in function: " ++ name.name)
      detail := some (.str name.name) })

end MooWorld
