import MooWorld.Config.Json
import MooWorld.Config.Yaml.Resolve
import MooWorld.Quota
/-!
# The configuration

The settings of the server in three sections. A configuration file overrides the defaults. It is a map of
sections; a section is a map of settings, or a list of them in a fixed order. What a file does not say
keeps its default, and what no setting is called is ignored.

The name of a file tells its notation: JSON if the name ends in `json` after a dot that is not its first
character, and YAML otherwise.
-/
namespace MooWorld

/-- How tasks are run. -/
structure RuntimeConfig where
  /-- How many steps a task may take in one slice. -/
  maxTicks : Nat := 60000
  /-- How deep call stacks may be. -/
  maxStackDepth : Nat := 50
  /-- How often timers are looked at, in milliseconds. -/
  tickMillis : Nat := 10
  /-- How many workers there are, or one for each processor. -/
  workers : Option Nat := none

/-- The milliseconds between two looks at the timers, at least one. -/
def RuntimeConfig.tick (r : RuntimeConfig) : Nat := max r.tickMillis 1

/-- The configuration. -/
structure Config where
  runtime : RuntimeConfig := {}
  /-- The limits that hold until others are loaded. -/
  quota : PerQuota (Option Int64) := ⟨none, none, none⟩
  /-- Whether yes and no are given as booleans, not as one and zero. -/
  booleanReturns : Bool := false

/-- Why a configuration file is refused. -/
inductive ConfigError where
  /-- It does not keep to its notation. -/
  | malformed
  /-- It is not a map of sections. -/
  | notAMap
  /-- A section is neither a map nor a list. -/
  | badSection (name : String)
  /-- A setting has a value of the wrong kind. -/
  | badSetting (name : String)

/-- A section of a file. -/
inductive ConfigSection where
  | named (entries : List (String × Document))
  | positional (items : List Document)

namespace ConfigSection

/-- The section of a name; one that is not there is empty. -/
def find (entries : List (String × Document)) (name : String) : Except ConfigError ConfigSection :=
  match Document.lookup entries name with
  | none => .ok (.named [])
  | some (.map es) => .ok (.named es)
  | some (.list items) => .ok (.positional items)
  | some _ => .error (.badSection name)

/-- What a section says of a setting, which has a name and a place in the order. -/
def get? (s : ConfigSection) (name : String) (place : Nat) : Option Document :=
  match s with
  | .named entries => Document.lookup entries name
  | .positional items => items[place]?

/-- A setting, or its default if nothing is said of it. -/
def read {α : Type} (s : ConfigSection) (name : String) (place : Nat) (read : Document → Option α)
    (default : α) : Except ConfigError α :=
  match s.get? name place with
  | none => .ok default
  | some d =>
    match read d with
    | some a => .ok a
    | none => .error (.badSetting name)

end ConfigSection

namespace Config

/-- The section on how tasks are run. -/
def runtimeOf (s : ConfigSection) : Except ConfigError RuntimeConfig := do
  let d : RuntimeConfig := {}
  return {
    maxTicks := ← s.read "max_ticks" 0 Document.nat? d.maxTicks
    maxStackDepth := ← s.read "max_stack_depth" 1 Document.nat? d.maxStackDepth
    tickMillis := ← s.read "scheduler_tick_ms" 2 Document.nat? d.tickMillis
    workers := ← s.read "worker_threads" 3 (Document.optional Document.nat?) d.workers }

/-- The section on quotas. -/
def quotaOf (s : ConfigSection) : Except ConfigError (PerQuota (Option Int64)) := do
  let limit (name : String) (place : Nat) := s.read name place (Document.optional Document.int64?) none
  return {
    string := ← limit "max_string_concat" 0
    list := ← limit "max_list_value_bytes" 1
    map := ← limit "max_map_value_bytes" 2 }

/-- The configuration that a document asks for. -/
def ofDocument : Document → Except ConfigError Config
  | .map entries => do
    let runtime ← runtimeOf (← ConfigSection.find entries "runtime")
    let quota ← quotaOf (← ConfigSection.find entries "quota")
    let features ← ConfigSection.find entries "features"
    let booleanReturns ← features.read "use_boolean_returns" 0 Document.bool? false
    return { runtime, quota, booleanReturns }
  | _ => .error .notAMap

end Config

/-! ## Files -/

/-- What follows the last dot of a name, unless the name starts with it or has none. -/
def fileExtension? (name : String) : Option String :=
  let reversed := name.toList.reverse
  match reversed.dropWhile (· ≠ '.') with
  | _ :: _ :: _ => some (String.ofList (reversed.takeWhile (· ≠ '.')).reverse)
  | _ => none

/-- The document in a file. -/
def Document.ofFile (name text : String) : Option Document :=
  if fileExtension? name = some "json" then Json.document? text else Yaml.document? text

/-- The configuration in a file (`load`). -/
def Config.ofFile (name text : String) : Except ConfigError Config :=
  match Document.ofFile name text with
  | some d => ofDocument d
  | none => .error .malformed

end MooWorld
