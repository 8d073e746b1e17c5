import MooWorld.Store.Inheritance
import MooWorld.Value.Size
/-!
# Quotas

Three limits on the size of values, in bytes: on strings, on lists and on maps. The limits are read from
the options object, which the property `server_options` of the system object names. A limit that was
never found there is unset and gives way to a configured default; one that was found stays until it is
found again. Only a positive limit is enforced, so a loaded zero switches a limit off.
-/
namespace MooWorld

/-- The kinds of value that are limited. -/
inductive QuotaKind where
  | string
  | list
  | map
  deriving DecidableEq

/-- One thing for each limited kind. -/
structure PerQuota (α : Type) where
  string : α
  list : α
  map : α

namespace PerQuota

variable {α : Type}

/-- What belongs to a kind. -/
def get (t : PerQuota α) : QuotaKind → α
  | .string => t.string
  | .list => t.list
  | .map => t.map

/-- In the order string, list, map. -/
def toList (t : PerQuota α) : List α := [t.string, t.list, t.map]

end PerQuota

/-- A limit as last loaded (`QuotaSlot`). -/
inductive QuotaSlot where
  | unset
  | loaded (n : Int64)
  deriving DecidableEq

namespace QuotaSlot

/-- The limit in force, given the default for an unset slot (`effective`). -/
def effective (s : QuotaSlot) (fallback : Option Int64) : Option Nat :=
  let limit := match s with
    | .unset => fallback
    | .loaded n => some n
  (limit.filter (0 < ·)).map fun n => n.toInt.toNat

/-- The limit as one number, with `-1` for an unset one. -/
def raw : QuotaSlot → Int64
  | .unset => -1
  | .loaded n => n

end QuotaSlot

/-- A value that is too large. -/
structure QuotaError where
  kind : QuotaKind
  size : Nat
  limit : Nat

namespace QuotaError

/-- The text of the error. -/
def message (e : QuotaError) : String :=
  let what := match e.kind with
    | .string => "String"
    | .list => "List"
    | .map => "Map"
  what ++ " of " ++ toString e.size ++ " bytes exceeds limit of " ++ toString e.limit

/-- The error a task sees. -/
def fault (e : QuotaError) : Fault := ErrorCode.quotaExceeded.withMessage e.message

end QuotaError

/-- The limits as last loaded, and the defaults for the unset ones (`QuotaCache`). -/
structure Quota where
  slots : PerQuota QuotaSlot := ⟨.unset, .unset, .unset⟩
  defaults : PerQuota (Option Int64) := ⟨none, none, none⟩

namespace Quota

/-- The property that names the options object. -/
def optionsProperty : Symbol := ⟨"server_options"⟩

/-- The property of the options object that holds a limit. -/
def propertyOf : QuotaKind → Symbol
  | .string => ⟨"max_string_concat"⟩
  | .list => ⟨"max_list_value_bytes"⟩
  | .map => ⟨"max_map_value_bytes"⟩

/-- The options object. -/
def optionsObject? (s : Store) : Option Obj :=
  (s.resolve .system optionsProperty).bind (·.value.obj?)

/-- The limit that an options object sets for a kind. -/
def stored? (s : Store) (options : Obj) (kind : QuotaKind) : Option Int64 :=
  (s.resolve options (propertyOf kind)).bind (·.value.int?)

/-- A slot after something was found for it or not. -/
def reloadSlot (slot : QuotaSlot) : Option Int64 → QuotaSlot
  | some n => .loaded n
  | none => slot

/-- Reads the limits from the store (`reload_from_store`). Gives the number of limits that were found there.
-/
def reload (q : Quota) (s : Store) : Nat × Quota :=
  match optionsObject? s with
  | none => (0, q)
  | some options =>
    let string := stored? s options .string
    let list := stored? s options .list
    let map := stored? s options .map
    ([string, list, map].countP Option.isSome,
      { q with slots := ⟨reloadSlot q.slots.string string, reloadSlot q.slots.list list,
        reloadSlot q.slots.map map⟩ })

/-- The limit in force for a kind. -/
def limit? (q : Quota) (kind : QuotaKind) : Option Nat :=
  (q.slots.get kind).effective (q.defaults.get kind)

/-- Refuses a value that is larger than the limit of a kind. -/
def check (q : Quota) (kind : QuotaKind) (v : Value) : Except QuotaError Unit :=
  match q.limit? kind with
  | none => .ok ()
  | some limit => if limit < v.size then .error ⟨kind, v.size, limit⟩ else .ok ()

/-- The kind whose limit governs a value. -/
def kindOf? : Value → Option QuotaKind
  | .str _ => some .string
  | .list _ => some .list
  | .map _ => some .map
  | _ => none

/-- Refuses a value that is larger than the limit that governs it (`check_limit`). -/
def checkValue (q : Quota) (v : Value) : Except QuotaError Unit :=
  match kindOf? v with
  | some kind => q.check kind v
  | none => .ok ()

end Quota

end MooWorld
