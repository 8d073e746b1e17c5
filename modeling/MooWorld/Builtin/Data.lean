import MooWorld.Builtin.Basic
import MooWorld.Number.Layout
import MooWorld.Value.Order
/-!
# Data

Functions on values: turning them into text, adding to lists and maps, measuring them, raising errors.
What they build is checked against the quotas.
-/
namespace MooWorld.Builtin

variable {σ : Type}

/-- Floats are turned into text with the fewest digits, positionally from `10 ^ -4` up to `10 ^ 16`, and
whole ones keep a point. -/
def floatLayout : Layout := ⟨some (-4), some 16, true⟩

/-- A value as text. Containers are not spelled out. -/
def literal : Value → String
  | .none => "None"
  | .bool b => if b then "true" else "false"
  | .int i => toString i.toInt
  | .float x => floatLayout.render x
  | .str s => s
  | .obj o => o.text
  | .list _ => "\x7blist\x7d"
  | .map _ => "[map]"
  | .err code _ _ => code.name
  | .flyweight _ _ _ => "<flyweight>"

/-- Gives a value that fits its quota. -/
def within (kind : QuotaKind) (v : Value) (c : Context σ) : Except Failure (Reply × Context σ) :=
  match c.world.quota.check kind v with
  | .ok () => .ok (.value v, c)
  | .error e => .error (.fault e.fault)

/-- The texts of the arguments, one after another (`tostr`). -/
def tostr : Builtin σ := fun args c => within .string (.str (String.join (args.map literal))) c

/-- A list with one more element at its end (`listappend`). -/
def listAppend : Builtin σ := fun args c =>
  match args with
  | [.list items, v] => within .list (.list (items ++ [v])) c
  | [_, _] => .error (.code .typeMismatch)
  | _ => .error (.because .wrongArguments "listappend() requires exactly 2 arguments")

/-- A map with a key bound to a value (`mapinsert`). -/
def mapInsert : Builtin σ := fun args c =>
  match args with
  | [.map entries, k, v] => within .map (.map (Value.setEntry k v entries)) c
  | [_, _, _] => .error (.code .typeMismatch)
  | _ => .error (.because .wrongArguments "mapinsert() requires exactly 3 arguments")

/-- The size of a value, as quotas see it (`value_bytes`). -/
def valueBytes : Builtin σ := fun args c =>
  match args with
  | [v] => .ok (.value (.ofNat (min v.size (Nat.pow 2 63 - 1))), c)
  | _ => .error (.because .wrongArguments "value_bytes() requires exactly 1 argument")

/-- Reads the limits anew, for wizards only (`load_server_options`). Gives how many were found. -/
def loadServerOptions : Builtin σ := fun args c =>
  if !args.isEmpty then
    .error (.because .wrongArguments "load_server_options() does not take any arguments")
  else
    match c.acting with
    | .error e => .error e
    | .ok p =>
      match p.checkWizard with
      | .error e => .error (.fault e.fault)
      | .ok () =>
        let (n, quota) := c.world.quota.reload c.world.store
        .ok (.value (.ofNat n), { c with world := { c.world with quota } })

/-- Raises an error, perhaps with another message and another value (`raise`). -/
def raise : Builtin σ := fun args _ =>
  if args.isEmpty || 3 < args.length then
    .error (.because .wrongArguments "raise() requires 1 to 3 arguments")
  else
    match args.head?.bind Value.fault? with
    | none => .error (.because .typeMismatch "raise() requires an error as the first argument")
    | some f =>
      let detail := match args[2]? with
        | some v => some v
        | none => f.detail
      match args[1]? with
      | none => .error (.raised { f with detail })
      | some v =>
        match v.str? with
        | some m => .error (.raised { f with message := some m, detail })
        | none => .error (.because .typeMismatch "raise() requires a string as the second argument")

end MooWorld.Builtin
