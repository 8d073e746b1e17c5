import MooWorld.Number.Layout
import MooWorld.Value.Basic
/-!
# Debug text of values

The text that shows what a value is made of: the kind, the number of elements of a container, and the
elements.
-/
namespace MooWorld.Value

/-- Floats are written with the fewest digits, always with the point in its place, and whole ones
without a point. -/
def debugLayout : Layout := ⟨.none, .none, false⟩

/-- Texts between commas. -/
def commas (items : List String) : String := ", ".intercalate items

mutual

/-- The debug text of a value. -/
def debug : Value → String
  | .none => "None"
  | .bool b => if b then "true" else "false"
  | .obj o => "Object(" ++ o.text ++ ")"
  | .int i => "Integer(" ++ toString i.toInt ++ ")"
  | .float x => "Float(" ++ debugLayout.render x ++ ")"
  | .list items =>
    "List([size = " ++ toString items.length ++ ", items = [" ++ commas (debugList items) ++ "]])"
  | .str s => "String(" ++ Text.quote s ++ ")"
  | .map entries =>
    "Map([size = " ++ toString entries.length ++ ", items = \x7b" ++
      commas (debugEntries entries) ++ "\x7d])"
  | .err code _ _ => "Error(" ++ code.name ++ ")"
  | .flyweight d slots contents =>
    "Flyweight(<" ++ d.text ++ ", \x7b" ++ commas (debugSlots slots) ++ "\x7d, [" ++
      commas (debugList contents) ++ "]>)"
termination_by structural a => a

/-- The texts of the elements. -/
def debugList : List Value → List String
  | [] => []
  | v :: vs => debug v :: debugList vs
termination_by structural a => a

/-- The texts of the entries, key before value. -/
def debugEntries : List (Value × Value) → List String
  | [] => []
  | (k, v) :: rest => (debug k ++ ": " ++ debug v) :: debugEntries rest
termination_by structural a => a

/-- The texts of the slots, the name in quotes. -/
def debugSlots : List (Symbol × Value) → List String
  | [] => []
  | (k, v) :: rest => (k.quoted ++ ": " ++ debug v) :: debugSlots rest
termination_by structural a => a

end

/-- The elements of a list between brackets. -/
def itemsText (items : List Value) : String := "[" ++ commas (debugList items) ++ "]"

/-- The entries of a map between braces. -/
def entriesText (entries : List (Value × Value)) : String :=
  "\x7b" ++ commas (debugEntries entries) ++ "\x7d"

end MooWorld.Value
