import MooWorld.Config.Document
import MooWorld.Config.Yaml.Layout
import MooWorld.Config.Yaml.Node
import MooWorld.Number.Decimal
/-!
# YAML documents

What a tree of nodes says. A plain scalar is null, a boolean, a whole number, a float or else a text; a
standard tag says which of them is meant, and then the scalar has to be one. A tag that starts with an
exclamation mark is local, and names a path of keys that leads to the value. Keys are texts whatever they
look like and whatever their tags. Collections nest at most 128 deep, and aliases may be followed a hundred
times for each node and bracket of the document.
-/
namespace MooWorld.Yaml

/-! ## Scalars -/

/-- The spellings of null. -/
def isNull (s : String) : Bool := s = "null" || s = "Null" || s = "NULL" || s = "~"

/-- The spellings of the booleans. -/
def bool? (s : String) : Option Bool :=
  if s = "true" || s = "True" || s = "TRUE" then some true
  else if s = "false" || s = "False" || s = "FALSE" then some false
  else none

/-- The value of a digit in a base up to sixteen. -/
def digit? (base : Nat) (c : Char) : Option Nat := (Text.hexDigit? c).filter (· < base)

/-- The number that at least one digit spells. -/
def natOf? (base : Nat) (cs : List Char) : Option Nat :=
  if cs.isEmpty then none else cs.foldlM (fun n c => (digit? base c).map (n * base + ·)) 0

/-- Digits after a needless zero, which are not a number. -/
def paddedDigits : List Char → Bool
  | '0' :: r => !r.isEmpty && r.all Char.isDigit
  | _ => false

/-- What is left after a sign. -/
def unsigned : List Char → List Char
  | '-' :: r => r
  | '+' :: r => r
  | cs => cs

/-- A number without a sign: in base sixteen, eight or two after its mark, or else in base ten. -/
def magnitude? (cs : List Char) : Option Nat :=
  match cs with
  | '0' :: 'x' :: r => natOf? 16 r
  | '0' :: 'o' :: r => natOf? 8 r
  | '0' :: 'b' :: r => natOf? 2 r
  | _ => if paddedDigits cs then none else natOf? 10 cs

/-- A whole number of at most 128 bits. -/
def int? (s : String) : Option Document :=
  match s.toList with
  | '-' :: r => ((magnitude? r).filter (· ≤ Nat.pow 2 127)).map .negative
  | '+' :: r => ((magnitude? r).filter (· < Nat.pow 2 128)).map .nat
  | cs => ((magnitude? cs).filter (· < Nat.pow 2 128)).map .nat

/-- Whether digits, with a point and an exponent if need be, spell a number that a double can hold. -/
def isDecimal (cs : List Char) : Bool :=
  let whole := cs.takeWhile Char.isDigit
  let (fraction, rest) := match cs.dropWhile Char.isDigit with
    | '.' :: r => (r.takeWhile Char.isDigit, r.dropWhile Char.isDigit)
    | r => ([], r)
  let exponent := match rest with
    | [] => some (0, [])
    | c :: r => if c = 'e' || c = 'E' then Decimal.exponent? r else none
  match exponent with
  | some (e, []) => !(whole ++ fraction).isEmpty && (Decimal.ofParts whole fraction e).isFinite
  | _ => false

/-- Whether a text is a float. -/
def isFloat (s : String) : Bool :=
  match s.toList with
  | '+' :: r => [".inf", ".Inf", ".INF"].contains (String.ofList r) || isDecimal r
  | '-' :: r => [".inf", ".Inf", ".INF"].contains (String.ofList r) || isDecimal r
  | cs => [".inf", ".Inf", ".INF", ".nan", ".NaN", ".NAN"].contains s || isDecimal cs

/-- What a plain scalar says. -/
def plain (s : String) : Document :=
  if s.isEmpty || isNull s then .null
  else
    match bool? s, int? s with
    | some b, _ => .bool b
    | none, some d => d
    | none, none => if isFloat s && !paddedDigits (unsigned s.toList) then .float else .text s

/-- What a tag says. -/
inductive TagKind where
  | bool
  | int
  | float
  | null
  /-- A local tag, which names a path. -/
  | path (name : String)
  /-- A local tag that is no text, and so names none. -/
  | pathless
  /-- Any other tag. -/
  | other

/-- The text that some bytes are. -/
def tagText? (bytes : TagBytes) : Option String := String.fromUTF8? ⟨bytes.toArray⟩

/-- What a tag says. The name of a local one is what follows the exclamation mark, or the mark itself if
nothing does. -/
def tagKind (tag : TagBytes) : TagKind :=
  match tag with
  | 0x21 :: [] => .path "!"
  | 0x21 :: name => match tagText? name with
    | some s => .path s
    | none => .pathless
  | _ => match tagText? tag with
    | some "tag:yaml.org,2002:bool" => .bool
    | some "tag:yaml.org,2002:int" => .int
    | some "tag:yaml.org,2002:float" => .float
    | some "tag:yaml.org,2002:null" => .null
    | _ => .other

/-- What a scalar says without its tag. -/
def untagged (s : String) (isPlain : Bool) : Document := if isPlain then plain s else .text s

/-- What a scalar says. -/
def scalar (tag : Option TagBytes) (s : String) (isPlain : Bool) : Option Document :=
  match tag.map tagKind with
  | none => some (untagged s isPlain)
  | some .bool => (bool? s).map .bool
  | some .int => int? s
  | some .float => if isFloat s then some .float else none
  | some .null => if isNull s then some .null else none
  | some (.path name) => some ((untagged s isPlain).nested name)
  | some .pathless => some (untagged s isPlain)
  | some .other => some (.text s)

/-! ## Trees -/

mutual

/-- How many marks a tree is written with: one for a scalar or an alias, two for a collection. -/
def Node.marks : Node → Nat
  | .scalar _ _ _ => 1
  | .alias _ => 1
  | .sequence _ items => 2 + Node.marksOfItems items
  | .mapping _ entries => 2 + Node.marksOfEntries entries
termination_by structural n => n

/-- The marks of some nodes. -/
def Node.marksOfItems : List Node → Nat
  | [] => 0
  | n :: rest => n.marks + Node.marksOfItems rest
termination_by structural items => items

/-- The marks of some entries. -/
def Node.marksOfEntries : List (Node × Node) → Nat
  | [] => 0
  | e :: rest => Node.marksOfEntry e + Node.marksOfEntries rest
termination_by structural entries => entries

/-- The marks of an entry. -/
def Node.marksOfEntry : Node × Node → Nat
  | (k, v) => k.marks + v.marks
termination_by structural e => e

end

/-- The nodes of the anchors, and how many aliases may still be followed. -/
structure Aliases where
  nodes : List (Nat × Node)
  left : Nat

/-- Follows an alias. -/
def Aliases.follow (a : Aliases) : Node → Option (Node × Aliases)
  | .alias i =>
    match a.left, a.nodes.lookup i with
    | left + 1, some n => some (n, { a with left })
    | _, _ => none
  | n => some (n, a)

/-- The text of a key. -/
def keyText (a : Aliases) (n : Node) : Option (String × Aliases) := do
  match ← a.follow n with
  | (.scalar _ s _, a) => return (s, a)
  | _ => none

/-- Reads one after another. -/
def readAll {α β : Type} (read : Aliases → α → Option (β × Aliases)) :
    Aliases → List α → Option (List β × Aliases)
  | a, [] => some ([], a)
  | a, x :: xs => do
    let (y, a) ← read a x
    let (ys, a) ← readAll read a xs
    return (y :: ys, a)

/-- Whether a node is a scalar that is not under a path. -/
def isDirect (a : Aliases) (n : Node) : Bool :=
  match a.follow n with
  | some (.scalar tag _ _, _) =>
    match tag.map tagKind with
    | some (.path _) => false
    | _ => true
  | _ => false

/-- An entry of a mapping. -/
def readEntry (read : Aliases → Node → Option (Document × Aliases)) (a : Aliases) (e : Node × Node) :
    Option (Document.Entry × Aliases) := do
  let (k, a) ← keyText a e.1
  let direct := isDirect a e.2
  let (v, a) ← read a e.2
  return (⟨k, v, direct⟩, a)

/-- What a collection says with its tag. -/
def collection (tag : Option TagBytes) (d : Document) : Document :=
  match tag.map tagKind with
  | some (.path name) => d.nested name
  | _ => d

/-- What a node says, with collections nested at most so deep. -/
def document (depth : Nat) (a : Aliases) (n : Node) : Option (Document × Aliases) :=
  match a.follow n with
  | some (.scalar tag s isPlain, a) => (scalar tag s isPlain).map (·, a)
  | some (.sequence tag items, a) =>
    match depth with
    | 0 => none
    | depth + 1 =>
      (readAll (document depth) a items).map fun (items, a) => (collection tag (.list items), a)
  | some (.mapping tag entries, a) =>
    match depth with
    | 0 => none
    | depth + 1 => do
      let (entries, a) ← readAll (readEntry (document depth)) a entries
      return (collection tag (← Document.ofEntries? entries), a)
  | _ => none

/-- How deep collections may nest. -/
def maxDepth : Nat := 128

/-- What the root of a document says, which has to be a mapping of any tag. No key has a meaning of its own
there. A root that is not there is an empty mapping. -/
def rootDocument (n : Node) (nodes : List (Nat × Node)) : Option Document :=
  match n with
  | .scalar _ "" true => some (.map [])
  | .mapping _ entries =>
    (readAll (readEntry (document (maxDepth - 1))) ⟨nodes, 100 * n.marks⟩ entries).map
      fun (entries, _) => Document.ofTop entries
  | _ => none

/-- The document that a text is. A text without a document is an empty mapping. -/
def document? (text : String) : Option Document := do
  match ← root? (← tokens? text) with
  | some (n, nodes) => rootDocument n nodes
  | none => return .map []

end MooWorld.Yaml
