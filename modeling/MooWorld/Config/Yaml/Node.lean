import MooWorld.Config.Yaml.Token
/-!
# YAML nodes

Turns the tokens of a text into the tree of its one document. An anchor is numbered by how many names have
been given before it, and an alias takes the number that its name had last. A name that is given again is
not counted twice, so two anchors may have one number; it then belongs to the one whose node starts last,
even if that is after the alias or inside the other node.
-/
namespace MooWorld.Yaml

/-- A node. -/
inductive Node where
  | scalar (tag : Option TagBytes) (text : String) (plain : Bool)
  | sequence (tag : Option TagBytes) (items : List Node)
  | mapping (tag : Option TagBytes) (entries : List (Node × Node))
  /-- The node of an anchor, by its number. -/
  | alias (anchor : Nat)

/-- A scalar that is not there. -/
def Node.absent : Node := .scalar none "" true

/-- What has been read of a document, and what has not. -/
structure Progress where
  tokens : List Token
  /-- The short forms of tags. -/
  handles : List (String × TagBytes)
  /-- The numbers of the anchors by name, each name once. -/
  names : List (String × Nat) := []
  /-- The number of each anchor, the last one first. -/
  anchors : List Nat := []
  /-- The nodes of the anchors that are complete, by place in the text. -/
  anchored : List (Nat × Node) := []

namespace Progress

/-- The next token. -/
def peek (p : Progress) : Option Token := p.tokens.head?

/-- Goes on by a token. -/
def next (p : Progress) : Progress := { p with tokens := p.tokens.tail }

/-- Whether one of some tokens is next. -/
def sees (p : Progress) (ts : List Token) : Bool := p.peek.any ts.contains

/-- What a node is called. -/
structure Label where
  tag : Option TagBytes := none
  /-- The place of its anchor among all. -/
  anchor : Option Nat := none

/-- The whole tag of a handle and a suffix. -/
def wholeTag (p : Progress) (handle : String) (suffix : TagBytes) : Option TagBytes :=
  if handle.isEmpty then some suffix else (p.handles.lookup handle).map (· ++ suffix)

/-- Declares an anchor. Gives its place among all. -/
def declare (p : Progress) (name : String) : Nat × Progress :=
  let number := p.names.length
  (p.anchors.length, { p with
    names := (name, number) :: p.names.filter (·.1 ≠ name)
    anchors := number :: p.anchors })

/-- The anchor and the tag of a node, in any order. -/
def label (p : Progress) : Option (Label × Progress) :=
  match p.peek with
  | some (.anchor name) => do
    let (n, p) := p.next.declare name
    match p.peek with
    | some (.tag handle suffix) =>
      let tag ← p.wholeTag handle suffix
      return ({ tag := some tag, anchor := some n }, p.next)
    | _ => return ({ anchor := some n }, p)
  | some (.tag handle suffix) => do
    let tag ← p.wholeTag handle suffix
    match p.next.peek with
    | some (.anchor name) =>
      let (n, p) := p.next.next.declare name
      return ({ tag := some tag, anchor := some n }, p)
    | _ => return ({ tag := some tag }, p.next)
  | _ => some ({}, p)

/-- Completes the node of an anchor. -/
def complete (p : Progress) (l : Label) (n : Node) : Node × Progress :=
  match l.anchor with
  | some i => (n, { p with anchored := (i, n) :: p.anchored })
  | none => (n, p)

/-- The nodes of the anchors by number. A number belongs to the last anchor that has it, which comes
first here. -/
def table (p : Progress) : List (Nat × Node) :=
  let places := (List.range p.anchors.length).reverse
  (p.anchors.zip places).filterMap fun (number, place) => (p.anchored.lookup place).map (number, ·)

/-- A reader of a part of the tree. -/
abbrev Reader (α : Type) := Progress → Option (α × Progress)

/-- A node, unless one of some tokens is next. -/
def nodeUnless (node : Reader Node) (ts : List Token) : Reader Node := fun p =>
  if p.sees ts then some (.absent, p) else node p

/-- A value after its mark, if the mark is there. -/
def valueUnless (node : Reader Node) (ts : List Token) : Reader Node := fun p =>
  if p.peek = some .value then nodeUnless node ts p.next else some (.absent, p)

/-- The entries of a sequence in a block. The fuel bounds their number. -/
def blockItems (node : Reader Node) : Nat → Reader (List Node)
  | 0, _ => none
  | fuel + 1, p =>
    match p.peek with
    | some .blockEntry => do
      let (n, p) ← nodeUnless node [.blockEntry, .blockEnd] p.next
      let (rest, p) ← blockItems node fuel p
      return (n :: rest, p)
    | some .blockEnd => some ([], p.next)
    | _ => none

/-- The entries of a sequence that is not indented further than its key. The fuel bounds their
number. -/
def flushItems (node : Reader Node) : Nat → Reader (List Node)
  | 0, _ => none
  | fuel + 1, p =>
    match p.peek with
    | some .blockEntry => do
      let (n, p) ← nodeUnless node [.blockEntry, .key, .value, .blockEnd] p.next
      let (rest, p) ← flushItems node fuel p
      return (n :: rest, p)
    | _ => some ([], p)

/-- The entries of a mapping in a block. The fuel bounds their number. -/
def blockEntries (node : Reader Node) : Nat → Reader (List (Node × Node))
  | 0, _ => none
  | fuel + 1, p =>
    match p.peek with
    | some .key => do
      let (k, p) ← nodeUnless node [.key, .value, .blockEnd] p.next
      let (v, p) ← valueUnless node [.key, .value, .blockEnd] p
      let (rest, p) ← blockEntries node fuel p
      return ((k, v) :: rest, p)
    | some .blockEnd => some ([], p.next)
    | _ => none

/-- A mapping of one entry that stands in brackets without braces, after the mark of its key. -/
def single (node : Reader Node) : Reader Node := fun p => do
  let (k, p) ←
    if p.sees [.value, .flowEntry, .flowSequenceEnd] then pure (Node.absent, p.next) else node p
  let (v, p) ← valueUnless node [.flowEntry, .flowSequenceEnd] p
  return (.mapping none [(k, v)], p)

/-- The items between brackets, with commas between them. The fuel bounds their number. -/
def flowItems (node : Reader Node) : Nat → Bool → Reader (List Node)
  | 0, _, _ => none
  | fuel + 1, first, p =>
    if p.peek = some .flowSequenceEnd then some ([], p.next)
    else do
      let p ← if first then pure p else if p.peek = some .flowEntry then pure p.next else none
      if p.peek = some .flowSequenceEnd then some ([], p.next)
      else
        let (n, p) ← if p.peek = some .key then single node p.next else node p
        let (rest, p) ← flowItems node fuel false p
        return (n :: rest, p)

/-- The entries between braces, with commas between them. A node without the mark of a key has no value.
The fuel bounds their number. -/
def flowEntries (node : Reader Node) : Nat → Bool → Reader (List (Node × Node))
  | 0, _, _ => none
  | fuel + 1, first, p =>
    if p.peek = some .flowMappingEnd then some ([], p.next)
    else do
      let p ← if first then pure p else if p.peek = some .flowEntry then pure p.next else none
      if p.peek = some .flowMappingEnd then some ([], p.next)
      else
        let (e, p) ←
          if p.peek = some .key then do
            let (k, p) ← nodeUnless node [.value, .flowEntry, .flowMappingEnd] p.next
            let (v, p) ← valueUnless node [.flowEntry, .flowMappingEnd] p
            pure ((k, v), p)
          else do
            let (k, p) ← node p
            pure ((k, Node.absent), p)
        let (rest, p) ← flowEntries node fuel false p
        return (e :: rest, p)

/-- Where a node stands, which decides how it may be written. -/
inductive Place where
  /-- In a block. -/
  | block
  /-- In a block as a key or a value, where a sequence need not be indented. -/
  | entry
  /-- Between brackets. -/
  | flow
  deriving DecidableEq

/-- What a node holds, after its label. The fuel bounds the depth. -/
def node : Nat → Place → Reader Node
  | 0, _, _ => none
  | fuel + 1, place, p =>
    match p.peek with
    | some (.alias name) => do return (.alias (← p.names.lookup name), p.next)
    | _ => do
      let (l, p) ← p.label
      let size := p.tokens.length + 1
      let inBlock := place ≠ .flow
      let sequence (r : Option (List Node × Progress)) : Option (Node × Progress) :=
        r.map fun (items, p) => p.complete l (.sequence l.tag items)
      let mapping (r : Option (List (Node × Node) × Progress)) : Option (Node × Progress) :=
        r.map fun (entries, p) => p.complete l (.mapping l.tag entries)
      match p.peek with
      | some (.scalar text plain) => return p.next.complete l (.scalar l.tag text plain)
      | some .flowSequence => sequence (flowItems (node fuel .flow) size true p.next)
      | some .flowMapping => mapping (flowEntries (node fuel .flow) size true p.next)
      | some .blockSequence =>
        if inBlock then sequence (blockItems (node fuel .block) size p.next) else none
      | some .blockMapping =>
        if inBlock then mapping (blockEntries (node fuel .entry) size p.next) else none
      | other =>
        if place = .entry && other = some .blockEntry then
          sequence (flushItems (node fuel .block) size p)
        else if l.tag.isSome || l.anchor.isSome then
          return p.complete l (.scalar l.tag "" true)
        else none

end Progress

/-! ## Documents -/

/-- The short forms of tags that need no directive. -/
def standardHandles : List (String × TagBytes) :=
  [("!", asciiBytes "!"), ("!!", asciiBytes "tag:yaml.org,2002:")]

/-- The directives before a document: at most one version, which is 1.1 or 1.2, and no handle twice.
Gives the handles. -/
def directives : List Token → (versioned : Bool) → List (String × TagBytes) →
    Option (List (String × TagBytes) × List Token)
  | .version major minor :: rest, versioned, handles =>
    if versioned || major ≠ 1 || (minor ≠ 1 && minor ≠ 2) then none else directives rest true handles
  | .handle name start :: rest, versioned, handles =>
    if (handles.lookup name).isSome then none else directives rest versioned (handles ++ [(name, start)])
  | rest, _, handles => some (handles, rest)

/-- The root of the only document, if there is one, with the nodes of the anchors. After it there may be
nothing but marks of its end. -/
def root? (tokens : List Token) : Option (Option (Node × List (Nat × Node))) :=
  let finish (n : Node) (p : Progress) : Option (Option (Node × List (Nat × Node))) :=
    if p.tokens.all (· = .documentEnd) then some (some (n, p.table)) else none
  let content (handles : List (String × TagBytes)) (tokens : List Token) :
      Option (Option (Node × List (Nat × Node))) := do
    let (n, p) ← Progress.node (tokens.length + 1) .block { tokens, handles := handles ++ standardHandles }
    finish n p
  match tokens with
  | [] => some none
  | .version _ _ :: _ | .handle _ _ :: _ | .documentStart :: _ => do
    let (handles, rest) ← directives tokens false []
    match rest with
    | .documentStart :: rest =>
      match rest with
      | [] | .version _ _ :: _ | .handle _ _ :: _ | .documentStart :: _ | .documentEnd :: _ =>
        finish .absent { tokens := rest, handles := [] }
      | _ => content handles rest
    | _ => none
  | _ => content [] tokens

end MooWorld.Yaml
