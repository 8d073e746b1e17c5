import MooWorld.Config.Yaml.Scalar
/-!
# The layout of a YAML text

Turns a text into its tokens. Block collections are told by indentation: a collection starts where an
entry or a key stands further right than the enclosing block, and ends where something stands further
left. A key is often seen as one only at the colon after it, so the place of the last token that may turn
out to be a key is remembered, for each open bracket; the tokens that belong before it are then put in
there. A key has to be on one line and at most 1024 bytes long.
-/
namespace MooWorld.Yaml

/-- A token that may turn out to be a key. -/
structure Candidate where
  /-- The number of the token. -/
  token : Nat
  /-- Whether nothing but a key can stand there. -/
  required : Bool
  index : Nat
  line : Nat
  column : Nat

/-- How far a text has been turned into tokens. -/
structure Layout where
  cursor : Cursor
  tokens : Array Token := #[]
  /-- The column of the present block; less than zero at the top. -/
  indent : Int := -1
  /-- The columns of the blocks around it, innermost first. -/
  outer : List Int := []
  /-- Whether a key may start here. -/
  keyAllowed : Bool := true
  /-- The candidate outside all brackets. -/
  candidate : Option Candidate := none
  /-- The candidates around the open brackets, innermost first; the present one is kept apart. -/
  brackets : List (Option Candidate) := []

namespace Layout

/-- Whether a bracket is open. -/
def inFlow (l : Layout) : Bool := !l.brackets.isEmpty

/-- Adds a token. -/
def emit (l : Layout) (t : Token) : Layout := { l with tokens := l.tokens.push t }

/-- Adds a token and goes on by some characters. -/
def take (l : Layout) (t : Token) (n : Nat) : Layout := { l.emit t with cursor := l.cursor.skip n }

/-- Puts a token in at a place. -/
def insertAt (l : Layout) (i : Nat) (t : Token) : Layout :=
  { l with tokens := l.tokens.extract 0 i ++ #[t] ++ l.tokens.extract i l.tokens.size }

/-- Says whether a key may start next. -/
def allowKey (l : Layout) (b : Bool) : Layout := { l with keyAllowed := b }

/-- Gives up the candidate, which is refused if it has to be a key. -/
def dropCandidate (l : Layout) : Option Layout :=
  if l.candidate.any (·.required) then none else some { l with candidate := none }

/-- Remembers the token that comes next as a candidate, if a key may start here. -/
def remember (l : Layout) : Option Layout :=
  if !l.keyAllowed then some l
  else do
    let l ← l.dropCandidate
    let c := l.cursor
    return { l with
      candidate := some {
        token := l.tokens.size
        required := !l.inFlow && l.indent = c.column
        index := c.index
        line := c.line
        column := c.column } }

/-- Whether a candidate is too far back to be a key. -/
def isStale (c : Cursor) (k : Candidate) : Bool := k.line < c.line || k.index + 1024 < c.index

/-- Gives up the candidate if it is too far back. -/
def dropStale (l : Layout) : Option Layout :=
  if l.candidate.any (isStale l.cursor) then l.dropCandidate else some l

/-- Opens a block at a column that is further right than the present one. -/
def openBlock (l : Layout) (column : Nat) (place : Nat) (t : Token) : Layout :=
  if l.inFlow || (column : Int) ≤ l.indent then l
  else { l.insertAt place t with indent := column, outer := l.indent :: l.outer }

/-- Closes the blocks that are further right than a column. -/
def closeBlocks (column : Int) (l : Layout) : Layout :=
  if l.inFlow then l
  else
    let closed := (l.indent :: l.outer).takeWhile (column < ·)
    let kept := (l.indent :: l.outer).dropWhile (column < ·)
    { l with
      tokens := l.tokens ++ (closed.map fun _ => Token.blockEnd).toArray
      indent := kept.head?.getD (-1)
      outer := kept.tail }

/-- Skips blanks, comments and line breaks to the next token, and the byte order mark that a line may
start with. Outside brackets a key may start on a new line, and a tab may not stand where one may. The
fuel bounds the number of lines. -/
def skipToToken : Nat → Layout → Layout
  | 0, l => l
  | fuel + 1, l =>
    let tabs := l.inFlow || !l.keyAllowed
    let c := (l.cursor.skipMark.span fun x => x = ' ' || (tabs && x = '\t')).2.skipComment
    if c.peek.any isBreak then
      skipToToken fuel { l with cursor := c.breakLine.2, keyAllowed := l.keyAllowed || !l.inFlow }
    else { l with cursor := c }

/-! ## One token -/

/-- A token that cannot be part of a block. -/
def standalone (l : Layout) : Option Layout := do
  let l ← (l.closeBlocks (-1)).dropCandidate
  return l.allowKey false

/-- The start of a collection in brackets. -/
def openBracket (t : Token) (l : Layout) : Option Layout := do
  let l ← l.remember
  return { (l.take t 1).allowKey true with candidate := none, brackets := l.candidate :: l.brackets }

/-- The end of a collection in brackets. -/
def closeBracket (t : Token) (l : Layout) : Option Layout := do
  let l ← l.dropCandidate
  let l := match l.brackets with
    | k :: rest => { l with candidate := k, brackets := rest }
    | [] => l
  return (l.take t 1).allowKey false

/-- A comma between brackets. -/
def flowEntry (l : Layout) : Option Layout := do
  let l ← l.dropCandidate
  return (l.take .flowEntry 1).allowKey true

/-- The mark of an entry or of a key, which may open a block. -/
def openEntry (block entry : Token) (allow : Bool) (l : Layout) : Option Layout := do
  let l ← if l.inFlow then pure l
    else if l.keyAllowed then pure (l.openBlock l.cursor.column l.tokens.size block)
    else none
  let l ← l.dropCandidate
  return (l.take entry 1).allowKey allow

/-- The colon before a value. If there is a candidate, it is the key. -/
def value (l : Layout) : Option Layout :=
  match l.candidate with
  | some k =>
    let l := (l.insertAt k.token .key).openBlock k.column k.token .blockMapping
    some { (l.take .value 1).allowKey false with candidate := none }
  | none => do
    let l ← if l.inFlow then pure l
      else if l.keyAllowed then pure (l.openBlock l.cursor.column l.tokens.size .blockMapping)
      else none
    return (l.take .value 1).allowKey (!l.inFlow)

/-- A token that may be a key, read from the cursor. -/
def keyLike (read : Cursor → Option (Token × Cursor)) (l : Layout) : Option Layout := do
  let l ← l.remember
  let (t, cursor) ← read l.cursor
  return { (l.emit t).allowKey false with cursor }

/-- A plain scalar. After a line break in its end a key may start. -/
def plain (l : Layout) : Option Layout := do
  let l ← l.remember
  let (t, broken, cursor) ← plainScalar l.inFlow (l.indent + 1).toNat l.cursor
  return { (l.emit t).allowKey broken with cursor }

/-- A block scalar, after which a key may start. -/
def block (folded : Bool) (l : Layout) : Option Layout := do
  let l ← l.dropCandidate
  let (t, cursor) ← blockScalar folded l.indent l.cursor
  return { (l.emit t).allowKey true with cursor }

/-- Whether a plain scalar may start with a character, given what follows. -/
def startsPlain (inFlow : Bool) (c : Char) (rest : List Char) : Bool :=
  !(isBlank c || isBreak c || "-?:,[]\x7b\x7d#&*!|>'\"%@`".toList.contains c) ||
    (c = '-' && !rest.head?.any isBlank) ||
    (!inFlow && (c = '?' || c = ':') && !atGap rest)

/-- A name after its mark. -/
def named (token : String → Token) (c : Cursor) : Option (Token × Cursor) :=
  (anchorName (c.skip 1)).map fun (name, c) => (token name, c)

/-- The token that starts with a character. -/
def token (x : Char) (rest : List Char) (l : Layout) : Option Layout :=
  let c := l.cursor
  if c.column = 0 && x = '%' then do
    let l ← l.standalone
    let (t, cursor) ← directive l.cursor
    return { l.emit t with cursor }
  else if c.atMarker '-' then l.standalone.map (·.take .documentStart 3)
  else if c.atMarker '.' then l.standalone.map (·.take .documentEnd 3)
  else if x = '[' then l.openBracket .flowSequence
  else if x = '{' then l.openBracket .flowMapping
  else if x = ']' then l.closeBracket .flowSequenceEnd
  else if x = '}' then l.closeBracket .flowMappingEnd
  else if x = ',' then l.flowEntry
  else if x = '-' && atGap rest then l.openEntry .blockSequence .blockEntry true
  else if x = '?' && (l.inFlow || atGap rest) then l.openEntry .blockMapping .key (!l.inFlow)
  else if x = ':' && (l.inFlow || atGap rest) then l.value
  else if x = '*' then l.keyLike (named .alias)
  else if x = '&' then l.keyLike (named .anchor)
  else if x = '!' then l.keyLike (tag l.inFlow)
  else if x = '|' && !l.inFlow then l.block false
  else if x = '>' && !l.inFlow then l.block true
  else if x = '\'' || x = '"' then l.keyLike (quotedScalar x)
  else if startsPlain l.inFlow x rest then l.plain
  else none

/-- The end of the text, which is the start of a line. -/
def finish (l : Layout) : Option Layout :=
  let c := l.cursor
  ({ l with cursor := if c.column = 0 then c else { c with line := c.line + 1, column := 0 } }).standalone

/-- All tokens. The fuel bounds their number. -/
def run : Nat → Layout → Option Layout
  | 0, _ => none
  | fuel + 1, l => do
    let l := l.skipToToken (l.cursor.rest.length + 1)
    let l ← l.dropStale
    let l := l.closeBlocks l.cursor.column
    match l.cursor.rest with
    | [] => l.finish
    | x :: rest => run fuel (← l.token x rest)

end Layout

/-- The tokens of a text. -/
def tokens? (text : String) : Option (List Token) :=
  let cs := text.toList
  if !cs.all isPrintable then none
  else (Layout.run (cs.length + 1) { cursor := { rest := cs } }).map (·.tokens.toList)

end MooWorld.Yaml
