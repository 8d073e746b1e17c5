import MooWorld.Config.Document
import MooWorld.Config.Yaml.Cursor
/-!
# YAML tokens

The tokens of a text. Collections that are told by indentation have tokens of their own where they start
and end.
-/
namespace MooWorld.Yaml

/-- The bytes of a tag, which need not be those of a text. -/
abbrev TagBytes := List UInt8

/-- A token. -/
inductive Token where
  /-- The version that a document claims. -/
  | version (major minor : Nat)
  /-- A short form of tags. -/
  | handle (name : String) (start : TagBytes)
  | documentStart
  | documentEnd
  | blockSequence
  | blockMapping
  | blockEnd
  | flowSequence
  | flowSequenceEnd
  | flowMapping
  | flowMappingEnd
  | blockEntry
  | flowEntry
  | key
  | value
  | alias (name : String)
  | anchor (name : String)
  /-- A tag by its handle and what follows it. -/
  | tag (handle : String) (suffix : TagBytes)
  /-- A scalar; a plain one has neither quotes nor an indicator. -/
  | scalar (text : String) (plain : Bool)
  deriving DecidableEq

/-! ## Names and tags -/

/-- The name of an anchor or an alias, after its mark. -/
def anchorName (c : Cursor) : Option (String × Cursor) :=
  let (name, c) := c.span isNameChar
  let ends := atGap c.rest || c.peek.any fun x => "?:,]\x7d%@`".toList.contains x
  if name.isEmpty || !ends then none else some (String.ofList name, c)

/-- The characters of tags that stand for themselves. Some only do where no collection can be open. -/
def isTagChar (wide : Bool) (c : Char) : Bool :=
  isNameChar c || ";/?:@&=+$.!~*'()".toList.contains c || (wide && ",[]".toList.contains c)

/-- How many bytes of the form `10xxxxxx` have to follow a byte, when some still have to come. -/
def trailing? (due byte : Nat) : Option Nat :=
  match due with
  | 0 =>
    if byte < 0x80 then some 0
    else if 0xC0 ≤ byte && byte < 0xE0 then some 1
    else if 0xE0 ≤ byte && byte < 0xF0 then some 2
    else if 0xF0 ≤ byte && byte < 0xF8 then some 3
    else none
  | due + 1 => if 0x80 ≤ byte && byte < 0xC0 then some due else none

/-- The bytes of a tag, with those written in hexadecimal after a percent sign. Of these, the first of a
character says how many others follow at once. The fuel bounds their number. -/
def tagBytes (wide : Bool) : Nat → (due : Nat) → List Char → Option (TagBytes × List Char)
  | 0, _, cs => some ([], cs)
  | fuel + 1, due, cs =>
    match cs with
    | '%' :: a :: b :: r => do
      let n ← Text.hexNumber? [a, b]
      let (bytes, rest) ← tagBytes wide fuel (← trailing? due n) r
      return (n.toUInt8 :: bytes, rest)
    | '%' :: _ => none
    | _ =>
      if due ≠ 0 then none
      else
        match cs with
        | c :: r =>
          if isTagChar wide c then do
            let (bytes, rest) ← tagBytes wide fuel 0 r
            return (c.toNat.toUInt8 :: bytes, rest)
          else some ([], cs)
        | [] => some ([], [])

/-- The bytes of a tag before the first that is zero. The others do not count. -/
def untilZero (bytes : TagBytes) : TagBytes := bytes.takeWhile (· ≠ 0)

/-- The rest of a tag from here on, whether anything is there, and the place after it. -/
def tagRest (wide : Bool) (c : Cursor) : Option (TagBytes × Bool × Cursor) := do
  let (bytes, rest) ← tagBytes wide (c.rest.length + 1) 0 c.rest
  return (untilZero bytes, !bytes.isEmpty, c.goTo rest)

/-- The bytes of a text of ASCII characters. -/
def asciiBytes (s : String) : TagBytes := s.toList.map (·.toNat.toUInt8)

/-- The handle of a tag: an exclamation mark, or a name between two. -/
def tagHandle (c : Cursor) : Option (String × Cursor) :=
  if !c.isAt '!' then none
  else
    let (name, after) := (c.skip 1).span isNameChar
    if after.isAt '!' then some (String.ofList ('!' :: name ++ ['!']), after.skip 1)
    else some (String.ofList ('!' :: name), after)

/-- A tag. A lone exclamation mark is a tag without a handle. -/
def tag (inFlow : Bool) (c : Cursor) : Option (Token × Cursor) := do
  let (token, c) ←
    if (c.rest.drop 1).head? = some '<' then do
      let (whole, found, c) ← tagRest true (c.skip 2)
      if !found || !c.isAt '>' then none
      else pure (Token.tag "" whole, c.skip 1)
    else do
      let (handle, after) ← tagHandle c
      if 1 < handle.length && handle.endsWith "!" then
        let (suffix, found, c) ← tagRest false after
        if !found then none else pure (Token.tag handle suffix, c)
      else
        let (more, _, c) ← tagRest false after
        let suffix := asciiBytes (String.ofList (handle.toList.drop 1)) ++ more
        pure (if suffix.isEmpty then Token.tag "" (asciiBytes "!") else Token.tag "!" suffix, c)
  if atGap c.rest || (inFlow && c.isAt ',') then some (token, c) else none

/-! ## Directives -/

/-- A number of at most nine digits. -/
def versionNumber (c : Cursor) : Option (Nat × Cursor) :=
  let (digits, c) := c.span Char.isDigit
  if digits.isEmpty || 9 < digits.length then none
  else some (digits.foldl (fun n d => n * 10 + (d.toNat - '0'.toNat)) 0, c)

/-- The version that a document claims. -/
def versionDirective (c : Cursor) : Option (Token × Cursor) := do
  let (major, c) ← versionNumber c.skipBlanks
  if !c.isAt '.' then none
  else
    let (minor, c) ← versionNumber (c.skip 1)
    return (.version major minor, c)

/-- A short form of tags. -/
def handleDirective (c : Cursor) : Option (Token × Cursor) := do
  let (name, c) ← tagHandle c.skipBlanks
  if (name ≠ "!" && !name.endsWith "!") || !(c.peek.any isBlank) then none
  else
    let (start, found, c) ← tagRest true c.skipBlanks
    if !found || !atGap c.rest then none else return (.handle name start, c)

/-- A directive, to the end of its line. -/
def directive (c : Cursor) : Option (Token × Cursor) := do
  let (name, c) := (c.skip 1).span isNameChar
  if name.isEmpty || !atGap c.rest then none
  else
    let (token, c) ← match String.ofList name with
      | "YAML" => versionDirective c
      | "TAG" => handleDirective c
      | _ => none
    let c := c.skipBlanks.skipComment
    match c.peek with
    | none => some (token, c)
    | some x => if isBreak x then some (token, c.breakLine.2) else none

end MooWorld.Yaml
