import MooWorld.Config.Yaml.Token
/-!
# YAML scalars

Scalars are written plain, in single or double quotes, or as a block after an indicator. Inside a plain
or quoted one, blanks around a line break are dropped, a single line break becomes a space, and more of
them lose one. A literal block keeps its lines; a folded one joins those that do not start with a blank.
-/
namespace MooWorld.Yaml

/-! ## Gaps between words -/

/-- The blanks and line breaks between two words. -/
structure Gap where
  /-- The blanks, as long as there is no line break. -/
  blanks : List Char := []
  /-- The first line break and those after it. -/
  breaks : Option (List Char × List Char) := none

namespace Gap

/-- What a gap stands for. -/
def text (g : Gap) : List Char :=
  match g.breaks with
  | none => g.blanks
  | some (first, more) =>
    if first = ['\n'] then (if more.isEmpty then [' '] else more) else first ++ more

/-- Reads a gap. After a line break no tab may stand left of a column, if one is given. The fuel bounds
its length. -/
def read (tabsFrom : Nat) : Nat → Gap → Cursor → Option (Gap × Cursor)
  | 0, g, c => some (g, c)
  | fuel + 1, g, c =>
    match c.peek, g.breaks with
    | none, _ => some (g, c)
    | some x, none =>
      if isBlank x then read tabsFrom fuel { g with blanks := g.blanks ++ [x] } (c.skip 1)
      else if isBreak x then
        let (first, c) := c.breakLine
        read tabsFrom fuel { breaks := some (first, []) } c
      else some (g, c)
    | some x, some (first, more) =>
      if isBlank x then
        if x = '\t' && c.column < tabsFrom then none else read tabsFrom fuel g (c.skip 1)
      else if isBreak x then
        let (next, c) := c.breakLine
        read tabsFrom fuel { breaks := some (first, more ++ next) } c
      else some (g, c)

end Gap

/-! ## Plain scalars -/

/-- A word of a plain scalar and the rest. It ends at a gap, at a colon before a gap, and inside
brackets at a comma or a bracket, where a colon before one of these is refused. -/
def plainWord (inFlow : Bool) : List Char → Option (List Char × List Char)
  | [] => some ([], [])
  | c :: r =>
    if isBlank c || isBreak c || (c = ':' && atGap r) || (inFlow && ",[]\x7b\x7d".toList.contains c) then
      some ([], c :: r)
    else if inFlow && c = ':' && r.head?.any (fun d => ",?[]\x7b\x7d".toList.contains d) then none
    else (plainWord inFlow r).map fun (word, rest) => (c :: word, rest)

/-- The rest of a plain scalar, whose lines start at a column. Gives the text, whether it ended after a
line break, and the place after it. The fuel bounds the number of words. -/
def plainRest (inFlow : Bool) (column : Nat) :
    Nat → List Char → Gap → Cursor → Option (List Char × Bool × Cursor)
  | 0, text, gap, c => some (text, gap.breaks.isSome, c)
  | fuel + 1, text, gap, c =>
    if c.atDocumentMarker || c.isAt '#' then some (text, gap.breaks.isSome, c)
    else do
      let (word, rest) ← plainWord inFlow c.rest
      let c := c.goTo rest
      let (text, gap) := if word.isEmpty then (text, gap) else (text ++ gap.text ++ word, {})
      if c.rest.isEmpty || !atGap c.rest then some (text, gap.breaks.isSome, c)
      else
        let (gap, c) ← gap.read column c.rest.length c
        if !inFlow && c.column < column then some (text, gap.breaks.isSome, c)
        else plainRest inFlow column fuel text gap c

/-- A plain scalar, and whether it ended after a line break. -/
def plainScalar (inFlow : Bool) (column : Nat) (c : Cursor) : Option (Token × Bool × Cursor) := do
  let (text, broken, c) ← plainRest inFlow column (c.rest.length + 1) [] {} c
  return (.scalar (String.ofList text) true, broken, c)

/-! ## Quoted scalars -/

/-- What an escape of one character stands for. -/
def shortEscape? : Char → Option Char
  | '0' => some '\x00'
  | 'a' => some '\x07'
  | 'b' => some '\x08'
  | 't' => some '\t'
  | '\t' => some '\t'
  | 'n' => some '\n'
  | 'v' => some '\x0b'
  | 'f' => some '\x0c'
  | 'r' => some '\r'
  | 'e' => some '\x1b'
  | ' ' => some ' '
  | '"' => some '"'
  | '/' => some '/'
  | '\\' => some '\\'
  | 'N' => some '\u0085'
  | '_' => some '\u00a0'
  | 'L' => some '\u2028'
  | 'P' => some '\u2029'
  | _ => none

/-- How many hexadecimal digits follow an escape. -/
def hexLength? : Char → Option Nat
  | 'x' => some 2
  | 'u' => some 4
  | 'U' => some 8
  | _ => none

/-- The character of an escape, after the backslash. -/
def escape : List Char → Option (Char × List Char)
  | [] => none
  | c :: r =>
    match hexLength? c with
    | none => (shortEscape? c).map (·, r)
    | some n => do
      let digits := r.take n
      let code ← if digits.length = n then Text.hexNumber? digits else none
      if (0xD800 ≤ code && code < 0xE000) || 0x10FFFF < code then none
      else return (Char.ofNat code, r.drop n)

/-- A word of a quoted scalar and the rest. It ends at a gap, at the quote, or in double quotes at a
backslash before a line break. The fuel bounds its length. -/
def quotedWord (quote : Char) : Nat → List Char → Option (List Char × List Char)
  | 0, cs => some ([], cs)
  | _ + 1, [] => some ([], [])
  | fuel + 1, c :: r =>
    if isBlank c || isBreak c then some ([], c :: r)
    else if c = quote then
      match quote, r with
      | '\'', '\'' :: r => (quotedWord quote fuel r).map fun (word, rest) => ('\'' :: word, rest)
      | _, _ => some ([], c :: r)
    else if quote = '"' && c = '\\' then
      if r.head?.any isBreak then some ([], c :: r)
      else do
        let (d, r) ← escape r
        let (word, rest) ← quotedWord quote fuel r
        return (d :: word, rest)
    else (quotedWord quote fuel r).map fun (word, rest) => (c :: word, rest)

/-- The rest of a quoted scalar. A document may not start or end in it. The fuel bounds the number of
words. -/
def quotedRest (quote : Char) : Nat → List Char → Cursor → Option (List Char × Cursor)
  | 0, _, _ => none
  | fuel + 1, text, c =>
    if c.atDocumentMarker then none
    else do
      let (word, rest) ← quotedWord quote c.rest.length c.rest
      let c := c.goTo rest
      let text := text ++ word
      match c.peek with
      | none => none
      | some x =>
        if x = quote then some (text, c.skip 1)
        else
          let (gap, c) : Gap × Cursor :=
            if x = '\\' then ({ breaks := some ([], []) }, (c.skip 1).breakLine.2) else ({}, c)
          if c.isAt quote then some (text, c.skip 1)
          else
            let (gap, c) ← gap.read 0 c.rest.length c
            quotedRest quote fuel (text ++ gap.text) c

/-- A quoted scalar. -/
def quotedScalar (quote : Char) (c : Cursor) : Option (Token × Cursor) := do
  let (text, c) ← quotedRest quote (c.rest.length + 1) [] (c.skip 1)
  return (.scalar (String.ofList text) false, c)

/-! ## Block scalars -/

/-- What becomes of the line breaks at the end of a block. -/
inductive Chomping where
  | strip
  | clip
  | keep

/-- The mark for the line breaks at the end. -/
def chomping? : Option Char → Option Chomping
  | some '+' => some .keep
  | some '-' => some .strip
  | _ => none

/-- The indicators of a block: chomping and indentation, in any order. No block is indented by zero. -/
def blockHeader (c : Cursor) : Option (Chomping × Nat × Cursor) :=
  let indentation (c : Cursor) : Option (Nat × Cursor) :=
    match c.peek with
    | some d =>
      if d = '0' then none
      else if d.isDigit then some (d.toNat - '0'.toNat, c.skip 1) else some (0, c)
    | none => some (0, c)
  match chomping? c.peek with
  | some k => do
    let (n, c) ← indentation (c.skip 1)
    return (k, n, c)
  | none => do
    let (n, after) ← indentation c
    if n = 0 then return (.clip, 0, after)
    else
      match chomping? after.peek with
      | some k => return (k, n, after.skip 1)
      | none => return (.clip, n, after)

/-- The empty lines before a line of a block, whose lines start at a column, or at any if it is zero.
Gives the line breaks and the rightmost column that was reached. No tab may stand left of the column. The
fuel bounds their length. -/
def blockBreaks (column : Nat) : Nat → Nat → List Char → Cursor → Option (List Char × Nat × Cursor)
  | 0, widest, breaks, c => some (breaks, widest, c)
  | fuel + 1, widest, breaks, c =>
    let spaces := c.rest.takeWhile (· = ' ')
    let c := c.skip (if column = 0 then spaces.length else min spaces.length (column - c.column))
    let widest := max widest c.column
    if (column = 0 || c.column < column) && c.isAt '\t' then none
    else if c.peek.any isBreak then
      let (line, c) := c.breakLine
      blockBreaks column fuel widest (breaks ++ line) c
    else some (breaks, widest, c)

/-- The lines of a block. The break before a line is joined to it as a space if both lines are folded and
no empty line stands between. Gives the text, the last line break and the empty lines after it. The fuel
bounds the number of lines. -/
def blockLines (folded : Bool) (column : Nat) :
    Nat → List Char → (last : List Char) → (blank : Bool) → (breaks : List Char) → Cursor →
      Option (List Char × List Char × List Char × Cursor)
  | 0, text, last, _, breaks, c => some (text, last, breaks, c)
  | fuel + 1, text, last, blank, breaks, c =>
    if c.column ≠ column || c.rest.isEmpty then some (text, last, breaks, c)
    else do
      let blankHere := c.peek.any isBlank
      let joint :=
        if folded && last = ['\n'] && !blank && !blankHere then (if breaks.isEmpty then [' '] else [])
        else last
      let (line, c) := c.span fun _ => true
      let text := text ++ joint ++ breaks ++ line
      let (last, c) := if c.rest.isEmpty then ([], c) else c.breakLine
      let (breaks, _, c) ← blockBreaks column (c.rest.length + 1) 0 [] c
      blockLines folded column fuel text last blankHere breaks c

/-- A block scalar inside a block that is indented by some columns, or by less than zero at the top. -/
def blockScalar (folded : Bool) (indent : Int) (c : Cursor) : Option (Token × Cursor) := do
  let (chomping, offset, c) ← blockHeader (c.skip 1)
  let c := c.skipBlanks.skipComment
  if !atGap c.rest then none
  else
    let c := c.breakLine.2
    let given := if offset = 0 then 0 else (max indent 0).toNat + offset
    let (breaks, widest, c) ← blockBreaks given (c.rest.length + 1) 0 [] c
    let column := if given = 0 then max widest (max (indent + 1) 1).toNat else given
    let (text, last, breaks, c) ← blockLines folded column (c.rest.length + 1) [] [] false breaks c
    let text := match chomping with
      | .strip => text
      | .clip => text ++ last
      | .keep => text ++ last ++ breaks
    return (.scalar (String.ofList text) false, c)

end MooWorld.Yaml
