/-!
# Places in a YAML text

A cursor is a place in the text with its index, counted in bytes, and its line and column, counted in
characters. Five characters end a line; a carriage return with a line feed after it ends one line.
-/
namespace MooWorld.Yaml

/-- The characters that a text may hold. -/
def isPrintable (c : Char) : Bool :=
  let n := c.toNat
  n = 0x09 || n = 0x0A || n = 0x0D || (0x20 ≤ n && n ≤ 0x7E) || n = 0x85 ||
    (0xA0 ≤ n && n ≤ 0xD7FF) || (0xE000 ≤ n && n ≤ 0xFFFD) || 0x10000 ≤ n

/-- The characters that end a line. -/
def isBreak (c : Char) : Bool :=
  c = '\n' || c = '\r' || c = '\u0085' || c = '\u2028' || c = '\u2029'

/-- A space or a tab. -/
def isBlank (c : Char) : Bool := c = ' ' || c = '\t'

/-- Whether a word is over: at a blank, a line break or the end of the text. -/
def atGap (cs : List Char) : Bool := cs.head?.all fun c => isBlank c || isBreak c

/-- Letters, digits, the underscore and the hyphen, which names are made of. -/
def isNameChar (c : Char) : Bool := c.isAlphanum || c = '_' || c = '-'

/-- The number of bytes of some characters. -/
def byteCount (cs : List Char) : Nat := cs.foldl (fun n c => n + c.utf8Size) 0

/-- A place in a text. -/
structure Cursor where
  rest : List Char
  index : Nat := 0
  line : Nat := 0
  column : Nat := 0

namespace Cursor

/-- The character here. -/
def peek (c : Cursor) : Option Char := c.rest.head?

/-- Whether a certain character is here. -/
def isAt (c : Cursor) (x : Char) : Bool := c.peek = some x

/-- Goes on by some characters of the line. -/
def skip (c : Cursor) (n : Nat) : Cursor :=
  { c with
    rest := c.rest.drop n
    index := c.index + byteCount (c.rest.take n)
    column := c.column + n }

/-- Goes on to a place of the same line, given by the text from there. -/
def goTo (c : Cursor) (rest : List Char) : Cursor := c.skip (c.rest.length - rest.length)

/-- Goes past the line break here. Gives what it stands for in a scalar: a line feed, but the two
Unicode separators stand for themselves. -/
def breakLine (c : Cursor) : List Char × Cursor :=
  match c.rest with
  | '\r' :: '\n' :: r => (['\n'], { rest := r, index := c.index + 2, line := c.line + 1 })
  | x :: r =>
    ([if x = '\u2028' || x = '\u2029' then x else '\n'],
      { rest := r, index := c.index + x.utf8Size, line := c.line + 1 })
  | [] => ([], c)

/-- The characters of the line from here on that have a property, and the place after them. -/
def span (p : Char → Bool) (c : Cursor) : List Char × Cursor :=
  let word := c.rest.takeWhile fun x => !isBreak x && p x
  (word, c.skip word.length)

/-- Skips blanks. -/
def skipBlanks (c : Cursor) : Cursor := (c.span isBlank).2

/-- Skips a byte order mark at the start of a line. -/
def skipMark (c : Cursor) : Cursor := if c.column = 0 && c.isAt '\ufeff' then c.skip 1 else c

/-- Skips a comment. -/
def skipComment (c : Cursor) : Cursor := if c.isAt '#' then (c.span fun _ => true).2 else c

/-- Whether a line starts here with three equal characters that stand alone. -/
def atMarker (x : Char) (c : Cursor) : Bool :=
  c.column = 0 && c.rest.take 3 = [x, x, x] && atGap (c.rest.drop 3)

/-- Whether a document starts or ends here. -/
def atDocumentMarker (c : Cursor) : Bool := c.atMarker '-' || c.atMarker '.'

end Cursor

end MooWorld.Yaml
