import MooWorld.Config.Document
import MooWorld.Number.Decimal
/-!
# JSON documents

A strict reader of the notation: no comments, no comma before a closing bracket, nothing after the
document, no control characters in strings, no unpaired surrogates. Containers nest at most 127 deep.

Whole numbers keep their value if they fit 64 bits, with or without a sign; minus zero and all others
are floats. A float is the product of a significand of 64 bits and a power of ten, and is refused if that
is too large for a double.
-/
namespace MooWorld.Json

/-- A reader: what it read, and the rest. -/
abbrev Reader (α : Type) := List Char → Option (α × List Char)

/-- The blanks between tokens. -/
def isBlank (c : Char) : Bool := c = ' ' || c = '\n' || c = '\t' || c = '\r'

/-- Skips blanks. -/
def skip (cs : List Char) : List Char := cs.dropWhile isBlank

/-! ## Numbers -/

/-- The digits after a point, which are there if the point is. -/
def fraction : Reader (Option (List Char))
  | '.' :: r =>
    let digits := r.takeWhile Char.isDigit
    if digits.isEmpty then none else some (some digits, r.dropWhile Char.isDigit)
  | cs => some (none, cs)

/-- The exponent, if there is one. -/
def exponent : Reader (Option Int)
  | c :: r =>
    if c = 'e' || c = 'E' then (Decimal.exponent? r).map fun (e, rest) => (some e, rest)
    else some (none, c :: r)
  | [] => some (none, [])

/-- The whole part: a zero, or digits that do not start with one. -/
def whole : Reader (List Char) := fun cs =>
  match cs.takeWhile Char.isDigit with
  | [] => none
  | ['0'] => some (['0'], cs.dropWhile Char.isDigit)
  | '0' :: _ => none
  | digits => some (digits, cs.dropWhile Char.isDigit)

/-- A whole number, if it fits 64 bits. -/
def integer? (negative : Bool) (digits : List Char) : Option Document :=
  let n := Decimal.natOf digits
  if negative then
    if 0 < n && n ≤ Nat.pow 2 63 then some (.negative n) else none
  else if n < UInt64.size then some (.nat n) else none

/-- Adds digits to a significand as long as it fits 64 bits. Gives the digits that are left. -/
def extend (significand : Nat) : List Char → Nat × List Char
  | [] => (significand, [])
  | c :: r =>
    let n := significand * 10 + (c.toNat - '0'.toNat)
    if n < UInt64.size then extend n r else (significand, c :: r)

/-- The decimal that a float is read as. The digits that are left over count for their places before the
point, and for nothing after it. -/
def decimal (whole fraction : List Char) (exponent : Int) : Decimal :=
  let (n, places) := extend 0 whole
  let (n, ignored) := extend n fraction
  ⟨n, exponent + places.length + ignored.length - fraction.length⟩

/-- A number after its sign. -/
def unsignedNumber (negative : Bool) : Reader Document := fun cs => do
  let (digits, cs) ← whole cs
  let (frac, cs) ← fraction cs
  let (exp, cs) ← exponent cs
  match frac, exp, integer? negative digits with
  | none, none, some d => return (d, cs)
  | _, _, _ =>
    if (decimal digits (frac.getD []) (exp.getD 0)).isFiniteScaled then return (.float, cs) else none

/-! ## Strings -/

/-- Four hexadecimal digits. -/
def hexUnit : Reader Nat
  | a :: b :: c :: d :: rest => (Text.hexNumber? [a, b, c, d]).map (·, rest)
  | _ => none

/-- The character of an escape that is written in hexadecimal. A character beyond the first 65536 is
written as two halves. -/
def hexEscape : Reader Char := fun cs => do
  let (n, cs) ← hexUnit cs
  if 0xDC00 ≤ n && n < 0xE000 then none
  else if 0xD800 ≤ n && n < 0xDC00 then
    match cs with
    | '\\' :: 'u' :: r =>
      let (m, cs) ← hexUnit r
      if 0xDC00 ≤ m && m < 0xE000 then
        return (Char.ofNat (0x10000 + (n - 0xD800) * 0x400 + (m - 0xDC00)), cs)
      else none
    | _ => none
  else return (Char.ofNat n, cs)

/-- The character of an escape. -/
def escape : Reader Char
  | '"' :: r => some ('"', r)
  | '\\' :: r => some ('\\', r)
  | '/' :: r => some ('/', r)
  | 'b' :: r => some ('\x08', r)
  | 'f' :: r => some ('\x0c', r)
  | 'n' :: r => some ('\n', r)
  | 'r' :: r => some ('\r', r)
  | 't' :: r => some ('\t', r)
  | 'u' :: r => hexEscape r
  | _ => none

/-- A string after its opening quote. The fuel bounds its length. -/
def stringRest : Nat → Reader (List Char)
  | 0, _ => none
  | _ + 1, [] => none
  | fuel + 1, c :: r =>
    if c = '"' then some ([], r)
    else if c = '\\' then do
      let (d, r) ← escape r
      let (s, r) ← stringRest fuel r
      return (d :: s, r)
    else if c.toNat < 0x20 then none
    else do
      let (s, r) ← stringRest fuel r
      return (c :: s, r)

/-- A string. -/
def string : Reader String
  | '"' :: r => (stringRest (r.length + 1) r).map fun (s, rest) => (String.ofList s, rest)
  | _ => none

/-! ## Containers -/

/-- Items with commas between them, and a closing bracket. The fuel bounds their number. -/
def sequence {α : Type} (close : Char) (item : Reader α) : Nat → Reader (List α)
  | 0, _ => none
  | fuel + 1, cs => do
    let (a, cs) ← item cs
    match skip cs with
    | ',' :: r => do
      let (rest, cs) ← sequence close item fuel (skip r)
      return (a :: rest, cs)
    | c :: r => if c = close then some ([a], r) else none
    | [] => none

/-- A container after its opening bracket. -/
def container {α : Type} (close : Char) (item : Reader α) : Reader (List α) := fun cs =>
  match skip cs with
  | c :: r => if c = close then some ([], r) else sequence close item (r.length + 1) (c :: r)
  | [] => none

/-- Whether an object starts here. -/
def isObject : List Char → Bool
  | '{' :: _ => true
  | _ => false

/-- An entry of an object. -/
def entry (value : Reader Document) : Reader Document.Entry := fun cs => do
  let (key, cs) ← string cs
  match skip cs with
  | ':' :: r =>
    let r := skip r
    let (v, cs) ← value r
    return (⟨key, v, !isObject r⟩, cs)
  | _ => none

/-- A value. The depth is how deep containers may nest in it. -/
def value (depth : Nat) : Reader Document := fun cs =>
  match cs with
  | 'n' :: 'u' :: 'l' :: 'l' :: r => some (.null, r)
  | 't' :: 'r' :: 'u' :: 'e' :: r => some (.bool true, r)
  | 'f' :: 'a' :: 'l' :: 's' :: 'e' :: r => some (.bool false, r)
  | '"' :: _ => (string cs).map fun (s, rest) => (.text s, rest)
  | '-' :: r => unsignedNumber true r
  | '[' :: r =>
    match depth with
    | 0 => none
    | depth + 1 => (container ']' (value depth) r).map fun (items, rest) => (.list items, rest)
  | '{' :: r =>
    match depth with
    | 0 => none
    | depth + 1 => do
      let (es, rest) ← container '}' (entry (value depth)) r
      return (← Document.ofEntries? es, rest)
  | _ => unsignedNumber false cs

/-- How deep containers may nest. -/
def maxDepth : Nat := 127

/-- The top of a document, where no key has a meaning of its own. -/
def top : Reader Document
  | '{' :: r =>
    (container '}' (entry (value (maxDepth - 1))) r).map fun (es, rest) => (Document.ofTop es, rest)
  | cs => value maxDepth cs

/-- The document that a text is. -/
def document? (text : String) : Option Document :=
  match top (skip text.toList) with
  | some (d, rest) => if (skip rest).isEmpty then some d else none
  | none => none

end MooWorld.Json
