import MooWorld.Value.Basic
/-!
# Hash streams

The bytes by which a value is hashed: its rank, then its content, numbers in little-endian order.
Strings and names give the bytes of their case foldings and a byte that no text holds, which marks their
end; errors give only their code, and a flyweight gives its slots without their number.

A stream is written in front of the one that follows it, so that it takes time in proportion to its length.
-/
namespace MooWorld.Value

/-- The `n` lowest bytes of a number, the lowest first, and a stream after them. -/
def littleEndian : Nat → Nat → List UInt8 → List UInt8
  | 0, _, rest => rest
  | n + 1, x, rest => UInt8.ofNat (x % 256) :: littleEndian n (x / 256) rest

/-- The byte after a text. -/
def textEnd : UInt8 := 0xFF

/-- The bytes of a folded text, with the mark of its end, and a stream after them. -/
def textBytes (folded : List Char) (rest : List UInt8) : List UInt8 :=
  (String.ofList folded).toUTF8.data.toList ++ textEnd :: rest

/-- The bytes of an error code, its rank and the name of a custom one, and a stream after them. -/
def codeBytes (c : ErrorCode) (rest : List UInt8) : List UInt8 :=
  littleEndian 8 c.rank (if c.isCustom then textBytes c.customKey rest else rest)

mutual

/-- The bytes of a value, and a stream after them. -/
def hashInto : Value → List UInt8 → List UInt8
  | .none, rest => 0 :: rest
  | .bool b, rest => 1 :: (if b then 1 else 0) :: rest
  | .obj o, rest => 2 :: littleEndian 4 o.id.toUInt32.toNat rest
  | .int i, rest => 3 :: littleEndian 8 i.toUInt64.toNat rest
  | .float x, rest => 4 :: littleEndian 8 x.bits.toNat rest
  | .list items, rest => 5 :: littleEndian 8 items.length (hashList items rest)
  | .str s, rest => 6 :: textBytes (Text.fold s) rest
  | .map entries, rest => 7 :: littleEndian 8 entries.length (hashEntries entries rest)
  | .err code _ _, rest => 8 :: codeBytes code rest
  | .flyweight d slots contents, rest =>
    9 :: littleEndian 4 d.id.toUInt32.toNat
      (hashSlots slots (littleEndian 8 contents.length (hashList contents rest)))
termination_by structural a => a

/-- The bytes of the elements, one after another. -/
def hashList : List Value → List UInt8 → List UInt8
  | [], rest => rest
  | v :: vs, rest => hashInto v (hashList vs rest)
termination_by structural a => a

/-- Keys and values in turn. -/
def hashEntries : List (Value × Value) → List UInt8 → List UInt8
  | [], rest => rest
  | (k, v) :: es, rest => hashInto k (hashInto v (hashEntries es rest))
termination_by structural a => a

/-- Folded names and values in turn. -/
def hashSlots : List (Symbol × Value) → List UInt8 → List UInt8
  | [], rest => rest
  | (k, v) :: slots, rest => textBytes k.folded (hashInto v (hashSlots slots rest))
termination_by structural a => a

end

/-- The hash stream of a value. -/
def hashBytes (v : Value) : List UInt8 := hashInto v []

end MooWorld.Value
