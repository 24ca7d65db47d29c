import Ipsec.Bytes

/-!
# The AES block cipher

A `Block` is a square of sixteen bytes, held as four `Column`s. A round substitutes every byte,
shifts the rows, mixes each column and adds a round key. `Schedule.encrypt` and
`Schedule.decrypt` run the rounds of an expanded key forwards and backwards, and
`Schedule.ofKey?` expands keys of 16 and 32 bytes.
-/

namespace Ipsec.Aes

/-! ## Columns -/

/-- Four bytes of a block, top row first. -/
structure Column where
  /-- The byte in the top row. -/
  r0 : UInt8
  /-- The byte in the second row. -/
  r1 : UInt8
  /-- The byte in the third row. -/
  r2 : UInt8
  /-- The byte in the bottom row. -/
  r3 : UInt8
deriving DecidableEq, Repr, Inhabited

namespace Column

/-- Adds two columns byte by byte. -/
def xor (a b : Column) : Column :=
  ⟨a.r0 ^^^ b.r0, a.r1 ^^^ b.r1, a.r2 ^^^ b.r2, a.r3 ^^^ b.r3⟩

/-- Applies a function to every byte. -/
def map (f : UInt8 → UInt8) (a : Column) : Column :=
  ⟨f a.r0, f a.r1, f a.r2, f a.r3⟩

/-- The bytes, top row first. -/
def toBytes (a : Column) : Bytes :=
  [a.r0, a.r1, a.r2, a.r3]

end Column

/-! ## Arithmetic of bytes

Bytes are polynomials over the field of two elements, modulo x⁸ + x⁴ + x³ + x + 1. Addition is
exclusive or. Every product that the cipher needs is a sum of repeated doublings. -/

/-- The product with x. -/
def double (b : UInt8) : UInt8 :=
  (b <<< 1) ^^^ (if b < 0x80 then 0 else 0x1b)

/-- The product with x³. -/
def octuple (b : UInt8) : UInt8 :=
  double (double (double b))

/-- Mixes a column: the product with the circulant matrix of 2, 3, 1, 1. -/
def Column.mix (a : Column) : Column :=
  ⟨double a.r0 ^^^ (double a.r1 ^^^ a.r1) ^^^ a.r2 ^^^ a.r3,
    a.r0 ^^^ double a.r1 ^^^ (double a.r2 ^^^ a.r2) ^^^ a.r3,
    a.r0 ^^^ a.r1 ^^^ double a.r2 ^^^ (double a.r3 ^^^ a.r3),
    (double a.r0 ^^^ a.r0) ^^^ a.r1 ^^^ a.r2 ^^^ double a.r3⟩

/-- The product with 9. -/
def times9 (b : UInt8) : UInt8 := octuple b ^^^ b

/-- The product with 11. -/
def times11 (b : UInt8) : UInt8 := octuple b ^^^ double b ^^^ b

/-- The product with 13. -/
def times13 (b : UInt8) : UInt8 := octuple b ^^^ double (double b) ^^^ b

/-- The product with 14. -/
def times14 (b : UInt8) : UInt8 := octuple b ^^^ double (double b) ^^^ double b

/-- Undoes `Column.mix`: the product with the circulant matrix of 14, 11, 13, 9. -/
def Column.unmix (a : Column) : Column :=
  ⟨times14 a.r0 ^^^ times11 a.r1 ^^^ times13 a.r2 ^^^ times9 a.r3,
    times9 a.r0 ^^^ times14 a.r1 ^^^ times11 a.r2 ^^^ times13 a.r3,
    times13 a.r0 ^^^ times9 a.r1 ^^^ times14 a.r2 ^^^ times11 a.r3,
    times11 a.r0 ^^^ times13 a.r1 ^^^ times9 a.r2 ^^^ times14 a.r3⟩

/-! ## Substitution -/

/-- The substitution table: the inverse of a byte in its field, followed by an affine map. -/
def substitutionTable : Array UInt8 :=
  #[
    0x63, 0x7c, 0x77, 0x7b, 0xf2, 0x6b, 0x6f, 0xc5, 0x30, 0x01, 0x67, 0x2b, 0xfe, 0xd7, 0xab, 0x76,
    0xca, 0x82, 0xc9, 0x7d, 0xfa, 0x59, 0x47, 0xf0, 0xad, 0xd4, 0xa2, 0xaf, 0x9c, 0xa4, 0x72, 0xc0,
    0xb7, 0xfd, 0x93, 0x26, 0x36, 0x3f, 0xf7, 0xcc, 0x34, 0xa5, 0xe5, 0xf1, 0x71, 0xd8, 0x31, 0x15,
    0x04, 0xc7, 0x23, 0xc3, 0x18, 0x96, 0x05, 0x9a, 0x07, 0x12, 0x80, 0xe2, 0xeb, 0x27, 0xb2, 0x75,
    0x09, 0x83, 0x2c, 0x1a, 0x1b, 0x6e, 0x5a, 0xa0, 0x52, 0x3b, 0xd6, 0xb3, 0x29, 0xe3, 0x2f, 0x84,
    0x53, 0xd1, 0x00, 0xed, 0x20, 0xfc, 0xb1, 0x5b, 0x6a, 0xcb, 0xbe, 0x39, 0x4a, 0x4c, 0x58, 0xcf,
    0xd0, 0xef, 0xaa, 0xfb, 0x43, 0x4d, 0x33, 0x85, 0x45, 0xf9, 0x02, 0x7f, 0x50, 0x3c, 0x9f, 0xa8,
    0x51, 0xa3, 0x40, 0x8f, 0x92, 0x9d, 0x38, 0xf5, 0xbc, 0xb6, 0xda, 0x21, 0x10, 0xff, 0xf3, 0xd2,
    0xcd, 0x0c, 0x13, 0xec, 0x5f, 0x97, 0x44, 0x17, 0xc4, 0xa7, 0x7e, 0x3d, 0x64, 0x5d, 0x19, 0x73,
    0x60, 0x81, 0x4f, 0xdc, 0x22, 0x2a, 0x90, 0x88, 0x46, 0xee, 0xb8, 0x14, 0xde, 0x5e, 0x0b, 0xdb,
    0xe0, 0x32, 0x3a, 0x0a, 0x49, 0x06, 0x24, 0x5c, 0xc2, 0xd3, 0xac, 0x62, 0x91, 0x95, 0xe4, 0x79,
    0xe7, 0xc8, 0x37, 0x6d, 0x8d, 0xd5, 0x4e, 0xa9, 0x6c, 0x56, 0xf4, 0xea, 0x65, 0x7a, 0xae, 0x08,
    0xba, 0x78, 0x25, 0x2e, 0x1c, 0xa6, 0xb4, 0xc6, 0xe8, 0xdd, 0x74, 0x1f, 0x4b, 0xbd, 0x8b, 0x8a,
    0x70, 0x3e, 0xb5, 0x66, 0x48, 0x03, 0xf6, 0x0e, 0x61, 0x35, 0x57, 0xb9, 0x86, 0xc1, 0x1d, 0x9e,
    0xe1, 0xf8, 0x98, 0x11, 0x69, 0xd9, 0x8e, 0x94, 0x9b, 0x1e, 0x87, 0xe9, 0xce, 0x55, 0x28, 0xdf,
    0x8c, 0xa1, 0x89, 0x0d, 0xbf, 0xe6, 0x42, 0x68, 0x41, 0x99, 0x2d, 0x0f, 0xb0, 0x54, 0xbb, 0x16]

/-- The inverse of the substitution table. -/
def restorationTable : Array UInt8 :=
  #[
    0x52, 0x09, 0x6a, 0xd5, 0x30, 0x36, 0xa5, 0x38, 0xbf, 0x40, 0xa3, 0x9e, 0x81, 0xf3, 0xd7, 0xfb,
    0x7c, 0xe3, 0x39, 0x82, 0x9b, 0x2f, 0xff, 0x87, 0x34, 0x8e, 0x43, 0x44, 0xc4, 0xde, 0xe9, 0xcb,
    0x54, 0x7b, 0x94, 0x32, 0xa6, 0xc2, 0x23, 0x3d, 0xee, 0x4c, 0x95, 0x0b, 0x42, 0xfa, 0xc3, 0x4e,
    0x08, 0x2e, 0xa1, 0x66, 0x28, 0xd9, 0x24, 0xb2, 0x76, 0x5b, 0xa2, 0x49, 0x6d, 0x8b, 0xd1, 0x25,
    0x72, 0xf8, 0xf6, 0x64, 0x86, 0x68, 0x98, 0x16, 0xd4, 0xa4, 0x5c, 0xcc, 0x5d, 0x65, 0xb6, 0x92,
    0x6c, 0x70, 0x48, 0x50, 0xfd, 0xed, 0xb9, 0xda, 0x5e, 0x15, 0x46, 0x57, 0xa7, 0x8d, 0x9d, 0x84,
    0x90, 0xd8, 0xab, 0x00, 0x8c, 0xbc, 0xd3, 0x0a, 0xf7, 0xe4, 0x58, 0x05, 0xb8, 0xb3, 0x45, 0x06,
    0xd0, 0x2c, 0x1e, 0x8f, 0xca, 0x3f, 0x0f, 0x02, 0xc1, 0xaf, 0xbd, 0x03, 0x01, 0x13, 0x8a, 0x6b,
    0x3a, 0x91, 0x11, 0x41, 0x4f, 0x67, 0xdc, 0xea, 0x97, 0xf2, 0xcf, 0xce, 0xf0, 0xb4, 0xe6, 0x73,
    0x96, 0xac, 0x74, 0x22, 0xe7, 0xad, 0x35, 0x85, 0xe2, 0xf9, 0x37, 0xe8, 0x1c, 0x75, 0xdf, 0x6e,
    0x47, 0xf1, 0x1a, 0x71, 0x1d, 0x29, 0xc5, 0x89, 0x6f, 0xb7, 0x62, 0x0e, 0xaa, 0x18, 0xbe, 0x1b,
    0xfc, 0x56, 0x3e, 0x4b, 0xc6, 0xd2, 0x79, 0x20, 0x9a, 0xdb, 0xc0, 0xfe, 0x78, 0xcd, 0x5a, 0xf4,
    0x1f, 0xdd, 0xa8, 0x33, 0x88, 0x07, 0xc7, 0x31, 0xb1, 0x12, 0x10, 0x59, 0x27, 0x80, 0xec, 0x5f,
    0x60, 0x51, 0x7f, 0xa9, 0x19, 0xb5, 0x4a, 0x0d, 0x2d, 0xe5, 0x7a, 0x9f, 0x93, 0xc9, 0x9c, 0xef,
    0xa0, 0xe0, 0x3b, 0x4d, 0xae, 0x2a, 0xf5, 0xb0, 0xc8, 0xeb, 0xbb, 0x3c, 0x83, 0x53, 0x99, 0x61,
    0x17, 0x2b, 0x04, 0x7e, 0xba, 0x77, 0xd6, 0x26, 0xe1, 0x69, 0x14, 0x63, 0x55, 0x21, 0x0c, 0x7d]

/-- The substitute of a byte. -/
def substitute (b : UInt8) : UInt8 := substitutionTable.getD b.toNat 0

/-- The byte with a given substitute. -/
def restore (b : UInt8) : UInt8 := restorationTable.getD b.toNat 0

/-! ## Blocks -/

/-- A block of sixteen bytes, in columns from left to right. -/
structure Block where
  /-- The leftmost column. -/
  c0 : Column
  /-- The second column. -/
  c1 : Column
  /-- The third column. -/
  c2 : Column
  /-- The rightmost column. -/
  c3 : Column
deriving DecidableEq, Repr, Inhabited

namespace Block

/-- Adds two blocks byte by byte. -/
def xor (a b : Block) : Block :=
  ⟨a.c0.xor b.c0, a.c1.xor b.c1, a.c2.xor b.c2, a.c3.xor b.c3⟩

/-- Applies a function to every column. -/
def map (f : Column → Column) (a : Block) : Block :=
  ⟨f a.c0, f a.c1, f a.c2, f a.c3⟩

/-- Substitutes every byte. -/
def substitute (a : Block) : Block := a.map (·.map Aes.substitute)

/-- Undoes `substitute`. -/
def restore (a : Block) : Block := a.map (·.map Aes.restore)

/-- Shifts row `i` to the left by `i` places, around the end. -/
def shiftRows (a : Block) : Block :=
  ⟨⟨a.c0.r0, a.c1.r1, a.c2.r2, a.c3.r3⟩, ⟨a.c1.r0, a.c2.r1, a.c3.r2, a.c0.r3⟩,
    ⟨a.c2.r0, a.c3.r1, a.c0.r2, a.c1.r3⟩, ⟨a.c3.r0, a.c0.r1, a.c1.r2, a.c2.r3⟩⟩

/-- Undoes `shiftRows`. -/
def unshiftRows (a : Block) : Block :=
  ⟨⟨a.c0.r0, a.c3.r1, a.c2.r2, a.c1.r3⟩, ⟨a.c1.r0, a.c0.r1, a.c3.r2, a.c2.r3⟩,
    ⟨a.c2.r0, a.c1.r1, a.c0.r2, a.c3.r3⟩, ⟨a.c3.r0, a.c2.r1, a.c1.r2, a.c0.r3⟩⟩

/-- The sixteen bytes, column by column. -/
def toBytes (a : Block) : Bytes :=
  [a.c0.r0, a.c0.r1, a.c0.r2, a.c0.r3, a.c1.r0, a.c1.r1, a.c1.r2, a.c1.r3,
    a.c2.r0, a.c2.r1, a.c2.r2, a.c2.r3, a.c3.r0, a.c3.r1, a.c3.r2, a.c3.r3]

/-- The whole blocks at the front of a byte string; fewer than sixteen bytes at its end are left
out. -/
def ofBytes : Bytes → List Block
  | b0 :: b1 :: b2 :: b3 :: b4 :: b5 :: b6 :: b7 :: b8 :: b9 :: b10 :: b11 :: b12 :: b13 :: b14
      :: b15 :: rest =>
    ⟨⟨b0, b1, b2, b3⟩, ⟨b4, b5, b6, b7⟩, ⟨b8, b9, b10, b11⟩, ⟨b12, b13, b14, b15⟩⟩ :: ofBytes rest
  | _ => []

@[simp] theorem length_toBytes (a : Block) : a.toBytes.length = 16 := rfl

end Block

/-! ## The cipher -/

/-- The round keys of an expanded key. -/
structure Schedule where
  /-- Added before the first round. -/
  first : Block
  /-- The keys of the full rounds, in order. -/
  rounds : List Block
  /-- The key of the closing round, which does not mix. -/
  last : Block
deriving DecidableEq, Repr

/-- A full round. -/
def round (a key : Block) : Block :=
  (a.substitute.shiftRows.map Column.mix).xor key

/-- Undoes a full round. -/
def unround (key a : Block) : Block :=
  ((a.xor key).map Column.unmix).unshiftRows.restore

namespace Schedule

/-- Enciphers a block. -/
def encrypt (k : Schedule) (a : Block) : Block :=
  (k.rounds.foldl round (a.xor k.first)).substitute.shiftRows.xor k.last

/-- Deciphers a block. -/
def decrypt (k : Schedule) (a : Block) : Block :=
  (k.rounds.foldr unround (a.xor k.last).unshiftRows.restore).xor k.first

end Schedule

/-! ## Key expansion -/

/-- The substitutes of the bytes of a column moved up by one row, the top one plus `constant`. -/
def turn (constant : UInt8) (a : Column) : Column :=
  ⟨substitute a.r1 ^^^ constant, substitute a.r2, substitute a.r3, substitute a.r0⟩

/-- Adds to each column of a group the one made before it. The fifth column of a long group
receives the substitute of the one before it. -/
def chain (i : Nat) (before : Column) : List Column → List Column
  | [] => []
  | a :: rest =>
    let made := a.xor (if i = 4 then before.map substitute else before)
    made :: chain (i + 1) made rest

/-- The group of columns after `group`, which has the size of the key. -/
def nextGroup (constant : UInt8) (group : List Column) : List Column :=
  chain 0 (turn constant (group.getLastD default)) group

/-- The columns of `count` groups after `group`. -/
def expand (constant : UInt8) (group : List Column) : Nat → List Column
  | 0 => []
  | count + 1 =>
    let made := nextGroup constant group
    made ++ expand (double constant) made count

/-- The columns of a byte string, four bytes each. -/
def columns : Bytes → List Column
  | a :: b :: c :: d :: rest => ⟨a, b, c, d⟩ :: columns rest
  | _ => []

/-- The blocks of a list of columns, four columns each. -/
def blocks : List Column → List Block
  | a :: b :: c :: d :: rest => ⟨a, b, c, d⟩ :: blocks rest
  | _ => []

namespace Schedule

/-- The schedule of a list of round keys. -/
def ofRoundKeys (keys : List Block) : Schedule :=
  ⟨keys.headD default, keys.tail.dropLast, keys.getLastD default⟩

/-- Expands a key of 16 bytes into 11 round keys, or one of 32 bytes into 15. -/
def ofKey? (key : Bytes) : Option Schedule :=
  if key.length = 16 then
    some (ofRoundKeys (blocks (columns key ++ expand 1 (columns key) 10)))
  else if key.length = 32 then
    some (ofRoundKeys ((blocks (columns key ++ expand 1 (columns key) 7)).take 15))
  else
    none

/-- A key expands exactly if it has 16 or 32 bytes. -/
theorem isSome_ofKey?_iff (key : Bytes) :
    (ofKey? key).isSome = true ↔ key.length = 16 ∨ key.length = 32 := by
  unfold ofKey?
  split
  · simp_all
  · split <;> simp_all

end Schedule

end Ipsec.Aes
