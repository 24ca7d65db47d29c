import Ipsec.Bytes

/-!
# The SHA-256 hash

A message is padded to whole blocks of sixteen words. Each block is mixed into a state of eight
words over sixty-four rounds, one for each round constant. The words of the message schedule
are made on the way: a window of sixteen words moves along it.
-/

namespace Ipsec.Sha256

/-- The eight chaining words. -/
structure State where
  /-- The first word. -/
  a : UInt32
  /-- The second word. -/
  b : UInt32
  /-- The third word. -/
  c : UInt32
  /-- The fourth word. -/
  d : UInt32
  /-- The fifth word. -/
  e : UInt32
  /-- The sixth word. -/
  f : UInt32
  /-- The seventh word. -/
  g : UInt32
  /-- The eighth word. -/
  h : UInt32
deriving DecidableEq, Repr

/-- The state before the first block: fractions of the square roots of the first eight primes. -/
def State.start : State :=
  ⟨0x6a09e667, 0xbb67ae85, 0x3c6ef372, 0xa54ff53a,
    0x510e527f, 0x9b05688c, 0x1f83d9ab, 0x5be0cd19⟩

/-- The round constants: fractions of the cube roots of the first sixty-four primes. -/
def constants : List UInt32 :=
  [
    0x428a2f98, 0x71374491, 0xb5c0fbcf, 0xe9b5dba5, 0x3956c25b, 0x59f111f1, 0x923f82a4, 0xab1c5ed5,
    0xd807aa98, 0x12835b01, 0x243185be, 0x550c7dc3, 0x72be5d74, 0x80deb1fe, 0x9bdc06a7, 0xc19bf174,
    0xe49b69c1, 0xefbe4786, 0x0fc19dc6, 0x240ca1cc, 0x2de92c6f, 0x4a7484aa, 0x5cb0a9dc, 0x76f988da,
    0x983e5152, 0xa831c66d, 0xb00327c8, 0xbf597fc7, 0xc6e00bf3, 0xd5a79147, 0x06ca6351, 0x14292967,
    0x27b70a85, 0x2e1b2138, 0x4d2c6dfc, 0x53380d13, 0x650a7354, 0x766a0abb, 0x81c2c92e, 0x92722c85,
    0xa2bfe8a1, 0xa81a664b, 0xc24b8b70, 0xc76c51a3, 0xd192e819, 0xd6990624, 0xf40e3585, 0x106aa070,
    0x19a4c116, 0x1e376c08, 0x2748774c, 0x34b0bcb5, 0x391c0cb3, 0x4ed8aa4a, 0x5b9cca4f, 0x682e6ff3,
    0x748f82ee, 0x78a5636f, 0x84c87814, 0x8cc70208, 0x90befffa, 0xa4506ceb, 0xbef9a3f7, 0xc67178f2]

/-- Turns a word to the right by `n` places, for `n` from 1 to 31. -/
def rotate (n : UInt32) (w : UInt32) : UInt32 :=
  (w >>> n) ||| (w <<< (32 - n))

/-- One round with the constant `k` and the schedule word `w`. -/
def State.round (s : State) (k w : UInt32) : State :=
  let mixed := rotate 6 s.e ^^^ rotate 11 s.e ^^^ rotate 25 s.e
  let choice := (s.e &&& s.f) ^^^ (~~~s.e &&& s.g)
  let first := s.h + mixed + choice + k + w
  let turned := rotate 2 s.a ^^^ rotate 13 s.a ^^^ rotate 22 s.a
  let majority := (s.a &&& s.b) ^^^ (s.a &&& s.c) ^^^ (s.b &&& s.c)
  ⟨first + (turned + majority), s.a, s.b, s.c, s.d + first, s.e, s.f, s.g⟩

/-- The schedule word that follows a window, from its words 0, 1, 9 and 14. -/
def scheduleWord (w0 w1 w9 w14 : UInt32) : UInt32 :=
  let low := rotate 7 w1 ^^^ rotate 18 w1 ^^^ (w1 >>> 3)
  let high := rotate 17 w14 ^^^ rotate 19 w14 ^^^ (w14 >>> 10)
  w0 + low + w9 + high

/-- Runs the rounds of the given constants while the window of sixteen words moves along the
schedule. -/
def rounds (s : State) : List UInt32 → List UInt32 → State
  | k :: ks, [w0, w1, w2, w3, w4, w5, w6, w7, w8, w9, w10, w11, w12, w13, w14, w15] =>
    rounds (s.round k w0) ks
      [w1, w2, w3, w4, w5, w6, w7, w8, w9, w10, w11, w12, w13, w14, w15, scheduleWord w0 w1 w9 w14]
  | _, _ => s

/-- Adds two states word by word. -/
def State.add (s t : State) : State :=
  ⟨s.a + t.a, s.b + t.b, s.c + t.c, s.d + t.d, s.e + t.e, s.f + t.f, s.g + t.g, s.h + t.h⟩

/-- Mixes every whole block of sixteen words into the state. -/
def absorb (s : State) : List UInt32 → State
  | w0 :: w1 :: w2 :: w3 :: w4 :: w5 :: w6 :: w7 :: w8 :: w9 :: w10 :: w11 :: w12 :: w13 :: w14
      :: w15 :: rest =>
    absorb (s.add (rounds s constants
      [w0, w1, w2, w3, w4, w5, w6, w7, w8, w9, w10, w11, w12, w13, w14, w15])) rest
  | _ => s

/-- The words of a byte string, four bytes each. -/
def words : Bytes → List UInt32
  | a :: b :: c :: d :: rest => word32 a b c d :: words rest
  | _ => []

/-- The padding of a message of `n` bytes: a bit one, zeros up to eight bytes short of a whole
block of sixty-four bytes, and the length in bits. -/
def padding (n : Nat) : Bytes :=
  0x80 :: (List.replicate ((119 - n % 64) % 64) 0 ++
    bytes32 (UInt32.ofNat (n * 8 / 4294967296)) ++ bytes32 (UInt32.ofNat (n * 8)))

/-- The thirty-two bytes of a state. -/
def State.toBytes (s : State) : Bytes :=
  bytes32 s.a ++ bytes32 s.b ++ bytes32 s.c ++ bytes32 s.d ++
    bytes32 s.e ++ bytes32 s.f ++ bytes32 s.g ++ bytes32 s.h

/-- The hash of a message. -/
def digest (message : Bytes) : Bytes :=
  (absorb .start (words (message ++ padding message.length))).toBytes

@[simp] theorem length_digest (message : Bytes) : (digest message).length = 32 := rfl

end Ipsec.Sha256
