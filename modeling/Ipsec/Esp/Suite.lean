import Ipsec.Crypto.Cbc
import Ipsec.Crypto.Hmac
import Ipsec.Error

/-!
# Payload protection

A `Suite` is the key material of one direction of an association. Payloads are enciphered in
chained blocks, behind their initialisation vector, and datagrams end in a tag, the first half of
their authentication code. Before encryption a payload is padded: the bytes 1, 2, 3 and so on, the
length of the padding and the protocol of the payload follow it, up to a whole number of blocks.
-/

namespace Ipsec.Esp

open Ipsec.Aes (Block)

/-- The key material of one direction. -/
structure Suite where
  /-- The expanded encryption key. -/
  cipher : Aes.Schedule
  /-- The integrity key. -/
  integrityKey : Bytes
deriving DecidableEq, Repr

namespace Suite

/-- The length of a cipher block. -/
def blockLength : Nat := 16

/-- The length of an integrity tag. -/
def tagLength : Nat := 16

/-- The suite of an encryption key of 16 or 32 bytes and an integrity key of 32 bytes. -/
def ofKeys (encryptionKey integrityKey : Bytes) : Except EspError Suite :=
  match Aes.Schedule.ofKey? encryptionKey with
  | none => .error (.invalidKey "AES key must be 16 or 32 bytes")
  | some cipher =>
    if integrityKey.length = 32 then .ok ⟨cipher, integrityKey⟩
    else .error (.invalidKey "HMAC-SHA2-256 key must be 32 bytes")

/-! ## Padding -/

/-- How many bytes of padding bring a payload and the two bytes behind the padding to whole
blocks. Lengths are words, and the sum of the payload and the two bytes wraps. -/
def paddingLength (payloadLength blockLength : UInt64) : UInt64 :=
  let excess := (payloadLength + 2) % blockLength
  if excess = 0 then 0 else blockLength - excess

/-- The first `n` bytes of padding. -/
def padding (n : Nat) : Bytes := (List.range n).map fun i => UInt8.ofNat (i + 1)

/-- A payload with its padding, the length of the padding and the protocol of the payload. -/
def padded (plain : Bytes) (protocol : UInt8) : Bytes :=
  let n := (paddingLength (UInt64.ofNat plain.length) (UInt64.ofNat blockLength)).toNat
  plain ++ padding n ++ [UInt8.ofNat n, protocol]

/-- Takes the padding off again, and gives the payload and its protocol. The bytes of the padding
are not looked at. -/
def unpadded (body : Bytes) : Except EspError (Bytes × UInt8) :=
  match body.reverse with
  | protocol :: n :: _ =>
    if n.toNat + 2 ≤ body.length then .ok (body.take (body.length - n.toNat - 2), protocol)
    else .error (.decrypt "pad length exceeds payload")
  | _ => .error (.decrypt "pad length exceeds payload")

/-! ## Encryption -/

/-- The bytes of a list of blocks. -/
def joined (blocks : List Block) : Bytes := blocks.flatMap Block.toBytes

/-- Pads and enciphers a payload: the initialisation vector and the ciphertext. -/
def encrypt (s : Suite) (iv : Block) (plain : Bytes) (protocol : UInt8) : Bytes :=
  joined (iv :: Cbc.encrypt s.cipher.encrypt iv (Block.ofBytes (padded plain protocol)))

/-- Encrypts a payload with what the random source gave for an initialisation vector. If that is
nothing it fails. -/
def protect (s : Suite) (iv : Option Block) (plain : Bytes) (protocol : UInt8) :
    Except EspError Bytes :=
  match iv with
  | none => .error (.encrypt "IV generation failed")
  | some iv => .ok (s.encrypt iv plain protocol)

/-- Deciphers an initialisation vector and the ciphertext behind it, padding included. -/
def decipher (s : Suite) (payload : Bytes) : Except EspError Bytes :=
  if payload.length < 2 * blockLength then
    .error (.decrypt "payload shorter than IV and one block")
  else if payload.length % blockLength ≠ 0 then
    .error (.decrypt "ciphertext is not block aligned")
  else match Block.ofBytes payload with
    | iv :: blocks => .ok (joined (Cbc.decrypt s.cipher.decrypt iv blocks))
    | [] => .error (.decrypt "payload shorter than IV and one block")

/-- Undoes `encrypt`. -/
def decrypt (s : Suite) (payload : Bytes) : Except EspError (Bytes × UInt8) :=
  s.decipher payload >>= unpadded

/-! ## Integrity -/

/-- The tag of a message. -/
def tag (s : Suite) (message : Bytes) : Bytes := (Hmac.code s.integrityKey message).take tagLength

/-- A message with its tag. -/
def appendTag (s : Suite) (message : Bytes) : Bytes := message ++ s.tag message

/-- Whether a message ends in the tag of what stands before the tag. -/
def verifyTag (s : Suite) (message : Bytes) : Bool :=
  let n := message.length - tagLength
  tagLength ≤ message.length && message.drop n == s.tag (message.take n)

end Suite

end Ipsec.Esp
