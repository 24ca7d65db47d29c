import Ipsec.Bytes
import Ipsec.Error

/-!
# Framing of tunnel datagrams

A datagram is a security parameter index, a sequence number, a payload and an integrity tag. The
frame treats the payload as opaque and leaves the tag to the suite.
-/

namespace Ipsec.Esp

/-- A datagram without its tag. -/
structure Datagram where
  /-- The index of the association at the receiver. -/
  spi : UInt32
  /-- The number of the datagram. -/
  sequence : UInt32
  /-- Initialisation vector and ciphertext. -/
  payload : Bytes
deriving DecidableEq, Repr

namespace Datagram

/-- The length of index and sequence number together. -/
def headerLength : Nat := 8

/-- Reads a datagram that ends in a tag of the given length. -/
def ofBytes (tagLength : Nat) (data : Bytes) : Except EspError Datagram :=
  match data with
  | a :: b :: c :: d :: e :: f :: g :: h :: rest =>
    if rest.length < tagLength then .error (.truncated data.length)
    else .ok ⟨word32 a b c d, word32 e f g h, rest.take (rest.length - tagLength)⟩
  | _ => .error (.truncated data.length)

/-- The bytes of the datagram up to the tag. -/
def toBytes (d : Datagram) : Bytes := bytes32 d.spi ++ bytes32 d.sequence ++ d.payload

end Datagram

end Ipsec.Esp
