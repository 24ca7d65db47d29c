import Ipsec.Ip.Packet
import Ipsec.Ip.Protocol
import Ipsec.Tcp.State

/-!
# TCP segments

`Segment.ofBytes?` reads a segment and `Segment.toBytes` writes one. `Segment.sum` is the checksum
that a segment between two addresses ought to have, and `Segment.wrap` puts a segment with its
checksum into a packet.
-/

namespace Ipsec.Tcp

/-- A segment: the fields of its header, its options and its data. -/
structure Segment where
  /-- The port it comes from. -/
  sourcePort : UInt16
  /-- The port it goes to. -/
  destinationPort : UInt16
  /-- The number of its first byte. -/
  sequence : UInt32
  /-- The number that the sender expects next. -/
  acknowledgement : UInt32
  /-- The nonce bit beside the flags. -/
  nonce : Bool := false
  /-- The flags. -/
  flags : Flags
  /-- How much the sender is ready to receive. -/
  window : UInt16
  /-- The checksum. -/
  checksum : UInt16 := 0
  /-- Where urgent data ends. -/
  urgent : UInt16 := 0
  /-- The options. -/
  options : Options := .none
  /-- The bytes after the header. -/
  data : Bytes
deriving DecidableEq, Repr

namespace Segment

/-- The length of the written header. -/
def headerLength (s : Segment) : Nat := 20 + s.options.length

/-- The bytes of the segment. -/
def toBytes (s : Segment) : Bytes :=
  bytes16 s.sourcePort ++ bytes16 s.destinationPort ++ bytes32 s.sequence
    ++ bytes32 s.acknowledgement
    ++ [UInt8.ofNat ((5 + s.options.words) * 16 + s.nonce.toNat), s.flags]
    ++ bytes16 s.window ++ bytes16 s.checksum ++ bytes16 s.urgent ++ s.options.bytes
    ++ s.data

/-- Reads a segment. Its header has to be at least five words long and to fit. -/
def ofBytes? : Bytes → Option Segment
  | b0 :: b1 :: b2 :: b3 :: b4 :: b5 :: b6 :: b7 :: b8 :: b9 :: b10 :: b11 :: b12 :: b13 :: b14
      :: b15 :: b16 :: b17 :: b18 :: b19 :: rest =>
    if 5 ≤ b12.toNat / 16 then
      (Options.split? (b12.toNat / 16 - 5) rest).map fun (options, data) =>
        { sourcePort := word16 b0 b1
          destinationPort := word16 b2 b3
          sequence := word32 b4 b5 b6 b7
          acknowledgement := word32 b8 b9 b10 b11
          nonce := b12.toNat % 2 == 1
          flags := b13
          window := word16 b14 b15
          checksum := word16 b16 b17
          urgent := word16 b18 b19
          options
          data }
    else none
  | _ => none

/-- The addresses, the protocol and the length that the checksum covers besides the segment. -/
def pseudoHeader (source destination : Ipv4Address) (length : Nat) : Bytes :=
  source.toBytes ++ destination.toBytes ++ [0, Protocol.tcp] ++ bytes16 (UInt16.ofNat length)

/-- The checksum that the segment ought to have between two addresses. -/
def sum (source destination : Ipv4Address) (s : Segment) : UInt16 :=
  Checksum.checksum
    (pseudoHeader source destination (s.headerLength + s.data.length)
      ++ { s with checksum := 0 }.toBytes)

/-- The packet that carries the segment, with the right checksums. -/
def wrap (source destination : Ipv4Address) (identification : UInt16) (s : Segment) :
    Except EspError Ipv4.Packet := do
  let header ← Ipv4.Header.outgoing source destination Protocol.tcp
    (s.headerLength + s.data.length) identification
  pure ⟨header, { s with checksum := s.sum source destination }.toBytes⟩

end Segment

end Ipsec.Tcp
