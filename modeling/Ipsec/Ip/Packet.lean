import Ipsec.Error
import Ipsec.Ip.Address
import Ipsec.Ip.Checksum
import Ipsec.Ip.Options

/-!
# Packets of version 4

`Header` holds the fields of a header and its options, `Packet` a header and what it carries.
`Packet.ofBytes` reads a packet and `Packet.toBytes` writes it. The header checksum is a field
like any other: reading does not verify it and writing does not renew it. `Header.outgoing` makes
the header of a packet that starts here, with its checksum.
-/

namespace Ipsec.Ipv4

/-- A packet header. -/
structure Header where
  /-- The class of service. -/
  dscp : Fin 64 := 0
  /-- The congestion mark. -/
  ecn : Fin 4 := 0
  /-- The length of header and payload together. -/
  totalLength : UInt16
  /-- Tells the fragments of one packet from those of another. -/
  identification : UInt16
  /-- The packet may not be split. -/
  dontFragment : Bool
  /-- More fragments of the packet follow. -/
  moreFragments : Bool := false
  /-- The place of this fragment in the packet, in units of eight bytes. -/
  fragmentOffset : Fin 8192 := 0
  /-- How many more hops the packet may take. -/
  timeToLive : UInt8
  /-- What the packet carries. -/
  protocol : UInt8
  /-- The header checksum. -/
  checksum : UInt16 := 0
  /-- Where the packet comes from. -/
  source : Ipv4Address
  /-- Where the packet goes to. -/
  destination : Ipv4Address
  /-- The options. -/
  options : Options := .none
deriving DecidableEq, Repr

instance : Inhabited Header where
  default :=
    { totalLength := 20
      identification := 0
      dontFragment := false
      timeToLive := 0
      protocol := 0
      source := default
      destination := default }

namespace Header

/-- The length of the written header. -/
def length (h : Header) : Nat := 20 + h.options.length

/-- The byte that holds the flags and the high bits of the fragment offset. -/
def flagByte (h : Header) : UInt8 :=
  UInt8.ofNat (h.dontFragment.toNat * 64 + h.moreFragments.toNat * 32 + h.fragmentOffset / 256)

/-- The bytes of the header. -/
def toBytes (h : Header) : Bytes :=
  [UInt8.ofNat (69 + h.options.words), UInt8.ofNat (h.dscp * 4 + h.ecn)]
    ++ bytes16 h.totalLength ++ bytes16 h.identification
    ++ [h.flagByte, UInt8.ofNat h.fragmentOffset, h.timeToLive, h.protocol]
    ++ bytes16 h.checksum ++ h.source.toBytes ++ h.destination.toBytes ++ h.options.bytes

/-- Reads a header at the front of a byte string, and gives the bytes after it. The version has to
be 4, and the length at least five words. -/
def ofBytes? : Bytes → Option (Header × Bytes)
  | b0 :: b1 :: b2 :: b3 :: b4 :: b5 :: b6 :: b7 :: b8 :: b9 :: b10 :: b11 :: b12 :: b13 :: b14
      :: b15 :: b16 :: b17 :: b18 :: b19 :: rest =>
    if b0.toNat / 16 = 4 ∧ 5 ≤ b0.toNat % 16 then
      (Options.split? (b0.toNat % 16 - 5) rest).map fun (options, rest) =>
        ({  dscp := Fin.ofNat 64 (b1.toNat / 4)
            ecn := Fin.ofNat 4 b1.toNat
            totalLength := word16 b2 b3
            identification := word16 b4 b5
            dontFragment := b6.toNat / 64 % 2 == 1
            moreFragments := b6.toNat / 32 % 2 == 1
            fragmentOffset := Fin.ofNat 8192 (b6.toNat * 256 + b7.toNat)
            timeToLive := b8
            protocol := b9
            checksum := word16 b10 b11
            source := .ofOctets b12 b13 b14 b15
            destination := .ofOctets b16 b17 b18 b19
            options },
          rest)
    else none
  | _ => none

/-- The checksum that the header ought to have. -/
def sum (h : Header) : UInt16 :=
  Checksum.checksum { h with checksum := 0 }.toBytes

/-- The time to live of every packet that starts here. -/
def defaultTimeToLive : UInt8 := 64

/-- The header of a packet that starts here, for a payload of the given length: it may not be
split, and its checksum is right. -/
def outgoing (source destination : Ipv4Address) (protocol : UInt8) (payloadLength : Nat)
    (identification : UInt16) : Except EspError Header :=
  if payloadLength ≤ 65515 then
    let h : Header :=
      { totalLength := UInt16.ofNat (20 + payloadLength)
        identification
        dontFragment := true
        timeToLive := defaultTimeToLive
        protocol
        source
        destination }
    .ok { h with checksum := h.sum }
  else
    .error (.malformed "oversized IPv4 payload")

end Header

/-- A header and the payload that its total length bounds. -/
structure Packet where
  /-- The header. -/
  header : Header
  /-- The bytes after the header. -/
  payload : Bytes
deriving DecidableEq, Repr

namespace Packet

/-- Where the packet comes from. -/
abbrev source (p : Packet) : Ipv4Address := p.header.source

/-- Where the packet goes to. -/
abbrev destination (p : Packet) : Ipv4Address := p.header.destination

/-- What the packet carries. -/
abbrev protocol (p : Packet) : UInt8 := p.header.protocol

/-- The bytes of the packet. -/
def toBytes (p : Packet) : Bytes := p.header.toBytes ++ p.payload

/-- Reads a packet at the front of a byte string. Bytes after its total length are left out. -/
def ofBytes (data : Bytes) : Except EspError Packet :=
  match Header.ofBytes? data with
  | none => .error (.malformed "IPv4 header")
  | some (header, rest) =>
    if header.totalLength.toNat < header.length then
      .error (.malformed "IPv4 total length")
    else if rest.length < header.totalLength.toNat - header.length then
      .error (.malformed "IPv4 payload truncated")
    else
      .ok ⟨header, rest.take (header.totalLength.toNat - header.length)⟩

/-- A packet that starts here, with the given payload. -/
def outgoing (source destination : Ipv4Address) (protocol : UInt8) (payload : Bytes)
    (identification : UInt16) : Except EspError Packet := do
  let header ← Header.outgoing source destination protocol payload.length identification
  pure ⟨header, payload⟩

end Packet

end Ipsec.Ipv4
