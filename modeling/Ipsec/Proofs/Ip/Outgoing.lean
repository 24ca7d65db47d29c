import Ipsec.Proofs.Ip.Checksum
import Ipsec.Proofs.Ip.RoundTrip

/-!
# Packets that start here

`Packet.Originates` is what a receiver may rely on in a packet that was not forwarded but made here:
its header is plain and adds up, and its total length is right. A header that `Header.outgoing`
makes has all this in front of a payload of the length that it was made for
(`Packet.originates_of_outgoing`), and so the packet is read back from its bytes
(`Packet.Originates.ofBytes_toBytes`).
-/

namespace Ipsec.Ipv4

/-- A header with its checksum in place adds up. -/
theorem Header.addsUp_sealed (h : Header) :
    Checksum.AddsUp { h with checksum := h.sum }.toBytes := by
  let front : Bytes :=
    [UInt8.ofNat (69 + h.options.words), UInt8.ofNat (h.dscp * 4 + h.ecn)]
      ++ bytes16 h.totalLength ++ bytes16 h.identification
      ++ [h.flagByte, UInt8.ofNat h.fragmentOffset, h.timeToLive, h.protocol]
  let back : Bytes := h.source.toBytes ++ (h.destination.toBytes ++ h.options.bytes)
  have hbytes : ∀ w, { h with checksum := w }.toBytes = front ++ bytes16 w ++ back := by
    intro w
    simp only [toBytes, front, back, List.append_assoc]
    rfl
  have heven : front.length % 2 = 0 := by simp [front]
  rw [sum, hbytes, hbytes]
  exact Checksum.addsUp_sealed heven back

/-- Only a payload that is too long has no header. -/
theorem Header.outgoing_eq_error {source destination : Ipv4Address} {protocol : UInt8}
    {payloadLength : Nat} {identification : UInt16} {e : EspError}
    (h : outgoing source destination protocol payloadLength identification = .error e) :
    65515 < payloadLength ∧ e = .malformed "oversized IPv4 payload" := by
  unfold outgoing at h
  split at h
  · cases h
  · next hlong =>
    cases h
    exact ⟨Nat.lt_of_not_le hlong, rfl⟩

namespace Packet

/-- A packet that was made here, between the given addresses. -/
structure Originates (source destination : Ipv4Address) (protocol : UInt8) (p : Packet) :
    Prop where
  source : p.source = source
  destination : p.destination = destination
  protocol : p.protocol = protocol
  options : p.header.options = .none
  timeToLive : p.header.timeToLive = 64
  dontFragment : p.header.dontFragment = true
  /-- It is no fragment. -/
  whole : p.header.moreFragments = false ∧ p.header.fragmentOffset = 0
  totalLength : p.header.totalLength.toNat = 20 + p.payload.length
  /-- The header adds up. -/
  headerSum : Checksum.AddsUp p.header.toBytes

/-- A packet that was made here is read back from its bytes. -/
theorem Originates.ofBytes_toBytes {source destination : Ipv4Address} {protocol : UInt8}
    {p : Packet} (h : p.Originates source destination protocol) : ofBytes p.toBytes = .ok p := by
  have hlength : p.header.length = 20 := by
    rw [Header.length, h.options]
    rfl
  have htotal : p.header.totalLength.toNat = p.header.length + p.payload.length := by
    rw [hlength, h.totalLength]
  simpa using ofBytes_toBytes_append [] htotal

/-- A header that was made for a payload makes a packet with it. -/
theorem originates_of_outgoing {source destination : Ipv4Address} {protocol : UInt8}
    {payload : Bytes} {identification : UInt16} {header : Header}
    (h : Header.outgoing source destination protocol payload.length identification = .ok header) :
    Originates source destination protocol ⟨header, payload⟩ := by
  unfold Header.outgoing at h
  split at h
  · next hfits =>
    cases h
    refine ⟨rfl, rfl, rfl, rfl, rfl, rfl, ⟨rfl, rfl⟩, ?_, Header.addsUp_sealed _⟩
    simp only [UInt16.toNat_ofNat']
    omega
  · cases h

end Packet

end Ipsec.Ipv4
