import Ipsec.Proofs.Ip.RoundTrip
import Ipsec.Tcp.Segment

/-!
# Segments survive being written and read

A segment is read back from its own bytes (`Segment.ofBytes?_toBytes`), and so is the segment in a
packet that carries one, but for its checksum (`Segment.ofBytes?_wrap`).
-/

namespace Ipsec.Tcp.Segment

/-- The byte before the flags holds the length of the header in words, and the nonce bit. -/
theorem toNat_lengthByte (s : Segment) :
    (UInt8.ofNat ((5 + s.options.words) * 16 + s.nonce.toNat)).toNat =
      (5 + s.options.words) * 16 + s.nonce.toNat := by
  have hw := s.options.words_le
  have hn := s.nonce.toNat_le
  simp only [UInt8.toNat_ofNat']
  omega

/-- A segment is read back from its bytes. -/
theorem ofBytes?_toBytes (s : Segment) : ofBytes? s.toBytes = some s := by
  have hn := s.nonce.toNat_le
  have hwords : ((5 + s.options.words) * 16 + s.nonce.toNat) / 16 = 5 + s.options.words := by omega
  have hnonce : ((5 + s.options.words) * 16 + s.nonce.toNat) % 2 = s.nonce.toNat := by omega
  have hbit : (s.nonce.toNat == 1) = s.nonce := by cases s.nonce <;> rfl
  simp only [toBytes, bytes16, bytes32, List.cons_append, List.nil_append, ofBytes?,
    toNat_lengthByte, hwords, hnonce, hbit]
  rw [if_pos (by omega), Nat.add_sub_cancel_left, Options.split?_append]
  simp only [Option.map_some, word16_bytes16, word32_bytes32]

/-- A segment can be carried if there is room for it behind the header of a packet. -/
theorem exists_wrap (source destination : Ipv4Address) (identification : UInt16) {s : Segment}
    (h : s.headerLength + s.data.length ≤ 65515) :
    ∃ packet, s.wrap source destination identification = .ok packet := by
  unfold wrap Ipv4.Header.outgoing
  rw [if_pos h]
  exact ⟨_, rfl⟩

/-- A packet that carries a segment gives it back, with the right checksum. -/
theorem ofBytes?_wrap {source destination : Ipv4Address} {identification : UInt16} {s : Segment}
    {packet : Ipv4.Packet} (h : s.wrap source destination identification = .ok packet) :
    ofBytes? packet.payload = some { s with checksum := s.sum source destination } := by
  unfold wrap at h
  rcases hheader : Ipv4.Header.outgoing source destination Protocol.tcp
    (s.headerLength + s.data.length) identification with e | header
  all_goals rw [hheader] at h; cases h
  exact ofBytes?_toBytes _

/-- A packet that carries a segment goes between the given addresses. -/
theorem addresses_wrap {source destination : Ipv4Address} {identification : UInt16} {s : Segment}
    {packet : Ipv4.Packet} (h : s.wrap source destination identification = .ok packet) :
    packet.source = source ∧ packet.destination = destination := by
  unfold wrap Ipv4.Header.outgoing at h
  split at h
  all_goals cases h
  exact ⟨rfl, rfl⟩

end Ipsec.Tcp.Segment
