import Ipsec.Proofs.Ip.Words
import Ipsec.Ip.Packet

/-!
# Packets survive being written and read

A header is read back from its own bytes whatever follows them
(`Header.ofBytes?_toBytes_append`). A packet that was read has a total length that is the length
of its header and payload (`Packet.totalLength_of_ofBytes`), and such a packet is read back from
its own bytes (`Packet.ofBytes_toBytes`).
-/

namespace Ipsec.Ipv4

namespace Header

/-! ## Fields that share a byte -/

theorem ofNat_dscp (h : Header) :
    Fin.ofNat 64 ((UInt8.ofNat (h.dscp * 4 + h.ecn)).toNat / 4) = h.dscp := by
  have hd := h.dscp.isLt
  have he := h.ecn.isLt
  apply Fin.ext
  simp only [Fin.val_ofNat, UInt8.toNat_ofNat']
  omega

theorem ofNat_ecn (h : Header) :
    Fin.ofNat 4 (UInt8.ofNat (h.dscp * 4 + h.ecn)).toNat = h.ecn := by
  have he := h.ecn.isLt
  apply Fin.ext
  simp only [Fin.val_ofNat, UInt8.toNat_ofNat']
  omega

theorem toNat_flagByte (h : Header) :
    h.flagByte.toNat =
      h.dontFragment.toNat * 64 + h.moreFragments.toNat * 32 + h.fragmentOffset / 256 := by
  have ho := h.fragmentOffset.isLt
  have hd := h.dontFragment.toNat_le
  have hm := h.moreFragments.toNat_le
  simp only [flagByte, UInt8.toNat_ofNat']
  omega

theorem dontFragment_flagByte (h : Header) :
    (h.flagByte.toNat / 64 % 2 == 1) = h.dontFragment := by
  have ho := h.fragmentOffset.isLt
  have hm := h.moreFragments.toNat_le
  have hb : h.flagByte.toNat / 64 % 2 = h.dontFragment.toNat := by
    have hd := h.dontFragment.toNat_le
    rw [toNat_flagByte]
    omega
  rw [hb]
  cases h.dontFragment <;> rfl

theorem moreFragments_flagByte (h : Header) :
    (h.flagByte.toNat / 32 % 2 == 1) = h.moreFragments := by
  have ho := h.fragmentOffset.isLt
  have hb : h.flagByte.toNat / 32 % 2 = h.moreFragments.toNat := by
    have hm := h.moreFragments.toNat_le
    rw [toNat_flagByte]
    omega
  rw [hb]
  cases h.moreFragments <;> rfl

theorem ofNat_fragmentOffset (h : Header) :
    Fin.ofNat 8192 (h.flagByte.toNat * 256 + (UInt8.ofNat h.fragmentOffset).toNat) =
      h.fragmentOffset := by
  have ho := h.fragmentOffset.isLt
  apply Fin.ext
  rw [toNat_flagByte]
  simp only [Fin.val_ofNat, UInt8.toNat_ofNat']
  omega

/-! ## Headers -/

@[simp] theorem length_toBytes (h : Header) : h.toBytes.length = h.length := by
  simp only [toBytes, Ipv4Address.toBytes, length, Options.length, List.length_append,
    List.length_cons, List.length_nil, length_bytes16, length_bytes32]

/-- A header is read back from its bytes, and what follows them is the rest. -/
theorem ofBytes?_toBytes_append (h : Header) (rest : Bytes) :
    ofBytes? (h.toBytes ++ rest) = some (h, rest) := by
  have hw := h.options.words_le
  have h0 : (UInt8.ofNat (69 + h.options.words)).toNat = 69 + h.options.words := by
    simp only [UInt8.toNat_ofNat']
    omega
  have hn : (69 + h.options.words) % 16 - 5 = h.options.words := by omega
  simp only [toBytes, bytes16, bytes32, Ipv4Address.toBytes, List.cons_append, List.nil_append,
    ofBytes?, h0]
  rw [if_pos (by omega), hn, Options.split?_append]
  simp only [Option.map_some, word16_bytes16, Ipv4Address.ofOctets, word32_bytes32, ofNat_dscp,
    ofNat_ecn, dontFragment_flagByte, moreFragments_flagByte, ofNat_fragmentOffset]

end Header

/-! ## Packets -/

namespace Packet

/-- The total length of a packet that was read is the length of its header and payload. -/
theorem totalLength_of_ofBytes {data : Bytes} {p : Packet} (h : ofBytes data = .ok p) :
    p.header.totalLength.toNat = p.header.length + p.payload.length := by
  unfold ofBytes at h
  split at h
  · cases h
  · next header rest _ =>
    split at h
    · cases h
    · next hheader =>
      split at h
      · cases h
      · next hrest =>
        cases h
        simp only [List.length_take]
        omega

/-- A packet with the right total length is read back from its bytes, whatever follows them. -/
theorem ofBytes_toBytes_append {p : Packet} (rest : Bytes)
    (h : p.header.totalLength.toNat = p.header.length + p.payload.length) :
    ofBytes (p.toBytes ++ rest) = .ok p := by
  rw [ofBytes, toBytes, List.append_assoc, Header.ofBytes?_toBytes_append]
  have hlen : p.header.totalLength.toNat - p.header.length = p.payload.length := by omega
  simp only [hlen]
  rw [if_neg (by omega), if_neg (by simp), List.take_left']
  rfl

/-- A packet that was read is read back from its bytes. -/
theorem ofBytes_toBytes {data : Bytes} {p : Packet} (h : ofBytes data = .ok p) :
    ofBytes p.toBytes = .ok p := by
  simpa using ofBytes_toBytes_append [] (totalLength_of_ofBytes h)

end Packet

end Ipsec.Ipv4
