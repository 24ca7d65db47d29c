import Ipsec.Proofs.Ip.RoundTrip

/-!
# The packets among byte strings

A byte string declares its version, the length of its header and its total length in its first
bytes. `Readable` says that it has as many bytes as it declares, and that what it declares fits
together. Exactly the readable byte strings are packets, and one bit apart a packet is written as it
was read (`Packet.ofBytes_eq_ok_iff`). `Read` lists how reading ends, with the part of the packet
that an error names.
-/

namespace Ipsec

/-- Splitting gives options of the asked length, and loses no byte. -/
theorem Options.split?_eq_some_iff {n : Nat} {data rest : Bytes} {o : Options} :
    split? n data = some (o, rest) ↔ o.words = n ∧ o.bytes ++ rest = data := by
  constructor
  · intro h
    unfold split? at h
    split at h
    · next hfits =>
      cases h
      refine ⟨?_, List.take_append_drop _ _⟩
      rw [words, length, List.length_take_of_le hfits.2]
      omega
    · cases h
  · rintro ⟨rfl, rfl⟩
    exact o.split?_append rest

theorem Options.exists_split? {n : Nat} {data : Bytes} (hn : n ≤ 10)
    (hdata : 4 * n ≤ data.length) : ∃ o rest, split? n data = some (o, rest) := by
  rw [split?, dif_pos ⟨hn, hdata⟩]
  exact ⟨_, _, rfl⟩

namespace Ipv4

/-! ## What a byte string declares -/

/-- The version. -/
def declaredVersion (data : Bytes) : Nat := (data.getD 0 0).toNat / 16

/-- The words of the header. -/
def declaredWords (data : Bytes) : Nat := (data.getD 0 0).toNat % 16

/-- The length of header and payload together. -/
def declaredLength (data : Bytes) : Nat := (word16 (data.getD 2 0) (data.getD 3 0)).toNat

/-- A byte string begins with a whole header of version 4. -/
structure HasHeader (data : Bytes) : Prop where
  fixed : 20 ≤ data.length
  version : declaredVersion data = 4
  words : 5 ≤ declaredWords data
  whole : 4 * declaredWords data ≤ data.length

/-- A byte string begins with a whole packet of version 4. -/
structure Readable (data : Bytes) : Prop extends HasHeader data where
  total : 4 * declaredWords data ≤ declaredLength data
  payload : declaredLength data ≤ data.length

/-- The bytes of a packet without the reserved bit in front of its flags. -/
def unreserved (data : Bytes) : Bytes := data.modify 6 (· &&& 0x7f)

/-! ## Headers -/

namespace Header

variable {data rest : Bytes} {h : Header}

/-- Class and congestion mark share a byte. -/
theorem class_byte (b : UInt8) :
    UInt8.ofNat (Fin.ofNat 64 (b.toNat / 4) * 4 + Fin.ofNat 4 b.toNat) = b := by
  have hb := b.toNat_lt
  simp only [← UInt8.toNat_inj, UInt8.toNat_ofNat', Fin.val_ofNat]
  omega

/-- The flags and the high bits of the offset share a byte with the reserved bit. -/
theorem flags_byte (b b' : UInt8) :
    UInt8.ofNat ((b.toNat / 64 % 2 == 1).toNat * 64 + (b.toNat / 32 % 2 == 1).toNat * 32
      + Fin.ofNat 8192 (b.toNat * 256 + b'.toNat) / 256) = b &&& 0x7f := by
  have hb := b.toNat_lt
  have hb' := b'.toNat_lt
  have hbit (n : Nat) : (n % 2 == 1).toNat = n % 2 := by
    rcases Nat.mod_two_eq_zero_or_one n with h | h <;> simp [h]
  have hand : (b &&& 0x7f).toNat = b.toNat % 128 := by
    rw [UInt8.toNat_and]
    exact Nat.and_two_pow_sub_one_eq_mod b.toNat 7
  simp only [← UInt8.toNat_inj, UInt8.toNat_ofNat', Fin.val_ofNat, hbit, hand]
  omega

theorem offset_byte (b b' : UInt8) :
    UInt8.ofNat (Fin.ofNat 8192 (b.toNat * 256 + b'.toNat) : Fin 8192) = b' := by
  have hb' := b'.toNat_lt
  simp only [← UInt8.toNat_inj, UInt8.toNat_ofNat', Fin.val_ofNat]
  omega

/-- A header is read off a byte string that has one, and written back but for the reserved bit. -/
theorem ofBytes?_writes (hread : ofBytes? data = some (h, rest)) :
    HasHeader data ∧ h.totalLength.toNat = declaredLength data ∧
      h.length = 4 * declaredWords data ∧ h.toBytes ++ rest = unreserved data := by
  unfold ofBytes? at hread
  split at hread
  · next b0 b1 b2 b3 b4 b5 b6 b7 b8 b9 b10 b11 b12 b13 b14 b15 b16 b17 b18 b19 body =>
    split at hread
    · next hfirst =>
      obtain ⟨⟨options, body'⟩, hsplit, hheader⟩ := Option.map_eq_some_iff.1 hread
      obtain ⟨hwords, hbody⟩ := Options.split?_eq_some_iff.1 hsplit
      cases hheader
      have hlength := options.length_eq_words
      have h0 : UInt8.ofNat (69 + options.words) = b0 := by
        rw [hwords, ← UInt8.toNat_inj, UInt8.toNat_ofNat']
        omega
      refine ⟨⟨?_, hfirst.1, hfirst.2, ?_⟩, rfl, ?_, ?_⟩
      · simp
      · rw [← hbody]
        simp only [declaredWords, List.getD_cons_zero, List.length_cons, List.length_append]
        simp only [Options.length] at hlength
        omega
      · simp only [length, declaredWords, List.getD_cons_zero]
        omega
      · simp only [toBytes, flagByte, h0, class_byte, flags_byte, offset_byte, bytes16_word16,
          Ipv4Address.toBytes, Ipv4Address.ofOctets, bytes32_word32, List.append_assoc, hbody]
        rfl
    · cases hread
  · cases hread

/-- A byte string that has a header is read. -/
theorem exists_ofBytes? (hdata : HasHeader data) : ∃ h rest, ofBytes? data = some (h, rest) := by
  obtain ⟨n, hn⟩ := Nat.exists_eq_add_of_le' hdata.fixed
  match data, hn with
  | b0 :: b1 :: b2 :: b3 :: b4 :: b5 :: b6 :: b7 :: b8 :: b9 :: b10 :: b11 :: b12 :: b13 :: b14
      :: b15 :: b16 :: b17 :: b18 :: b19 :: body, _ =>
    have hfirst : b0.toNat / 16 = 4 ∧ 5 ≤ b0.toNat % 16 := ⟨hdata.version, hdata.words⟩
    have hwhole := hdata.whole
    simp only [declaredWords, List.getD_cons_zero, List.length_cons] at hwhole
    have hwords : b0.toNat % 16 - 5 ≤ 10 := by omega
    have hroom : 4 * (b0.toNat % 16 - 5) ≤ body.length := by omega
    obtain ⟨options, rest, hsplit⟩ := Options.exists_split? hwords hroom
    rw [ofBytes?, if_pos hfirst, hsplit]
    exact ⟨_, _, rfl⟩

theorem ofBytes?_eq_none_iff : ofBytes? data = none ↔ ¬HasHeader data := by
  constructor
  · intro hnone hdata
    obtain ⟨h, rest, hread⟩ := exists_ofBytes? hdata
    cases hnone.symm.trans hread
  · intro hdata
    refine Option.eq_none_iff_forall_ne_some.2 fun ⟨h, rest⟩ hread => ?_
    exact hdata (ofBytes?_writes hread).1

end Header

/-! ## Packets -/

namespace Packet

variable {data : Bytes} {p q : Packet}

theorem toBytes_injective (h : p.toBytes = q.toBytes) : p = q := by
  have hp := p.header.ofBytes?_toBytes_append p.payload
  have hq := q.header.ofBytes?_toBytes_append q.payload
  rw [← toBytes, h, toBytes, hq] at hp
  cases p
  cases q
  cases hp
  rfl

/-- How reading a packet ends. -/
inductive Read (data : Bytes) : Except EspError Packet → Prop where
  /-- There is no header. -/
  | headless (h : ¬HasHeader data) : Read data (.error (.malformed "IPv4 header"))
  /-- The packet would be shorter than its header. -/
  | short (hheader : HasHeader data) (h : declaredLength data < 4 * declaredWords data) :
      Read data (.error (.malformed "IPv4 total length"))
  /-- There are fewer bytes than declared. -/
  | truncated (hheader : HasHeader data) (htotal : 4 * declaredWords data ≤ declaredLength data)
      (h : data.length < declaredLength data) :
      Read data (.error (.malformed "IPv4 payload truncated"))
  /-- The packet is written as it was read, but for the reserved bit. -/
  | whole {p : Packet} (h : Readable data)
      (hp : p.toBytes = unreserved (data.take (declaredLength data))) : Read data (.ok p)

theorem read_ofBytes (data : Bytes) : Read data (ofBytes data) := by
  unfold ofBytes
  split
  · next hnone => exact .headless (Header.ofBytes?_eq_none_iff.1 hnone)
  · next header rest hread =>
    obtain ⟨hheader, htotal, hlength, hbytes⟩ := Header.ofBytes?_writes hread
    have hrest : data.length = header.length + rest.length := by
      have h := congrArg List.length hbytes
      simp only [unreserved, List.length_modify, List.length_append, Header.length_toBytes] at h
      exact h.symm
    rw [htotal]
    split
    · next hshort => exact .short hheader (hlength ▸ hshort)
    · next hfits =>
      have hfits := Nat.le_of_not_lt hfits
      split
      · next htruncated => exact .truncated hheader (hlength ▸ hfits) (by omega)
      · next hall =>
        refine .whole ⟨hheader, hlength ▸ hfits, by omega⟩ ?_
        have htake : (header.toBytes ++ rest).take (declaredLength data) =
            header.toBytes ++ rest.take (declaredLength data - header.length) := by
          rw [List.take_append, Header.length_toBytes,
            List.take_of_length_le (by rwa [Header.length_toBytes])]
        rw [unreserved, ← List.take_modify, ← unreserved, ← hbytes, htake]
        rfl

/-- A readable byte string gives no error. -/
theorem Read.not_readable {e : EspError} (h : Read data (.error e)) : ¬Readable data := by
  intro hreadable
  cases h with
  | headless hno => exact hno hreadable.toHasHeader
  | short _ hshort => exact Nat.not_lt.2 hreadable.total hshort
  | truncated _ _ htruncated => exact Nat.not_lt.2 hreadable.payload htruncated

/-- Reading ends in one way only. -/
theorem Read.unique {r r' : Except EspError Packet} (h : Read data r) (h' : Read data r') :
    r = r' := by
  cases h with
  | headless hno =>
    cases h' with
    | headless => rfl
    | short hheader => exact absurd hheader hno
    | truncated hheader => exact absurd hheader hno
    | whole hreadable => exact absurd hreadable.toHasHeader hno
  | short hheader hshort =>
    cases h' with
    | headless hno => exact absurd hheader hno
    | short => rfl
    | truncated _ htotal => exact absurd hshort (Nat.not_lt.2 htotal)
    | whole hreadable => exact absurd hshort (Nat.not_lt.2 hreadable.total)
  | truncated hheader htotal htruncated =>
    cases h' with
    | headless hno => exact absurd hheader hno
    | short _ hshort => exact absurd hshort (Nat.not_lt.2 htotal)
    | truncated => rfl
    | whole hreadable => exact absurd htruncated (Nat.not_lt.2 hreadable.payload)
  | whole hreadable hp =>
    cases h' with
    | headless hno => exact absurd hreadable.toHasHeader hno
    | short _ hshort => exact absurd hshort (Nat.not_lt.2 hreadable.total)
    | truncated _ _ htruncated => exact absurd htruncated (Nat.not_lt.2 hreadable.payload)
    | whole _ hq => rw [toBytes_injective (hp.trans hq.symm)]

theorem ofBytes_eq_iff {r : Except EspError Packet} : ofBytes data = r ↔ Read data r :=
  ⟨fun h => h ▸ read_ofBytes data, (read_ofBytes data).unique⟩

/-- The packet that stands at the front of a byte string. -/
theorem ofBytes_eq_ok_iff :
    ofBytes data = .ok p ↔
      Readable data ∧ p.toBytes = unreserved (data.take (declaredLength data)) := by
  rw [ofBytes_eq_iff]
  constructor
  · rintro ⟨⟩
    exact ⟨‹_›, ‹_›⟩
  · exact fun h => .whole h.1 h.2

/-- The bytes after the declared length do not count. -/
theorem ofBytes_take_append (h : ofBytes data = .ok p) (rest : Bytes) :
    ofBytes (data.take (declaredLength data) ++ rest) = .ok p := by
  obtain ⟨hreadable, hp⟩ := ofBytes_eq_ok_iff.1 h
  obtain ⟨⟨hfixed, hversion, hwords, hwhole⟩, htotal, hpayload⟩ := hreadable
  have hfront (i : Nat) (hi : i < declaredLength data) :
      (data.take (declaredLength data) ++ rest).getD i 0 = data.getD i 0 := by
    have htake : i < (data.take (declaredLength data)).length := by
      rwa [List.length_take_of_le hpayload]
    rw [List.getD_eq_getElem?_getD, List.getElem?_append_left htake, List.getElem?_take_of_lt hi,
      ← List.getD_eq_getElem?_getD]
  have hwords' : declaredWords (data.take (declaredLength data) ++ rest) = declaredWords data := by
    rw [declaredWords, hfront 0 (by omega), declaredWords]
  have hlength' :
      declaredLength (data.take (declaredLength data) ++ rest) = declaredLength data := by
    rw [declaredLength, hfront 2 (by omega), hfront 3 (by omega), declaredLength]
  have hlong : (data.take (declaredLength data) ++ rest).length
      = declaredLength data + rest.length := by
    rw [List.length_append, List.length_take_of_le hpayload]
  refine ofBytes_eq_ok_iff.2 ⟨⟨⟨?_, ?_, ?_, ?_⟩, ?_, ?_⟩, ?_⟩
  · omega
  · rw [declaredVersion, hfront 0 (by omega), ← declaredVersion, hversion]
  · rwa [hwords']
  · omega
  · rwa [hwords', hlength']
  · omega
  · rw [hlength', List.take_left' (List.length_take_of_le hpayload), hp]

/-- Reading and writing are inverse to each other, as far as they can be. -/
structure Codec (data : Bytes) : Prop where
  /-- The readable byte strings are packets, and no others. -/
  accepts : (∃ p, ofBytes data = .ok p) ↔ Readable data
  /-- A packet is written as it was read, but for the reserved bit. -/
  writes : ∀ p, ofBytes data = .ok p → p.toBytes = unreserved (data.take (declaredLength data))
  /-- Whatever follows the declared length, the packet is the same. -/
  ignores : ∀ p rest, ofBytes data = .ok p →
    ofBytes (data.take (declaredLength data) ++ rest) = .ok p
  /-- A packet that was read is read back from its bytes, whatever follows them. -/
  reads : ∀ p rest, ofBytes data = .ok p → ofBytes (p.toBytes ++ rest) = .ok p

/-- **Reading and writing packets.** A byte string is a packet exactly if what it declares fits
together and it has as many bytes. Then reading and writing change nothing but the reserved bit. -/
theorem packet_codec (data : Bytes) : Codec data where
  accepts := by
    constructor
    · rintro ⟨p, hp⟩
      exact (ofBytes_eq_ok_iff.1 hp).1
    · intro hreadable
      cases hresult : ofBytes data with
      | ok p => exact ⟨p, rfl⟩
      | error e => exact absurd hreadable (ofBytes_eq_iff.1 hresult).not_readable
  writes p hp := (ofBytes_eq_ok_iff.1 hp).2
  ignores p rest hp := ofBytes_take_append hp rest
  reads p rest hp := ofBytes_toBytes_append rest (totalLength_of_ofBytes hp)

end Packet

end Ipv4

end Ipsec
