import Ipsec.Proofs.Esp.Protection
import Mathlib.Order.Bounds.Basic

/-!
# Any payload, decrypted

A payload from elsewhere need not have been made by a suite. If it is whole blocks, and at least
two, it has a body behind its initialisation vector (`exists_hasBody`), and the last two bytes of
the body say how much of it is padding and what it holds. `Decrypted` lists how decrypting ends.
It ends so for every payload (`decrypt_eq_iff`), and never for lack of a byte to look at
(`HasBody.exists_trailer`). In the other direction `Encrypted` is the layout of what a suite makes,
if it has an initialisation vector. `payload_protection` puts both together for the suites that keys
give.
-/

namespace Ipsec.Esp.Suite

open Ipsec.Aes (Block)

variable {s : Suite} {payload body : Bytes} {n protocol : UInt8}

/-! ## Bodies -/

/-- A payload is an initialisation vector and at least one block. The blocks decipher to the
body. -/
def HasBody (s : Suite) (payload body : Bytes) : Prop :=
  ∃ iv blocks, blocks ≠ [] ∧ payload = joined (iv :: blocks) ∧
    body = joined (Cbc.decrypt s.cipher.decrypt iv blocks)

/-- The body of a payload is one block shorter, and not empty. -/
theorem HasBody.length (h : s.HasBody payload body) :
    payload.length = 16 + body.length ∧ 16 ∣ body.length ∧ 16 ≤ body.length := by
  obtain ⟨iv, blocks, hblocks, rfl, rfl⟩ := h
  have hpos := List.length_pos_iff.2 hblocks
  simp only [length_joined, List.length_cons, Cbc.length_decrypt]
  omega

/-- A payload of whole blocks, and at least two of them, has a body. -/
theorem exists_hasBody (hlong : 32 ≤ payload.length) (hwhole : 16 ∣ payload.length) :
    ∃ body, s.HasBody payload body := by
  obtain ⟨k, hk⟩ := hwhole
  have hjoined := joined_ofBytes hk
  have hlength := length_joined (Block.ofBytes payload)
  rw [hjoined] at hlength
  match hblocks : Block.ofBytes payload with
  | [] =>
    rw [hblocks] at hlength
    simp only [List.length_nil] at hlength
    omega
  | iv :: blocks =>
    rw [hblocks] at hlength hjoined
    refine ⟨_, iv, blocks, ?_, hjoined.symm, rfl⟩
    rintro rfl
    simp only [List.length_cons, List.length_nil] at hlength
    omega

theorem HasBody.decipher_eq (h : s.HasBody payload body) : s.decipher payload = .ok body := by
  obtain ⟨iv, blocks, hblocks, rfl, rfl⟩ := h
  have hpos := List.length_pos_iff.2 hblocks
  have hlength := length_joined (iv :: blocks)
  rw [List.length_cons] at hlength
  rw [decipher, if_neg (by simp only [blockLength]; omega),
    if_neg (by simp only [blockLength]; omega), ofBytes_joined]

/-- The last two bytes are there. -/
theorem HasBody.exists_trailer (h : s.HasBody payload body) :
    ∃ n protocol, [n, protocol] <:+ body := by
  obtain ⟨-, -, hlong⟩ := h.length
  match hlast : body.drop (body.length - 2) with
  | [n, protocol] => exact ⟨n, protocol, hlast ▸ List.drop_suffix _ _⟩
  | [] | [_] | _ :: _ :: _ :: _ =>
    have hlength := congrArg List.length hlast
    simp only [List.length_drop, List.length_cons, List.length_nil] at hlength
    omega

/-- Taking the padding off looks at the last two bytes only. -/
theorem unpadded_of_trailer (h : [n, protocol] <:+ body) :
    unpadded body = if n.toNat + 2 ≤ body.length
      then .ok (body.take (body.length - n.toNat - 2), protocol)
      else .error (.decrypt "pad length exceeds payload") := by
  obtain ⟨front, rfl⟩ := h
  simp only [unpadded, List.reverse_append, List.reverse_cons, List.reverse_nil, List.nil_append,
    List.cons_append]

/-! ## Decrypting -/

/-- How decrypting a payload ends. -/
inductive Decrypted (s : Suite) (payload : Bytes) : Except EspError (Bytes × UInt8) → Prop where
  /-- There is no room for an initialisation vector and a block. -/
  | short (h : payload.length < 32) :
      Decrypted s payload (.error (.decrypt "payload shorter than IV and one block"))
  /-- There is a part of a block. -/
  | uneven (hlong : 32 ≤ payload.length) (h : ¬16 ∣ payload.length) :
      Decrypted s payload (.error (.decrypt "ciphertext is not block aligned"))
  /-- The body is shorter than it says its padding is. -/
  | overpadded {body : Bytes} {n protocol : UInt8} (hbody : s.HasBody payload body)
      (htrailer : [n, protocol] <:+ body) (h : body.length < n.toNat + 2) :
      Decrypted s payload (.error (.decrypt "pad length exceeds payload"))
  /-- The padding comes off. -/
  | opened {body : Bytes} {n protocol : UInt8} (hbody : s.HasBody payload body)
      (htrailer : [n, protocol] <:+ body) (h : n.toNat + 2 ≤ body.length) :
      Decrypted s payload (.ok (body.take (body.length - n.toNat - 2), protocol))

/-- The list of ends is complete. -/
theorem exists_decrypted (s : Suite) (payload : Bytes) : ∃ r, s.Decrypted payload r := by
  by_cases hlong : 32 ≤ payload.length
  · by_cases hwhole : 16 ∣ payload.length
    · obtain ⟨body, hbody⟩ := exists_hasBody (s := s) hlong hwhole
      obtain ⟨n, protocol, htrailer⟩ := hbody.exists_trailer
      by_cases hfits : n.toNat + 2 ≤ body.length
      · exact ⟨_, .opened hbody htrailer hfits⟩
      · exact ⟨_, .overpadded hbody htrailer (Nat.lt_of_not_le hfits)⟩
    · exact ⟨_, .uneven hlong hwhole⟩
  · exact ⟨_, .short (Nat.lt_of_not_le hlong)⟩

theorem HasBody.decrypt_eq (h : s.HasBody payload body) : s.decrypt payload = unpadded body := by
  rw [decrypt, h.decipher_eq]
  rfl

/-- Decrypting ends as listed. -/
theorem Decrypted.decrypt_eq {r : Except EspError (Bytes × UInt8)} (h : s.Decrypted payload r) :
    s.decrypt payload = r := by
  cases h with
  | short h =>
    rw [decrypt, decipher, if_pos (by simpa only [blockLength] using h)]
    rfl
  | uneven hlong h =>
    rw [decrypt, decipher, if_neg (by simp only [blockLength]; omega),
      if_pos (by simp only [blockLength]; omega)]
    rfl
  | overpadded hbody htrailer h =>
    rw [hbody.decrypt_eq, unpadded_of_trailer htrailer, if_neg (Nat.not_le.2 h)]
  | opened hbody htrailer h => rw [hbody.decrypt_eq, unpadded_of_trailer htrailer, if_pos h]

theorem decrypt_eq_iff {r : Except EspError (Bytes × UInt8)} :
    s.decrypt payload = r ↔ s.Decrypted payload r := by
  constructor
  · rintro rfl
    obtain ⟨r, h⟩ := s.exists_decrypted payload
    rwa [h.decrypt_eq]
  · exact Decrypted.decrypt_eq

/-- Decrypting fails for the length of the payload, or for that of the padding. -/
theorem exists_decrypt_eq_error_iff :
    (∃ e, s.decrypt payload = .error e) ↔
      payload.length < 32 ∨ ¬16 ∣ payload.length ∨
        ∃ body n protocol, s.HasBody payload body ∧ [n, protocol] <:+ body ∧
          body.length < n.toNat + 2 := by
  constructor
  · rintro ⟨e, herror⟩
    cases decrypt_eq_iff.1 herror with
    | short hshort => exact .inl hshort
    | uneven _ huneven => exact .inr (.inl huneven)
    | overpadded hbody htrailer hover => exact .inr (.inr ⟨_, _, _, hbody, htrailer, hover⟩)
  · rintro (hshort | huneven | ⟨body, n, protocol, hbody, htrailer, hover⟩)
    · exact ⟨_, (Decrypted.short hshort).decrypt_eq⟩
    · by_cases hlong : 32 ≤ payload.length
      · exact ⟨_, (Decrypted.uneven hlong huneven).decrypt_eq⟩
      · exact ⟨_, (Decrypted.short (Nat.lt_of_not_le hlong)).decrypt_eq⟩
    · exact ⟨_, (Decrypted.overpadded hbody htrailer hover).decrypt_eq⟩

/-! ## Encrypting -/

/-- The layout of an encrypted payload: the bytes 1 to `n` bring the plain one and two more bytes to
the least number `m` of bytes that is whole blocks, and these are enciphered behind the
initialisation vector. -/
structure Encrypted (s : Suite) (iv : Block) (plain : Bytes) (protocol : UInt8) (payload : Bytes)
    (m n : Nat) : Prop where
  least : IsLeast {m | 16 ∣ m ∧ plain.length + 2 ≤ m} m
  padding : m = plain.length + n + 2
  short : n < 16
  length : payload.length = 16 + m
  blocks : ∃ blocks, joined blocks =
      plain ++ (List.range n).map (fun i => UInt8.ofNat (i + 1)) ++ [UInt8.ofNat n, protocol] ∧
    payload = iv.toBytes ++ joined (Cbc.encrypt s.cipher.encrypt iv blocks)

/-- The padding goes up to the next whole block. -/
theorem isLeast_padded (k : Nat) :
    IsLeast {m | 16 ∣ m ∧ k + 2 ≤ m} (k + (16 - (k + 2) % 16) % 16 + 2) := by
  refine ⟨⟨by omega, by omega⟩, ?_⟩
  rintro m ⟨hwhole, hm⟩
  omega

theorem exists_encrypted (s : Suite) (iv : Block) (plain : Bytes) (protocol : UInt8) :
    ∃ m n, s.Encrypted iv plain protocol (s.encrypt iv plain protocol) m n := by
  obtain ⟨k, -, hlength⟩ := length_padded plain protocol
  have hjoined := joined_ofBytes hlength
  have hpadded : padded plain protocol =
      plain ++ (List.range ((16 - (plain.length + 2) % 16) % 16)).map (fun i => UInt8.ofNat (i + 1))
        ++ [UInt8.ofNat ((16 - (plain.length + 2) % 16) % 16), protocol] := by
    rw [padded, toNat_paddingLength, padding]
  have htotal : (padded plain protocol).length
      = plain.length + (16 - (plain.length + 2) % 16) % 16 + 2 := by
    rw [hpadded]
    simp [Nat.add_assoc]
  refine ⟨_, _, isLeast_padded plain.length, rfl, Nat.mod_lt _ (by decide), ?_,
    Block.ofBytes (padded plain protocol), hjoined.trans hpadded, ?_⟩
  · rw [← htotal, encrypt, length_joined, List.length_cons, Cbc.length_encrypt, ← hjoined,
      ofBytes_joined, length_joined]
    omega
  · rw [encrypt, joined, List.flatMap_cons, ← joined]

/-! ## Both directions -/

/-- A suite protects payloads of any length, and takes any payload for what it holds. -/
structure Protects (s : Suite) : Prop where
  /-- With an initialisation vector, encrypting pads as little as it can, and loses nothing. -/
  encrypts : ∀ iv plain protocol, ∃ payload m n,
    s.protect (some iv) plain protocol = .ok payload ∧ s.Encrypted iv plain protocol payload m n
  /-- Decrypting gives back what was encrypted. -/
  undoes : ∀ iv plain protocol payload,
    s.protect iv plain protocol = .ok payload → s.decrypt payload = .ok (plain, protocol)
  /-- Without an initialisation vector nothing is encrypted. -/
  fails : ∀ plain protocol, s.protect none plain protocol = .error (.encrypt "IV generation failed")
  /-- Decrypting fails for one of three reasons. -/
  refuses : ∀ payload, (∃ e, s.decrypt payload = .error e) ↔
    payload.length < 32 ∨ ¬16 ∣ payload.length ∨
      ∃ body n protocol, s.HasBody payload body ∧ [n, protocol] <:+ body ∧
        body.length < n.toNat + 2
  /-- What it gives is what the length and the body of the payload say. -/
  decrypts : ∀ payload r, s.decrypt payload = r ↔ s.Decrypted payload r
  /-- A body has the two bytes that are looked at. -/
  trailer : ∀ payload body, s.HasBody payload body →
    payload.length = 16 + body.length ∧ ∃ n protocol, [n, protocol] <:+ body

/-- **Payload protection.** Keys of the right lengths give a suite that protects payloads. -/
theorem payload_protection {encryptionKey integrityKey : Bytes}
    (hencryption : encryptionKey.length = 16 ∨ encryptionKey.length = 32)
    (hintegrity : integrityKey.length = 32) :
    ∃ s, ofKeys encryptionKey integrityKey = .ok s ∧ s.Protects := by
  obtain ⟨cipher, hcipher⟩ := Option.isSome_iff_exists.1
    ((Aes.Schedule.isSome_ofKey?_iff encryptionKey).2 hencryption)
  refine ⟨⟨cipher, integrityKey⟩, ?_, ?_⟩
  · rw [ofKeys, hcipher]
    exact if_pos hintegrity
  · exact {
      encrypts := fun iv plain protocol =>
        let ⟨m, n, h⟩ := exists_encrypted _ iv plain protocol
        ⟨_, m, n, rfl, h⟩
      undoes := fun _ _ _ _ => decrypt_protect
      fails := fun _ _ => rfl
      refuses := fun _ => exists_decrypt_eq_error_iff
      decrypts := fun _ _ => decrypt_eq_iff
      trailer := fun _ _ h => ⟨h.length.1, h.exists_trailer⟩ }

/-- A key of each length gives a suite. -/
theorem payload_protection_sample :
    (∃ s, ofKeys (List.replicate 16 1) (List.replicate 32 2) = .ok s ∧ s.Protects) ∧
      ∃ s, ofKeys (List.replicate 32 1) (List.replicate 32 2) = .ok s ∧ s.Protects :=
  ⟨payload_protection (.inl List.length_replicate) List.length_replicate,
    payload_protection (.inr List.length_replicate) List.length_replicate⟩

end Ipsec.Esp.Suite
