import Ipsec.Esp.Suite
import Ipsec.Proofs.Crypto.Cipher

/-!
# Payload protection can be undone

Padding brings a payload of any length to whole blocks (`length_padded`), and is taken off again
(`unpadded_padded`). Blocks and bytes are the same thing for whole blocks
(`ofBytes_joined`, `joined_ofBytes`), so `decrypt_encrypt` follows from chained deciphering. A
message that a suite has tagged verifies under the same suite (`verifyTag_appendTag`).
-/

namespace Ipsec.Aes.Block

theorem ofBytes_toBytes_append (a : Block) (rest : Bytes) :
    ofBytes (a.toBytes ++ rest) = a :: ofBytes rest := rfl

end Ipsec.Aes.Block

namespace Ipsec.Esp.Suite

open Ipsec.Aes (Block)

/-! ## Whole blocks -/

@[simp] theorem length_joined (blocks : List Block) :
    (joined blocks).length = 16 * blocks.length := by
  induction blocks with
  | nil => rfl
  | cons a rest ih =>
    rw [joined, List.flatMap_cons, List.length_append, ← joined, ih, Aes.Block.length_toBytes,
      List.length_cons]
    omega

theorem ofBytes_joined (blocks : List Block) : Block.ofBytes (joined blocks) = blocks := by
  induction blocks with
  | nil => rfl
  | cons a rest ih =>
    rw [joined, List.flatMap_cons, Aes.Block.ofBytes_toBytes_append, ← joined, ih]

/-- A byte string of whole blocks is what its blocks join to. -/
theorem joined_ofBytes {n : Nat} {data : Bytes} (h : data.length = 16 * n) :
    joined (Block.ofBytes data) = data := by
  induction n generalizing data with
  | zero =>
    obtain rfl := List.length_eq_zero_iff.1 h
    rfl
  | succ n ih =>
    -- sixteen bytes come off the front, and the rest is shorter by one block
    match data, h with
    | b0 :: b1 :: b2 :: b3 :: b4 :: b5 :: b6 :: b7 :: b8 :: b9 :: b10 :: b11 :: b12 :: b13 :: b14
        :: b15 :: rest, h =>
      have hrest : rest.length = 16 * n := by
        simp only [List.length_cons] at h
        omega
      rw [Block.ofBytes, joined, List.flatMap_cons, ← joined, ih hrest]
      rfl

/-! ## Padding -/

@[simp] theorem length_padding (n : Nat) : (padding n).length = n := by
  simp [padding]

/-- The length of the padding, in naturals: the wrapping sum does not show, because the block
length divides the size of a word. -/
theorem toNat_paddingLength (n : Nat) :
    (paddingLength (UInt64.ofNat n) (UInt64.ofNat blockLength)).toNat
      = (16 - (n + 2) % 16) % 16 := by
  have hb : (UInt64.ofNat blockLength).toNat = 16 := rfl
  have hexcess : ((UInt64.ofNat n + 2) % UInt64.ofNat blockLength).toNat = (n + 2) % 16 := by
    rw [UInt64.toNat_mod, UInt64.toNat_add, UInt64.toNat_ofNat', hb]
    have h2 : (2 : UInt64).toNat = 2 := rfl
    omega
  simp only [paddingLength, ← UInt64.toNat_inj, hexcess, UInt64.toNat_zero]
  split
  · next h => simp [h]
  · next h =>
    have hle : (UInt64.ofNat n + 2) % UInt64.ofNat blockLength ≤ UInt64.ofNat blockLength := by
      rw [UInt64.le_iff_toNat_le, hexcess, hb]
      omega
    rw [UInt64.toNat_sub_of_le _ _ hle, hexcess, hb]
    omega

/-- A padded payload is a whole number of blocks, and at least one. -/
theorem length_padded (plain : Bytes) (protocol : UInt8) :
    ∃ n, 0 < n ∧ (padded plain protocol).length = 16 * n := by
  refine ⟨(plain.length + 2 + 15) / 16, by omega, ?_⟩
  simp only [padded, List.length_append, length_padding, toNat_paddingLength, List.length_cons,
    List.length_nil]
  omega

theorem unpadded_padded (plain : Bytes) (protocol : UInt8) :
    unpadded (padded plain protocol) = .ok (plain, protocol) := by
  have hn : (16 - (plain.length + 2) % 16) % 16 < 16 := Nat.mod_lt _ (by decide)
  unfold padded
  rw [toNat_paddingLength]
  generalize (16 - (plain.length + 2) % 16) % 16 = n at hn
  have hbyte : (UInt8.ofNat n).toNat = n := by
    rw [UInt8.toNat_ofNat']
    omega
  have hlength : (plain ++ padding n ++ [UInt8.ofNat n, protocol]).length
      = plain.length + n + 2 := by simp [Nat.add_assoc]
  simp only [unpadded, List.reverse_append, List.reverse_cons, List.reverse_nil, List.nil_append,
    List.cons_append, hbyte, hlength]
  have hplain : plain.length + n + 2 - n - 2 = plain.length := by omega
  rw [if_pos (by omega), hplain, List.append_assoc, List.take_left' rfl]

/-! ## Encryption -/

/-- Decrypting with the same key undoes encrypting, for every payload, protocol and vector. -/
theorem decrypt_encrypt (s : Suite) (iv : Block) (plain : Bytes) (protocol : UInt8) :
    s.decrypt (s.encrypt iv plain protocol) = .ok (plain, protocol) := by
  obtain ⟨n, hn, hlength⟩ := length_padded plain protocol
  have hblocks : (Block.ofBytes (padded plain protocol)).length = n := by
    have h := congrArg List.length (joined_ofBytes hlength)
    rw [length_joined] at h
    omega
  have hcipher : (s.encrypt iv plain protocol).length = 16 * (n + 1) := by
    rw [encrypt, length_joined, List.length_cons, Cbc.length_encrypt, hblocks]
  have hdecipher : s.decipher (s.encrypt iv plain protocol) = .ok (padded plain protocol) := by
    rw [decipher, hcipher, if_neg (by simp only [blockLength]; omega),
      if_neg (by simp only [blockLength]; omega), encrypt, ofBytes_joined]
    simp only [Cbc.decrypt_encrypt s.cipher.decrypt_encrypt, joined_ofBytes hlength]
  rw [decrypt, hdecipher]
  exact unpadded_padded plain protocol

/-- What was encrypted at all is decrypted again. -/
theorem decrypt_protect {s : Suite} {iv : Option Block} {plain payload : Bytes} {protocol : UInt8}
    (h : s.protect iv plain protocol = .ok payload) :
    s.decrypt payload = .ok (plain, protocol) := by
  cases iv with
  | none => cases h
  | some iv =>
    cases h
    exact s.decrypt_encrypt iv plain protocol

/-! ## Integrity -/

@[simp] theorem length_tag (s : Suite) (message : Bytes) : (s.tag message).length = tagLength := by
  simp [tag, tagLength]

/-- A message with its tag verifies. -/
theorem verifyTag_appendTag (s : Suite) (message : Bytes) :
    s.verifyTag (s.appendTag message) = true := by
  have hn : (message ++ s.tag message).length - tagLength = message.length := by simp
  simp only [verifyTag, appendTag, hn, List.drop_left', List.take_left']
  simp

end Ipsec.Esp.Suite
