import Ipsec.Crypto.Cbc

/-!
# Deciphering undoes enciphering

Each layer of a round is undone by its counterpart. Substitution is a table, so its inverse is
checked byte by byte. Shifting rows only moves bytes. Mixing and its counterpart are linear over
exclusive or (`Column.mix_xor`, `Column.unmix_xor`), so `Column.unmix_mix` has to be checked only
on columns with a single byte. `Schedule.decrypt_encrypt` holds for every expanded key, and
`Cbc.decrypt_encrypt` lifts it to chained blocks.
-/

namespace Ipsec.Aes

/-! ## Substitution -/

theorem restore_substitute (b : UInt8) : restore (substitute b) = b := by
  have h : ∀ n < 256, restore (substitute (UInt8.ofNat n)) = UInt8.ofNat n := by decide +kernel
  simpa using h b.toNat b.toNat_lt

theorem Block.restore_substitute (a : Block) : a.substitute.restore = a := by
  simp [Block.substitute, Block.restore, Block.map, Column.map, Aes.restore_substitute]

theorem Block.unshiftRows_shiftRows (a : Block) : a.shiftRows.unshiftRows = a := rfl

/-! ## Mixing -/

theorem lt_half_iff (b : UInt8) : b < 0x80 ↔ b.toBitVec.msb = false := by
  have h : ∀ n < 256, UInt8.ofNat n < 0x80 ↔ (UInt8.ofNat n).toBitVec.msb = false := by
    decide +kernel
  simpa using h b.toNat b.toNat_lt

theorem xor_cancel_right (a b : UInt8) : a ^^^ b ^^^ b = a := by
  rw [UInt8.xor_assoc, UInt8.xor_self, UInt8.xor_zero]

/-- Doubling is linear: the bit that it shifts out, and so the reduction, is that of the sum. -/
theorem double_xor (a b : UInt8) : double (a ^^^ b) = double a ^^^ double b := by
  have hmsb : (a ^^^ b).toBitVec.msb = (a.toBitVec.msb ^^ b.toBitVec.msb) := by
    rw [UInt8.toBitVec_xor, BitVec.msb_xor]
  have hcarry : ∀ p q : Bool, (if (p ^^ q) = false then (0 : UInt8) else 0x1b) =
      (if p = false then 0 else 0x1b) ^^^ (if q = false then 0 else 0x1b) := by decide
  simp only [double, lt_half_iff, hmsb, hcarry, UInt8.shiftLeft_xor]
  ac_rfl

theorem octuple_xor (a b : UInt8) : octuple (a ^^^ b) = octuple a ^^^ octuple b := by
  simp only [octuple, double_xor]

theorem times9_xor (a b : UInt8) : times9 (a ^^^ b) = times9 a ^^^ times9 b := by
  simp only [times9, octuple_xor]
  ac_rfl

theorem times11_xor (a b : UInt8) : times11 (a ^^^ b) = times11 a ^^^ times11 b := by
  simp only [times11, octuple_xor, double_xor]
  ac_rfl

theorem times13_xor (a b : UInt8) : times13 (a ^^^ b) = times13 a ^^^ times13 b := by
  simp only [times13, octuple_xor, double_xor]
  ac_rfl

theorem times14_xor (a b : UInt8) : times14 (a ^^^ b) = times14 a ^^^ times14 b := by
  simp only [times14, octuple_xor, double_xor]
  ac_rfl

namespace Column

theorem mix_xor (a b : Column) : (a.xor b).mix = a.mix.xor b.mix := by
  simp only [mix, xor, double_xor, mk.injEq]
  refine ⟨?_, ?_, ?_, ?_⟩ <;> ac_rfl

theorem unmix_xor (a b : Column) : (a.xor b).unmix = a.unmix.xor b.unmix := by
  simp only [unmix, xor, times9_xor, times11_xor, times13_xor, times14_xor, mk.injEq]
  refine ⟨?_, ?_, ?_, ?_⟩ <;> ac_rfl

/-- A column whose only byte other than zero is in the given row. -/
def single : Fin 4 → UInt8 → Column
  | 0, b => ⟨b, 0, 0, 0⟩
  | 1, b => ⟨0, b, 0, 0⟩
  | 2, b => ⟨0, 0, b, 0⟩
  | 3, b => ⟨0, 0, 0, b⟩

theorem unmix_mix_single (i : Fin 4) (b : UInt8) : (single i b).mix.unmix = single i b := by
  have h : ∀ i : Fin 4, ∀ n < 256,
      (single i (UInt8.ofNat n)).mix.unmix = single i (UInt8.ofNat n) := by
    decide +kernel
  simpa using h i b.toNat b.toNat_lt

/-- The two matrices are inverse to each other. -/
theorem unmix_mix (a : Column) : a.mix.unmix = a := by
  have hsum : a = (((single 0 a.r0).xor (single 1 a.r1)).xor (single 2 a.r2)).xor
      (single 3 a.r3) := by
    simp [single, xor]
  rw [hsum]
  simp only [mix_xor, unmix_xor, unmix_mix_single]

theorem xor_cancel (a b : Column) : (a.xor b).xor b = a := by
  simp only [xor, xor_cancel_right]

end Column

/-! ## Rounds -/

theorem Block.xor_cancel (a b : Block) : (a.xor b).xor b = a := by
  simp [Block.xor, Column.xor_cancel]

theorem Block.map_unmix_map_mix (a : Block) : (a.map Column.mix).map Column.unmix = a := by
  simp [Block.map, Column.unmix_mix]

/-- A round is undone with the same round key. -/
theorem unround_round (a key : Block) : unround key (round a key) = a := by
  rw [unround, round, Block.xor_cancel, Block.map_unmix_map_mix, Block.unshiftRows_shiftRows,
    Block.restore_substitute]

theorem foldr_unround_foldl_round (keys : List Block) (a : Block) :
    keys.foldr unround (keys.foldl round a) = a := by
  induction keys generalizing a with
  | nil => rfl
  | cons key keys ih => rw [List.foldl_cons, List.foldr_cons, ih, unround_round]

/-- Deciphering undoes enciphering, for every expanded key. -/
theorem Schedule.decrypt_encrypt (k : Schedule) (a : Block) : k.decrypt (k.encrypt a) = a := by
  rw [Schedule.decrypt, Schedule.encrypt, Block.xor_cancel, Block.unshiftRows_shiftRows,
    Block.restore_substitute, foldr_unround_foldl_round, Block.xor_cancel]

end Ipsec.Aes

namespace Ipsec.Cbc

open Ipsec.Aes (Block)

/-- Chained deciphering undoes chained enciphering if the block functions do. -/
theorem decrypt_encrypt {f g : Block → Block} (h : ∀ a, g (f a) = a) (iv : Block)
    (l : List Block) : decrypt g iv (encrypt f iv l) = l := by
  induction l generalizing iv with
  | nil => rfl
  | cons a rest ih =>
    rw [encrypt, decrypt, h, Block.xor_cancel, ih]

end Ipsec.Cbc
