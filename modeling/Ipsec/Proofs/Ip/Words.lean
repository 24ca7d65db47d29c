import Ipsec.Ip.Options

/-!
# Words and options read back what was written

Reading a big-endian word undoes writing it, and splitting off as many words of options as were
written gives the options and leaves the rest.
-/

namespace Ipsec

theorem word16_bytes16 (w : UInt16) :
    word16 (UInt8.ofNat (w.toNat / 256)) (UInt8.ofNat w.toNat) = w := by
  have hw := w.toNat_lt
  simp only [word16, ← UInt16.toNat_inj, UInt8.toNat_ofNat', UInt16.toNat_ofNat']
  omega

theorem word32_bytes32 (w : UInt32) :
    word32 (UInt8.ofNat (w.toNat / 16777216)) (UInt8.ofNat (w.toNat / 65536))
      (UInt8.ofNat (w.toNat / 256)) (UInt8.ofNat w.toNat) = w := by
  have hw := w.toNat_lt
  simp only [word32, ← UInt32.toNat_inj, UInt8.toNat_ofNat', UInt32.toNat_ofNat']
  omega

/-- Four bytes are those of one word only. -/
theorem bytes32_eq_iff {w : UInt32} {a b c d : UInt8} :
    bytes32 w = [a, b, c, d] ↔ w = word32 a b c d := by
  constructor
  · intro h
    rw [bytes32, List.cons.injEq, List.cons.injEq, List.cons.injEq, List.cons.injEq] at h
    obtain ⟨rfl, rfl, rfl, rfl, -⟩ := h
    exact (word32_bytes32 w).symm
  · rintro rfl
    exact bytes32_word32 a b c d

namespace Options

theorem length_eq_words (o : Options) : o.length = 4 * o.words := by
  have h := o.length_bytes.1
  simp only [words, length]
  omega

theorem words_le (o : Options) : o.words ≤ 10 := by
  have h := o.length_bytes.2
  simp only [words, length]
  omega

theorem split?_append (o : Options) (rest : Bytes) :
    split? o.words (o.bytes ++ rest) = some (o, rest) := by
  have hl : 4 * o.words = o.bytes.length := o.length_eq_words.symm
  have h : o.words ≤ 10 ∧ 4 * o.words ≤ (o.bytes ++ rest).length := by
    refine ⟨o.words_le, ?_⟩
    rw [hl, List.length_append]
    omega
  rw [split?, dif_pos h]
  simp only [hl, List.take_left', List.drop_left']

end Options

end Ipsec
