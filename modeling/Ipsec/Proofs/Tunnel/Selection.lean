import Ipsec.Tunnel.Basic

/-!
# The traffic that a tunnel may carry

A peer declares the addresses that a tunnel may carry as ranges, or as networks with the length of
their prefix. A network stands for the addresses that agree with it on its prefix
(`Ipv4Address.AgreeOn`), bit by bit. `Selector.ofCidr` turns it into a range with a mask. To mask an
address rounds it down to a multiple of a power of two (`Selector.toNat_and_mask`), and two
addresses round to the same multiple exactly if their prefixes agree (`agreeOn_iff_div`), so that
the range holds the right addresses (`Selector.contains_ofCidr_iff`). `selection_exact` says of a
whole list of declarations what a tunnel selects by it.
-/

namespace Ipsec

/-! ## Prefixes -/

namespace Ipv4Address

/-- A bit of the address. The first one counts most. -/
def bit (a : Ipv4Address) (i : Nat) : Bool := a.value.toBitVec.getMsbD i

/-- The addresses agree on their first bits. -/
def AgreeOn (n : Nat) (a b : Ipv4Address) : Prop := ∀ i < n, a.bit i = b.bit i

variable {a b : Ipv4Address} {n : Nat}

theorem bit_eq_testBit (a : Ipv4Address) {i : Nat} (hi : i < 32) :
    a.bit i = a.value.toNat.testBit (31 - i) := by
  rw [bit, BitVec.getMsbD_eq_getLsbD, decide_eq_true hi, Bool.true_and, ← BitVec.testBit_toNat]
  rfl

/-- Bits past those of a word are not set. -/
theorem testBit_eq_false (a : Ipv4Address) {i : Nat} (hi : 32 ≤ i) :
    a.value.toNat.testBit i = false :=
  Nat.testBit_lt_two_pow
    (Nat.lt_of_lt_of_le a.value.toNat_lt (Nat.pow_le_pow_right Nat.zero_lt_two hi))

/-- The first bits are what is left when the others are shifted out. -/
theorem agreeOn_iff_shiftRight (hn : n ≤ 32) :
    AgreeOn n a b ↔ a.value.toNat >>> (32 - n) = b.value.toNat >>> (32 - n) := by
  constructor
  · intro h
    refine Nat.eq_of_testBit_eq fun j => ?_
    rw [Nat.testBit_shiftRight, Nat.testBit_shiftRight]
    rcases Nat.lt_or_ge j n with hj | hj
    · -- The bit at `32 - n + j` from below is the one at `n - 1 - j` from above.
      have hbit := h (n - 1 - j) (by omega)
      rw [bit_eq_testBit a (by omega), bit_eq_testBit b (by omega)] at hbit
      have hplace : 31 - (n - 1 - j) = 32 - n + j := by omega
      rwa [hplace] at hbit
    · rw [a.testBit_eq_false (by omega), b.testBit_eq_false (by omega)]
  · intro h i hi
    have hbit := congrArg (Nat.testBit · (n - 1 - i)) h
    simp only [Nat.testBit_shiftRight] at hbit
    have hplace : 32 - n + (n - 1 - i) = 31 - i := by omega
    rw [hplace] at hbit
    rw [bit_eq_testBit a (by omega), bit_eq_testBit b (by omega), hbit]

/-- Addresses with the same first bits lie in the same block. -/
theorem agreeOn_iff_div (hn : n ≤ 32) :
    AgreeOn n a b ↔ a.value.toNat / 1 <<< (32 - n) = b.value.toNat / 1 <<< (32 - n) := by
  rw [agreeOn_iff_shiftRight hn, Nat.shiftRight_eq_div_pow, Nat.shiftRight_eq_div_pow,
    Nat.one_shiftLeft]

theorem agreeOn_all : AgreeOn 32 a b ↔ a = b := by
  rw [agreeOn_iff_shiftRight (Nat.le_refl 32), Nat.sub_self, Nat.shiftRight_zero,
    Nat.shiftRight_zero, UInt32.toNat_inj]
  exact ⟨fun h => congrArg mk h, congrArg value⟩

end Ipv4Address

open Ipv4Address (AgreeOn agreeOn_iff_div agreeOn_all)

/-! ## Networks -/

namespace Selector

theorem contains_iff (s : Selector) (a : Ipv4Address) :
    s.contains a = true ↔
      s.first.value.toNat ≤ a.value.toNat ∧ a.value.toNat ≤ s.last.value.toNat := by
  rw [contains, Bool.and_eq_true, decide_eq_true_eq, decide_eq_true_eq, UInt32.le_iff_toNat_le,
    UInt32.le_iff_toNat_le]

theorem toNat_min_length (length : UInt8) : (min length 32).toNat = min length.toNat 32 := by
  rw [Nat.min_def]
  exact apply_ite UInt8.toNat _ _ _

theorem toNat_min_length_le (length : UInt8) : (min length 32).toNat ≤ 32 := by
  rw [toNat_min_length]
  exact Nat.min_le_right _ _

/-- The bits of a mask, the least one first. -/
theorem testBit_mask {length : UInt8} (hn : length.toNat ≤ 32) (i : Nat) :
    (mask length).toNat.testBit i = (decide (i < 32) && decide (32 - length.toNat ≤ i)) := by
  unfold mask
  split
  · next h =>
    subst h
    simp
  · next h =>
    have hpos : length.toNat ≠ 0 := fun hzero => h (UInt8.toNat_inj.1 hzero)
    have hle : length ≤ 32 := UInt8.le_iff_toNat_le.2 hn
    have hshift : (32 - length).toUInt32.toNat % 32 = 32 - length.toNat := by
      rw [UInt8.toNat_toUInt32, UInt8.toNat_sub_of_le _ _ hle]
      exact Nat.mod_eq_of_lt (Nat.sub_lt (by decide) (Nat.pos_of_ne_zero hpos))
    have hones : (0xffffffff : UInt32).toNat = 2 ^ 32 - 1 := rfl
    rw [UInt32.toNat_shiftLeft, hshift, hones, Nat.testBit_mod_two_pow, Nat.testBit_shiftLeft,
      Nat.testBit_two_pow_sub_one]
    grind

/-- To mask an address rounds it down to a multiple. -/
theorem toNat_and_mask (a : Ipv4Address) {length : UInt8} (hn : length.toNat ≤ 32) :
    (a.value &&& mask length).toNat =
      a.value.toNat / 1 <<< (32 - length.toNat) * 1 <<< (32 - length.toNat) := by
  rw [Nat.one_shiftLeft]
  refine Nat.eq_of_testBit_eq fun i => ?_
  rw [UInt32.toNat_and, Nat.testBit_and, testBit_mask hn, Nat.testBit_mul_two_pow,
    Nat.testBit_div_two_pow]
  by_cases hk : 32 - length.toNat ≤ i
  · rw [Nat.sub_add_cancel hk]
    rcases Nat.lt_or_ge i 32 with hi | hi
    · simp [hi, hk]
    · simp [a.testBit_eq_false hi]
  · simp [hk]

/-- The bits that a mask leaves out. -/
theorem toNat_not_mask {length : UInt8} (hn : length.toNat ≤ 32) :
    (~~~mask length).toNat = 1 <<< (32 - length.toNat) - 1 := by
  rw [Nat.one_shiftLeft]
  refine Nat.eq_of_testBit_eq fun i => ?_
  rw [Nat.testBit_two_pow_sub_one]
  have hnot : (~~~mask length).toNat.testBit i =
      (decide (i < 32) && !(mask length).toNat.testBit i) := by
    rw [← UInt32.toNat_toBitVec, UInt32.toBitVec_not, BitVec.testBit_toNat, BitVec.getLsbD_not,
      ← BitVec.testBit_toNat, UInt32.toNat_toBitVec]
  rw [hnot, testBit_mask hn]
  grind

/-- A network begins at a multiple, -/
theorem toNat_first_ofCidr (network : Ipv4Address) (length : UInt8) :
    (ofCidr network length).first.value.toNat =
      network.value.toNat / 1 <<< (32 - min length.toNat 32)
        * 1 <<< (32 - min length.toNat 32) := by
  rw [← toNat_min_length]
  exact toNat_and_mask network (toNat_min_length_le length)

/-- and ends before the next one. -/
theorem toNat_last_ofCidr (network : Ipv4Address) (length : UInt8) :
    (ofCidr network length).last.value.toNat =
      (ofCidr network length).first.value.toNat + (1 <<< (32 - min length.toNat 32) - 1) := by
  have hlast : (ofCidr network length).last.value.toNat =
      (ofCidr network length).first.value.toNat ||| (~~~mask (min length 32)).toNat :=
    UInt32.toNat_or _ _
  rw [hlast, toNat_first_ofCidr, toNat_not_mask (toNat_min_length_le length), toNat_min_length,
    Nat.one_shiftLeft, Nat.mul_comm]
  exact (Nat.two_pow_add_eq_or_of_lt (Nat.sub_lt (Nat.two_pow_pos _) Nat.one_pos) _).symm

/-- The range of a network is the block that the network lies in. -/
theorem contains_ofCidr_iff (network : Ipv4Address) (length : UInt8) (a : Ipv4Address) :
    (ofCidr network length).contains a = true ↔ AgreeOn (min length.toNat 32) a network := by
  have hn : min length.toNat 32 ≤ 32 := Nat.min_le_right _ _
  have hpos : 0 < 1 <<< (32 - min length.toNat 32) := by
    rw [Nat.one_shiftLeft]
    exact Nat.two_pow_pos _
  rw [contains_iff, agreeOn_iff_div hn, Nat.div_eq_iff hpos, toNat_last_ofCidr,
    toNat_first_ofCidr, Nat.add_sub_assoc hpos]

/-- The bits behind the prefix of a network do not matter. -/
theorem ofCidr_congr {network network' : Ipv4Address} {length : UInt8}
    (h : AgreeOn (min length.toNat 32) network network') :
    ofCidr network length = ofCidr network' length := by
  have hn := toNat_min_length_le length
  have hfirst : network.value &&& mask (min length 32) =
      network'.value &&& mask (min length 32) := by
    rw [← toNat_min_length, agreeOn_iff_div hn] at h
    rw [← UInt32.toNat_inj, toNat_and_mask network hn, toNat_and_mask network' hn, h]
  rw [ofCidr, ofCidr, hfirst]

end Selector

/-! ## Declared traffic -/

/-- How a peer declares which addresses a tunnel may carry. -/
inductive Declaration where
  /-- All addresses from one to another. -/
  | range (first last : Ipv4Address)
  /-- The network that an address lies in, with the length of its prefix. -/
  | network (address : Ipv4Address) (length : UInt8)

namespace Declaration

/-- The selector that stands for the declaration. -/
def selector : Declaration → Selector
  | range first last => ⟨first, last⟩
  | network address length => Selector.ofCidr address length

/-- The declaration covers an address. -/
def Covers (a : Ipv4Address) : Declaration → Prop
  | range first last => first.value.toNat ≤ a.value.toNat ∧ a.value.toNat ≤ last.value.toNat
  | network address length => AgreeOn (min length.toNat 32) a address

theorem contains_selector_iff (d : Declaration) (a : Ipv4Address) :
    d.selector.contains a = true ↔ d.Covers a := by
  cases d with
  | range first last => exact Selector.contains_iff _ a
  | network address length => exact Selector.contains_ofCidr_iff address length a

end Declaration

namespace Tunnel

/-- The profile with other traffic declared. -/
def Profile.selecting (p : Profile) (declared : Option (List Declaration)) : Profile :=
  { p with selectors := declared.map (·.map Declaration.selector) }

/-- What a tunnel selects is what its peer declared. -/
structure SelectsExactly (p : Profile) : Prop where
  /-- An address is selected if and only if some declaration covers it. -/
  declared : ∀ (ds : List Declaration) (a : Ipv4Address),
    (p.selecting (some ds)).containsIp a = true ↔ ∃ d ∈ ds, d.Covers a
  /-- Where nothing is declared nothing is selected. -/
  undeclared : ∀ a, (p.selecting none).containsIp a = false ∧
    (p.selecting (some [])).containsIp a = false
  /-- The bits behind the prefix of a network do not matter. -/
  hostBits : ∀ {address address' : Ipv4Address} {length : UInt8},
    AgreeOn (min length.toNat 32) address address' →
      (Declaration.network address length).selector =
        (Declaration.network address' length).selector
  /-- A network without a prefix selects every address, -/
  everything : ∀ address a, (p.selecting (some [.network address 0])).containsIp a = true
  /-- one whose prefix is the whole address selects that address only, -/
  single : ∀ {length : UInt8}, 32 ≤ length.toNat → ∀ address a,
    (p.selecting (some [.network address length])).containsIp a = true ↔ a = address
  /-- and a range from an address down to a smaller one selects none. -/
  inverted : ∀ {first last : Ipv4Address}, last.value < first.value → ∀ a,
    (p.selecting (some [.range first last])).containsIp a = false

theorem Profile.containsIp_selecting (p : Profile) (ds : List Declaration) (a : Ipv4Address) :
    (p.selecting (some ds)).containsIp a = true ↔ ∃ d ∈ ds, d.Covers a := by
  simp only [containsIp, selecting, Option.map_some, List.any_map, List.any_eq_true,
    Function.comp_apply, Declaration.contains_selector_iff]

/-- **Traffic selection is exact.** A tunnel may carry traffic to an address if and only if its peer
declared a range or a network that the address lies in. -/
theorem selection_exact (p : Profile) : SelectsExactly p where
  declared := p.containsIp_selecting
  undeclared _ := ⟨rfl, rfl⟩
  hostBits := Selector.ofCidr_congr
  everything address a := by
    refine (p.containsIp_selecting _ a).2 ⟨_, List.mem_cons_self, fun i hi => ?_⟩
    exact absurd hi (Nat.not_lt_zero i)
  single hlength address a := by
    rw [p.containsIp_selecting]
    simp only [List.mem_singleton, exists_eq_left, Declaration.Covers,
      Nat.min_eq_right hlength, agreeOn_all]
  inverted hinverted a := by
    refine Bool.eq_false_iff.2 fun h => ?_
    obtain ⟨d, hd, hcovers⟩ := (p.containsIp_selecting _ a).1 h
    obtain rfl := List.mem_singleton.1 hd
    obtain ⟨hfirst, hlast⟩ := hcovers
    have hlt := UInt32.lt_iff_toNat_lt.1 hinverted
    omega

end Tunnel

end Ipsec
