import Ipsec.Ip.Checksum

/-!
# Messages with their checksum add up

A message adds up (`AddsUp`) if its words come to 65535 when the carries out of the sixteen bits are
added back as long as there are any. To fold a sum does the same as adding the carries back
(`fold_eq_addCarries`). Words are added in any order, so a message can be summed in parts, if all
parts but the last are of even length (`addWords_append`). Hence a message in which the checksum
stands in place of a zero word adds up, whatever its length (`addsUp_sealed`).
-/

namespace Ipsec.Checksum

/-! ## Carries -/

/-- Adds the bits above the lower sixteen to these, as long as there are any. -/
def addCarries (sum : Nat) : Nat :=
  if sum < 65536 then sum else addCarries (sum % 65536 + sum / 65536)
termination_by sum
decreasing_by omega

/-- To fold a sum is to add its carries back until there are none. -/
theorem fold_eq_addCarries (sum : Nat) : fold sum = addCarries sum := by
  fun_induction addCarries sum with
  | case1 sum hsmall =>
    unfold fold
    split <;> omega
  | case2 sum hcarry ih =>
    rw [← ih]
    unfold fold
    rw [if_neg (by omega), if_neg (by omega)]
    omega

theorem fold_le (sum : Nat) : fold sum ≤ 65535 := by
  unfold fold
  split <;> omega

/-- A folded sum and what it lacks to 65535 fold to 65535. -/
theorem fold_add_complement (sum : Nat) : fold (sum + (65535 - fold sum)) = 65535 := by
  unfold fold
  split <;> split <;> omega

/-! ## Words -/

/-- The sum of the 16-bit words of a message. Every other byte is the high one of a word, beginning
with the first. -/
def wordSum (message : Bytes) : Nat :=
  (message.mapIdx fun i b => if i % 2 = 0 then b.toNat * 256 else b.toNat).foldr (· + ·) 0

theorem addWords_eq_wordSum (sum : Nat) (message : Bytes) :
    addWords sum message = sum + wordSum message := by
  fun_induction addWords sum message with
  | case1 sum a b rest ih =>
    rw [ih]
    simp [wordSum, List.mapIdx_cons, Nat.add_assoc]
  | case2 sum a => simp [wordSum]
  | case3 sum => simp [wordSum]

/-- The words of a message come to 65535, with the carries out of the sixteen bits added back. -/
def AddsUp (message : Bytes) : Prop := addCarries (wordSum message) = 65535

theorem onesSum_eq_addCarries (message : Bytes) :
    onesSum message = addCarries (wordSum message) := by
  rw [onesSum, fold_eq_addCarries, addWords_eq_wordSum, Nat.zero_add]

/-! ## Messages in parts -/

theorem addWords_add (m n : Nat) (message : Bytes) :
    addWords (m + n) message = m + addWords n message := by
  fun_induction addWords n message with
  | case1 n a b rest ih =>
    rw [addWords, Nat.add_assoc]
    exact ih
  | case2 n a => exact Nat.add_assoc m n _
  | case3 n => rfl

/-- The words of two parts are those of the whole, if the first part ends with a word. -/
theorem addWords_append {front : Bytes} (heven : front.length % 2 = 0) (back : Bytes) (sum : Nat) :
    addWords sum (front ++ back) = addWords sum front + addWords 0 back := by
  fun_induction addWords sum front with
  | case1 sum a b rest ih =>
    have heven : rest.length % 2 = 0 := by
      simp only [List.length_cons] at heven
      omega
    exact ih heven
  | case2 sum a => simp at heven
  | case3 sum => exact addWords_add sum 0 back

theorem addWords_bytes16 (sum : Nat) (w : UInt16) : addWords sum (bytes16 w) = sum + w.toNat := by
  have hw := w.toNat_lt
  simp only [bytes16, addWords, UInt8.toNat_ofNat']
  omega

/-- A word in the middle of a message counts by itself. -/
theorem addWords_word {front : Bytes} (heven : front.length % 2 = 0) (w : UInt16) (back : Bytes) :
    addWords 0 (front ++ bytes16 w ++ back) =
      addWords 0 (front ++ bytes16 0 ++ back) + w.toNat := by
  have hfront : ∀ v : UInt16, (front ++ bytes16 v).length % 2 = 0 := by
    intro v
    rw [List.length_append, length_bytes16]
    omega
  rw [addWords_append (hfront w), addWords_append (hfront 0), addWords_append heven,
    addWords_append heven, addWords_bytes16, addWords_bytes16]
  simp only [UInt16.toNat_zero]
  omega

/-! ## Checksums in place -/

theorem toNat_checksum (message : Bytes) :
    (checksum message).toNat = 65535 - onesSum message := by
  have hle := fold_le (addWords 0 message)
  simp only [checksum, onesSum, UInt16.toNat_ofNat']
  omega

/-- **A message with its checksum adds up**, if the checksum is in the place of a zero word. -/
theorem addsUp_sealed {front : Bytes} (heven : front.length % 2 = 0) (back : Bytes) :
    AddsUp (front ++ bytes16 (checksum (front ++ bytes16 0 ++ back)) ++ back) := by
  rw [AddsUp, ← onesSum_eq_addCarries, onesSum, addWords_word heven, toNat_checksum]
  exact fold_add_complement _

end Ipsec.Checksum
