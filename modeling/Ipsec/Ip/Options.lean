import Ipsec.Bytes

/-!
# Header options

Packet and segment headers have a fixed part of five words and up to ten more words of options,
which are kept as they are.
-/

namespace Ipsec

/-- The options of a header: whole words, and at most ten of them. -/
structure Options where
  /-- The bytes. -/
  bytes : Bytes
  /-- There are at most ten whole words. -/
  length_bytes : bytes.length % 4 = 0 ∧ bytes.length ≤ 40
deriving DecidableEq, Repr

namespace Options

/-- No options. -/
def none : Options := ⟨[], by decide⟩

instance : Inhabited Options := ⟨none⟩

/-- The number of bytes. -/
def length (o : Options) : Nat := o.bytes.length

/-- The number of words. -/
def words (o : Options) : Nat := o.length / 4

theorem length_take {n : Nat} {data : Bytes} (h : n ≤ 10 ∧ 4 * n ≤ data.length) :
    (data.take (4 * n)).length % 4 = 0 ∧ (data.take (4 * n)).length ≤ 40 := by
  rw [List.length_take_of_le h.2]
  omega

/-- Splits a byte string into `n` words of options and the rest. -/
def split? (n : Nat) (data : Bytes) : Option (Options × Bytes) :=
  if h : n ≤ 10 ∧ 4 * n ≤ data.length then
    some (⟨data.take (4 * n), length_take h⟩, data.drop (4 * n))
  else Option.none

end Options

end Ipsec
