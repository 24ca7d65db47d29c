import Ipsec.Bytes

/-!
# The Internet checksum

A message is summed as 16-bit words, an odd byte at the end as the high byte of a word. Carries
out of the sixteen bits are added back, and the checksum is the complement of the result.
-/

namespace Ipsec.Checksum

/-- Adds the 16-bit words of a message to `sum`. -/
def addWords (sum : Nat) : Bytes → Nat
  | a :: b :: rest => addWords (sum + (a.toNat * 256 + b.toNat)) rest
  | [a] => sum + a.toNat * 256
  | [] => sum

/-- Adds carries back until sixteen bits remain. This is the remainder modulo 65535, except that a
sum other than zero never becomes zero. -/
def fold (sum : Nat) : Nat :=
  if sum = 0 then 0 else (sum - 1) % 65535 + 1

/-- The one's complement sum of the 16-bit words of a message. -/
def onesSum (message : Bytes) : Nat := fold (addWords 0 message)

/-- The complement of the one's complement sum. -/
def checksum (message : Bytes) : UInt16 := UInt16.ofNat (65535 - onesSum message)

end Ipsec.Checksum
