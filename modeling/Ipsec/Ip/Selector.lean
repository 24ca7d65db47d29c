import Ipsec.Ip.Address

/-!
# Traffic selectors

A selector is an inclusive range of addresses that a tunnel may carry. `Selector.ofCidr` gives the
range of a network and the length of its prefix.
-/

namespace Ipsec

/-- An inclusive range of addresses. -/
structure Selector where
  /-- The least address. -/
  first : Ipv4Address
  /-- The greatest address. -/
  last : Ipv4Address
deriving DecidableEq, Repr

namespace Selector

/-- The word whose first bits are set, up to 32 of them. -/
def mask (length : UInt8) : UInt32 :=
  if length = 0 then 0 else 0xffffffff <<< (32 - length).toUInt32

/-- The addresses that agree with `network` on its first `length` bits. A length above 32 counts
as 32. -/
def ofCidr (network : Ipv4Address) (length : UInt8) : Selector :=
  let mask := mask (min length 32)
  let first := network.value &&& mask
  ⟨⟨first⟩, ⟨first ||| ~~~mask⟩⟩

/-- Whether an address lies in the range. -/
def contains (s : Selector) (a : Ipv4Address) : Bool :=
  s.first.value ≤ a.value && a.value ≤ s.last.value

/-- Both ends of the range. -/
def text (s : Selector) : String := s.first.text ++ " - " ++ s.last.text

end Selector

end Ipsec
