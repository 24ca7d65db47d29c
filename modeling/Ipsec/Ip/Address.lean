import Ipsec.Bytes
import Ipsec.Text.Numeral

/-!
# Internet addresses

`Ipv4Address` is a 32-bit number, `Ipv6Address` eight 16-bit groups, and `IpAddress` either of
them. Each has a text form and a reader of it. `Ipv4Endpoint` and `Ipv6Endpoint` add a port, and
the latter a zone. An `Endpoint` is either of them.
-/

namespace Ipsec

/-! ## Version 4 -/

/-- An address of version 4, as a number. -/
structure Ipv4Address where
  /-- The four octets as one word, the first octet highest. -/
  value : UInt32
deriving DecidableEq, Repr, Inhabited

namespace Ipv4Address

/-- The address `0.0.0.0`, which names no host. -/
def unspecified : Ipv4Address := ⟨0⟩

/-- The address of four octets. -/
def ofOctets (a b c d : UInt8) : Ipv4Address := ⟨word32 a b c d⟩

/-- The four octets. -/
def toBytes (a : Ipv4Address) : Bytes := bytes32 a.value

/-- The octets in decimal, with points between them. -/
def text (a : Ipv4Address) : String :=
  ".".intercalate (a.toBytes.map fun b => toString b.toNat)

/-- The value of a decimal octet. It has no superfluous zeros in front. -/
def octet? (s : List Char) : Option Nat :=
  if 1 < s.length ∧ s.head? = some '0' then none else Text.decimal? 255 s

/-- Reads four decimal octets with points between them. -/
def ofChars? (s : List Char) : Option Ipv4Address := do
  match ← (Text.pieces '.' s).mapM octet? with
  | [a, b, c, d] =>
    some (ofOctets (UInt8.ofNat a) (UInt8.ofNat b) (UInt8.ofNat c) (UInt8.ofNat d))
  | _ => none

end Ipv4Address

/-! ## Version 6 -/

/-- An address of version 6, as eight groups of 16 bits. -/
structure Ipv6Address where
  /-- The groups, highest first. -/
  groups : List UInt16
  /-- There are eight groups. -/
  length_groups : groups.length = 8
deriving DecidableEq, Repr

namespace Ipv6Address

/-- Groups in hexadecimal, with colons between them. -/
def joined (groups : List UInt16) : String :=
  ":".intercalate (groups.map fun g => Text.hex 1 g.toNat)

/-- The number of zero groups at the front. -/
def leadingZeros (groups : List UInt16) : Nat :=
  (groups.takeWhile (· == 0)).length

/-- The start and the length of the first longest run of zero groups. -/
def longestZeros (groups : List UInt16) : Nat × Nat :=
  (List.range groups.length).foldl
    (fun best i =>
      let n := leadingZeros (groups.drop i)
      if best.2 < n then (i, n) else best)
    (0, 0)

/-- The address of version 4 embedded behind five zero groups and one group of ones. -/
def mapped? (a : Ipv6Address) : Option Ipv4Address :=
  match a.groups with
  | [0, 0, 0, 0, 0, 0xffff, high, low] => some ⟨UInt32.ofNat (high.toNat * 65536 + low.toNat)⟩
  | _ => none

/-- The groups with colons between them. The first longest run of at least two zero groups is left
out, and an embedded address of version 4 is written in decimal. -/
def text (a : Ipv6Address) : String :=
  match a.mapped? with
  | some inner => "::ffff:" ++ inner.text
  | none =>
    let (start, n) := longestZeros a.groups
    if n ≤ 1 then joined a.groups
    else joined (a.groups.take start) ++ "::" ++ joined (a.groups.drop (start + n))

/-- Reads a group of one to four hexadecimal digits. -/
def group? (s : List Char) : Option UInt16 := (Text.hexWord? s).map UInt16.ofNat

/-- Reads groups with colons between them. -/
def groups? (s : List Char) : Option (List UInt16) :=
  if s.isEmpty then some [] else (Text.pieces ':' s).mapM group?

/-- Reads groups with colons between them; the last two may be written as an address of
version 4. -/
def lastGroups? (s : List Char) : Option (List UInt16) :=
  let parts := Text.pieces ':' s
  match Ipv4Address.ofChars? (parts.getLastD []) with
  | none => groups? s
  | some a => do
    let front ← parts.dropLast.mapM group?
    some (front ++ [UInt16.ofNat (a.value.toNat / 65536), UInt16.ofNat a.value.toNat])

/-- Cuts a text at its first pair of colons. -/
def splitAtGap : List Char → Option (List Char × List Char)
  | ':' :: ':' :: rest => some ([], rest)
  | c :: rest => (splitAtGap rest).map fun (front, back) => (c :: front, back)
  | [] => none

/-- Reads an address in which one run of zero groups may be left out. -/
def ofChars? (s : List Char) : Option Ipv6Address := do
  let groups ← match splitAtGap s with
    | none => lastGroups? s
    | some (front, back) => do
      let front ← groups? front
      let back ← lastGroups? back
      if front.length + back.length < 8 then
        some (front ++ List.replicate (8 - front.length - back.length) 0 ++ back)
      else none
  if h : groups.length = 8 then some ⟨groups, h⟩ else none

end Ipv6Address

/-! ## Either version -/

/-- An address of either version. -/
inductive IpAddress where
  /-- An address of version 4. -/
  | v4 (address : Ipv4Address)
  /-- An address of version 6. -/
  | v6 (address : Ipv6Address)
deriving DecidableEq, Repr

/-- The text of the address. -/
def IpAddress.text : IpAddress → String
  | .v4 a => a.text
  | .v6 a => a.text

/-! ## Endpoints -/

/-- An address of version 4 and a port. -/
structure Ipv4Endpoint where
  /-- The address. -/
  address : Ipv4Address
  /-- The port. -/
  port : UInt16
deriving DecidableEq, Repr, Inhabited

/-- An address of version 6, a zone and a port. -/
structure Ipv6Endpoint where
  /-- The address. -/
  address : Ipv6Address
  /-- The link on which the address counts, or zero if it counts on all. -/
  zone : UInt32
  /-- The port. -/
  port : UInt16
deriving DecidableEq, Repr

/-- An endpoint of either version. -/
inductive Endpoint where
  /-- An endpoint of version 4. -/
  | v4 (endpoint : Ipv4Endpoint)
  /-- An endpoint of version 6. -/
  | v6 (endpoint : Ipv6Endpoint)
deriving DecidableEq, Repr

/-- Reads the decimal numeral of a port. -/
def port? (s : List Char) : Option UInt16 := (Text.decimal? 65535 s).map UInt16.ofNat

namespace Ipv4Endpoint

/-- The address and the port, with a colon between them. -/
def text (e : Ipv4Endpoint) : String := e.address.text ++ ":" ++ toString e.port.toNat

/-- Reads an address and a port with a colon between them. -/
def ofChars? (s : List Char) : Option Ipv4Endpoint :=
  match Text.pieces ':' s with
  | [address, port] => do some ⟨← Ipv4Address.ofChars? address, ← port? port⟩
  | _ => none

end Ipv4Endpoint

namespace Ipv6Endpoint

/-- The zone behind a percent sign, if there is one. -/
def zoneText (e : Ipv6Endpoint) : String :=
  if e.zone = 0 then "" else "%" ++ toString e.zone.toNat

/-- The address and the zone in brackets, and the port behind a colon. -/
def text (e : Ipv6Endpoint) : String :=
  "[" ++ e.address.text ++ e.zoneText ++ "]:" ++ toString e.port.toNat

/-- Reads an address and the zone that may follow it. -/
def zoned? (s : List Char) : Option (Ipv6Address × UInt32) :=
  match Text.pieces '%' s with
  | [address] => do some (← Ipv6Address.ofChars? address, 0)
  | [address, zone] => do
    some (← Ipv6Address.ofChars? address, UInt32.ofNat (← Text.decimal? 4294967295 zone))
  | _ => none

/-- Reads what stands behind the opening bracket. -/
def ofChars? (s : List Char) : Option Ipv6Endpoint :=
  match Text.pieces ']' s with
  | [inside, ':' :: port] => do
    let (address, zone) ← zoned? inside
    some ⟨address, zone, ← port? port⟩
  | _ => none

end Ipv6Endpoint

namespace Endpoint

/-- The address. -/
def address : Endpoint → IpAddress
  | .v4 e => .v4 e.address
  | .v6 e => .v6 e.address

/-- The text of the endpoint. -/
def text : Endpoint → String
  | .v4 e => e.text
  | .v6 e => e.text

/-- Reads the text of an endpoint. -/
def ofText? (s : String) : Option Endpoint :=
  match s.toList with
  | '[' :: rest => (Ipv6Endpoint.ofChars? rest).map .v6
  | chars => (Ipv4Endpoint.ofChars? chars).map .v4

end Endpoint

end Ipsec
