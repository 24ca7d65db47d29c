import Ipsec.Tcp.Segment

/-!
# Flow keys

A flow of a tunnel is known by the address it comes from and the port it goes to.
-/

namespace Ipsec.Flow

/-- What tells the flows of one tunnel apart. -/
structure Key where
  /-- The address that the flow comes from. -/
  source : Ipv4Address
  /-- The port that the flow goes to. -/
  port : UInt16
deriving DecidableEq, Repr, Inhabited

namespace Key

/-- The key of the flow that a packet belongs to, if it holds a segment. -/
def ofPacket? (packet : Ipv4.Packet) : Option Key :=
  (Tcp.Segment.ofBytes? packet.payload).map fun segment =>
    ⟨packet.source, segment.destinationPort⟩

/-- Whether the key can name a flow: neither the address nor the port is zero. -/
def isValid (k : Key) : Bool := k.source != Ipv4Address.unspecified && k.port != 0

/-- The key in messages. -/
def text (k : Key) : String :=
  "FlowKey \x7b source: " ++ k.source.text ++ ", destination_port: " ++ toString k.port.toNat
    ++ " \x7d"

/-- Orders keys by address and then by port. -/
def le (a b : Key) : Bool :=
  a.source.value < b.source.value || (a.source.value == b.source.value && a.port ≤ b.port)

end Key

end Ipsec.Flow
