/-!
# Internet protocol numbers

The numbers that a packet header gives for what it carries, as far as the dispatcher tells them
apart.
-/

namespace Ipsec.Protocol

/-- Control messages. -/
def icmp : UInt8 := 1

/-- A whole packet of version 4. -/
def ipv4 : UInt8 := 4

/-- Transmission control. -/
def tcp : UInt8 := 6

/-- User datagrams. -/
def udp : UInt8 := 17

/-- The protocols that carry another tunnel: GRE, ESP, AH, VRRP, L2TP, MPLS in IP and WESP. -/
def tunnels : List UInt8 := [47, 50, 51, 112, 115, 137, 141]

/-- Whether a protocol carries another tunnel. -/
def isTunnelLike (protocol : UInt8) : Bool := tunnels.contains protocol

end Ipsec.Protocol
