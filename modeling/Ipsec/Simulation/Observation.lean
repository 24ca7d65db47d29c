import Ipsec.Gateway
import Ipsec.Simulation.World

/-!
# Observations

What can be seen of tunnels from outside: the packets they send, the state of their connections,
the applications behind their streams and what they log. Initial sequence numbers are random, so
sequence numbers are shown relative to the opening segment of their conversation, of which an
`Openings` keeps track.
-/

namespace Ipsec.Simulation

/-! ## Conversations -/

/-- The two endpoints of a segment, sender first. -/
structure Conversation where
  /-- The sender. -/
  source : Ipv4Endpoint
  /-- The receiver. -/
  destination : Ipv4Endpoint
deriving DecidableEq, Repr

namespace Conversation

/-- The conversation of a segment between two addresses. -/
def ofSegment (packet : Ipv4.Packet) (segment : Tcp.Segment) : Conversation :=
  ⟨⟨packet.source, segment.sourcePort⟩, ⟨packet.destination, segment.destinationPort⟩⟩

/-- The conversation of a connection's replies. -/
def ofConnection {σ : Type} (conn : Tcp.Connection σ) : Conversation := ⟨conn.near, conn.remote⟩

end Conversation

/-- The sequence numbers of the opening segments sent, by the tunnel that sent them. -/
abbrev Openings := Assoc (Nat × Conversation) UInt32

/-! ## Packets -/

/-- A packet that was sent, as its receiver sees it. -/
structure Sighting where
  /-- Where the packet was sent. -/
  receiver : Endpoint
  /-- The packet. -/
  packet : Ipv4.Packet
  /-- The segment inside, if there is one. -/
  segment : Option Tcp.Segment
  /-- The sequence number, counted from that of the opening segment of the conversation. -/
  offset : Option UInt32
deriving Repr

namespace Sighting

/-- The segment of a packet, if it is said to hold one. -/
def segment? (packet : Ipv4.Packet) : Option Tcp.Segment :=
  if packet.protocol = Protocol.tcp then Tcp.Segment.ofBytes? packet.payload else none

/-- Sees a packet that the tunnel at a place sent. An opening segment counts as such at once. -/
def observe (place : Nat) (receiver : Endpoint) (packet : Ipv4.Packet) (openings : Openings) :
    Sighting × Openings :=
  match segment? packet with
  | none => (⟨receiver, packet, none, none⟩, openings)
  | some segment =>
    let name := (place, Conversation.ofSegment packet segment)
    let openings :=
      if segment.flags.has Tcp.Flags.syn then openings.insert name segment.sequence
      else openings
    let offset := (openings.get? name).map fun first => segment.sequence - first
    (⟨receiver, packet, some segment, offset⟩, openings)

/-- The addresses of the packet, with the ports of its segment. -/
def flowText (s : Sighting) : String :=
  match s.segment with
  | none => s.packet.source.text ++ ">" ++ s.packet.destination.text
  | some segment =>
    let c := Conversation.ofSegment s.packet segment
    c.source.text ++ ">" ++ c.destination.text

/-- Whether the header checksum is right. -/
def headerSumRight (s : Sighting) : Bool := s.packet.header.checksum == s.packet.header.sum

/-- Whether the checksum of a segment in the packet is right. -/
def segmentSumRight (s : Sighting) (segment : Tcp.Segment) : Bool :=
  segment.checksum == segment.sum s.packet.source s.packet.destination

/-- Whether a sequence number is one that a connection may begin with. -/
def isInitialSequence (sequence : UInt32) : Bool := 100 ≤ sequence && sequence < 65000

end Sighting

/-- A datagram that was sent. -/
inductive Sent where
  /-- A datagram of the tunnel at a place, with its number, its length and what it holds. -/
  | tunnelled (place : Nat) (sequence : UInt32) (length : Nat) (protocol : UInt8)
      (sighting : Sighting)
  /-- Any other datagram. -/
  | raw (receiver : Endpoint) (data : Bytes)

namespace Sent

/-- The place of the tunnel that sent the datagram, counted from one; zero for any other. -/
def rank : Sent → Nat
  | .tunnelled place .. => place + 1
  | .raw .. => 0

/-- The flow of the packet inside. -/
def flowText : Sent → String
  | .tunnelled _ _ _ _ sighting => sighting.flowText
  | .raw .. => ""

/-- Where the datagram was sent. -/
def receiver : Sent → Endpoint
  | .tunnelled _ _ _ _ sighting => sighting.receiver
  | .raw receiver _ => receiver

/-- The tunnel and the number of the datagram. -/
def number? : Sent → Option (Nat × UInt32)
  | .tunnelled place sequence .. => some (place, sequence)
  | .raw .. => none

/-- Orders datagrams by tunnel, and then by flow. -/
def le (a b : Sent) : Bool :=
  a.rank < b.rank || (a.rank == b.rank && decide (a.flowText ≤ b.flowText))

/-- Orders numbers of datagrams by tunnel. -/
def numberLe (a b : Nat × UInt32) : Bool := a.1 < b.1 || (a.1 == b.1 && a.2 ≤ b.2)

/-- Reads a datagram as one of an association, if it carries its index and its tag. -/
def read? (association : Esp.Association) (data : Bytes) :
    Option (Esp.Datagram × Bytes × UInt8) := do
  let datagram ← (Esp.Datagram.ofBytes Esp.Suite.tagLength data).toOption
  if datagram.spi = association.spiOut ∧ association.outbound.verifyTag data then
    let (plain, protocol) ← (association.outbound.decrypt datagram.payload).toOption
    pure (datagram, plain, protocol)
  else none

/-- Sees a datagram. It belongs to the first association whose index and tag it carries. -/
def observe (associations : List Esp.Association) (data : Bytes) (receiver : Endpoint)
    (openings : Openings) : Sent × Openings :=
  let found := associations.zipIdx.findSome? fun (association, place) => do
    let (datagram, plain, protocol) ← read? association data
    let packet ← (Ipv4.Packet.ofBytes plain).toOption
    pure (place, datagram.sequence, protocol, packet)
  match found with
  | none => (.raw receiver data, openings)
  | some (place, sequence, protocol, packet) =>
    let (sighting, openings) := Sighting.observe place receiver packet openings
    (.tunnelled place sequence data.length protocol sighting, openings)

/-- Sees a list of datagrams in turn. -/
def observeAll (associations : List Esp.Association) (openings : Openings)
    (sent : List (Bytes × Endpoint)) : List Sent × Openings :=
  sent.foldl
    (fun (seen, openings) (data, receiver) =>
      let (one, openings) := observe associations data receiver openings
      (seen ++ [one], openings))
    ([], openings)

end Sent

/-! ## Connections and applications -/

/-- What can be seen of a connection. -/
structure ConnectionView where
  /-- Its key. -/
  key : Flow.Key
  /-- Its state. -/
  state : Tcp.State
  /-- The number expected from the remote side. -/
  remoteSequence : UInt32
  /-- The number of the next reply, counted from that of the opening segment. -/
  localOffset : Option UInt32
  /-- The remote endpoint. -/
  remote : Ipv4Endpoint
  /-- The endpoint asked for. -/
  near : Ipv4Endpoint
  /-- The tunnel endpoint of the remote side. -/
  gateway : Endpoint
  /-- The time since the last inbound segment. -/
  idle : Nat

/-- Looks at a connection of the tunnel at a place. -/
def ConnectionView.ofConnection {σ : Type} (place now : Nat) (openings : Openings)
    (conn : Tcp.Connection σ) : ConnectionView where
  key := conn.key
  state := conn.state
  remoteSequence := conn.remoteSequence
  localOffset := (openings.get? (place, Conversation.ofConnection conn)).map fun first =>
    conn.localSequence - first
  remote := conn.remote
  near := conn.near
  gateway := conn.gateway
  idle := conn.idle now

/-- The connections of a tunnel. -/
structure TunnelView where
  /-- The live ones, in the order of their keys. -/
  live : List ConnectionView
  /-- The parked ones, in the order of their keys. -/
  parked : List ConnectionView

/-- Looks at the tunnel at a place. -/
def TunnelView.ofTunnel {σ : Type} (place now : Nat) (openings : Openings) (tunnel : Tunnel σ) :
    TunnelView :=
  let views (conns : List (Tcp.Connection σ)) : List ConnectionView :=
    (conns.map (.ofConnection place now openings)).mergeSort fun a b => a.key.le b.key
  ⟨views tunnel.sessions.live.values, views tunnel.sessions.parked.values⟩

/-- The applications behind open and closed streams, in the order in which they were opened. -/
def inOrder (apps : List App) : List App := apps.mergeSort fun a b => a.id ≤ b.id

/-! ## The log -/

/-- A text up to the first occurrence of `words` and with it, or all of it. -/
def cutAfter (words : List Char) : List Char → List Char
  | [] => []
  | c :: rest =>
    if words.isPrefixOf (c :: rest) then words else c :: cutAfter words rest

/-- A line of the log, with its level, and with endpoints named by `name`. Texts are cut where
random numbers or the details of an unreadable segment follow. -/
def logLine (name : Endpoint → String) (notice : Notice) : String × String :=
  let shown := cutAfter "acknowledgement out of sequence".toList (notice.textBy name).toList
  (notice.level.name, String.ofList (cutAfter "TCP payload did not parse".toList shown))

/-- Orders lines of the log by level, and then by text. -/
def logLe (a b : String × String) : Bool :=
  a.1 < b.1 || (a.1 == b.1 && decide (a.2 ≤ b.2))

end Ipsec.Simulation
