import Ipsec.Simulation.Script

/-!
# Running a gateway

A `Session` is a gateway with its tunnels in a scripted world. Each tunnel has a `Peer`, which
wraps packets for it. `Session.step` takes one step of a script and reports all that can be seen
afterwards. Steps that sweep flows or tunnels report in a fixed order, whatever the order of the
sweep.
-/

namespace Ipsec.Simulation

/-- The other end of a tunnel, as far as it wraps packets. -/
structure Peer where
  /-- The association as the peer sees it. -/
  association : Esp.Association
  /-- What the peer's traffic changes. -/
  channel : Esp.Channel

/-- A gateway in a scripted world. -/
structure Session where
  /-- The time. -/
  now : Nat := 0
  /-- The gateway. -/
  gateway : Gateway App
  /-- The peers of the tunnels, in order. -/
  peers : List Peer
  /-- The host. -/
  host : Host World := { world := {} }
  /-- The opening segments sent. -/
  openings : Openings := ∅

/-- A step of a script for a gateway. Tunnels are named by their places. -/
inductive SessionStep where
  /-- Changes the world. -/
  | world (step : WorldStep)
  /-- Registers a tunnel. -/
  | add (place : Nat)
  /-- Takes the tunnel under an index off the register. -/
  | remove (spi : UInt32)
  /-- Looks an index up. -/
  | lookup (spi : UInt32)
  /-- Counts the registered tunnels. -/
  | count
  /-- A datagram reaches the gateway. -/
  | gatewayDatagram (data : Bytes) (sender : Endpoint)
  /-- A packet reaches the gateway, wrapped by a peer. -/
  | gatewayPacket (place : Nat) (packet : PacketScript) (sender : Endpoint)
  /-- The gateway is pumped some times. -/
  | gatewayPump (times : Nat)
  /-- A datagram reaches a tunnel. -/
  | datagram (place : Nat) (data : Bytes) (sender : Endpoint)
  /-- A packet reaches a tunnel, wrapped by its peer. -/
  | deliver (place : Nat) (packet : PacketScript) (sender : Endpoint)
  /-- A tunnel takes a datagram apart. -/
  | decapsulate (place : Nat) (data : Bytes)
  /-- A tunnel wraps a packet. -/
  | encapsulate (place : Nat) (packet : PacketScript)
  /-- A tunnel acts on a packet. -/
  | dispatch (place : Nat) (packet : PacketScript) (sender : Endpoint)
  /-- A tunnel sends a packet. -/
  | send (place : Nat) (packet : PacketScript) (receiver : Endpoint)
  /-- A tunnel sends an echo request. -/
  | ping (place : Nat) (source destination : Ipv4Address)
  /-- A tunnel is pumped. -/
  | pump (place : Nat)
  /-- A tunnel ends a flow. -/
  | terminate (place : Nat) (key : Flow.Key)
  /-- A tunnel parks a flow. -/
  | release (place : Nat) (key : Flow.Key)
  /-- A live connection is closed behind the tunnel's back. -/
  | closeLive (place : Nat) (key : Flow.Key)
  /-- A parked connection is closed behind the tunnel's back. -/
  | closeParked (place : Nat) (key : Flow.Key)
  /-- Asks whether a tunnel may carry traffic to an address. -/
  | contains (place : Nat) (address : Ipv4Address)
  /-- Asks what a tunnel is. -/
  | info (place : Nat)

/-- How a step of a script for a gateway ended. -/
inductive SessionAnswer where
  /-- It was done. -/
  | done
  /-- There is no such application. -/
  | noApp
  /-- There is no such thing. -/
  | nothing
  /-- Whether something was done, or holds. -/
  | flag (value : Bool)
  /-- The place of a tunnel, if there is one. -/
  | place (value : Option Nat)
  /-- A number of tunnels. -/
  | count (value : Nat)
  /-- A datagram or a packet was refused. -/
  | refused (error : EspError)
  /-- A stream failed. -/
  | fault (fault : IoFault)
  /-- The packet taken out of a datagram. -/
  | packet (packet : Ipv4.Packet)
  /-- A datagram: its frame, its length, whether its tag is right, and its deciphered payload. -/
  | wrapped (datagram : Esp.Datagram) (length : Nat) (tagRight : Bool) (body : Bytes)
  /-- What a tunnel is, and how many packets it captured. -/
  | info (profile : Tunnel.Profile) (captured : Nat)

/-- What can be seen after a step. -/
structure SessionReport where
  /-- How the step ended. -/
  answer : SessionAnswer
  /-- The datagrams sent. -/
  sent : List Sent
  /-- The numbers of the datagrams of tunnels. -/
  numbers : List (Nat × UInt32)
  /-- The lines logged. -/
  log : List (String × String)
  /-- The connections of each tunnel. -/
  state : List TunnelView
  /-- The applications. -/
  apps : List App

/-- How a report shows what a step did. -/
structure ReportStyle where
  /-- Datagrams are listed by flow, and not in the order of sending. -/
  sortSent : Bool
  /-- Lines of the log are listed by text. -/
  sortLog : Bool
  /-- Among datagrams that the order leaves together, those to a favoured endpoint come first. -/
  favoured : Endpoint → Bool := fun _ => true
  /-- How endpoints are named. -/
  name : Endpoint → String := Endpoint.text

namespace SessionStep

/-- Steps that sweep are reported in a fixed order. -/
def style : SessionStep → ReportStyle
  | .pump _ | .gatewayPump _ | .remove _ => { sortSent := true, sortLog := true }
  | _ => { sortSent := false, sortLog := false }

end SessionStep

namespace Session

/-- Initialisation vectors that a seed determines. -/
def vectors (seed : UInt64) (i : Nat) : Option Aes.Block :=
  some (Esp.Channel.drawBlock { random := ⟨seed, 2 * i⟩ }).1

/-- Sets up tunnels and their peers. -/
def ofProfiles (profiles : List Tunnel.Profile) : Session where
  gateway :=
    { tunnels := profiles.zipIdx.map fun (profile, i) =>
        let seed := UInt64.ofNat (2 * i)
        Tunnel.fresh profile seed (vectors seed) 0 }
  peers := profiles.zipIdx.map fun (profile, i) =>
    let seed := UInt64.ofNat (2 * i + 1)
    ⟨profile.association.swapped, { random := ⟨seed, 0⟩, vectors := ⟨vectors seed, 0⟩ }⟩

/-- The associations of the tunnels. -/
def associations (s : Session) : List Esp.Association :=
  s.gateway.tunnels.map (·.profile.association)

/-- Changes every application. -/
def mapApps (f : App → App) (s : Session) : Session :=
  let change (c : Tcp.Connection App) : Tcp.Connection App := { c with stream := c.stream.map f }
  let tunnels := s.gateway.tunnels.map fun t =>
    { t with
      sessions := ⟨t.sessions.live.mapValues change, t.sessions.parked.mapValues change⟩ }
  { s with
    gateway := { s.gateway with tunnels }
    host := { s.host with world := { s.host.world with closed := s.host.world.closed.map f } } }

/-- The applications behind open and closed streams. -/
def apps (s : Session) : List App :=
  let held := s.gateway.tunnels.flatMap fun t =>
    (t.sessions.live.values ++ t.sessions.parked.values).filterMap (·.stream)
  inOrder (held ++ s.host.world.closed)

/-- Changes the world. -/
def changeWorld (step : WorldStep) (s : Session) : SessionAnswer × Session :=
  let world := s.host.world
  match step with
  | .advance time => (.done, { s with now := s.now + time })
  | .sendFault text =>
    (.done, { s with host := { s.host with world := { world with sendFault := text } } })
  | .connectFault text =>
    (.done, { s with host := { s.host with world := { world with connectFault := text } } })
  | .editApp id edits =>
    if id < world.opened then
      (.done, s.mapApps fun a => if a.id = id then edits.foldl App.edit a else a)
    else (.noApp, s)

/-- Runs an action of the gateway. -/
def onGateway {α : Type}
    (action : Gateway.Scene World App → α × Gateway.Scene World App)
    (s : Session) : α × Session :=
  let (a, g) := action ⟨s.gateway, s.host⟩
  (a, { s with gateway := g.gateway, host := g.host })

/-- Runs an action of the tunnel at a place. -/
def onTunnel (place : Nat)
    (action : Tunnel.Scene World App → SessionAnswer × Tunnel.Scene World App)
    (s : Session) : SessionAnswer × Session :=
  let (answer, s) := s.onGateway (Gateway.Scene.onTunnel place action)
  (answer.getD .nothing, s)

/-- The local sequence number of the live flow that a packet belongs to, or zero. -/
def localSequence (place : Nat) (bytes : Bytes) (s : Session) : UInt32 :=
  let found := do
    let packet ← (Ipv4.Packet.ofBytes bytes).toOption
    let key ← Flow.Key.ofPacket? packet
    let tunnel ← s.gateway.tunnels[place]?
    let conn ← tunnel.sessions.live.get? key
    pure conn.localSequence
  found.getD 0

/-- Passes a packet to an action, if it can be read. -/
def withPacket (place : Nat) (packet : PacketScript)
    (action : Ipv4.Packet → Session → SessionAnswer × Session) (s : Session) :
    SessionAnswer × Session :=
  match Ipv4.Packet.ofBytes (packet.resolve (s.localSequence place packet.bytes)) with
  | .error e => (.refused e, s)
  | .ok packet => action packet s

/-- Lets the peer of a tunnel wrap a packet, and passes the datagram to an action. -/
def fromPeer (place : Nat) (packet : Ipv4.Packet)
    (action : Bytes → Session → SessionAnswer × Session) (s : Session) :
    SessionAnswer × Session :=
  match s.peers[place]? with
  | none => (.nothing, s)
  | some peer =>
    let (result, channel) := peer.association.encapsulate false packet peer.channel
    let s := { s with peers := s.peers.set place { peer with channel } }
    match result with
    | .error e => (.refused e, s)
    | .ok datagram => action datagram s

/-- The answer to something that may be refused. -/
def ofResult : Except EspError Unit → SessionAnswer
  | .ok () => .done
  | .error e => .refused e

/-- A datagram reaches the gateway. -/
def toGateway (data : Bytes) (sender : Endpoint) (s : Session) : SessionAnswer × Session :=
  let (result, s) := s.onGateway fun g => g.handleDatagram data sender s.now
  (ofResult result, s)

/-- A datagram reaches a tunnel. -/
def toTunnel (place : Nat) (data : Bytes) (sender : Endpoint) (s : Session) :
    SessionAnswer × Session :=
  s.onTunnel place fun t =>
    let (result, t) := t.handleDatagram data sender s.now
    (ofResult result, t)

/-- Pumps the gateway some times. Gives whether anything was done. -/
def pumpGateway (times : Nat) (s : Session) : Bool × Session :=
  match times with
  | 0 => (false, s)
  | times + 1 =>
    let (did, s) := s.onGateway fun g => g.pump s.now
    let (didMore, s) := s.pumpGateway times
    (did || didMore, s)

/-- Shows a datagram that the tunnel wrapped. -/
def wrappedAnswer (association : Esp.Association) (data : Bytes) : SessionAnswer :=
  match Esp.Datagram.ofBytes Esp.Suite.tagLength data with
  | .error e => .refused e
  | .ok datagram =>
    match association.outbound.decipher datagram.payload with
    | .error e => .refused e
    | .ok body =>
      .wrapped datagram data.length (association.outbound.verifyTag data) body

/-- The answer to closing a connection behind the tunnel's back. -/
def ofClosing : Option (Except IoFault Unit) → SessionAnswer
  | none => .nothing
  | some (.ok ()) => .done
  | some (.error fault) => .fault fault

/-- Takes a step. -/
def perform (step : SessionStep) (s : Session) : SessionAnswer × Session :=
  match step with
  | .world step => s.changeWorld step
  | .add place =>
    let (displaced, s) := s.onGateway (·.add place)
    (.place displaced, s)
  | .remove spi =>
    let (removed, s) := s.onGateway (·.remove spi)
    (.place removed, s)
  | .lookup spi => (.place (s.gateway.routes.get? spi), s)
  | .count => (.count s.gateway.routes.size, s)
  | .gatewayDatagram data sender => s.toGateway data sender
  | .gatewayPacket place packet sender =>
    s.withPacket place packet fun packet =>
      (·.fromPeer place packet fun data => (·.toGateway data sender))
  | .gatewayPump times =>
    let (did, s) := s.pumpGateway times
    (.flag did, s)
  | .datagram place data sender => s.toTunnel place data sender
  | .deliver place packet sender =>
    s.withPacket place packet fun packet =>
      (·.fromPeer place packet fun data => (·.toTunnel place data sender))
  | .decapsulate place data =>
    s.onTunnel place fun t =>
      match t.decapsulate data with
      | (.ok packet, t) => (.packet packet, t)
      | (.error e, t) => (.refused e, t)
  | .encapsulate place packet =>
    s.withPacket place packet fun packet =>
      (·.onTunnel place fun t =>
        match t.encapsulate packet with
        | (.ok datagram, t) => (wrappedAnswer t.tunnel.profile.association datagram, t)
        | (.error e, t) => (.refused e, t))
  | .dispatch place packet sender =>
    s.withPacket place packet fun packet =>
      (·.onTunnel place fun t => (.done, t.dispatch packet sender s.now))
  | .send place packet receiver =>
    s.withPacket place packet fun packet =>
      (·.onTunnel place fun t =>
        let (result, t) := t.send packet receiver
        (ofResult result, t))
  | .ping place source destination =>
    s.onTunnel place fun t =>
      let (result, t) := t.ping source destination
      (ofResult result, t)
  | .pump place =>
    s.onTunnel place fun t =>
      let (did, t) := t.pump s.now
      (.flag did, t)
  | .terminate place key => s.onTunnel place fun t => (.done, t.terminate key)
  | .release place key => s.onTunnel place fun t => (.done, t.release key)
  | .closeLive place key =>
    s.onTunnel place fun t =>
      let (result, t) := t.closeLive key
      (ofClosing result, t)
  | .closeParked place key =>
    s.onTunnel place fun t =>
      let (result, t) := t.closeParked key
      (ofClosing result, t)
  | .contains place address =>
    s.onTunnel place fun t => (.flag (t.tunnel.profile.containsIp address), t)
  | .info place =>
    s.onTunnel place fun t => (.info t.tunnel.profile t.tunnel.channel.captured, t)

/-- Forgets what was already reported. -/
def forget (s : Session) : Session :=
  let s := s.mapApps fun a => { a with got := [] }
  { s with host := { world := { s.host.world with sent := [] } } }

/-- Reports what can be seen after a step. -/
def report (answer : SessionAnswer) (style : ReportStyle) (s : Session) :
    SessionReport × Session :=
  let (sent, openings) := Sent.observeAll s.associations s.openings s.host.world.sent
  let numbers := sent.filterMap Sent.number?
  let lines := s.host.log.map (logLine style.name)
  let s := { s with openings }
  let (front, back) := sent.partition fun one => style.favoured one.receiver
  let report :=
    { answer
      sent := if style.sortSent then (front ++ back).mergeSort Sent.le else sent
      numbers := if style.sortSent then numbers.mergeSort Sent.numberLe else numbers
      log := if style.sortLog then lines.mergeSort logLe else lines
      state := s.gateway.tunnels.zipIdx.map fun (t, place) =>
        .ofTunnel place s.now openings t
      apps := s.apps }
  (report, s.forget)

/-- Takes a step and reports what can be seen afterwards. -/
def step (step : SessionStep) (s : Session) : SessionReport × Session :=
  let (answer, s) := s.perform step
  s.report answer step.style

/-- Takes the steps of a script in turn. -/
def run (steps : List SessionStep) (s : Session) : List SessionReport :=
  match steps with
  | [] => []
  | first :: more =>
    let (report, s) := s.step first
    report :: s.run more

end Session

end Ipsec.Simulation
