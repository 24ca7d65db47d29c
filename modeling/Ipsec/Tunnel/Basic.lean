import Ipsec.Esp.Association
import Ipsec.Flow.Table
import Ipsec.Ip.Icmp
import Ipsec.Ip.Selector
import Ipsec.Settings
import Ipsec.Tcp.Connection

/-!
# Tunnels

A `Tunnel` is one association that ends here, with the flows that it carries. Its `Profile` is
fixed when it is set up. A `Tunnel.Scene` is a tunnel and the host it runs on; all that a tunnel
does is a function on scenes. This module sends packets, ends flows and parks them. Where a tunnel
visits all its flows, the order is not its own choice, and a `Rota` gives it.
-/

namespace Ipsec

namespace Tunnel

/-- What is fixed when a tunnel is set up. -/
structure Profile where
  /-- The association. -/
  association : Esp.Association
  /-- The address of the peer. -/
  gateway : Ipv4Address
  /-- Whether there is a transport to send by. -/
  hasTransport : Bool := true
  /-- The settings. -/
  settings : Settings := {}
  /-- The traffic that the tunnel may carry, if the peer declared any. -/
  selectors : Option (List Selector) := none
  /-- Whether this side set the tunnel up; only then it sends keep-alive probes. -/
  initiator : Bool := false

end Tunnel

/-- A tunnel with the flows that it carries. -/
structure Tunnel (σ : Type) where
  /-- What is fixed. -/
  profile : Tunnel.Profile
  /-- What traffic changes. -/
  channel : Esp.Channel
  /-- When the last keep-alive probe fell due, or the tunnel was set up. -/
  lastProbe : Nat
  /-- The connections of the flows. -/
  sessions : Flow.Table Flow.Key (Tcp.Connection σ) := ∅

namespace Tunnel

variable {ω σ α : Type}

/-- A tunnel that was just set up. What its calls of the random source will give comes with it. -/
def fresh (profile : Profile) (seed : UInt64) (vectors : Nat → Option Aes.Block) (now : Nat) :
    Tunnel σ :=
  { profile, channel := { random := ⟨seed, 0⟩, vectors := ⟨vectors, 0⟩ }, lastProbe := now }

/-- The index of datagrams that arrive. -/
def spiIn (t : Tunnel σ) : UInt32 := t.profile.association.spiIn

/-- The index of datagrams that leave. -/
def spiOut (t : Tunnel σ) : UInt32 := t.profile.association.spiOut

namespace Profile

/-- Where the peer expects tunnel datagrams. -/
def gatewayEndpoint (p : Profile) : Endpoint := .v4 ⟨p.gateway, p.settings.natTraversalPort⟩

/-- Whether the tunnel may carry traffic to an address. -/
def containsIp (p : Profile) (a : Ipv4Address) : Bool :=
  match p.selectors with
  | none => false
  | some selectors => selectors.any (·.contains a)

/-- Wraps a packet as a datagram. -/
def wrap (p : Profile) (packet : Ipv4.Packet) (channel : Esp.Channel) :
    Except EspError Bytes × Esp.Channel :=
  p.association.encapsulate p.settings.captureTraffic packet channel

/-- Wraps a packet and sends it to an endpoint. Without a transport nothing is sent. -/
def send [Platform ω σ] (p : Profile) : Tcp.Link Esp.Channel ω :=
  fun packet receiver channel host =>
    match p.wrap packet channel with
    | (.error e, channel) => (.error e, channel, host)
    | (.ok datagram, channel) =>
      if p.hasTransport then
        match host.transmit datagram receiver with
        | (.ok (), host) => (.ok (), channel, host)
        | (.error fault, host) => (.error (.transport fault), channel, host)
      else (.ok (), channel, host.note (.noTransport receiver))

end Profile

/-! ## Scenes -/

/-- The orders in which a tunnel visits its flows when it visits all of them. -/
structure Rota where
  /-- The order of the live flows. -/
  live : List Flow.Key → List Flow.Key := id
  /-- The order of the parked flows. -/
  parked : List Flow.Key → List Flow.Key := id

/-- A tunnel and the host it runs on. -/
structure Scene (ω σ : Type) where
  /-- The tunnel. -/
  tunnel : Tunnel σ
  /-- The host. -/
  host : Host ω

namespace Scene

/-- Logs a notice. -/
def note (notice : Notice) (s : Scene ω σ) : Scene ω σ := { s with host := s.host.note notice }

/-- Replaces the channel. -/
def setChannel (channel : Esp.Channel) (s : Scene ω σ) : Scene ω σ :=
  { s with tunnel := { s.tunnel with channel } }

/-- Replaces the table of flows. -/
def setSessions (sessions : Flow.Table Flow.Key (Tcp.Connection σ)) (s : Scene ω σ) :
    Scene ω σ :=
  { s with tunnel := { s.tunnel with sessions } }

/-- The live connection of a flow. -/
def live? (key : Flow.Key) (s : Scene ω σ) : Option (Tcp.Connection σ) :=
  s.tunnel.sessions.live.get? key

/-- The parked connection of a flow. -/
def parked? (key : Flow.Key) (s : Scene ω σ) : Option (Tcp.Connection σ) :=
  s.tunnel.sessions.parked.get? key

/-- Puts a connection into the live table. -/
def setLive (key : Flow.Key) (conn : Tcp.Connection σ) (s : Scene ω σ) : Scene ω σ :=
  s.setSessions (s.tunnel.sessions.setLive key conn)

/-- Puts a connection into the parked table. -/
def setParked (key : Flow.Key) (conn : Tcp.Connection σ) (s : Scene ω σ) : Scene ω σ :=
  s.setSessions (s.tunnel.sessions.setParked key conn)

/-- Draws a packet identification. -/
def drawIdentification (s : Scene ω σ) : UInt16 × Scene ω σ :=
  let (value, channel) := s.tunnel.channel.draw
  (value.toUInt16, s.setChannel channel)

/-- Wraps a packet and sends it to an endpoint. -/
def send [Platform ω σ] (packet : Ipv4.Packet) (receiver : Endpoint) (s : Scene ω σ) :
    Except EspError Unit × Scene ω σ :=
  let (result, channel, host) :=
    s.tunnel.profile.send packet receiver s.tunnel.channel s.host
  (result, ({ s with host }).setChannel channel)

/-- Sends an echo request to the peer. -/
def ping [Platform ω σ] (source destination : Ipv4Address) (s : Scene ω σ) :
    Except EspError Unit × Scene ω σ :=
  let (identification, s) := s.drawIdentification
  match Icmp.echoRequest source destination identification with
  | .error e => (.error e, s)
  | .ok packet =>
    (s.note (.pinging source destination)).send packet s.tunnel.profile.gatewayEndpoint

/-- Wraps a packet as a datagram without sending it. -/
def encapsulate (packet : Ipv4.Packet) (s : Scene ω σ) : Except EspError Bytes × Scene ω σ :=
  let (result, channel) := s.tunnel.profile.wrap packet s.tunnel.channel
  (result, s.setChannel channel)

/-- Takes a datagram apart. -/
def decapsulate (data : Bytes) (s : Scene ω σ) : Except EspError Ipv4.Packet × Scene ω σ :=
  let p := s.tunnel.profile
  let opening := p.association.decapsulate p.settings.captureTraffic data s.tunnel.channel
  (opening.result,
    ({ s with host := s.host.noteAll opening.notices }).setChannel opening.channel)

/-! ## Flows -/

/-- Runs a step of a connection with the tunnel as its link. -/
def runStep (step : Tcp.StepM Esp.Channel ω σ α) (conn : Tcp.Connection σ) (s : Scene ω σ) :
    Except TcpError α × Tcp.Connection σ × Scene ω σ :=
  match step ⟨conn, s.tunnel.channel, s.host⟩ with
  | .ok a t => (.ok a, t.conn, ({ s with host := t.host }).setChannel t.carrier)
  | .error e t => (.error e, t.conn, ({ s with host := t.host }).setChannel t.carrier)

/-- Logs why a flow failed. What a peer may cause by sending nonsense is not worth a notice. -/
def noteFailure (key : Flow.Key) (e : TcpError) (s : Scene ω σ) : Scene ω σ :=
  if e.isInvariantViolation then s.note (.tableFault key e)
  else if e.isFatal then s
  else s.note (.flowFailed key e)

/-- Closes a connection that was taken out of a table. -/
def closeRemoved [Platform ω σ] (key : Flow.Key) (conn : Option (Tcp.Connection σ))
    (s : Scene ω σ) : Scene ω σ :=
  match conn with
  | none => s
  | some conn =>
    match conn.close s.host with
    | (.ok (), _, host) => { s with host }
    | (.error fault, _, host) => { s with host := host.note (.closeFailed key fault) }

/-- Ends the live and the parked connection of a flow. Ending again does nothing. -/
def terminate [Platform ω σ] (key : Flow.Key) (s : Scene ω σ) : Scene ω σ :=
  let ((live, parked), sessions) := s.tunnel.sessions.remove key
  ((s.setSessions sessions).closeRemoved key live).closeRemoved key parked

/-- Parks the live connection of a flow: it gets no new traffic, but is pumped until it is done. A
connection that was parked under the same key is given up. -/
def release [Platform ω σ] (key : Flow.Key) (s : Scene ω σ) : Scene ω σ :=
  let (moved, sessions) := s.tunnel.sessions.park key
  if moved then
    match s.parked? key with
    | none => s.setSessions sessions
    | some displaced => ({ s with host := displaced.discard s.host }).setSessions sessions
  else s

/-- Ends the flows of a list in turn. -/
def terminateEach [Platform ω σ] (keys : List Flow.Key) (s : Scene ω σ) : Scene ω σ :=
  keys.foldl (fun s key => s.terminate key) s

/-- Ends every flow, the live ones first, in given orders. -/
def terminateAllBy [Platform ω σ] (rota : Rota) (s : Scene ω σ) : Scene ω σ :=
  let s := s.terminateEach (rota.live s.tunnel.sessions.live.keys)
  s.terminateEach (rota.parked s.tunnel.sessions.parked.keys)

/-- Closes the live connection of a flow behind the tunnel's back, and leaves it where it is. Gives
how closing it ended, if there is such a connection. -/
def closeLive [Platform ω σ] (key : Flow.Key) (s : Scene ω σ) :
    Option (Except IoFault Unit) × Scene ω σ :=
  match s.live? key with
  | none => (none, s)
  | some conn =>
    let (result, conn, host) := conn.close s.host
    (some result, ({ s with host }).setLive key conn)

/-- Closes the parked connection of a flow behind the tunnel's back, and leaves it where it is.
Gives how closing it ended, if there is such a connection. -/
def closeParked [Platform ω σ] (key : Flow.Key) (s : Scene ω σ) :
    Option (Except IoFault Unit) × Scene ω σ :=
  match s.parked? key with
  | none => (none, s)
  | some conn =>
    let (result, conn, host) := conn.close s.host
    (some result, ({ s with host }).setParked key conn)

end Scene

end Tunnel

end Ipsec
