import Ipsec.Tunnel.Basic

/-!
# Inbound packets of a tunnel

`Scene.dispatch` acts on a packet that came through the tunnel. Echo requests are answered, and
segments go to the connection of their flow, which an opening segment makes. Everything else is
logged and ignored. `Scene.handleDatagram` takes a datagram apart first.
-/

namespace Ipsec.Tunnel.Scene

variable {ω σ : Type} [Platform ω σ]

/-- Answers a control message if it asks for an echo. -/
def handleControl (packet : Ipv4.Packet) (sender : Endpoint) (s : Scene ω σ) : Scene ω σ :=
  match Icmp.Message.ofBytes packet.payload with
  | .error e => s.note (.controlFailed e)
  | .ok (.echoRequest echo data) =>
    let (identification, s) := (s.note (.echoRequested packet.source sender)).drawIdentification
    match Icmp.echoReply packet echo data identification with
    | .error e => s.note (.controlFailed e)
    | .ok reply =>
      match s.send reply sender with
      | (.ok (), s) => s
      | (.error e, s) => s.note (.controlFailed e)
  | .ok (.echoReply ..) => s.note (.echoReplied packet.source sender)
  | .ok (.other _) => s

/-- Acts on the outcome of a step of a live connection. -/
def settle (key : Flow.Key) (result : Except TcpError Tcp.Disposition) (s : Scene ω σ) :
    Scene ω σ :=
  match result with
  | .ok .proceed => s
  | .ok .endSession => s.terminate key
  | .error e => (s.noteFailure key e).terminate key

/-- Passes a packet to the live connection of its flow, if it came through the same gateway as the
flow. -/
def continueFlow (key : Flow.Key) (conn : Tcp.Connection σ) (packet : Ipv4.Packet)
    (sender : Endpoint) (now : Nat) (s : Scene ω σ) : Scene ω σ :=
  if conn.gateway.address ≠ sender.address then
    s.note (.crossedConnection conn.gateway.address sender.address)
  else
    let link := s.tunnel.profile.send
    let (result, conn, s) := s.runStep (Tcp.Connection.accept link packet now) conn
    (s.setLive key conn).settle key result

/-- Starts a connection with the first packet of its flow. It goes live if that succeeds. -/
def startFlow (key : Flow.Key) (packet : Ipv4.Packet) (sender : Endpoint) (now : Nat)
    (s : Scene ω σ) : Scene ω σ :=
  let (seed, channel) := s.tunnel.channel.draw
  let conn := Tcp.Connection.fresh key sender s.tunnel.profile.settings.relaySize ⟨seed, 0⟩ now
  let link := s.tunnel.profile.send
  match (s.setChannel channel).runStep (Tcp.Connection.start link packet now) conn with
  | (.ok .proceed, conn, s) => s.setLive key conn
  | (.ok .endSession, conn, s) =>
    match conn.close s.host with
    | (.ok (), _, host) => { s with host }
    | (.error fault, _, host) => { s with host := host.note (.releaseFailed key fault) }
  | (.error e, conn, s) => ({ s with host := conn.discard s.host }).noteFailure key e

/-- Passes a packet to the flow that it belongs to. -/
def handleSegment (packet : Ipv4.Packet) (sender : Endpoint) (now : Nat) (s : Scene ω σ) :
    Scene ω σ :=
  match Flow.Key.ofPacket? packet with
  | none => s.note .requestUnreadable
  | some key =>
    if key.isValid then
      match s.live? key with
      | some conn => s.continueFlow key conn packet sender now
      | none => s.startFlow key packet sender now
    else s.note .requestInvalid

/-- Acts on a packet that came through the tunnel, by its protocol. -/
def dispatch (packet : Ipv4.Packet) (sender : Endpoint) (now : Nat) (s : Scene ω σ) :
    Scene ω σ :=
  if packet.protocol = Protocol.icmp then s.handleControl packet sender
  else if packet.protocol = Protocol.tcp then s.handleSegment packet sender now
  else if packet.protocol = Protocol.udp then s.note (.userDatagram sender)
  else if Protocol.isTunnelLike packet.protocol then s.note (.nestedTunnel packet.protocol)
  else s.note (.unsupportedProtocol packet.protocol)

/-- Takes a datagram apart and acts on the packet inside. -/
def handleDatagram (data : Bytes) (sender : Endpoint) (now : Nat) (s : Scene ω σ) :
    Except EspError Unit × Scene ω σ :=
  match s.decapsulate data with
  | (.error e, s) => (.error e, s)
  | (.ok packet, s) => (.ok (), s.dispatch packet sender now)

end Ipsec.Tunnel.Scene
