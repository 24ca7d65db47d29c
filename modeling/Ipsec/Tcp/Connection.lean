import Ipsec.Platform
import Ipsec.Random

/-!
# The responding side of a TCP flow

A `Connection` answers one flow. It takes an opening segment, completes the handshake, opens a
local stream, relays data to the stream and relays back what the stream has to say. A reset ends
it. The flow's endpoints are those of its opening segment.

Connections hand their replies to a `Link` of the tunnel that owns them. They never look at the
tunnel's tables: a step ends in a `Disposition`, and the tunnel acts on it. A step runs on a
`Scene`, and changes it up to the point where it fails.
-/

namespace Ipsec.Tcp

/-! ## Connections and their surroundings -/

/-- What the owner of a connection has to do after a step. -/
inductive Disposition where
  /-- Nothing. -/
  | proceed
  /-- End the connection. -/
  | endSession
deriving DecidableEq, Repr

/-- The state of one flow, with a local stream of type `σ`. -/
structure Connection (σ : Type) where
  /-- What the flow is known by. -/
  key : Flow.Key
  /-- The tunnel endpoint that the opening segment came from. -/
  gateway : Endpoint
  /-- Where the connection stands. -/
  state : State := .closed
  /-- The number of the next reply. -/
  localSequence : UInt32 := 0
  /-- The number that the remote side is expected to use next. -/
  remoteSequence : UInt32 := 0
  /-- The endpoint that the remote side asked for. -/
  near : Ipv4Endpoint := ⟨.unspecified, 0⟩
  /-- The endpoint of the remote side. -/
  remote : Ipv4Endpoint := ⟨.unspecified, 0⟩
  /-- The last window of the remote side. -/
  window : UInt16 := 0
  /-- When the last inbound segment came, in microseconds. -/
  lastContact : Nat
  /-- The local stream, once it is open. -/
  stream : Option σ := none
  /-- The largest piece that a reply relays. Without room for a piece nothing is relayed. -/
  relaySize : Nat
  /-- The random values of the connection. -/
  random : Generator

/-- How a connection hands a packet to the tunnel that owns it, to be sent to an endpoint. The
state of the tunnel that sending changes is a `κ`. -/
abbrev Link (κ ω : Type) :=
  Ipv4.Packet → Endpoint → κ → Host ω → Except EspError Unit × κ × Host ω

/-- All that a step of a connection can change. -/
structure Scene (κ ω σ : Type) where
  /-- The connection. -/
  conn : Connection σ
  /-- The state of its link. -/
  carrier : κ
  /-- The host. -/
  host : Host ω

/-- A step of a connection. -/
abbrev StepM (κ ω σ : Type) := EStateM TcpError (Scene κ ω σ)

namespace Connection

variable {κ ω σ : Type}

/-- A connection that was not started yet. It relays at least one byte at a time. -/
def fresh (key : Flow.Key) (gateway : Endpoint) (relaySize : Nat) (random : Generator)
    (now : Nat) : Connection σ :=
  { key, gateway, lastContact := now, relaySize := max relaySize 1, random }

/-- The time since the last inbound segment. -/
def idle (now : Nat) (c : Connection σ) : Nat := now - c.lastContact

/-- The reply segment that the connection would send now. -/
def segment (c : Connection σ) (flags : Flags) (data : Bytes) : Segment :=
  { sourcePort := c.near.port
    destinationPort := c.remote.port
    sequence := c.localSequence
    acknowledgement := c.remoteSequence
    flags
    window := c.window
    data }

/-- Closes the connection and its stream. Closing again does nothing. -/
def close [Platform ω σ] (c : Connection σ) (host : Host ω) :
    Except IoFault Unit × Connection σ × Host ω :=
  match c.stream with
  | none => (.ok (), { c with state := .closed }, host)
  | some stream =>
    let (result, host) := host.close stream
    (result, { c with state := .closed, stream := none }, host)

/-- Gives up a connection: a stream that it still holds is closed. -/
def discard [Platform ω σ] (c : Connection σ) (host : Host ω) : Host ω :=
  (c.close host).2.2

/-! ## Steps -/

/-- Logs a notice. -/
def note (notice : Notice) : StepM κ ω σ Unit :=
  modify fun s => { s with host := s.host.note notice }

/-- Logs a notice if a number is not the one expected. -/
def noteMismatch (notice : UInt32 → UInt32 → Notice) (expected actual : UInt32) :
    StepM κ ω σ Unit :=
  if expected = actual then pure () else note (notice expected actual)

/-- Changes the connection. -/
def update (f : Connection σ → Connection σ) : StepM κ ω σ Unit :=
  modify fun s => { s with conn := f s.conn }

/-- Hands a packet to the link. -/
def handOver (link : Link κ ω) (packet : Ipv4.Packet) : StepM κ ω σ Unit := fun s =>
  match link packet s.conn.gateway s.carrier s.host with
  | (.ok (), carrier, host) => .ok () { s with carrier, host }
  | (.error e, carrier, host) => .error (.tunnel e) { s with carrier, host }

/-- Sends a segment to the remote side, which counts as one in the local sequence. A segment that
is too long for a packet is not sent and not counted. -/
def reply (link : Link κ ω) (flags : Flags) (data : Bytes) : StepM κ ω σ Unit := do
  let c := (← get).conn
  let (identification, random) := c.random.range 10 32700
  update ({ · with random })
  match (c.segment flags data).wrap c.near.address c.remote.address
      (UInt16.ofNat identification) with
  | .error e => throw (.tunnel e)
  | .ok packet =>
    update fun c => { c with localSequence := c.localSequence + 1 }
    handOver link packet

/-- The flags of a relayed piece: only the last one of a burst asks to be handed on. -/
def relayFlags (more : Nat) : Flags := if more = 0 then Flags.ack ||| Flags.psh else Flags.none

/-- Relays from a stream that has `available` bytes until it has none, in pieces of at most the
relay size. Gives the number of bytes relayed, `total` included, and the stream. If the stream
fails to say what follows a piece, the piece is lost, and the room for pieces with it. -/
def relay [LocalStream σ] (link : Link κ ω) (stream : σ) (available total : Nat)
    (s : Scene κ ω σ) : Except TcpError Nat × σ × Scene κ ω σ :=
  if available = 0 then (.ok total, stream, s)
  else match _received : LocalStream.receive s.conn.relaySize stream with
    | (.error fault, stream) => (.error (.io fault), stream, s)
    | (.ok [], stream) => (.ok total, stream, s)
    | (.ok (byte :: bytes), rest) =>
      match _probed : LocalStream.available rest with
      | (.error fault, rest') =>
        (.error (.io fault), rest', { s with conn := { s.conn with relaySize := 0 } })
      | (.ok more, rest') =>
        match reply link (relayFlags more) (byte :: bytes) s with
        | .error e s => (.error e, rest', s)
        | .ok () s => relay link rest' more (total + (bytes.length + 1)) s
termination_by LocalStream.backlog stream
decreasing_by
  have h := LocalStream.backlog_receive_lt _received
  have h' := LocalStream.backlog_available_le rest
  rw [_probed] at h'
  exact Nat.lt_of_le_of_lt h' h

/-- Relays all that the stream has ready. Gives the number of bytes relayed. -/
def drain [LocalStream σ] (link : Link κ ω) : StepM κ ω σ Nat := fun s =>
  match s.conn.stream with
  | none => .ok 0 s
  | some stream =>
    let keep (stream : σ) (s : Scene κ ω σ) : Scene κ ω σ :=
      { s with conn := { s.conn with stream := some stream } }
    match LocalStream.available stream with
    | (.error fault, stream) => .error (.io fault) (keep stream s)
    | (.ok available, stream) =>
      match relay link stream available 0 s with
      | (.error e, stream, s) => .error e (keep stream s)
      | (.ok total, stream, s) => .ok total (keep stream s)

/-- Passes data to the stream. -/
def deliver [LocalStream σ] (data : Bytes) : StepM κ ω σ Unit := fun s =>
  match s.conn.stream with
  | none => .error .closedConnection s
  | some stream =>
    match LocalStream.send data stream with
    | (.error fault, stream) =>
      .error (.io fault) { s with conn := { s.conn with stream := some stream } }
    | (.ok _, stream) => .ok () { s with conn := { s.conn with stream := some stream } }

/-- Opens the stream, if it is not open yet. -/
def openStream [Platform ω σ] : StepM κ ω σ Unit := fun s =>
  match s.conn.stream with
  | some _ => .ok () s
  | none =>
    match s.host.connect s.conn.near with
    | (.error fault, host) => .error (.io fault) { s with host }
    | (.ok stream, host) => .ok () { s with conn := { s.conn with stream := some stream }, host }

/-- Takes the opening segment of a flow, which fixes both endpoints, and answers it. -/
def handleOpening (link : Link κ ω) (packet : Ipv4.Packet) (segment : Segment) :
    StepM κ ω σ Disposition := do
  if segment.flags ≠ Flags.syn then throw (.unexpectedFlags .listen segment.flags)
  update fun c =>
    { c with
      near := ⟨packet.destination, segment.destinationPort⟩
      remote := ⟨packet.source, segment.sourcePort⟩
      window := segment.window
      remoteSequence := segment.sequence + 1 }
  reply link (Flags.syn ||| Flags.ack) []
  update ({ · with state := .synReceived })
  pure .proceed

/-- Takes the segment that completes the handshake, and opens the stream. Wrong numbers are
tolerated. -/
def handleCompletion [Platform ω σ] (segment : Segment) : StepM κ ω σ Disposition := do
  if segment.flags ≠ Flags.ack then throw (.unexpectedFlags .synReceived segment.flags)
  let c := (← get).conn
  noteMismatch .openingSequence c.remoteSequence segment.sequence
  noteMismatch .openingAcknowledgement c.localSequence segment.acknowledgement
  openStream
  update ({ · with state := .established })
  note (.established c.remote c.near)
  pure .proceed

/-- Takes a segment of an established flow. Segments from another port and opening segments are
ignored. A reset ends the flow, and an empty acknowledgement changes nothing. Any other segment
counts as one in the remote sequence, its data goes to the stream, and the stream's answer back. -/
def handleEstablished [LocalStream σ] (link : Link κ ω) (segment : Segment) :
    StepM κ ω σ Disposition := do
  let c := (← get).conn
  if segment.sourcePort ≠ c.remote.port then
    note (.foreignPort segment.sourcePort c.remote)
    return .proceed
  if segment.flags.has Flags.syn then
    note (.unexpectedOpening c.remote segment.flags)
    return .proceed
  update ({ · with window := segment.window })
  if segment.flags.has Flags.rst then
    note (.remoteReset c.remote segment.flags)
    update ({ · with state := .finWait1 })
    return .endSession
  if segment.flags = Flags.ack ∧ segment.data = [] then
    return .proceed
  noteMismatch .sequence c.remoteSequence segment.sequence
  noteMismatch .acknowledgement c.localSequence segment.acknowledgement
  update fun c => { c with remoteSequence := c.remoteSequence + 1 }
  if segment.data ≠ [] then
    deliver segment.data
  let _ ← drain link
  return .proceed

/-- Takes a packet as the state of the connection demands. -/
def handle [Platform ω σ] (link : Link κ ω) (packet : Ipv4.Packet) :
    StepM κ ω σ Disposition := do
  match Segment.ofBytes? packet.payload with
  | none =>
    note .segmentUnreadable
    throw .malformed
  | some segment =>
    match (← get).conn.state with
    | .closed => throw .closedConnection
    | .listen => handleOpening link packet segment
    | .synReceived => handleCompletion segment
    | .established => handleEstablished link segment
    | state =>
      note (.immediateEnd state)
      return .endSession

/-! ## What a tunnel asks of a connection -/

/-- Starts a closed connection with the first packet of its flow. A connection that cannot be
started is closed again. -/
def start [Platform ω σ] (link : Link κ ω) (packet : Ipv4.Packet) (now : Nat) :
    StepM κ ω σ Disposition := fun s =>
  if s.conn.state ≠ .closed then .error (.invalidState .closed s.conn.state) s
  else
    let (first, random) := s.conn.random.range 100 65000
    let listening :=
      { s.conn with localSequence := UInt32.ofNat first, state := .listen, random }
    match handle link packet { s with conn := listening } with
    | .ok disposition s => .ok disposition { s with conn := { s.conn with lastContact := now } }
    | .error e s =>
      match s.conn.close s.host with
      | (.ok (), conn, host) => .error e { s with conn, host }
      | (.error fault, conn, host) =>
        .error e { s with conn, host := host.note (.abortedCloseFailed fault) }

/-- Takes another packet of the flow. -/
def accept [Platform ω σ] (link : Link κ ω) (packet : Ipv4.Packet) (now : Nat) :
    StepM κ ω σ Disposition := do
  update ({ · with lastContact := now })
  handle link packet

/-- Relays what the stream of an established connection has ready. Gives whether there was
anything. -/
def pump [LocalStream σ] (link : Link κ ω) : StepM κ ω σ Bool := do
  if (← get).conn.state = .established then
    return 0 < (← drain link)
  else
    return false

end Connection

end Ipsec.Tcp
