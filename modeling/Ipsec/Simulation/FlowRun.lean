import Ipsec.Simulation.Script

/-!
# Running one connection

A `FlowRun` is a connection in a scripted world, whose link records the packets it is handed.
`FlowRun.step` takes one step of a script and reports all that can be seen afterwards.
-/

namespace Ipsec.Simulation

/-- A connection in a scripted world. -/
structure FlowRun where
  /-- The time. -/
  now : Nat := 0
  /-- The connection, unless it was given up. -/
  conn : Option (Tcp.Connection App)
  /-- The host. -/
  host : Host World := { world := {} }
  /-- The opening segments sent since the connection was last started. -/
  openings : Openings := ∅

/-- A step of a script for one connection. -/
inductive FlowStep where
  /-- Changes the world. -/
  | world (step : WorldStep)
  /-- Starts the connection with a packet. -/
  | start (packet : PacketScript)
  /-- Passes a packet to the connection. -/
  | accept (packet : PacketScript)
  /-- Lets the connection relay. -/
  | pump
  /-- Closes the connection. -/
  | close
  /-- Gives the connection up. -/
  | drop

/-- How a step of a script for one connection ended. -/
inductive FlowAnswer where
  /-- It was done. -/
  | done
  /-- There is no such application. -/
  | noApp
  /-- The connection was given up before. -/
  | dropped
  /-- The connection took a packet. -/
  | disposition (value : Tcp.Disposition)
  /-- The connection relayed, or had nothing to relay. -/
  | relayed (value : Bool)
  /-- The packet cannot be read. -/
  | unreadable (error : EspError)
  /-- The connection failed. -/
  | failed (error : TcpError)
  /-- The stream failed. -/
  | fault (fault : IoFault)

/-- What can be seen after a step. -/
structure FlowReport where
  /-- How the step ended. -/
  answer : FlowAnswer
  /-- The packets sent. -/
  sent : List Sighting
  /-- The lines logged. -/
  log : List (String × String)
  /-- The connection. -/
  conn : Option ConnectionView
  /-- The applications. -/
  apps : List App

namespace FlowRun

/-- A link that records packets with their receivers, and fails when sending is told to. -/
def link : Tcp.Link (List (Ipv4.Packet × Endpoint)) World := fun packet receiver sent host =>
  match host.world.sendFault with
  | some text => (.error (.transport (.other text)), sent, host)
  | none => (.ok (), sent ++ [(packet, receiver)], host)

/-- Replaces the connection and the world. -/
def set (conn : Tcp.Connection App) (host : Host World) (r : FlowRun) : FlowRun :=
  { r with conn := some conn, host }

/-- Changes every application. -/
def mapApps (f : App → App) (r : FlowRun) : FlowRun :=
  { r with
    conn := r.conn.map fun c => { c with stream := c.stream.map f }
    host := { r.host with world := { r.host.world with closed := r.host.world.closed.map f } } }

/-- The applications behind open and closed streams. -/
def apps (r : FlowRun) : List App :=
  inOrder ((r.conn.bind (·.stream)).toList ++ r.host.world.closed)

/-- Changes the world. -/
def changeWorld (step : WorldStep) (r : FlowRun) : FlowAnswer × FlowRun :=
  let world := r.host.world
  match step with
  | .advance time => (.done, { r with now := r.now + time })
  | .sendFault text =>
    (.done, { r with host := { r.host with world := { world with sendFault := text } } })
  | .connectFault text =>
    (.done, { r with host := { r.host with world := { world with connectFault := text } } })
  | .editApp id edits =>
    if id < world.opened then
      (.done, r.mapApps fun a => if a.id = id then edits.foldl App.edit a else a)
    else (.noApp, r)

/-- Runs a step of the connection. Gives the packets that it sent, with their receivers. -/
def runStep {α : Type} (step : Tcp.StepM (List (Ipv4.Packet × Endpoint)) World App α)
    (answer : α → FlowAnswer) (conn : Tcp.Connection App) (r : FlowRun) :
    FlowAnswer × List (Ipv4.Packet × Endpoint) × FlowRun :=
  match step ⟨conn, [], r.host⟩ with
  | .ok a s => (answer a, s.carrier, r.set s.conn s.host)
  | .error e s => (.failed e, s.carrier, r.set s.conn s.host)

/-- Passes a packet to an action, if it can be read. -/
def withPacket (packet : PacketScript) (conn : Tcp.Connection App)
    (action : Ipv4.Packet → FlowAnswer × List (Ipv4.Packet × Endpoint) × FlowRun)
    (r : FlowRun) : FlowAnswer × List (Ipv4.Packet × Endpoint) × FlowRun :=
  match Ipv4.Packet.ofBytes (packet.resolve conn.localSequence) with
  | .error e => (.unreadable e, [], r)
  | .ok packet => action packet

/-- Forgets the opening segments, if the connection can be started. -/
def beforeStart (conn : Tcp.Connection App) (r : FlowRun) : FlowRun :=
  if conn.state = .closed then { r with openings := ∅ } else r

/-- Takes a step with the connection. -/
def act (conn : Tcp.Connection App) (step : FlowStep) (r : FlowRun) :
    FlowAnswer × List (Ipv4.Packet × Endpoint) × FlowRun :=
  match step with
  | .world step =>
    let (answer, r) := r.changeWorld step
    (answer, [], r)
  | .start packet =>
    r.withPacket packet conn fun packet =>
      (r.beforeStart conn).runStep (Tcp.Connection.start link packet r.now) .disposition conn
  | .accept packet =>
    r.withPacket packet conn fun packet =>
      r.runStep (Tcp.Connection.accept link packet r.now) .disposition conn
  | .pump => r.runStep (Tcp.Connection.pump link) .relayed conn
  | .close =>
    match conn.close r.host with
    | (.ok (), conn, host) => (.done, [], r.set conn host)
    | (.error fault, conn, host) => (.fault fault, [], r.set conn host)
  | .drop => (.done, [], { r with conn := none, host := conn.discard r.host })

/-- Takes a step. -/
def perform (step : FlowStep) (r : FlowRun) :
    FlowAnswer × List (Ipv4.Packet × Endpoint) × FlowRun :=
  match r.conn, step with
  | some conn, _ => r.act conn step
  | none, .world step =>
    let (answer, r) := r.changeWorld step
    (answer, [], r)
  | none, _ => (.dropped, [], r)

/-- Sees packets in turn. -/
def observeAll (openings : Openings) (sent : List (Ipv4.Packet × Endpoint)) :
    List Sighting × Openings :=
  sent.foldl
    (fun (seen, openings) (packet, receiver) =>
      let (one, openings) := Sighting.observe 0 receiver packet openings
      (seen ++ [one], openings))
    ([], openings)

/-- Forgets what was already reported. -/
def forget (r : FlowRun) : FlowRun :=
  let r := r.mapApps fun a => { a with got := [] }
  { r with host := { r.host with log := [] } }

/-- Takes a step and reports what can be seen afterwards. -/
def step (step : FlowStep) (r : FlowRun) : FlowReport × FlowRun :=
  let (answer, sent, r) := r.perform step
  let (seen, openings) := observeAll r.openings sent
  let r := { r with openings }
  let report :=
    { answer
      sent := seen
      log := r.host.log.map (logLine Endpoint.text)
      conn := r.conn.map (.ofConnection 0 r.now openings)
      apps := r.apps }
  (report, r.forget)

/-- Takes the steps of a script in turn. -/
def run (steps : List FlowStep) (r : FlowRun) : List FlowReport :=
  match steps with
  | [] => []
  | first :: more =>
    let (report, r) := r.step first
    report :: r.run more

end FlowRun

end Ipsec.Simulation
