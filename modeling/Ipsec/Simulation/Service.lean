import Ipsec.Loopback
import Ipsec.Simulation.Session

/-!
# Serving a port of the loopback interface

A `Service` is a gateway that serves the datagrams which two clients send to its port. It runs
like a `Session` in which all tunnels are registered, except that errors of single datagrams are
logged and the clients go by name.
-/

namespace Ipsec.Simulation

/-- A client of the port. -/
inductive Client where
  /-- The client at the first loopback address. -/
  | first
  /-- The client at the second loopback address. -/
  | second
deriving DecidableEq, Repr

namespace Client

/-- The clients. -/
def all : List Client := [first, second]

/-- The name of the client in reports. -/
def name : Client → String
  | first => "client0"
  | second => "client1"

/-- The address of the client. -/
def address : Client → Ipv4Address
  | first => .ofOctets 127 0 0 1
  | second => .ofOctets 127 0 0 2

/-- The endpoint of the client. The port is one that no socket has, so that the client cannot be
taken for anyone else. -/
def endpoint (c : Client) : Endpoint := .v4 ⟨c.address, 0⟩

/-- The text of an endpoint, by name if it is that of a client. -/
def endpointText (e : Endpoint) : String :=
  match all.find? fun c => c.endpoint = e with
  | some c => c.name
  | none => e.text

end Client

/-- A step of a script for a service. -/
inductive ServiceStep where
  /-- Changes the world. -/
  | world (step : WorldStep)
  /-- A client sends a datagram. -/
  | datagram (client : Client) (data : Bytes)
  /-- A client sends a packet that the peer of a tunnel wraps. -/
  | packet (client : Client) (place : Nat) (packet : PacketScript)
  /-- The gateway is pumped once. -/
  | pump
  /-- Nothing happens for a while. -/
  | idle

namespace ServiceStep

/-- Whether the step is a pump tick. -/
def isPump : ServiceStep → Bool
  | .pump => true
  | _ => false

/-- The client that takes a step. Steps that no client takes count as those of the first. -/
def client : ServiceStep → Client
  | .datagram client _ | .packet client _ _ => client
  | _ => .first

/-- Datagrams are reported in a fixed order, those to the client of the step first, and lines of
the log after a pump tick. -/
def style (step : ServiceStep) : ReportStyle where
  sortSent := true
  sortLog := step.isPump
  favoured e := e = step.client.endpoint
  name := Client.endpointText

end ServiceStep

namespace Service

/-- Registers all tunnels of a gateway. -/
def register (s : Session) : Session :=
  (List.range s.gateway.tunnels.length).foldl (fun s place => (s.onGateway (·.add place)).2) s

/-- Opens the port. What is logged until the first step is not reported. -/
def start (interface : Loopback.Interface) (profiles : List Tunnel.Profile) :
    Except IoFault Session :=
  match interface with
  | .down => .error .networkUnreachable
  | .up =>
    let s := Session.ofProfiles profiles
    let world := { s.host.world with maxDatagram := some Loopback.maxDatagram }
    .ok (register { s with host := { s.host with world } }).forget

/-- Serves a datagram. -/
def receive (client : Client) (data : Bytes) (s : Session) : SessionAnswer × Session :=
  let ((), s) := s.onGateway fun g => ((), g.serve data client.endpoint s.now)
  (.done, s)

/-- Takes a step. -/
def perform (step : ServiceStep) (s : Session) : SessionAnswer × Session :=
  match step with
  | .world step => s.changeWorld step
  | .datagram client data => receive client data s
  | .packet client place packet =>
    s.withPacket place packet fun packet =>
      (·.fromPeer place packet fun data => receive client data)
  | .pump => s.perform (.gatewayPump 1)
  | .idle => (.done, s)

/-- Takes a step and reports what can be seen afterwards. -/
def step (step : ServiceStep) (s : Session) : SessionReport × Session :=
  let (answer, s) := perform step s
  s.report answer step.style

/-- Takes the steps of a script in turn. -/
def run (steps : List ServiceStep) (s : Session) : List SessionReport :=
  match steps with
  | [] => []
  | first :: more =>
    let (report, s) := step first s
    report :: run more s

end Service

end Ipsec.Simulation
