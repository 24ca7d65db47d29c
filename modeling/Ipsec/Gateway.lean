import Ipsec.Tunnel.Dispatch
import Ipsec.Tunnel.Pump

/-!
# Gateways

A `Gateway` serves any number of tunnels from one port. A datagram goes to the tunnel that is
registered under the index it starts with. Tunnels keep their place in the gateway's list, and
`routes` says which of them are registered.
-/

namespace Ipsec

/-- The tunnels of one port, and which of them are registered. -/
structure Gateway (σ : Type) where
  /-- All tunnels that were ever set up. -/
  tunnels : List (Tunnel σ) := []
  /-- The places of the registered tunnels, by the index of datagrams that arrive for them. -/
  routes : Assoc UInt32 Nat := ∅

namespace Gateway

variable {ω σ α : Type}

/-- A gateway and the host it runs on. -/
structure Scene (ω σ : Type) where
  /-- The gateway. -/
  gateway : Gateway σ
  /-- The host. -/
  host : Host ω

namespace Scene

/-- Logs a notice. -/
def note (notice : Notice) (s : Scene ω σ) : Scene ω σ := { s with host := s.host.note notice }

/-- Runs an action of the tunnel at a place. Gives nothing if there is no tunnel there. -/
def onTunnel (place : Nat) (action : Tunnel.Scene ω σ → α × Tunnel.Scene ω σ) (s : Scene ω σ) :
    Option α × Scene ω σ :=
  match s.gateway.tunnels[place]? with
  | none => (none, s)
  | some tunnel =>
    let (a, t) := action ⟨tunnel, s.host⟩
    let tunnels := s.gateway.tunnels.set place t.tunnel
    (some a, { gateway := { s.gateway with tunnels }, host := t.host })

/-- The place of the tunnel that is registered under an index. -/
def route? (spi : UInt32) (s : Scene ω σ) : Option Nat := s.gateway.routes.get? spi

/-- Registers the tunnel at a place under its own index. Gives the place of the tunnel that was
registered there before; it stays as it is, flows included. -/
def add (place : Nat) (s : Scene ω σ) : Option Nat × Scene ω σ :=
  match s.gateway.tunnels[place]? with
  | none => (none, s)
  | some tunnel =>
    let s := s.note (.tunnelUp tunnel.spiIn tunnel.spiOut tunnel.profile.gateway)
    let routes := s.gateway.routes.insert tunnel.spiIn place
    (s.route? tunnel.spiIn, { s with gateway := { s.gateway with routes } })

variable [Platform ω σ]

/-- Takes the tunnel that is registered under an index off the register and ends all its flows, in
given orders. Gives its place. -/
def removeBy (rota : Tunnel.Rota) (spi : UInt32) (s : Scene ω σ) : Option Nat × Scene ω σ :=
  match s.route? spi with
  | none => (none, s)
  | some place =>
    let routes := s.gateway.routes.erase spi
    let s := { s with gateway := { s.gateway with routes } }
    let (_, s) := s.onTunnel place fun t => ((), t.terminateAllBy rota)
    (some place, s.note (.tunnelDown spi))

/-- Takes the tunnel that is registered under an index off the register and ends all its flows.
Gives its place. -/
def remove (spi : UInt32) (s : Scene ω σ) : Option Nat × Scene ω σ := s.removeBy {} spi

/-- Sends a datagram by the gateway's own transport. -/
def transmit (data : Bytes) (receiver : Endpoint) (s : Scene ω σ) :
    Except EspError Unit × Scene ω σ :=
  match s.host.transmit data receiver with
  | (.ok (), host) => (.ok (), { s with host })
  | (.error fault, host) => (.error (.transport fault), { s with host })

/-- Handles a datagram that starts with an index. Without a tunnel under the index it is ignored. -/
def handleIndexed (spi : UInt32) (data : Bytes) (sender : Endpoint) (now : Nat)
    (s : Scene ω σ) : Except EspError Unit × Scene ω σ :=
  match s.route? spi with
  | none => (.ok (), s)
  | some place =>
    let (result, s) := s.onTunnel place fun t => t.handleDatagram data sender now
    (result.getD (.ok ()), s)

/-- Handles a datagram from the port. A keep-alive probe goes back as it came. Four zeros in place
of an index mark key exchange, which is handled elsewhere. -/
def handleDatagram (data : Bytes) (sender : Endpoint) (now : Nat) (s : Scene ω σ) :
    Except EspError Unit × Scene ω σ :=
  match data with
  | 0 :: 0 :: 0 :: 0 :: _ => (.ok (), s)
  | a :: b :: c :: d :: _ :: _ :: _ :: _ :: _ =>
    s.handleIndexed (word32 a b c d) data sender now
  | first :: rest =>
    if first = 0xff ∧ rest.length < 3 then s.transmit data sender
    else (.error (.truncated data.length), s)
  | [] => (.error (.truncated 0), s)

/-- Serves a datagram from the port: an error is logged, unless a used sequence number is to
blame, which networks cause by themselves. -/
def serve (data : Bytes) (sender : Endpoint) (now : Nat) (s : Scene ω σ) : Scene ω σ :=
  match s.handleDatagram data sender now with
  | (.ok (), s) => s
  | (.error (.staleSequence ..), s) => s
  | (.error e, s) => s.note (.dropped sender e)

/-- Pumps the tunnels at the given places in turn, each with its flows in given orders. Gives
whether any of them did anything. -/
def pumpTunnels (rota : Nat → Tunnel.Rota) (now : Nat) (places : List Nat)
    (s : Scene ω σ) : Bool × Scene ω σ :=
  places.foldl
    (fun (acted, s) place =>
      let (did, s) := s.onTunnel place fun t => t.pumpBy (rota place) now
      (acted || did.getD false, s))
    (false, s)

/-- One pump tick of every registered tunnel, with tunnels and flows in given orders. -/
def pumpBy (order : List Nat → List Nat) (rota : Nat → Tunnel.Rota) (now : Nat)
    (s : Scene ω σ) : Bool × Scene ω σ :=
  s.pumpTunnels rota now (order s.gateway.routes.values)

/-- One pump tick of every registered tunnel. -/
def pump (now : Nat) (s : Scene ω σ) : Bool × Scene ω σ := s.pumpBy id (fun _ => {}) now

end Scene

end Gateway

end Ipsec
