import Ipsec.Gateway
import Ipsec.Proofs.Tunnel.Operation

/-!
# Operations of a gateway

`Operation` lists what the owner of a gateway can ask of it and of its tunnels, registered or not.
`Stable` names the parts that operations are made of. What the parts keep, operations keep
(`Stable.run`).
-/

namespace Ipsec.Gateway

variable {ω σ α : Type}

namespace Scene

/-- Sets a tunnel up, at the next place. It is not registered yet. -/
def setUp (profile : Tunnel.Profile) (seed : UInt64) (vectors : Nat → Option Aes.Block) (now : Nat)
    (s : Scene ω σ) : Scene ω σ :=
  let tunnels := s.gateway.tunnels ++ [Tunnel.fresh profile seed vectors now]
  { s with gateway := { s.gateway with tunnels } }

/-- What an action of a tunnel gives has no part in what it does. -/
theorem onTunnel_snd (place : Nat) (action : Tunnel.Scene ω σ → α × Tunnel.Scene ω σ)
    (s : Scene ω σ) :
    (s.onTunnel place action).2 = (s.onTunnel place fun t => ((), (action t).2)).2 := by
  unfold onTunnel
  split <;> rfl

end Scene

/-- The places of the tunnels are gone through in an order that leaves none out. -/
def IsFairOrder (order : List Nat → List Nat) : Prop := ∀ places, (order places).Perm places

/-- What can be asked of a gateway and its tunnels. -/
inductive Operation where
  /-- Sets a tunnel up. -/
  | setUp (profile : Tunnel.Profile) (seed : UInt64) (vectors : Nat → Option Aes.Block) (now : Nat)
  /-- Registers the tunnel at a place. -/
  | add (place : Nat)
  /-- Takes a tunnel off the register and ends its flows, in given orders. -/
  | remove (rota : Tunnel.Rota) (spi : UInt32)
  /-- Handles a datagram. -/
  | handleDatagram (data : Bytes) (sender : Endpoint) (now : Nat)
  /-- Serves a datagram. -/
  | serve (data : Bytes) (sender : Endpoint) (now : Nat)
  /-- One pump tick, with tunnels and flows in given orders. -/
  | pump (order : List Nat → List Nat) (rota : Nat → Tunnel.Rota) (now : Nat)
  /-- Asks the tunnel at a place for something. -/
  | tunnel (place : Nat) (op : Tunnel.Operation)
  /-- Closes a live connection behind its tunnel's back. -/
  | closeLive (place : Nat) (key : Flow.Key)
  /-- Closes a parked connection behind its tunnel's back. -/
  | closeParked (place : Nat) (key : Flow.Key)

variable [Platform ω σ]

/-- What an operation makes of a scene. -/
def Operation.run (s : Scene ω σ) : Operation → Scene ω σ
  | setUp profile seed vectors now => s.setUp profile seed vectors now
  | add place => (s.add place).2
  | remove rota spi => (s.removeBy rota spi).2
  | handleDatagram data sender now => (s.handleDatagram data sender now).2
  | serve data sender now => s.serve data sender now
  | pump order rota now => (s.pumpBy order rota now).2
  | tunnel place op => (s.onTunnel place fun t => ((), op.run t)).2
  | closeLive place key => (s.onTunnel place fun t => t.closeLive key).2
  | closeParked place key => (s.onTunnel place fun t => t.closeParked key).2

/-- An invariant of scenes that every part of an operation keeps. -/
structure Stable (I : Scene ω σ → Prop) : Prop where
  /-- Logging a notice. -/
  note : ∀ {s} notice, I s → I (s.note notice)
  /-- Sending a datagram. -/
  transmit : ∀ {s : Scene ω σ} data receiver, I s →
    I { s with host := (s.host.transmit data receiver).2 }
  /-- Setting a tunnel up. -/
  setUp : ∀ {s} profile seed vectors now, I s → I (s.setUp profile seed vectors now)
  /-- Registering a tunnel. -/
  add : ∀ {s} place, I s → I (s.add place).2
  /-- Taking a tunnel off the register. -/
  remove : ∀ {s} rota spi, I s → I (s.removeBy rota spi).2
  /-- Asking a tunnel for something. -/
  tunnel : ∀ {s} place (op : Tunnel.Operation), I s → I (s.onTunnel place fun t => ((), op.run t)).2
  /-- Closing a live connection. -/
  closeLive : ∀ {s} place key, I s → I (s.onTunnel place fun t => t.closeLive key).2
  /-- Closing a parked connection. -/
  closeParked : ∀ {s} place key, I s → I (s.onTunnel place fun t => t.closeParked key).2

namespace Stable

variable {I : Scene ω σ → Prop} {s : Scene ω σ}

theorem handleIndexed (hI : Stable I) (spi : UInt32) (data : Bytes) (sender : Endpoint) (now : Nat)
    (hs : I s) : I (s.handleIndexed spi data sender now).2 := by
  unfold Scene.handleIndexed
  split
  · exact hs
  · next place _ =>
    have hplace := hI.tunnel place (.handleDatagram data sender now) hs
    simp only
    rw [Scene.onTunnel_snd]
    exact hplace

theorem handleDatagram (hI : Stable I) (data : Bytes) (sender : Endpoint) (now : Nat) (hs : I s) :
    I (s.handleDatagram data sender now).2 := by
  have hsent : I (s.transmit data sender).2 := by
    have hhost := hI.transmit data sender hs
    unfold Scene.transmit
    split
    all_goals
      next h =>
        rw [h] at hhost
        exact hhost
  unfold Scene.handleDatagram
  split
  · exact hs
  · exact hI.handleIndexed _ _ _ _ hs
  · split
    · exact hsent
    · exact hs
  · exact hs

theorem serve (hI : Stable I) (data : Bytes) (sender : Endpoint) (now : Nat) (hs : I s) :
    I (s.serve data sender now) := by
  have hhandled := hI.handleDatagram data sender now hs
  unfold Scene.serve
  split
  all_goals
    next h =>
      rw [h] at hhandled
      first
        | exact hhandled
        | exact hI.note _ hhandled

theorem pumpTunnels (hI : Stable I) (rota : Nat → Tunnel.Rota) (now : Nat) (places : List Nat)
    (hs : I s) : I (s.pumpTunnels rota now places).2 := by
  unfold Scene.pumpTunnels
  suffices h : ∀ acted, I (List.foldl _ (acted, s) places).2 from h false
  intro acted
  induction places generalizing s acted with
  | nil => exact hs
  | cons place rest ih =>
    have hplace := hI.tunnel place (.pump (rota place) now) hs
    have hpumped : I (s.onTunnel place fun t => t.pumpBy (rota place) now).2 := by
      rw [Scene.onTunnel_snd]
      exact hplace
    exact ih hpumped _

/-- What the parts of operations keep, operations keep. -/
theorem run (hI : Stable I) (op : Operation) (hs : I s) : I (op.run s) := by
  cases op with
  | setUp profile seed vectors now => exact hI.setUp profile seed vectors now hs
  | add place => exact hI.add place hs
  | remove rota spi => exact hI.remove rota spi hs
  | handleDatagram data sender now => exact hI.handleDatagram data sender now hs
  | serve data sender now => exact hI.serve data sender now hs
  | pump order rota now => exact hI.pumpTunnels rota now _ hs
  | tunnel place op => exact hI.tunnel place op hs
  | closeLive place key => exact hI.closeLive place key hs
  | closeParked place key => exact hI.closeParked place key hs

end Stable

end Ipsec.Gateway
