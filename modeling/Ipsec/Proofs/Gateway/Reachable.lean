import Ipsec.Proofs.Gateway.Operation
import Ipsec.Proofs.Tunnel.Parked

/-!
# What a gateway can come to

A gateway begins with no tunnels. `Reachable` are the scenes that operations lead to from there,
while streams and the world go on by themselves. A property of tunnels that a fresh tunnel has, and
that no access takes away (`Lasting`), all tunnels of a reachable gateway have
(`Lasting.of_reachable`).
-/

namespace Ipsec.Gateway

variable {ω σ α : Type}

/-- All tunnels of the gateway have a property. -/
def Scene.AllTunnels (I : Tunnel σ → Prop) (s : Scene ω σ) : Prop :=
  ∀ tunnel ∈ s.gateway.tunnels, I tunnel

/-- What an action of one tunnel keeps, it keeps for all. -/
theorem Scene.AllTunnels.onTunnel {I : Tunnel σ → Prop} {s : Scene ω σ} (hs : s.AllTunnels I)
    (place : Nat) {action : Tunnel.Scene ω σ → α × Tunnel.Scene ω σ}
    (haction : ∀ t, I t.tunnel → I (action t).2.tunnel) :
    (s.onTunnel place action).2.AllTunnels I := by
  unfold Scene.onTunnel
  split
  · exact hs
  · next tunnel htunnel =>
    intro t ht
    rcases List.mem_or_eq_of_mem_set ht with hmem | rfl
    · exact hs t hmem
    · exact haction ⟨tunnel, s.host⟩ (hs tunnel (List.mem_of_getElem? htunnel))

variable [Platform ω σ]

/-- A gateway can come to be in this scene. -/
inductive Reachable : Scene ω σ → Prop where
  /-- It has no tunnels yet. -/
  | start (host : Host ω) : Reachable ⟨{}, host⟩
  /-- It is asked for something. -/
  | operation {s : Scene ω σ} (op : Operation) (hs : Reachable s) : Reachable (op.run s)
  /-- The streams of a tunnel's live and parked connections change, and the world does. -/
  | drift {s : Scene ω σ} (place : Nat) (live parked : Tcp.Connection σ → σ → σ) (world : ω → ω)
      (hs : Reachable s) :
      Reachable (s.onTunnel place fun t => ((), (Tunnel.Moment.drift live parked world).run t)).2

theorem Reachable.operations {s : Scene ω σ} (hs : Reachable s) (ops : List Operation) :
    Reachable (ops.foldl Operation.run s) := by
  induction ops generalizing s with
  | nil => exact hs
  | cons op rest ih => exact ih (hs.operation op)

/-- A property of tunnels that holds from the start, and that nothing takes away. -/
structure Lasting (ω : Type) [Platform ω σ] (I : Tunnel σ → Prop) : Prop where
  fresh : ∀ profile seed vectors now, I (Tunnel.fresh profile seed vectors now)
  access : ∀ (s : Tunnel.Scene ω σ) (access : Tunnel.Access), I s.tunnel → I (access.run s).tunnel
  drift : ∀ (s : Tunnel.Scene ω σ) (live parked : Tcp.Connection σ → σ → σ) (world : ω → ω),
    I s.tunnel → I ((Tunnel.Moment.drift live parked world).run s).tunnel

namespace Lasting

variable {I : Tunnel σ → Prop} (hI : Lasting ω I)

include hI

theorem setUp {s : Scene ω σ} (profile : Tunnel.Profile) (seed : UInt64)
    (vectors : Nat → Option Aes.Block) (now : Nat) (hs : s.AllTunnels I) :
    (s.setUp profile seed vectors now).AllTunnels I := by
  intro t ht
  rcases List.mem_append.1 ht with ht | ht
  · exact hs t ht
  · obtain rfl := List.mem_singleton.1 ht
    exact hI.fresh profile seed vectors now

theorem removeBy {s : Scene ω σ} (rota : Tunnel.Rota) (spi : UInt32) (hs : s.AllTunnels I) :
    (s.removeBy rota spi).2.AllTunnels I := by
  unfold Scene.removeBy
  split
  · exact hs
  · next place _ =>
    let off : Scene ω σ :=
      { s with gateway := { s.gateway with routes := s.gateway.routes.erase spi } }
    have hoff : off.AllTunnels I := hs
    have hended : (off.onTunnel place fun t => ((), t.terminateAllBy rota)).2.AllTunnels I :=
      hoff.onTunnel place fun t => hI.access t (.endAll rota)
    exact hended

theorem stable : Stable (Scene.AllTunnels (ω := ω) I) where
  note _ hs := hs
  transmit _ _ hs := hs
  setUp profile seed vectors now hs := hI.setUp profile seed vectors now hs
  add place hs := by
    unfold Scene.add
    split <;> exact hs
  remove rota spi hs := hI.removeBy rota spi hs
  tunnel place op hs := hs.onTunnel place fun t => hI.access t (.operation op)
  closeLive place key hs := hs.onTunnel place fun t => hI.access t (.closeLive key)
  closeParked place key hs := hs.onTunnel place fun t => hI.access t (.closeParked key)

/-- All tunnels of a reachable gateway have the property. -/
theorem of_reachable {s : Scene ω σ} (hs : Reachable s) : s.AllTunnels I := by
  induction hs with
  | start => exact nofun
  | operation op _ ih => exact hI.stable.run op ih
  | drift place live parked world _ ih =>
    exact ih.onTunnel place fun t => hI.drift t live parked world

end Lasting

end Ipsec.Gateway
