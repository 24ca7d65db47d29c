import Ipsec.Proofs.Gateway.Routing
import Ipsec.Proofs.Tunnel.Ending

/-!
# Removing a tunnel

To remove a tunnel is to take it off the register and to end all its flows. Its tables are empty
afterwards, and each of its connections was closed, whatever became of the others (`Cleared`). The
index leads nowhere, and stays so however the gateway goes on, until a tunnel is registered under it
again (`Vacant.route?`). As long as it leads nowhere, datagrams that start with it are ignored, and
to remove its tunnel does nothing (`ignores_of_route?`). `removal_releases` adds that nothing else
is touched, and the same for a single flow.
-/

namespace Ipsec.Gateway

open Tunnel (Rota)

variable {ω σ : Type} [Platform ω σ] {s t : Scene ω σ} {spi : UInt32}

/-! ## The register -/

namespace Scene

omit [Platform ω σ] in
/-- Takes an index off the register. -/
def unregister (spi : UInt32) (s : Scene ω σ) : Scene ω σ :=
  { s with gateway := { s.gateway with routes := s.gateway.routes.erase spi } }

theorem removeBy_of_none (rota : Rota) (h : s.route? spi = none) :
    s.removeBy rota spi = (none, s) := by
  rw [removeBy, h]

theorem removeBy_of_some {place : Nat} (rota : Rota) (h : s.route? spi = some place) :
    s.removeBy rota spi =
      (some place, ((s.unregister spi).onTunnel place fun t => ((), t.terminateAllBy rota)).2.note
        (.tunnelDown spi)) := by
  rw [removeBy, h]
  rfl

/-- Removing a tunnel takes its index off the register, and no other. -/
theorem route?_removeBy (rota : Rota) (spi other : UInt32) (s : Scene ω σ) :
    (s.removeBy rota spi).2.route? other = if other = spi then none else s.route? other := by
  cases hroute : s.route? spi with
  | none =>
    rw [removeBy_of_none rota hroute]
    split
    · next h => rw [h, hroute]
    · rfl
  | some place =>
    rw [removeBy_of_some rota hroute, route?, note, routes_onTunnel]
    exact Assoc.get?_erase _ _ _

end Scene

/-! ## Free indices -/

/-- An index leads nowhere. -/
structure Ignores (spi : UInt32) (s : Scene ω σ) : Prop where
  /-- No tunnel is registered under it. -/
  route : s.route? spi = none
  /-- Datagrams that start with it change nothing. -/
  datagram : ∀ data sender now, 8 ≤ data.length → data.take 4 = bytes32 spi →
    s.handleDatagram data sender now = (.ok (), s)
  /-- To remove its tunnel gives none, and changes nothing. -/
  removal : ∀ rota, s.removeBy rota spi = (none, s)

theorem ignores_of_route? (h : s.route? spi = none) : Ignores spi s where
  route := h
  datagram data sender now hlong hindex := by
    unfold Scene.handleDatagram
    split
    · rfl
    · next a b c d _ _ _ _ _ _ =>
      obtain rfl : spi = word32 a b c d := bytes32_eq_iff.1 hindex.symm
      rw [Scene.handleIndexed, h]
    · next first rest _ hshort =>
      match rest, hlong with
      | b :: c :: d :: e :: f :: g :: i :: rest, _ =>
        exact (hshort b c d e f g i rest rfl).elim
    · cases hlong
  removal rota := s.removeBy_of_none rota h

/-- The operation registers a tunnel under an index. -/
def Operation.Registers (spi : UInt32) (s : Scene ω σ) : Operation → Prop
  | add place => ∃ tunnel, s.gateway.tunnels[place]? = some tunnel ∧ tunnel.spiIn = spi
  | _ => False

theorem Scene.routes_serve (data : Bytes) (sender : Endpoint) (now : Nat) (s : Scene ω σ) :
    (s.serve data sender now).gateway.routes = s.gateway.routes := by
  have hroutes := s.routes_handleDatagram data sender now
  unfold serve
  split
  all_goals
    next h =>
      rw [h] at hroutes
      exact hroutes

/-- Only an operation that registers a tunnel under an index makes it lead somewhere. -/
theorem Operation.route?_run (op : Operation) (hop : ¬op.Registers spi s)
    (h : s.route? spi = none) : (op.run s).route? spi = none := by
  have hroutes {t : Scene ω σ} (hsame : t.gateway.routes = s.gateway.routes) :
      t.route? spi = none := by
    rw [Scene.route?, hsame]
    exact h
  cases op with
  | setUp => exact h
  | add place =>
    rw [Operation.run, Scene.add]
    split
    · exact h
    · next tunnel htunnel =>
      have hne : spi ≠ tunnel.spiIn := fun hspi => hop ⟨tunnel, htunnel, hspi.symm⟩
      exact (Assoc.get?_insert_of_ne _ _ hne).trans h
  | remove rota other =>
    rw [Operation.run, Scene.route?_removeBy, h]
    exact ite_self _
  | handleDatagram data sender now => exact hroutes (s.routes_handleDatagram data sender now)
  | serve data sender now => exact hroutes (s.routes_serve data sender now)
  | pump order rota now => exact hroutes (routes_pumpBy order rota now s)
  | tunnel place op => exact hroutes (Scene.routes_onTunnel _ _ s)
  | closeLive place key => exact hroutes (Scene.routes_onTunnel _ _ s)
  | closeParked place key => exact hroutes (Scene.routes_onTunnel _ _ s)

/-- From `s` to `t` a gateway went on, and registered no tunnel under an index. -/
inductive Vacant (spi : UInt32) (s : Scene ω σ) : Scene ω σ → Prop where
  /-- It has not gone on yet. -/
  | start : Vacant spi s s
  /-- It is asked for something. -/
  | operation {t : Scene ω σ} (op : Operation) (hop : ¬op.Registers spi t)
      (h : Vacant spi s t) : Vacant spi s (op.run t)
  /-- The streams of a tunnel's live and parked connections change, and the world does. -/
  | drift {t : Scene ω σ} (place : Nat) (live parked : Tcp.Connection σ → σ → σ) (world : ω → ω)
      (h : Vacant spi s t) :
      Vacant spi s
        (t.onTunnel place fun u => ((), (Tunnel.Moment.drift live parked world).run u)).2

theorem Vacant.route? (hs : s.route? spi = none) (h : Vacant spi s t) : t.route? spi = none := by
  induction h with
  | start => exact hs
  | operation op hop _ ih => exact op.route?_run hop ih
  | drift _ _ _ _ _ ih =>
    rw [Scene.route?, Scene.routes_onTunnel]
    exact ih

/-! ## The removed tunnel -/

/-- From `s` to `t` the tunnel at a place lost its connections. They were closed in some order, and
the removal was logged. -/
structure Cleared (tunnel : Tunnel σ) (place : Nat) (gone : List (Flow.Key × Tcp.Connection σ))
    (s t : Scene ω σ) : Prop where
  /-- Both tables are empty, and the rest of the tunnel is as it was. -/
  emptied : t.gateway.tunnels[place]? = some { tunnel with sessions := ∅ }
  /-- All connections are gone, live and parked. -/
  all : gone.Perm tunnel.connections
  /-- Each of them was closed, whether or not that succeeded. -/
  closings : ∃ host, Closings gone s.host host ∧ t.host = host.note (.tunnelDown tunnel.spiIn)
  /-- Their streams were closed once, and nothing else was asked of the world. -/
  world : t.host.world = closeStreams (heldStreams gone) s.host.world

theorem Scene.removeBy_clears {rota : Rota} (hrota : rota.IsFair) {place : Nat}
    {tunnel : Tunnel σ} (hroute : s.route? spi = some place)
    (htunnel : s.gateway.tunnels[place]? = some tunnel) (hspi : tunnel.spiIn = spi) :
    ∃ gone, Cleared tunnel place gone s (s.removeBy rota spi).2 := by
  let u : Tunnel.Scene ω σ := ⟨tunnel, s.host⟩
  obtain ⟨gone, hgone, hsheds⟩ := u.terminateAllBy_sheds hrota
  have hafter : (u.terminateAllBy rota).tunnel = { tunnel with sessions := ∅ } := by
    rw [hsheds.tunnel, u.sessions_terminateAllBy hrota]
  have hhost : (s.removeBy rota spi).2.host =
      (u.terminateAllBy rota).host.note (.tunnelDown tunnel.spiIn) := by
    rw [removeBy_of_some rota hroute, onTunnel, unregister, htunnel, hspi]
    rfl
  refine ⟨gone, ?_, hgone, ⟨_, hsheds.closings, hhost⟩, ?_⟩
  · rw [removeBy_of_some rota hroute, ← hafter]
    refine (tunnels_onTunnel place place (s.unregister spi)).trans ?_
    rw [if_pos rfl, unregister, htunnel]
    rfl
  · rw [hhost]
    exact hsheds.closings.world_eq

/-- What a request to remove the tunnel under an index does. -/
structure Removes (rota : Rota) (spi : UInt32) (s : Scene ω σ) : Prop where
  /-- It gives the place of the tunnel that is registered under the index, if there is one. -/
  found : (s.removeBy rota spi).1 = s.route? spi
  /-- That tunnel, which has the index as its own, loses all its connections. -/
  cleared : ∀ place, s.route? spi = some place → ∃ tunnel gone,
    s.gateway.tunnels[place]? = some tunnel ∧ tunnel.spiIn = spi ∧
      Cleared tunnel place gone s (s.removeBy rota spi).2
  /-- No other tunnel changes. -/
  others : ∀ place, s.route? spi ≠ some place →
    (s.removeBy rota spi).2.gateway.tunnels[place]? = s.gateway.tunnels[place]?
  /-- The other indices lead where they led before. -/
  routes : ∀ other, other ≠ spi → (s.removeBy rota spi).2.route? other = s.route? other
  /-- If there is none nothing happens. -/
  absent : s.route? spi = none → (s.removeBy rota spi).2 = s
  /-- From then on the index leads nowhere, until a tunnel is registered under it. -/
  gone : ∀ t, Vacant spi (s.removeBy rota spi).2 t → Ignores spi t

theorem Aligned.removes (hs : Aligned s) {rota : Rota} (hrota : rota.IsFair) (spi : UInt32) :
    Removes rota spi s where
  found := by
    cases hroute : s.route? spi with
    | none => rw [Scene.removeBy_of_none rota hroute]
    | some place => rw [Scene.removeBy_of_some rota hroute]
  cleared place hroute := by
    obtain ⟨tunnel, htunnel, hspi⟩ := hs spi place hroute
    obtain ⟨gone, hcleared⟩ := Scene.removeBy_clears hrota hroute htunnel hspi
    exact ⟨tunnel, gone, htunnel, hspi, hcleared⟩
  others place hother := by
    cases hroute : s.route? spi with
    | none => rw [Scene.removeBy_of_none rota hroute]
    | some owner =>
      have hne : place ≠ owner := fun h => hother (h ▸ hroute)
      rw [Scene.removeBy_of_some rota hroute]
      exact (Scene.tunnels_onTunnel owner place (s.unregister spi)).trans (if_neg hne)
  routes other hother := by rw [Scene.route?_removeBy, if_neg hother]
  absent hnone := by rw [Scene.removeBy_of_none rota hnone]
  gone t ht := ignores_of_route? (ht.route? (by rw [Scene.route?_removeBy, if_pos rfl]))

/-- **Removing a tunnel releases everything.** In a reachable gateway, whatever its tunnels carry
and whatever fails, removing a tunnel empties its tables and closes each of its connections, and
touches no other tunnel. Ending a single flow does the same for its connections. -/
theorem removal_releases (hs : Reachable s) {rota : Rota} (hrota : rota.IsFair) :
    (∀ spi, Removes rota spi s) ∧
      ∀ (t : Tunnel.Scene ω σ) key, Tunnel.Ended key t (t.terminate key) :=
  ⟨(Aligned.of_reachable hs).removes hrota, fun t key => t.terminate_ends key⟩

/-- A tunnel that carries a flow twice, live and parked. -/
def sampleCarrying : Scene Simulation.World Simulation.App :=
  [.setUp { Tunnel.sampleProfile with hasTransport := false } 1 Tunnel.sampleVectors 0, .add 0,
    .tunnel 0 (Tunnel.sampleDispatch Tcp.Flags.syn),
    .tunnel 0 (Tunnel.sampleDispatch Tcp.Flags.ack), .tunnel 0 (.release Tunnel.sampleKey),
    .tunnel 0 (Tunnel.sampleDispatch Tcp.Flags.syn),
    .tunnel 0 (Tunnel.sampleDispatch Tcp.Flags.ack)].foldl Operation.run ⟨{}, ⟨{}, []⟩⟩

/-- The same tunnel, with streams that cannot be closed. -/
def sampleStuck : Scene Simulation.World Simulation.App :=
  (sampleCarrying.onTunnel 0 fun t => ((),
    (Tunnel.Moment.drift (fun _ app => { app with closeFault := some "stuck" })
      (fun _ app => { app with closeFault := some "stuck" }) id).run t)).2

/-- Both streams are asked to close once, though neither can. -/
theorem removal_releases_stuck :
    Reachable sampleStuck ∧ Rota.IsFair {} ∧
      (sampleStuck.gateway.tunnels.map fun t => (t.sessions.live.keys, t.sessions.parked.keys)) =
        [([Tunnel.sampleKey], [Tunnel.sampleKey])] ∧
      ((sampleStuck.removeBy {} Tunnel.sampleProfile.association.spiIn).2.host.world.closed.map
        fun app => (app.id, app.closes)) = [(1, 1), (0, 1)] ∧
      (∀ spi, Removes {} spi sampleStuck) ∧
        ∀ (t : Tunnel.Scene Simulation.World Simulation.App) key,
          Tunnel.Ended key t (t.terminate key) := by
  have hreachable : Reachable sampleStuck :=
    .drift 0 _ _ _ ((Reachable.start _).operations _)
  exact ⟨hreachable, Rota.isFair_default, by decide, by decide,
    removal_releases hreachable Rota.isFair_default⟩

end Ipsec.Gateway
