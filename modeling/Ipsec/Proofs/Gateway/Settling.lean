import Ipsec.Proofs.Gateway.Reachable
import Ipsec.Proofs.Tunnel.Settling
import Ipsec.Simulation.World

/-!
# Pumping a gateway settles

A pump tick of a gateway pumps its registered tunnels. Each of them settles (`Tunnel.Settles`), so
the gateway does: after two ticks at a time another one reports no work and changes nothing, the
world and the log included (`pumping_settles`). A ticker that starts the next tick at once as long
as there was work comes to rest.
-/

namespace Ipsec.Gateway

open Tunnel (Rota Prepared Drained Settled)

variable {ω σ : Type}

/-! ## Places -/

namespace Scene

variable {α : Type} {place other : Nat} {I J : Tunnel σ → Prop} {s : Scene ω σ}
  {action : Tunnel.Scene ω σ → α × Tunnel.Scene ω σ}

/-- The tunnel at a place, if there is one, has a property. -/
def At (place : Nat) (I : Tunnel σ → Prop) (s : Scene ω σ) : Prop :=
  ∀ tunnel, s.gateway.tunnels[place]? = some tunnel → I tunnel

/-- An action changes the tunnel at its place, and no other. -/
theorem tunnels_onTunnel (place other : Nat) (s : Scene ω σ) :
    (s.onTunnel place action).2.gateway.tunnels[other]? =
      if other = place then s.gateway.tunnels[place]?.map fun t => (action ⟨t, s.host⟩).2.tunnel
      else s.gateway.tunnels[other]? := by
  unfold onTunnel
  split
  · next hnone =>
    split
    · next hother => rw [hother, hnone, Option.map_none]
    · rfl
  · next tunnel htunnel =>
    simp only [List.getElem?_set, htunnel, Option.map_some]
    split
    · next hother => simp [hother.symm, (List.getElem?_eq_some_iff.1 htunnel).1]
    · next hother => simp [Ne.symm hother]

theorem At.onTunnel (h : s.At place I) (haction : ∀ t, I t.tunnel → J (action t).2.tunnel) :
    (s.onTunnel place action).2.At place J := by
  intro tunnel htunnel
  rw [tunnels_onTunnel, if_pos rfl, Option.map_eq_some_iff] at htunnel
  obtain ⟨t, ht, rfl⟩ := htunnel
  exact haction ⟨t, s.host⟩ (h t ht)

theorem At.onTunnel_of_ne (h : s.At other I) (hne : other ≠ place) :
    (s.onTunnel place action).2.At other I := by
  intro tunnel htunnel
  rw [tunnels_onTunnel, if_neg hne] at htunnel
  exact h tunnel htunnel

/-- An action that leaves the tunnel at its place and the host as they are changes nothing. -/
theorem onTunnel_of_eq {a : α}
    (h : s.At place fun t => action ⟨t, s.host⟩ = (a, ⟨t, s.host⟩)) :
    (s.onTunnel place action).2 = s ∧ ∀ b ∈ (s.onTunnel place action).1, b = a := by
  unfold onTunnel
  split
  · exact ⟨rfl, nofun⟩
  · next tunnel htunnel =>
    obtain ⟨_, hget⟩ := List.getElem?_eq_some_iff.1 htunnel
    have hset : s.gateway.tunnels.set place tunnel = s.gateway.tunnels := by
      rw [← hget, List.set_getElem_self]
    simp only [h tunnel htunnel, hset]
    exact ⟨trivial, fun b hb => (Option.some.inj hb).symm⟩

end Scene

@[simp] theorem Scene.routes_onTunnel {α : Type} (place : Nat)
    (action : Tunnel.Scene ω σ → α × Tunnel.Scene ω σ) (s : Scene ω σ) :
    (s.onTunnel place action).2.gateway.routes = s.gateway.routes := by
  unfold onTunnel
  split <;> rfl

/-- The connections of a tunnel hold dependable streams. -/
def HasDependableStreams [LocalStream σ] (t : Tunnel σ) : Prop :=
  ∀ key conn, t.sessions.live.get? key = some conn ∨ t.sessions.parked.get? key = some conn →
    ∀ u, conn.stream = some u → LocalStream.Dependable u

variable [Platform ω σ]

/-! ## Ticks -/

section

variable {now : Nat} {rota : Nat → Rota} {places : List Nat} {I J : Tunnel σ → Prop}
  {s : Scene ω σ}

theorem Scene.pumpTunnels_snd (rota : Nat → Rota) (now : Nat) (places : List Nat)
    (s : Scene ω σ) :
    (s.pumpTunnels rota now places).2 =
      places.foldl (fun s place => (s.onTunnel place fun t => t.pumpBy (rota place) now).2) s := by
  unfold pumpTunnels
  suffices h : ∀ acted, (List.foldl _ (acted, s) places).2 = _ from h false
  intro acted
  induction places generalizing s acted with
  | nil => rfl
  | cons place rest ih => exact ih _ _

@[simp] theorem Scene.routes_pumpTunnels (rota : Nat → Rota) (now : Nat) (places : List Nat)
    (s : Scene ω σ) : (s.pumpTunnels rota now places).2.gateway.routes = s.gateway.routes := by
  rw [pumpTunnels_snd]
  induction places generalizing s with
  | nil => rfl
  | cons place rest ih => rw [List.foldl_cons, ih, routes_onTunnel]

/-- Pumping the tunnels at some places brings about what a tick does for each of them. -/
theorem Scene.pumpTunnels_at (hs : ∀ place ∈ places, s.At place I) (hJI : ∀ t, J t → I t)
    (hpump : ∀ (t : Tunnel.Scene ω σ) rota, rota.IsFair → I t.tunnel →
      J (t.pumpBy rota now).2.tunnel)
    (hrota : ∀ place, (rota place).IsFair) {order : List Nat} (horder : order.Perm places) :
    ∀ place ∈ places, (s.pumpTunnels rota now order).2.At place J := by
  rw [pumpTunnels_snd]
  have hpumped : ∀ {s : Scene ω σ} place, s.At place I →
      (s.onTunnel place fun t => t.pumpBy (rota place) now).2.At place J :=
    fun place h => h.onTunnel fun t => hpump t (rota place) (hrota place)
  obtain ⟨-, hreached⟩ := foldl_reaches
    (f := fun (s : Scene ω σ) place => (s.onTunnel place fun t => t.pumpBy (rota place) now).2)
    (P := fun s => ∀ place ∈ places, s.At place I)
    (Q := fun place s => place ∈ places → s.At place J)
    (fun {s} place h other hother => by
      by_cases hsame : other = place
      · exact fun tunnel ht => hJI _ (hpumped place (hsame ▸ h other hother) tunnel (hsame ▸ ht))
      · exact (h other hother).onTunnel_of_ne hsame)
    (fun place h hplace => hpumped place (h place hplace))
    (fun place other hne _ h hother => (h hother).onTunnel_of_ne hne) hs order
  exact fun place hplace => hreached place (.inl (horder.mem_iff.2 hplace)) hplace

/-- If no tunnel reports work, the gateway does not. -/
theorem Scene.pumpTunnels_quiet (hs : ∀ place ∈ places, s.At place I)
    (hpump : ∀ (t : Tunnel.Scene ω σ) rota, rota.IsFair → I t.tunnel →
      (t.pumpBy rota now).1 = false ∧ I (t.pumpBy rota now).2.tunnel)
    (hrota : ∀ place, (rota place).IsFair) {order : List Nat}
    (horder : ∀ place ∈ order, place ∈ places) : (s.pumpTunnels rota now order).1 = false := by
  unfold pumpTunnels
  induction order generalizing s with
  | nil => rfl
  | cons place rest ih =>
    have hplace := hs place (horder place List.mem_cons_self)
    have hquiet : (s.onTunnel place fun t => t.pumpBy (rota place) now).1.getD false = false := by
      unfold onTunnel
      split
      · rfl
      · next tunnel htunnel =>
        exact (hpump ⟨tunnel, s.host⟩ _ (hrota place) (hplace tunnel htunnel)).1
    have hkept : ∀ other ∈ places,
        (s.onTunnel place fun t => t.pumpBy (rota place) now).2.At other I := by
      intro other hother
      by_cases hsame : other = place
      · exact hsame ▸ hplace.onTunnel fun t ht => (hpump t _ (hrota place) ht).2
      · exact (hs other hother).onTunnel_of_ne hsame
    simp only [List.foldl_cons, hquiet, Bool.or_false]
    exact ih hkept fun p hp => horder p (List.mem_cons_of_mem place hp)

/-- If a tick does nothing for any of the tunnels, it does nothing for the gateway. -/
theorem Scene.pumpTunnels_still (hs : ∀ place ∈ places, s.At place I)
    (hpump : ∀ (t : Tunnel.Scene ω σ) rota, I t.tunnel → t.pumpBy rota now = (false, t))
    {order : List Nat} (horder : ∀ place ∈ order, place ∈ places) :
    s.pumpTunnels rota now order = (false, s) := by
  unfold pumpTunnels
  induction order with
  | nil => rfl
  | cons place rest ih =>
    have hplace := hs place (horder place List.mem_cons_self)
    obtain ⟨hsame, hquiet⟩ :=
      onTunnel_of_eq fun t ht => hpump ⟨t, s.host⟩ (rota place) (hplace t ht)
    have hfalse : (s.onTunnel place fun t => t.pumpBy (rota place) now).1.getD false = false := by
      cases hresult : (s.onTunnel place fun t => t.pumpBy (rota place) now).1 with
      | none => rfl
      | some b => exact hquiet b hresult
    simp only [List.foldl_cons, hsame, hfalse, Bool.or_false]
    exact ih fun p hp => horder p (List.mem_cons_of_mem place hp)

end

/-! ## Settling -/

/-- The gateway comes to rest at a given time: with tunnels and flows in fair orders, the second
tick reports no work, and any tick after it changes nothing. -/
def Settles (now : Nat) (s : Scene ω σ) : Prop :=
  ∀ first second : List Nat → List Nat, IsFairOrder first → IsFairOrder second →
  ∀ rota rota' : Nat → Rota, (∀ place, (rota place).IsFair) → (∀ place, (rota' place).IsFair) →
    ((s.pumpBy first rota now).2.pumpBy second rota' now).1 = false
      ∧ ∀ third : List Nat → List Nat, IsFairOrder third → ∀ rota'' : Nat → Rota,
          ((s.pumpBy first rota now).2.pumpBy second rota' now).2.pumpBy third rota'' now =
            (false, ((s.pumpBy first rota now).2.pumpBy second rota' now).2)

section

variable {now : Nat} {s : Scene ω σ}

theorem routes_pumpBy (order : List Nat → List Nat) (rota : Nat → Rota) (now : Nat)
    (s : Scene ω σ) : (s.pumpBy order rota now).2.gateway.routes = s.gateway.routes :=
  Scene.routes_pumpTunnels rota now _ s

variable {order : List Nat → List Nat} {rota : Nat → Rota}

/-- The first tick of a gateway whose registered tunnels are prepared. -/
theorem drained_of_prepared (now : Nat)
    (hs : ∀ place ∈ s.gateway.routes.values, s.At place fun t =>
      t.profile.PacesProbes ∧ ∀ host : Host ω, Prepared ⟨t, host⟩)
    (horder : IsFairOrder order) (hrota : ∀ place, (rota place).IsFair) :
    ∀ place ∈ s.gateway.routes.values, (s.pumpBy order rota now).2.At place fun t =>
      ∀ host : Host ω, Drained now ⟨t, host⟩ := by
  -- A tunnel that is registered twice is pumped twice, and is drained when its second turn comes.
  refine Scene.pumpTunnels_at (fun place hplace t ht => Or.inl (hs place hplace t ht))
    (fun t ht => Or.inr ht) ?_ hrota (horder _)
  rintro t rota hrota (⟨hpaces, hprepared⟩ | hdrained) host
  · exact ((hprepared t.host).drained hpaces hrota now).of_tunnel rfl
  · exact ((hdrained t.host).settled hrota).2.drained.of_tunnel rfl

/-- The tick after that. -/
theorem settled_of_drained
    (hs : ∀ place ∈ s.gateway.routes.values, s.At place fun t =>
      ∀ host : Host ω, Drained now ⟨t, host⟩)
    (horder : IsFairOrder order) (hrota : ∀ place, (rota place).IsFair) :
    (s.pumpBy order rota now).1 = false ∧
      ∀ place ∈ s.gateway.routes.values, (s.pumpBy order rota now).2.At place fun t =>
        ∀ host : Host ω, Settled now ⟨t, host⟩ := by
  constructor
  · refine Scene.pumpTunnels_quiet hs (fun t rota hrota hdrained => ?_) hrota
      fun _ => (horder _).mem_iff.1
    obtain ⟨hquiet, hsettled⟩ := (hdrained t.host).settled hrota
    exact ⟨hquiet, fun host => hsettled.drained.of_tunnel rfl⟩
  · refine Scene.pumpTunnels_at hs (fun t ht host => (ht host).drained)
      (fun t rota hrota hdrained host => ?_) hrota (horder _)
    exact ((hdrained t.host).settled hrota).2.of_tunnel rfl

/-- Any tick after that. -/
theorem pumpBy_of_settled
    (hs : ∀ place ∈ s.gateway.routes.values, s.At place fun t =>
      ∀ host : Host ω, Settled now ⟨t, host⟩)
    (horder : IsFairOrder order) (rota : Nat → Rota) : s.pumpBy order rota now = (false, s) :=
  Scene.pumpTunnels_still hs (fun t rota ht => (ht t.host).pumpBy rota)
    fun _ => (horder _).mem_iff.1

theorem settles_of_prepared
    (hs : ∀ place ∈ s.gateway.routes.values, s.At place fun t =>
      t.profile.PacesProbes ∧ ∀ host : Host ω, Prepared ⟨t, host⟩) :
    Settles now s := by
  intro first second hfirst hsecond rota rota' hrota hrota'
  have hdrained := drained_of_prepared now hs hfirst hrota
  rw [← routes_pumpBy first rota now s] at hdrained
  obtain ⟨hquiet, hsettled⟩ := settled_of_drained hdrained hsecond hrota'
  rw [← routes_pumpBy second rota' now] at hsettled
  exact ⟨hquiet, fun third hthird rota'' => pumpBy_of_settled hsettled hthird rota''⟩

end

/-! ## Reachable gateways -/

/-- The connections of the tunnels of a reachable gateway have room for a piece. -/
theorem lasting_spacious (ω : Type) [Platform ω σ] :
    Lasting ω fun t : Tunnel σ => Tunnel.Spacious t.sessions where
  fresh _ _ _ _ := ⟨nofun, nofun⟩
  access _ access h := h.access access
  drift _ live parked _ h := h.drift live parked

theorem prepared_of_spacious {t : Tunnel σ} (hroom : Tunnel.Spacious t.sessions)
    (hstreams : HasDependableStreams t) (host : Host ω) : Prepared ⟨t, host⟩ where
  live hconn := ⟨hroom.live hconn, hstreams _ _ (.inl hconn)⟩
  parked hconn := (hroom.parked hconn).imp_right fun h => ⟨h, hstreams _ _ (.inr hconn)⟩

/-- **Pumping settles.** At any time a reachable gateway comes to rest, and each of its tunnels
does, if all streams are dependable and probes are paced. -/
theorem pumping_settles {s : Scene ω σ} (hs : Reachable s) (now : Nat)
    (hpaces : s.AllTunnels fun t => t.profile.PacesProbes)
    (hstreams : s.AllTunnels HasDependableStreams) :
    Settles now s ∧ s.AllTunnels fun t => ∀ host : Host ω, Tunnel.Settles now ⟨t, host⟩ := by
  have hprepared : s.AllTunnels fun t => t.profile.PacesProbes ∧
      ∀ host : Host ω, Prepared ⟨t, host⟩ := by
    intro t ht
    have hroom := (lasting_spacious ω).of_reachable hs t ht
    exact ⟨hpaces t ht, prepared_of_spacious hroom (hstreams t ht)⟩
  constructor
  · exact settles_of_prepared fun _ _ t ht => hprepared t (List.mem_of_getElem? ht)
  · exact fun t ht host => ((hprepared t ht).2 host).settles (hprepared t ht).1 now

end Ipsec.Gateway

/-! ## A gateway with work to do -/

namespace Ipsec.Simulation.App

/-- The application reports what it has pending or always fails to, and has no empty pieces. -/
def IsRegular (a : App) : Prop :=
  a.availableExtra = 0 ∧ [] ∉ a.pending ∧ (a.availableFault.map Prod.snd).getD 0 = 0

instance (a : App) : Decidable a.IsRegular := by
  unfold IsRegular
  infer_instance

theorem available_of_isRegular {a : App} (h : a.IsRegular) :
    (∃ fault, a.available = (.error fault, a)) ∨ a.available = (.ok a.reportedLength, a) := by
  unfold available
  rcases hsome : a.availableFault with _ | ⟨text, calls⟩
  · exact .inr rfl
  · obtain rfl : calls = 0 := by simpa [hsome] using h.2.2
    exact .inl ⟨_, rfl⟩

/-- An application that has something to receive gives out a piece or fails. -/
theorem receive_of_isRegular {a : App} {n : Nat} (h : a.IsRegular) (hn : 0 < n)
    (hmore : a.reportedLength ≠ 0) :
    (∃ fault b, a.receive n = (.error fault, b))
      ∨ ∃ byte bytes b, a.receive n = (.ok (byte :: bytes), b) ∧ b.IsRegular := by
  obtain ⟨hextra, hpending, hfault⟩ := h
  unfold receive
  cases a.receiveFault with
  | some text => exact .inl ⟨_, _, rfl⟩
  | none =>
    refine .inr ?_
    cases hp : a.pending with
    | nil => simp [reportedLength, pendingLength, hp, hextra] at hmore
    | cons piece more =>
      rw [hp, List.mem_cons, not_or] at hpending
      obtain ⟨byte, bytes, rfl⟩ := List.exists_cons_of_ne_nil (Ne.symm hpending.1)
      obtain ⟨n, rfl⟩ := Nat.exists_eq_succ_of_ne_zero (Nat.ne_of_gt hn)
      refine ⟨byte, bytes.take n, _, rfl, hextra, ?_, hfault⟩
      simp only
      split
      · exact hpending.2
      · next hrest => simpa [hpending.2] using Ne.symm hrest

theorem dependable {a : App} (h : a.IsRegular) : LocalStream.Dependable a := by
  refine ⟨IsRegular, ⟨fun {u} hu => ?_, fun {u n m} hu hn havailable => ?_⟩, h⟩
  · rcases available_of_isRegular hu with ⟨fault, hfails⟩ | hsays
    · exact .inl ⟨fault, u, hfails⟩
    · exact .inr ⟨_, hsays⟩
  · refine receive_of_isRegular hu hn fun hzero => ?_
    rcases available_of_isRegular hu with ⟨fault, hfails⟩ | hsays
    · exact absurd (hfails.symm.trans havailable) (by simp)
    · have hlength := hsays.symm.trans havailable
      simp [hzero] at hlength

end Ipsec.Simulation.App

namespace Ipsec.Gateway

open Simulation (App World)

/-- A connection of the first tunnel gets a packet of a flow. -/
def sampleDispatch (flags : Tcp.Flags) : Operation := .tunnel 0 (Tunnel.sampleDispatch flags)

/-- One tunnel is registered. A flow of it is opened and parked, and opened again. -/
def sampleOpened : Scene World App :=
  [.setUp Tunnel.sampleProfile 1 Tunnel.sampleVectors 0, .add 0, sampleDispatch Tcp.Flags.syn,
    sampleDispatch Tcp.Flags.ack, .tunnel 0 (.release Tunnel.sampleKey),
    sampleDispatch Tcp.Flags.syn, sampleDispatch Tcp.Flags.ack].foldl Operation.run ⟨{}, ⟨{}, []⟩⟩

/-- The stream of the live connection has something, and that of the parked one fails. -/
def samplePending : Scene World App :=
  (sampleOpened.onTunnel 0 fun t =>
    ((), (Tunnel.Moment.drift (fun _ u => u.edit (.push [1, 2, 3]))
      (fun _ u => u.edit (.availableFault (some "busy") 0)) id).run t)).2

theorem reachable_samplePending : Reachable samplePending := by
  have hopened : Reachable sampleOpened := (Reachable.start _).operations _
  exact hopened.drift 0 _ _ _

/-- The streams in a table are regular. -/
def hasRegularStreams (t : Tunnel App) : Bool :=
  (t.sessions.live.values ++ t.sessions.parked.values).all fun conn =>
    conn.stream.all fun u => u.IsRegular

theorem hasDependableStreams_of_regular {t : Tunnel App} (h : hasRegularStreams t) :
    HasDependableStreams t := by
  intro key conn hconn u hu
  have hmem : conn ∈ t.sessions.live.values ++ t.sessions.parked.values := by
    refine List.mem_append.2 (hconn.imp (fun hlive => ?_) fun hparked => ?_)
    · exact List.mem_map.2 ⟨_, (Assoc.get?_eq_some_iff _ _ _).1 hlive, rfl⟩
    · exact List.mem_map.2 ⟨_, (Assoc.get?_eq_some_iff _ _ _).1 hparked, rfl⟩
  have hregular := List.all_eq_true.1 h conn hmem
  rw [hu] at hregular
  exact App.dependable (of_decide_eq_true hregular)

/-- A gateway has something to relay, and a parked connection that fails. It comes to rest. -/
theorem pumping_settles_of_pending :
    Reachable samplePending ∧ (samplePending.AllTunnels fun t => t.profile.PacesProbes)
      ∧ samplePending.AllTunnels HasDependableStreams ∧ (samplePending.pump 0).1 = true
      ∧ Settles 0 samplePending
      ∧ samplePending.AllTunnels fun t => ∀ host : Host World, Tunnel.Settles 0 ⟨t, host⟩ := by
  have hpaces : samplePending.AllTunnels fun t => t.profile.PacesProbes := by
    have hpassive : samplePending.gateway.tunnels.all (!·.profile.initiator) = true := by
      decide +kernel
    intro t ht
    exact .inl (by simpa using List.all_eq_true.1 hpassive t ht)
  have hstreams : samplePending.AllTunnels HasDependableStreams := by
    have hregular : samplePending.gateway.tunnels.all hasRegularStreams = true := by
      decide +kernel
    exact fun t ht => hasDependableStreams_of_regular (List.all_eq_true.1 hregular t ht)
  refine ⟨reachable_samplePending, hpaces, hstreams, by decide +kernel, ?_⟩
  exact pumping_settles reachable_samplePending 0 hpaces hstreams

end Ipsec.Gateway
