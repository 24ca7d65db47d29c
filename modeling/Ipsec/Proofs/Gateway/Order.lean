import Ipsec.Proofs.Gateway.Operation
import Ipsec.Proofs.Tunnel.Delivery
import Ipsec.Proofs.Tunnel.Order
import Ipsec.Simulation.World

/-!
# The order of tunnels

A gateway keeps its register in no order of its own either. If the transport is impartial and the
random sources of the tunnels are steady, it does not matter in which order a pump tick goes through
the tunnels and through the flows of each: the work reported, the tunnels afterwards and what is
emitted for each flow are the same (`pumping_unordered`). The proof is that of a single tunnel once
more. A tick follows a draft of all tunnels, and the turns of two tunnels on the draft commute
(`Draft.visit_comm`).
-/

namespace Ipsec.Gateway

open Tunnel (Rota Profile Impartial Descends)

variable {ω σ : Type}

/-! ## Drafts -/

/-- The flow that something is emitted for, with the place of its tunnel. -/
def flow (e : Nat × Tunnel.Emission) : Nat × Option Flow.Key := (e.1, e.2.flow?)

/-- The tunnels of a gateway in the course of a tick, apart from the world. -/
structure Draft (σ : Type) where
  /-- The tunnels. -/
  tunnels : List (Tunnel σ)
  /-- Whether there was work. -/
  acted : Bool := false
  /-- What was emitted for each flow. -/
  emitted : Nat × Option Flow.Key → List (Nat × Tunnel.Emission) := fun _ => []

namespace Draft

/-- What a tick of the tunnel at a place makes of a draft. -/
def apply (place : Nat) (e : Tunnel.Draft σ) (d : Draft σ) : Draft σ where
  tunnels := d.tunnels.set place e.tunnel
  acted := d.acted || e.acted
  emitted f := d.emitted f ++ if f.1 = place then (e.emitted f.2).map (place, ·) else []

theorem getElem?_apply {place other : Nat} {e : Tunnel.Draft σ} {d : Draft σ} {t : Tunnel σ}
    (h : (d.apply place e).tunnels[other]? = some t) :
    other = place ∧ t = e.tunnel ∨ d.tunnels[other]? = some t := by
  rw [apply, List.getElem?_set] at h
  split at h
  · next hother =>
    split at h
    · exact .inl ⟨hother.symm, (Option.some.inj h).symm⟩
    · cases h
  · exact .inr h

/-- A tick of the tunnel at a place. -/
def visit [LocalStream σ] (answer : Bool → Profile → Tcp.Answer) (now : Nat) (d : Draft σ)
    (place : Nat) : Draft σ :=
  match d.tunnels[place]? with
  | none => d
  | some t => d.apply place (Tunnel.Draft.tick answer {} now t)

/-- Ticks of two tunnels commute. -/
theorem apply_comm {place other : Nat} (hne : place ≠ other) (e f : Tunnel.Draft σ) (d : Draft σ) :
    (d.apply place e).apply other f = (d.apply other f).apply place e := by
  have hemitted : ∀ g : Nat × Option Flow.Key,
      d.emitted g ++ (if g.1 = place then (e.emitted g.2).map (place, ·) else [])
          ++ (if g.1 = other then (f.emitted g.2).map (other, ·) else []) =
        d.emitted g ++ (if g.1 = other then (f.emitted g.2).map (other, ·) else [])
          ++ (if g.1 = place then (e.emitted g.2).map (place, ·) else []) := by
    intro g
    by_cases hg : g.1 = place
    · rw [if_neg (by rw [hg]; exact hne : ¬g.1 = other), List.append_nil, List.append_nil]
    · rw [if_neg hg, List.append_nil, List.append_nil]
  simp only [apply, hemitted, Bool.or_right_comm, List.set_comm _ _ hne]

section

variable [LocalStream σ] {answer : Bool → Profile → Tcp.Answer} {now place other : Nat}
  {d : Draft σ}

theorem visit_of_none (h : d.tunnels[place]? = none) : d.visit answer now place = d := by
  simp only [visit, h]

theorem visit_of_some {t : Tunnel σ} (h : d.tunnels[place]? = some t) :
    d.visit answer now place = d.apply place (Tunnel.Draft.tick answer {} now t) := by
  simp only [visit, h]

variable (answer now d) in
theorem getElem?_visit (hne : place ≠ other) :
    (d.visit answer now other).tunnels[place]? = d.tunnels[place]? := by
  unfold visit
  split
  · rfl
  · exact List.getElem?_set_ne (Ne.symm hne)

variable (answer now) in
theorem visit_comm (d : Draft σ) (place other : Nat) :
    (d.visit answer now place).visit answer now other =
      (d.visit answer now other).visit answer now place := by
  by_cases hne : place = other
  · rw [hne]
  · have hplace := getElem?_visit answer now d hne
    have hother := getElem?_visit answer now d (Ne.symm hne)
    rcases ht : d.tunnels[place]? with _ | t
    · rw [visit_of_none ht, visit_of_none (hplace.trans ht)]
    · rcases hu : d.tunnels[other]? with _ | u
      · rw [visit_of_none hu, visit_of_none (hother.trans hu)]
      · rw [visit_of_some (hother.trans hu), visit_of_some (hplace.trans ht), visit_of_some ht,
          visit_of_some hu]
        exact apply_comm hne _ _ d

variable (answer now) in
theorem sweep_eq {places places' : List Nat} (hperm : places.Perm places') (d : Draft σ) :
    places.foldl (visit answer now) d = places'.foldl (visit answer now) d :=
  hperm.foldl_eq' (fun place _ other _ d => visit_comm answer now d place other) d

end

end Draft

/-! ## What is emitted -/

/-- A datagram and its receiver are what the transport gets for something that the tunnel at a
place emits. -/
def Carries (g : Gateway σ) (e : Nat × Tunnel.Emission) (d : Bytes × Endpoint) : Prop :=
  ∃ t, g.tunnels[e.1]? = some t ∧ t.Carries e.2 d

/-- From one host to another the transport was given these emissions of the tunnels of a gateway,
and nothing else. -/
def Emitted (g : Gateway σ) (out : List (Nat × Tunnel.Emission)) (h h' : Host (Wire ω)) : Prop :=
  ∃ datagrams, h'.world.sent = h.world.sent ++ datagrams ∧ List.Forall₂ g.Carries out datagrams

theorem Emitted.trans {g : Gateway σ} {out more : List (Nat × Tunnel.Emission)}
    {h h' h'' : Host (Wire ω)} (hout : g.Emitted out h h') (hmore : g.Emitted more h' h'') :
    g.Emitted (out ++ more) h h'' :=
  Tunnel.sent_append hout hmore

/-- What a tunnel of a gateway emits, the gateway does. -/
theorem Emitted.of_tunnel {g : Gateway σ} {place : Nat} {t : Tunnel σ}
    (ht : g.tunnels[place]? = some t) {out : List Tunnel.Emission} {h h' : Host (Wire ω)}
    (hout : t.Emitted out h h') : g.Emitted (out.map (place, ·)) h h' := by
  obtain ⟨datagrams, hsent, hcarries⟩ := hout
  refine ⟨datagrams, hsent, List.forall₂_map_left_iff.2 ?_⟩
  exact hcarries.imp fun _ _ hcarried => ⟨t, ht, hcarried⟩

theorem filter_flow (place : Nat) (out : List Tunnel.Emission) (f : Nat × Option Flow.Key) :
    (out.map (place, ·)).filter (flow · = f) =
      if f.1 = place then (out.filter (·.flow? = f.2)).map (place, ·) else [] := by
  obtain ⟨p, key⟩ := f
  rw [List.filter_map]
  split
  · next hp =>
    have hsame : p = place := hp
    congr 1
    refine List.filter_congr fun e _ => ?_
    simp [flow, hsame]
  · next hp =>
    have hne : place ≠ p := fun h => hp h.symm
    rw [List.map_eq_nil_iff, List.filter_eq_nil_iff]
    intro e _
    simp [flow, hne]

/-! ## Ticks -/

/-- Every tunnel has a random source that works, or fails, whatever was sent before. -/
def HasSteadySources (g : Gateway σ) : Prop :=
  ∀ t ∈ g.tunnels, ∃ works, t.channel.vectors.Steady works

variable [Platform ω σ] {W : ω → Prop} {takes : Esp.Association → Ipv4.Packet → Endpoint → Bool}

/-- A scene, with whether there was work, is as a draft has it. -/
structure Follows (W : ω → Prop) (s : Scene (Wire ω) σ) (x : Bool × Scene (Wire ω) σ)
    (d : Draft σ) : Prop where
  acted : x.1 = d.acted
  gateway : x.2.gateway = { s.gateway with tunnels := d.tunnels }
  world : W x.2.host.world.world
  descends : ∀ (place : Nat) (t' : Tunnel σ), d.tunnels[place]? = some t' →
    ∃ t, s.gateway.tunnels[place]? = some t ∧ Descends t t'
  emitted : ∃ out, s.gateway.Emitted out s.host x.2.host
    ∧ ∀ f, out.filter (flow · = f) = d.emitted f

namespace Follows

variable {s : Scene (Wire ω) σ} {x : Bool × Scene (Wire ω) σ} {d : Draft σ}

/-- A tick of a tunnel is a tick on the draft. -/
theorem visit (hW : Impartial W takes) (hsteady : s.gateway.HasSteadySources)
    (h : Follows W s x d) {rota : Rota} (hrota : rota.IsFair) (now place : Nat) :
    Follows W s
      (x.1 || (x.2.onTunnel place fun t => t.pumpBy rota now).1.getD false,
        (x.2.onTunnel place fun t => t.pumpBy rota now).2)
      (d.visit (Profile.answer takes) now place) := by
  obtain ⟨hacted, hgateway, hworld, hdescends, out, hemitted, hflows⟩ := h
  have htunnels : x.2.gateway.tunnels = d.tunnels := by rw [hgateway]
  unfold Scene.onTunnel
  rw [htunnels]
  cases ht : d.tunnels[place]? with
  | none =>
    rw [Draft.visit_of_none ht]
    refine ⟨?_, hgateway, hworld, hdescends, out, hemitted, hflows⟩
    exact (Bool.or_false x.1).trans hacted
  | some t =>
    rw [Draft.visit_of_some ht]
    obtain ⟨t₀, ht₀, hdescends₀⟩ := hdescends place t ht
    obtain ⟨works, hworks⟩ := hsteady t₀ (List.mem_of_getElem? ht₀)
    have hpump := Tunnel.Follows.pumpBy (s := ⟨t, x.2.host⟩) hW hworld (hdescends₀.steady hworks)
      rota now
    -- The draft of the gateway has one order for all its tunnels, which stands for any other.
    have htick :=
      Tunnel.Draft.tick_eq (Profile.answer takes) hrota Rota.isFair_default now t
    rw [htick] at hpump
    obtain ⟨hacted', htunnel', hworld', hdescends', more, hmore, hflows'⟩ := hpump
    refine ⟨?_, ?_, hworld', fun other u hu => ?_, out ++ more.map (place, ·), ?_, fun f => ?_⟩
    · simp only [Option.getD_some, hacted, hacted']
      rfl
    · simp only [hgateway, htunnel']
      rfl
    · rcases Draft.getElem?_apply hu with ⟨rfl, rfl⟩ | hu
      · exact ⟨t₀, ht₀, hdescends₀.trans hdescends'⟩
      · exact hdescends other u hu
    · exact hemitted.trans (.of_tunnel ht₀ (hmore.of_descends hdescends₀))
    · rw [List.filter_append, hflows, filter_flow, hflows']
      rfl

/-- A tick of the tunnels at some places is a tick on the draft. -/
theorem pumpTunnels (hW : Impartial W takes) (hs : W s.host.world.world)
    (hsteady : s.gateway.HasSteadySources) {rota : Nat → Rota}
    (hrota : ∀ place, (rota place).IsFair) (now : Nat) (places : List Nat) :
    Follows W s (s.pumpTunnels rota now places)
      (places.foldl (Draft.visit (Profile.answer takes) now)
        ⟨s.gateway.tunnels, false, fun _ => []⟩) := by
  have hstart : Follows W s (false, s) ⟨s.gateway.tunnels, false, fun _ => []⟩ :=
    ⟨rfl, rfl, hs, fun _ t ht => ⟨t, ht, .refl t⟩, [], ⟨[], by simp, .nil⟩, fun _ => rfl⟩
  unfold Scene.pumpTunnels
  generalize (false, s) = x at hstart ⊢
  generalize (⟨s.gateway.tunnels, false, fun _ => []⟩ : Draft σ) = d at hstart ⊢
  induction places generalizing x d with
  | nil => exact hstart
  | cons place rest ih => exact ih _ _ (hstart.visit hW hsteady (hrota place) now place)

end Follows

/-! ## Agreement -/

/-- Two ticks from the same scene came to the same, but for how tunnels and flows took turns. -/
structure Agree (s : Scene (Wire ω) σ) (x y : Bool × Scene (Wire ω) σ) : Prop where
  acted : x.1 = y.1
  gateway : x.2.gateway = y.2.gateway
  /-- For each flow they emitted the same packets in the same order. -/
  emitted : ∃ out out', s.gateway.Emitted out s.host x.2.host
    ∧ s.gateway.Emitted out' s.host y.2.host
    ∧ ∀ f, out.filter (flow · = f) = out'.filter (flow · = f)

/-- It does not matter in which order a tick goes through the tunnels, and through their flows. -/
def Unordered (now : Nat) (s : Scene (Wire ω) σ) : Prop :=
  ∀ order order' : List Nat → List Nat, IsFairOrder order → IsFairOrder order' →
  ∀ rota rota' : Nat → Rota, (∀ place, (rota place).IsFair) → (∀ place, (rota' place).IsFair) →
    Agree s (s.pumpBy order rota now) (s.pumpBy order' rota' now)

/-- **The order of a tick does not matter**, to a tunnel or to a gateway, if the transport is
impartial and random sources are steady. -/
theorem pumping_unordered (hW : Impartial W takes) (now : Nat) :
    (∀ s : Tunnel.Scene (Wire ω) σ, W s.host.world.world →
        (∃ works, s.tunnel.channel.vectors.Steady works) → Tunnel.Unordered now s)
      ∧ ∀ s : Scene (Wire ω) σ, W s.host.world.world → s.gateway.HasSteadySources →
        Unordered now s := by
  refine ⟨fun s hs hsteady => ?_, fun s hs hsteady => ?_⟩
  · obtain ⟨works, hworks⟩ := hsteady
    exact Tunnel.unordered_of_impartial hW now hs hworks
  intro order order' horder horder' rota rota' hrota hrota'
  have hperm := (horder s.gateway.routes.values).trans (horder' s.gateway.routes.values).symm
  have hdraft := Draft.sweep_eq (Profile.answer takes) now hperm
    ⟨s.gateway.tunnels, false, fun _ => []⟩
  obtain ⟨hacted, hgateway, -, -, out, hemitted, hflows⟩ :=
    Follows.pumpTunnels hW hs hsteady hrota now (order s.gateway.routes.values)
  obtain ⟨hacted', hgateway', -, -, out', hemitted', hflows'⟩ :=
    Follows.pumpTunnels hW hs hsteady hrota' now (order' s.gateway.routes.values)
  rw [hdraft] at hacted hgateway hflows
  exact ⟨hacted.trans hacted'.symm, hgateway.trans hgateway'.symm, out, out', hemitted, hemitted',
    fun f => (hflows f).trans (hflows' f).symm⟩

end Ipsec.Gateway

/-! ## A world that refuses long datagrams -/

namespace Ipsec.Simulation.World

/-- Two worlds refuse the same datagrams. -/
def RefusesAs (w₀ w : World) : Prop :=
  w.sendFault = w₀.sendFault ∧ w.maxDatagram = w₀.maxDatagram

/-- A scripted world is impartial: it refuses all datagrams, or those that are too long. -/
theorem impartial (w₀ : World) :
    Tunnel.Impartial (RefusesAs w₀) fun a packet _ =>
      w₀.sendFault.isNone && !w₀.isTooLong (a.datagram default packet 0) where
  takes {w} hw a iv packet sequence receiver := by
    obtain ⟨hfault, hlimit⟩ := hw
    have hlong : w.isTooLong (a.datagram iv packet sequence) =
        w₀.isTooLong (a.datagram default packet 0) := by
      unfold isTooLong
      rw [hlimit, a.length_datagram iv default packet sequence 0]
    change (w.transmit _ receiver).1.isOk = _
    unfold transmit
    rw [hfault, hlong]
    cases w₀.sendFault with
    | some text => rfl
    | none => cases w₀.isTooLong (a.datagram default packet 0) <;> rfl
  transmit {w} data receiver hw := by
    change RefusesAs w₀ (w.transmit data receiver).2
    unfold transmit
    split
    · exact hw
    · split <;> exact hw
  close stream hw := hw

end Ipsec.Simulation.World

namespace Ipsec.Gateway

open Simulation (App World)

/-- An established connection of a flow that has something to relay. -/
def sampleConnection (host : UInt8) (pending : Bytes) : Tcp.Connection App :=
  { key := ⟨.ofOctets 10 0 0 host, 443⟩
    gateway := .v4 ⟨.ofOctets 203 0 113 host, 4500⟩
    lastContact := 0
    relaySize := 1024
    random := ⟨1, 0⟩
    state := .established
    near := ⟨.ofOctets 55 55 55 55, 443⟩
    remote := ⟨.ofOctets 10 0 0 host, 40000⟩
    stream := some
      { id := host.toNat, target := ⟨.ofOctets 55 55 55 55, 443⟩, pending := [pending] } }

/-- A tunnel with some live flows, of which one has too much to relay, and a parked flow. -/
def sampleBusy (seed : UInt64) : Tunnel App :=
  { (Tunnel.fresh Tunnel.sampleProfile seed Tunnel.sampleVectors 0 : Tunnel App) with
    sessions :=
      { live := ([(5, [1, 2, 3]), (6, List.replicate 300 0), (7, [4])] : List (UInt8 × Bytes)).foldl
          (fun m f => m.insert ⟨.ofOctets 10 0 0 f.1, 443⟩ (sampleConnection f.1 f.2)) ∅
        parked := (∅ : Assoc Flow.Key (Tcp.Connection App)).insert ⟨.ofOctets 10 0 0 8, 443⟩
          (sampleConnection 8 [5, 6]) } }

/-- A gateway with two such tunnels, in a world that refuses long datagrams. -/
def sampleUnordered : Scene (Wire World) App where
  gateway :=
    { tunnels := [sampleBusy 1, sampleBusy 2]
      routes := ((∅ : Assoc UInt32 Nat).insert 1 0).insert 2 1 }
  host := { world := ⟨{ maxDatagram := some 200 }, []⟩ }

/-- The order of a tick shows in the receivers of its datagrams, one after the other, and in nothing
else. -/
theorem pumping_unordered_of_reversed :
    let first := sampleUnordered.pumpBy id (fun _ => {}) 0
    let second := sampleUnordered.pumpBy List.reverse (fun _ => ⟨List.reverse, List.reverse⟩) 0
    first.2.host.world.sent.map Prod.snd ≠ second.2.host.world.sent.map Prod.snd
      ∧ Agree sampleUnordered first second := by
  refine ⟨by decide +kernel, ?_⟩
  have hsteady : sampleUnordered.gateway.HasSteadySources := by
    intro t ht
    rcases List.mem_pair.1 ht with rfl | rfl
    all_goals exact ⟨true, fun _ => rfl⟩
  have hunordered := (pumping_unordered (World.impartial { maxDatagram := some 200 }) 0).2
    sampleUnordered ⟨rfl, rfl⟩ hsteady
  exact hunordered id List.reverse (fun _ => .refl _) List.reverse_perm _ _
    (fun _ => ⟨fun _ => .refl _, fun _ => .refl _⟩)
    fun _ => ⟨List.reverse_perm, List.reverse_perm⟩

end Ipsec.Gateway
