import Mathlib.Data.List.Forall2
import Ipsec.Proofs.Tunnel.Outside
import Ipsec.Proofs.Tunnel.Visits
import Ipsec.Proofs.Tunnel.Wire

/-!
# The order of visits

A pump tick goes over tables that are kept in no order of their own. If the transport takes or
refuses a packet whatever was sent before (`Impartial`), and so does the random source of the tunnel
(`RandomSource.Steady`), the order does not matter: two ticks from the same scene report the same
work, leave the same tunnel and emit the same for each flow (`unordered_of_impartial`). Only how the
flows take turns may differ, and with it the numbers of their datagrams. A tick follows a draft
(`Follows.pumpBy`), and the drafts of both are the same.
-/

namespace Ipsec.Tunnel

open Tcp (Answer Answers handAll)
open Tcp.Connection (Anchored Emits conn_of_close pump_turn turn_emits)

variable {ω σ : Type}

/-! ## Impartial transports -/

/-- In these states the world takes or refuses a packet of an association whatever was sent before:
neither the number that the packet is wrapped with matters, nor its initialisation vector. -/
structure Impartial [Platform ω σ] (W : ω → Prop)
    (takes : Esp.Association → Ipv4.Packet → Endpoint → Bool) : Prop where
  takes : ∀ {w}, W w → ∀ (a : Esp.Association) iv packet sequence receiver,
    (Platform.transmit (a.datagram iv packet sequence) receiver w).1.isOk = takes a packet receiver
  transmit : ∀ {w} data receiver, W w → W (Platform.transmit data receiver w).2
  close : ∀ {w} stream, W w → W (Platform.close stream w).2

/-- The packets that a tunnel can send, if its random source works. Without a transport it refuses
none. -/
def Profile.answer (takes : Esp.Association → Ipv4.Packet → Endpoint → Bool) (works : Bool)
    (p : Profile) : Answer :=
  fun packet receiver => works && (!p.hasTransport || takes p.association packet receiver)

/-! ## What is emitted -/

/-- What corresponds to the datagrams of two stretches, one after the other, corresponds to all of
them. -/
theorem sent_append {α : Type} {R : α → Bytes × Endpoint → Prop} {out more : List α}
    {h h' h'' : Host (Wire ω)}
    (hout : ∃ datagrams, h'.world.sent = h.world.sent ++ datagrams ∧ List.Forall₂ R out datagrams)
    (hmore : ∃ datagrams,
      h''.world.sent = h'.world.sent ++ datagrams ∧ List.Forall₂ R more datagrams) :
    ∃ datagrams,
      h''.world.sent = h.world.sent ++ datagrams ∧ List.Forall₂ R (out ++ more) datagrams := by
  obtain ⟨datagrams, hsent, hcarries⟩ := hout
  obtain ⟨datagrams', hsent', hcarries'⟩ := hmore
  refine ⟨datagrams ++ datagrams', ?_, List.rel_append hcarries hcarries'⟩
  rw [hsent', hsent, List.append_assoc]

/-- A datagram and its receiver are what the transport of a tunnel gets for an emission. A packet of
a flow comes from a connection of that flow. -/
inductive Carries (t : Tunnel σ) : Emission → Bytes × Endpoint → Prop where
  | probe : Carries t .probe (Scene.keepAliveProbe, t.profile.gatewayEndpoint)
  | segment {key : Flow.Key} {conn : Tcp.Connection σ} {packet : Ipv4.Packet} {receiver : Endpoint}
      (iv : Aes.Block) (sequence : UInt32) (hconn : Has t.sessions key conn)
      (hemits : Emits conn packet receiver) :
      Carries t (.segment key packet receiver)
        (t.profile.association.datagram iv packet sequence, receiver)

theorem Carries.of_descends {t t' : Tunnel σ} (h : Descends t t') {e : Emission}
    {d : Bytes × Endpoint} (he : t'.Carries e d) : t.Carries e d := by
  cases he with
  | probe =>
    rw [h.profile]
    exact .probe
  | segment iv sequence hconn hemits =>
    obtain ⟨conn, hconn, hanchored⟩ := h.has hconn
    rw [h.profile]
    exact .segment iv sequence hconn (hemits.of_anchored hanchored)

/-- From one host to another the transport of a tunnel was given these emissions, and nothing
else. -/
def Emitted (t : Tunnel σ) (out : List Emission) (h h' : Host (Wire ω)) : Prop :=
  ∃ datagrams, h'.world.sent = h.world.sent ++ datagrams ∧ List.Forall₂ t.Carries out datagrams

namespace Emitted

variable {t : Tunnel σ} {out more : List Emission} {h h' h'' : Host (Wire ω)}

theorem nothing (hsent : h'.world.sent = h.world.sent) : Emitted t [] h h' :=
  ⟨[], by simpa using hsent, .nil⟩

theorem trans (hout : Emitted t out h h') (hmore : Emitted t more h' h'') :
    Emitted t (out ++ more) h h'' :=
  sent_append hout hmore

theorem of_descends {t' : Tunnel σ} (hdescends : Descends t t') (hout : Emitted t' out h h') :
    Emitted t out h h' := by
  obtain ⟨datagrams, hsent, hcarries⟩ := hout
  exact ⟨datagrams, hsent, hcarries.imp fun _ _ => .of_descends hdescends⟩

end Emitted

variable [Platform ω σ] {W : ω → Prop} {takes : Esp.Association → Ipv4.Packet → Endpoint → Bool}

/-! ## Sending -/

theorem isOk_mapError {α ε ε' : Type} (r : Except ε α) (f : ε → ε') :
    (r.mapError f).isOk = r.isOk := by
  cases r <;> rfl

/-- Wrapping a packet, whether or not it can be encrypted, advances the channel. -/
theorem Profile.wrap_snd (p : Profile) (packet : Ipv4.Packet) (channel : Esp.Channel) :
    (p.wrap packet channel).2 = p.advance channel := by
  have hdrawn : (channel.capture p.settings.captureTraffic).drawVector.1 =
      channel.vectors.next.1 :=
    congrArg (·.next.1) (Esp.Channel.vectors_capture channel p.settings.captureTraffic)
  have hends := p.association.encapsulate_ends p.settings.captureTraffic packet channel
  unfold wrap advance
  generalize p.association.encapsulate p.settings.captureTraffic packet channel = x at hends ⊢
  cases hends with
  | failed hiv => simp [hdrawn, hiv]
  | numbered hiv =>
    have hlast : (channel.capture p.settings.captureTraffic).drawVector.2.lastOutbound =
        channel.lastOutbound :=
      Esp.Channel.lastOutbound_capture channel p.settings.captureTraffic
    simp [hdrawn, hiv, hlast]

theorem Profile.send_channel (p : Profile) (packet : Ipv4.Packet) (receiver : Endpoint)
    (channel : Esp.Channel) (host : Host ω) :
    (p.send packet receiver channel host).2.1 = p.advance channel := by
  have hends := p.send_ends packet receiver channel host
  rw [← p.wrap_snd packet channel]
  generalize p.send packet receiver channel host = x at hends ⊢
  cases hends with
  | unwrapped hwrap | transmitted hwrap | dropped hwrap => rw [hwrap]

/-- The random source of a channel works, or fails, for good, and the world is in one of the states
in which its transport is impartial. -/
def Ready (W : ω → Prop) (works : Bool) (channel : Esp.Channel) (host : Host (Wire ω)) : Prop :=
  W host.world.world ∧ channel.vectors.Steady works

theorem answers_send (hW : Impartial W takes) (works : Bool) (p : Profile) :
    Answers (ω := Wire ω) p.send (p.answer takes works) (Ready W works) where
  result {channel host} hready packet receiver := by
    have hworks := hready.2.isReady
    have hends := p.send_ends packet receiver channel host
    unfold Profile.answer
    generalize p.send packet receiver channel host = x at hends ⊢
    cases hends with
    | unwrapped hwrap =>
      rw [← hworks, (Profile.wrap_error hwrap).1]
      rfl
    | transmitted hwrap htransport =>
      obtain ⟨hwrapped, -, iv, rfl⟩ := Profile.wrap_ok hwrap
      rw [← hworks, hwrapped, htransport, isOk_mapError]
      exact hW.takes hready.1 p.association iv packet _ receiver
    | dropped hwrap htransport =>
      rw [← hworks, (Profile.wrap_ok hwrap).1, htransport]
      rfl
  keeps {channel host} hready packet receiver := by
    refine ⟨?_, ?_⟩
    · have hends := p.send_ends packet receiver channel host
      generalize p.send packet receiver channel host = x at hends ⊢
      cases hends with
      | transmitted => exact hW.transmit _ _ hready.1
      | _ => exact hready.1
    · rw [p.send_channel]
      exact p.steady_advance hready.2 1

/-- A packet that a connection of a flow hands over is emitted, if it can be wrapped. -/
theorem send_emits {t : Tunnel σ} {key : Flow.Key} {conn : Tcp.Connection σ}
    (hconn : Has t.sessions key conn) {packet : Ipv4.Packet} {receiver : Endpoint}
    (hemits : Emits conn packet receiver) (channel : Esp.Channel) (host : Host (Wire ω)) :
    Emitted t (t.profile.emissions channel.vectors.isReady key [(packet, receiver)]) host
      (t.profile.send packet receiver channel host).2.2 := by
  have hends := t.profile.send_ends packet receiver channel host
  unfold Profile.emissions
  generalize t.profile.send packet receiver channel host = x at hends ⊢
  cases hends with
  | unwrapped hwrap =>
    rw [(Profile.wrap_error hwrap).1]
    exact .nothing rfl
  | transmitted hwrap htransport =>
    obtain ⟨hready, -, iv, rfl⟩ := Profile.wrap_ok hwrap
    rw [hready, htransport]
    exact ⟨[_], rfl, .cons (.segment iv _ hconn hemits) .nil⟩
  | dropped hwrap htransport =>
    rw [(Profile.wrap_ok hwrap).1, htransport]
    exact .nothing rfl

omit [Platform ω σ] in
theorem Profile.emissions_cons (works : Bool) (p : Profile) (key : Flow.Key)
    (x : Ipv4.Packet × Endpoint) (rest : List (Ipv4.Packet × Endpoint)) :
    p.emissions works key (x :: rest) =
      p.emissions works key [x] ++ p.emissions works key rest := by
  unfold emissions
  split <;> rfl

/-- Packets that a connection of a flow hands over are wrapped in turn and emitted. -/
theorem handAll_send {t : Tunnel σ} {key : Flow.Key} {conn : Tcp.Connection σ}
    (hconn : Has t.sessions key conn) {handed : List (Ipv4.Packet × Endpoint)}
    (hemits : ∀ x ∈ handed, Emits conn x.1 x.2) {works : Bool} {channel : Esp.Channel}
    (hsteady : channel.vectors.Steady works) (host : Host (Wire ω)) :
    (handAll t.profile.send (channel, host) handed).1 = t.profile.advance^[handed.length] channel
      ∧ Emitted t (t.profile.emissions works key handed) host
        (handAll t.profile.send (channel, host) handed).2 := by
  induction handed generalizing channel host with
  | nil =>
    rw [Profile.emissions_nil]
    exact ⟨rfl, .nothing rfl⟩
  | cons x rest ih =>
    have hfirst := send_emits hconn (hemits x List.mem_cons_self) channel host
    rw [hsteady.isReady] at hfirst
    have hnext := t.profile.steady_advance hsteady 1
    obtain ⟨hchannel, hrest⟩ := ih (fun y hy => hemits y (List.mem_cons_of_mem x hy)) hnext
      (t.profile.send x.1 x.2 channel host).2.2
    have hhanded : handAll t.profile.send (channel, host) (x :: rest) =
        handAll t.profile.send
          (t.profile.advance channel, (t.profile.send x.1 x.2 channel host).2.2) rest :=
      congrArg (handAll t.profile.send · rest)
        (Prod.ext (t.profile.send_channel x.1 x.2 channel host) rfl)
    rw [hhanded, Profile.emissions_cons]
    exact ⟨hchannel, hfirst.trans hrest⟩

/-! ## What sends nothing -/

/-- From one host to another nothing was sent, and the world stays in its states. -/
def Calm (W : ω → Prop) (h h' : Host (Wire ω)) : Prop :=
  h'.world.sent = h.world.sent ∧ (W h.world.world → W h'.world.world)

omit [Platform ω σ] in
theorem Calm.trans {h h' h'' : Host (Wire ω)} (hcalm : Calm W h h') (hcalm' : Calm W h' h'') :
    Calm W h h'' :=
  ⟨hcalm'.1.trans hcalm.1, hcalm'.2 ∘ hcalm.2⟩

omit [Platform ω σ] in
theorem Emitted.calm {t : Tunnel σ} {out : List Emission} {h h' h'' : Host (Wire ω)}
    (hout : Emitted t out h h') (hcalm : Calm W h' h'') : Emitted t out h h'' := by
  obtain ⟨datagrams, hsent, hcarries⟩ := hout
  exact ⟨datagrams, hcalm.1.trans hsent, hcarries⟩

/-- Ending flows is calm. -/
theorem ending_calm (hW : Impartial W takes) : Host.Ending (Calm W) where
  refl _ := ⟨rfl, id⟩
  trans := Calm.trans
  note _ _ _ := ⟨rfl, id⟩
  close _ stream := ⟨rfl, hW.close stream⟩

/-! ## Visits -/

/-- From the scene `s` a visit came to `x`, by an effect on a flow. -/
structure Visited (W : ω → Prop) (works : Bool) (key : Flow.Key) (e : Effect σ)
    (s : Scene (Wire ω) σ) (x : Bool × Scene (Wire ω) σ) : Prop where
  acted : x.1 = e.acted
  tunnel : x.2.tunnel =
    { s.tunnel with
      channel := s.tunnel.profile.advance^[e.handed.length] s.tunnel.channel
      sessions := e.table s.tunnel.sessions }
  world : W x.2.host.world.world
  emitted : Emitted s.tunnel (s.tunnel.profile.emissions works key e.handed) s.host x.2.host

section

variable {s : Scene (Wire ω) σ} {key : Flow.Key} {conn : Tcp.Connection σ}

/-- A connection that is pumped takes its turn. -/
theorem runStep_turn (hW : Impartial W takes) {works : Bool}
    (hs : Ready W works s.tunnel.channel s.host) (hconn : Has s.tunnel.sessions key conn) :
    ∃ r t, s.runStep (Tcp.Connection.pump s.tunnel.profile.send) conn =
        (r, (conn.turn (s.tunnel.profile.answer takes works)).conn, s.resume t)
      ∧ r.toOption = (conn.turn (s.tunnel.profile.answer takes works)).result
      ∧ t.carrier = s.tunnel.profile.advance^[
          (conn.turn (s.tunnel.profile.answer takes works)).handed.length] s.tunnel.channel
      ∧ W t.host.world.world
      ∧ Emitted s.tunnel
          (s.tunnel.profile.emissions works key
            (conn.turn (s.tunnel.profile.answer takes works)).handed)
          s.host t.host := by
  have hanswers := answers_send hW works s.tunnel.profile
  obtain ⟨r, t, hstep, hresult, hturn, houtside⟩ :=
    Scene.runStep_ends (s := s) (pump_turn (x := (s.tunnel.channel, s.host)) hanswers conn hs)
  obtain ⟨hchannel, hemitted⟩ := handAll_send hconn
    (turn_emits (s.tunnel.profile.answer takes works) conn).2 hs.2 s.host
  have hready := hanswers.handAll (x := (s.tunnel.channel, s.host)) hs
    (conn.turn (s.tunnel.profile.answer takes works)).handed
  rw [← houtside] at hchannel hemitted hready
  exact ⟨r, t, hturn ▸ hstep, hresult, hchannel, hready.1, hemitted⟩

theorem visited_live (hW : Impartial W takes) (now : Nat) {works : Bool}
    (hs : Ready W works s.tunnel.channel s.host) (hconn : s.live? key = some conn) :
    Visited W works key
      ((liveVisitor (Profile.answer takes works) now).effect s.tunnel.profile key conn) s
      (s.visitLive now key) := by
  have hover : s.isOver now conn =
      (s.tunnel.profile.settings.tcpTimeout < conn.idle now || conn.state = .closed) := rfl
  unfold Scene.visitLive
  simp only [hconn, liveVisitor, ← hover]
  by_cases hisOver : s.isOver now conn
  · simp only [hisOver, if_true]
    have hcalm := Scene.terminate_host (ending_calm hW) key s
    refine ⟨rfl, Scene.terminate_tunnel key s, hcalm.2 hs.1, ?_⟩
    rw [Profile.emissions_nil]
    exact .nothing hcalm.1
  · simp only [hisOver, Bool.false_eq_true, if_false]
    obtain ⟨r, t, hstep, hresult, hchannel, hworld, hemitted⟩ := runStep_turn hW hs (.inl hconn)
    rw [hstep, ← hresult]
    generalize conn.turn (s.tunnel.profile.answer takes works) = turn at hchannel hemitted ⊢
    cases r with
    | ok relayed =>
      simp only [Except.toOption]
      refine ⟨rfl, ?_, hworld, hemitted⟩
      rw [← hchannel]
      rfl
    | error e =>
      simp only [Except.toOption]
      have hnoted := Scene.noteFailure_host (ending_calm hW) key e
        ((s.resume t).setLive key turn.conn)
      have hcalm := hnoted.trans (Scene.terminate_host (ending_calm hW) key _)
      refine ⟨rfl, ?_, hcalm.2 hworld, hemitted.calm hcalm⟩
      rw [Scene.terminate_tunnel, Scene.noteFailure_tunnel, ← hchannel]
      -- The failed connection is put back before its flow is ended. Only the latter shows.
      simp only [Flow.Table.remove, Scene.setLive, Scene.setSessions, Flow.Table.setLive,
        Assoc.erase_insert]
      rfl

theorem visited_parked (hW : Impartial W takes) {works : Bool}
    (hs : Ready W works s.tunnel.channel s.host) (hconn : s.parked? key = some conn) :
    Visited W works key
      ((parkedVisitor (Profile.answer takes works)).effect s.tunnel.profile key conn) s
      (false, s.visitParked key) := by
  unfold Scene.visitParked
  simp only [hconn, parkedVisitor]
  by_cases hclosed : conn.state = .closed
  · simp only [hclosed, if_true]
    have hcalm := (ending_calm hW).closed (c := conn) (h := s.host) rfl
    refine ⟨rfl, rfl, hcalm.2 hs.1, ?_⟩
    rw [Profile.emissions_nil]
    exact .nothing hcalm.1
  · simp only [hclosed, if_false]
    obtain ⟨r, t, hstep, hresult, hchannel, hworld, hemitted⟩ := runStep_turn hW hs (.inr hconn)
    rw [hstep, ← hresult]
    generalize conn.turn (s.tunnel.profile.answer takes works) = turn at hchannel hemitted ⊢
    cases r with
    | ok relayed =>
      simp only [Except.toOption]
      refine ⟨rfl, ?_, hworld, hemitted⟩
      rw [← hchannel]
      rfl
    | error e =>
      rcases hclose : turn.conn.close ((s.resume t).note (.parkedFailed key e)).host with
        ⟨_, closed, host⟩
      simp only [Except.toOption, hclose]
      have hcalm := (ending_calm hW).closed hclose
      refine ⟨rfl, ?_, hcalm.2 hworld, hemitted.calm hcalm⟩
      rw [← conn_of_close hclose, ← hchannel]
      rfl

end

/-! ## Ticks -/

/-- A scene, with whether there was work, is as a draft has it. -/
structure Follows (W : ω → Prop) (s : Scene (Wire ω) σ) (x : Bool × Scene (Wire ω) σ)
    (d : Draft σ) : Prop where
  acted : x.1 = d.acted
  tunnel : x.2.tunnel = d.tunnel
  world : W x.2.host.world.world
  descends : Descends s.tunnel d.tunnel
  emitted : ∃ out, Emitted s.tunnel out s.host x.2.host
    ∧ ∀ flow, out.filter (·.flow? = flow) = d.emitted flow

theorem sweepLive_cons (now : Nat) (key : Flow.Key) (rest : List Flow.Key) (s : Scene ω σ) :
    s.sweepLive now (key :: rest) =
      ((s.visitLive now key).1 || ((s.visitLive now key).2.sweepLive now rest).1,
        ((s.visitLive now key).2.sweepLive now rest).2) := by
  have hcarry : ∀ (keys : List Flow.Key) (acted : Bool) (s : Scene ω σ),
      keys.foldl (fun y key => (y.1 || (y.2.visitLive now key).1, (y.2.visitLive now key).2))
          (acted, s) =
        (acted || (s.sweepLive now keys).1, (s.sweepLive now keys).2) := by
    intro keys
    induction keys with
    | nil => exact fun acted s => Prod.ext (Bool.or_false acted).symm rfl
    | cons key rest ih =>
      intro acted s
      have hcons := ih (false || (s.visitLive now key).1) (s.visitLive now key).2
      change s.sweepLive now (key :: rest) = _ at hcons
      rw [List.foldl_cons, ih, hcons, Bool.false_or, Bool.or_assoc]
  exact hcarry rest _ _

namespace Follows

variable {s : Scene (Wire ω) σ} {x : Bool × Scene (Wire ω) σ} {d : Draft σ}

omit [Platform ω σ] in
theorem ready (h : Follows W s x d) {works : Bool}
    (hsteady : s.tunnel.channel.vectors.Steady works) :
    Ready W works x.2.tunnel.channel x.2.host := by
  refine ⟨h.world, ?_⟩
  rw [h.tunnel]
  exact h.descends.steady hsteady

omit [Platform ω σ] in
/-- A visit is a visit of the draft. -/
theorem visit (h : Follows W s x d) {works : Bool} {v : Visitor σ} (hv : v.Keeps) (key : Flow.Key)
    {y : Bool × Scene (Wire ω) σ}
    (hnone : v.find x.2.tunnel.sessions key = none → y = (false, x.2))
    (hsome : ∀ conn, v.find x.2.tunnel.sessions key = some conn →
      Visited W works key (v.effect x.2.tunnel.profile key conn) x.2 y) :
    Follows W s (x.1 || y.1, y.2) (d.visit works v key) := by
  obtain ⟨hacted, htunnel, hworld, hdescends, out, hemitted, hflows⟩ := h
  have hdescends' := hdescends.trans (d.descends_visit hv works key)
  rw [htunnel] at hnone hsome
  cases hfind : v.find d.tunnel.sessions key with
  | none =>
    rw [hnone hfind, Draft.visit_of_none hfind, Bool.or_false]
    exact ⟨hacted, htunnel, hworld, hdescends, out, hemitted, hflows⟩
  | some conn =>
    obtain ⟨hacted', htunnel', hworld', hemitted'⟩ := hsome conn hfind
    rw [Draft.visit_of_some hfind] at hdescends' ⊢
    rw [htunnel] at htunnel' hemitted'
    refine ⟨by rw [hacted, hacted']; rfl, htunnel', hworld', hdescends', _,
      hemitted.trans (hemitted'.of_descends hdescends), fun flow => ?_⟩
    rw [List.filter_append, hflows]
    rfl

theorem sweepLive (hW : Impartial W takes) {works : Bool}
    (hsteady : s.tunnel.channel.vectors.Steady works) (h : Follows W s x d) (now : Nat)
    (keys : List Flow.Key) :
    Follows W s (x.1 || (x.2.sweepLive now keys).1, (x.2.sweepLive now keys).2)
      (keys.foldl (Draft.visit works (liveVisitor (Profile.answer takes works) now)) d) := by
  induction keys generalizing x d with
  | nil =>
    have hquiet : (x.1 || (x.2.sweepLive now []).1, (x.2.sweepLive now []).2) = x :=
      Prod.ext (Bool.or_false x.1) rfl
    rw [hquiet]
    exact h
  | cons key rest ih =>
    have hvisit := h.visit (keeps_liveVisitor _ now) key (y := x.2.visitLive now key)
      (fun hnone => ?_) fun conn hconn => visited_live hW now (h.ready hsteady) hconn
    · rw [sweepLive_cons, ← Bool.or_assoc]
      exact ih hvisit
    · have hnone : x.2.live? key = none := hnone
      simp only [Scene.visitLive, hnone]

theorem sweepParked (hW : Impartial W takes) {works : Bool}
    (hsteady : s.tunnel.channel.vectors.Steady works) (h : Follows W s x d)
    (keys : List Flow.Key) :
    Follows W s (x.1, x.2.sweepParked keys)
      (keys.foldl (Draft.visit works (parkedVisitor (Profile.answer takes works))) d) := by
  unfold Scene.sweepParked
  induction keys generalizing x d with
  | nil => exact h
  | cons key rest ih =>
    have hvisit := h.visit (keeps_parkedVisitor _) key (y := (false, x.2.visitParked key))
      (fun hnone => ?_) fun conn hconn => visited_parked hW (h.ready hsteady) hconn
    · rw [Bool.or_false] at hvisit
      exact ih hvisit
    · have hnone : x.2.parked? key = none := hnone
      simp only [Scene.visitParked, hnone]

theorem probe (hW : Impartial W takes) (hs : W s.host.world.world) (now : Nat) :
    Follows W s (s.probe now) (Draft.probe now s.tunnel) := by
  unfold Scene.probe Draft.probe
  have hdue : s.probeDue now = (s.tunnel.profile.initiator
    && s.tunnel.profile.settings.keepAliveInterval ≤ now - s.tunnel.lastProbe) := rfl
  rw [← hdue]
  split
  · have hdescends : Descends s.tunnel { s.tunnel with lastProbe := now } :=
      ⟨rfl, id, (Descends.refl s.tunnel).has⟩
    unfold Scene.sendProbe
    cases s.tunnel.profile.hasTransport with
    | false => exact ⟨rfl, rfl, hs, hdescends, [], .nothing rfl, fun _ => rfl⟩
    | true =>
      have hhost : Emitted s.tunnel [.probe] s.host
            (s.host.transmit Scene.keepAliveProbe s.tunnel.profile.gatewayEndpoint).2
          ∧ W (s.host.transmit Scene.keepAliveProbe
            s.tunnel.profile.gatewayEndpoint).2.world.world :=
        ⟨⟨[_], rfl, .cons .probe .nil⟩, hW.transmit _ _ hs⟩
      simp only [if_true]
      split
      all_goals
        next h =>
          rw [h] at hhost
          exact ⟨rfl, rfl, hhost.2, hdescends, [.probe], hhost.1, fun _ => rfl⟩
  · exact ⟨rfl, rfl, hs, .refl _, [], .nothing rfl, fun _ => rfl⟩

/-- A tick is a tick of the draft. -/
theorem pumpBy (hW : Impartial W takes) (hs : W s.host.world.world) {works : Bool}
    (hsteady : s.tunnel.channel.vectors.Steady works) (rota : Rota) (now : Nat) :
    Follows W s (s.pumpBy rota now) (Draft.tick (Profile.answer takes) rota now s.tunnel) := by
  have hprobe := Follows.probe hW hs now
  have hlive := hprobe.sweepLive hW hsteady now
    (rota.live (s.probe now).2.tunnel.sessions.live.keys)
  have hparked := hlive.sweepParked hW hsteady (rota.parked
    ((s.probe now).2.sweepLive now
      (rota.live (s.probe now).2.tunnel.sessions.live.keys)).2.tunnel.sessions.parked.keys)
  simp only [Draft.tick, hsteady.isReady, ← hprobe.tunnel, ← hlive.tunnel]
  exact hparked

end Follows

/-! ## Agreement -/

/-- Two ticks from the same scene came to the same, but for how the flows took turns. -/
structure Agree (s : Scene (Wire ω) σ) (x y : Bool × Scene (Wire ω) σ) : Prop where
  acted : x.1 = y.1
  tunnel : x.2.tunnel = y.2.tunnel
  /-- For each flow they emitted the same packets in the same order. -/
  emitted : ∃ out out', Emitted s.tunnel out s.host x.2.host
    ∧ Emitted s.tunnel out' s.host y.2.host
    ∧ ∀ flow, out.filter (·.flow? = flow) = out'.filter (·.flow? = flow)

/-- It does not matter in which order a tick goes through the flows. -/
def Unordered (now : Nat) (s : Scene (Wire ω) σ) : Prop :=
  ∀ rota rota' : Rota, rota.IsFair → rota'.IsFair →
    Agree s (s.pumpBy rota now) (s.pumpBy rota' now)

theorem unordered_of_impartial (hW : Impartial W takes) (now : Nat) {s : Scene (Wire ω) σ}
    (hs : W s.host.world.world) {works : Bool}
    (hsteady : s.tunnel.channel.vectors.Steady works) : Unordered now s := by
  intro rota rota' hrota hrota'
  obtain ⟨hacted, htunnel, -, -, out, hemitted, hflows⟩ :=
    Follows.pumpBy hW hs hsteady rota now
  obtain ⟨hacted', htunnel', -, -, out', hemitted', hflows'⟩ :=
    Follows.pumpBy hW hs hsteady rota' now
  have htick := Draft.tick_eq (Profile.answer takes) hrota hrota' now s.tunnel
  rw [htick] at hacted htunnel hflows
  exact ⟨hacted.trans hacted'.symm, htunnel.trans htunnel'.symm, out, out', hemitted, hemitted',
    fun flow => (hflows flow).trans (hflows' flow).symm⟩

end Ipsec.Tunnel
