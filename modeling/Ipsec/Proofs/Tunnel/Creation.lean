import Ipsec.Proofs.Tcp.Form
import Ipsec.Proofs.Tunnel.Contact

/-!
# How flows are created

A packet of a flow that is not live is handed to a connection that just begins to listen. The
connection answers an opening segment (`AnswersOpening`), and anything else is refused; how that
ends is listed by `Begins`. `flow_creation` says what becomes of the tunnel: the flow is live
exactly if the segment is a plain opening one and its answer did not fail to be sent, and if it is
not, the tables are as they were and nothing was done to the world but a transmission that failed.
-/

namespace Ipsec

open Tcp (Formed Link Segment Flags Ends)

namespace Tcp

variable {κ ω σ : Type}

/-! ## Answers to opening segments -/

/-- The segment that answers an opening segment, with a first number. -/
def Segment.answer (opening : Segment) (first : UInt32) : Segment where
  sourcePort := opening.destinationPort
  destinationPort := opening.sourcePort
  sequence := first
  acknowledgement := opening.sequence + 1
  flags := Flags.syn ||| Flags.ack
  window := opening.window
  data := []

/-- A packet goes back to where another one came from, and carries the answer to the opening
segment in that, numbered by a small number that was drawn. -/
def AnswersOpening (packet : Ipv4.Packet) (opening : Segment) (answer : Ipv4.Packet) : Prop :=
  ∃ first, 100 ≤ first ∧ first < 65000
    ∧ Formed packet.destination packet.source (opening.answer (UInt32.ofNat first)) answer

theorem AnswersOpening.reads {packet answer : Ipv4.Packet} {opening : Segment}
    (h : AnswersOpening packet opening answer) :
    Ipv4.Packet.ofBytes answer.toBytes = .ok answer := by
  obtain ⟨_, -, -, hformed⟩ := h
  exact hformed.reads

namespace Connection

/-- A connection was made by an opening segment that came in a packet through a gateway. -/
structure MadeBy (packet : Ipv4.Packet) (opening : Segment) (gateway : Endpoint)
    (c : Connection σ) : Prop where
  state : c.state = .synReceived
  gateway : c.gateway = gateway
  remote : c.remote = ⟨packet.source, opening.sourcePort⟩
  near : c.near = ⟨packet.destination, opening.destinationPort⟩
  stream : c.stream = none
  remoteSequence : c.remoteSequence = opening.sequence + 1

/-- How starting a connection with a segment ends, when it would be answered by `answer`. -/
inductive Begins (link : Link κ ω) (packet : Ipv4.Packet) (opening : Segment)
    (answer : Ipv4.Packet) (s : Scene κ ω σ) :
    Except TcpError Disposition → Scene κ ω σ → Prop where
  /-- The segment is no plain opening segment. -/
  | refused {e : TcpError} {conn : Connection σ} {host : Host ω}
      (hflags : opening.flags ≠ Flags.syn) (hstream : conn.stream = none)
      (hnoted : s.host.Routine host) :
      Begins link packet opening answer s (.error e) ⟨conn, s.carrier, host⟩
  /-- The link cannot send the answer. -/
  | unanswered {e : EspError} {conn : Connection σ} {carrier : κ} {host host' : Host ω}
      (hflags : opening.flags = Flags.syn)
      (hlink : link answer s.conn.gateway s.carrier s.host = (.error e, carrier, host))
      (hstream : conn.stream = none) (hnoted : host.Routine host') :
      Begins link packet opening answer s (.error (.tunnel e)) ⟨conn, carrier, host'⟩
  /-- The answer is sent. -/
  | answered {conn : Connection σ} {carrier : κ} {host : Host ω}
      (hflags : opening.flags = Flags.syn)
      (hlink : link answer s.conn.gateway s.carrier s.host = (.ok (), carrier, host))
      (hmade : conn.MadeBy packet opening s.conn.gateway) :
      Begins link packet opening answer s (.ok .proceed) ⟨conn, carrier, host⟩

section

variable [Platform ω σ] (link : Link κ ω) {packet : Ipv4.Packet} {opening : Segment}
  (hread : Segment.ofBytes? packet.payload = some opening) {s : Scene κ ω σ}
  (hstream : s.conn.stream = none)

include hread hstream

/-- A connection that listens takes a segment in one of the listed ways. -/
theorem handle_begins (hstate : s.conn.state = .listen) :
    ∃ answer, Formed packet.destination packet.source (opening.answer s.conn.localSequence) answer
      ∧ Ends (handle link packet) s (Begins link packet opening answer s) := by
  obtain ⟨answer, hanswer⟩ : ∃ answer,
      (s.conn.facing packet opening).packet (Flags.syn ||| Flags.ack) [] = .ok answer :=
    Segment.exists_wrap _ _ _ (Nat.le_of_ble_eq_true rfl)
  refine ⟨answer, Segment.formed_of_wrap rfl hanswer, ?_⟩
  refine (handle_exchanges ((relayed_true link).exchanged _) s).mono fun r t h => ?_
  cases h with
  | unreadable hnone =>
    rw [hread] at hnone
    cases hnone
  | closed hother => exact absurd hother (by simp [hstate])
  | answered _ hother => exact absurd hother (by simp [hstate])
  | established _ hother => exact absurd hother (by simp [hstate])
  | ending _ hother => exact absurd hstate (by simp_all)
  | listening hread' _ h =>
    obtain rfl := Option.some.inj (hread.symm.trans hread')
    cases h with
    | refused hflags => exact .refused hflags hstream (.refl _)
    | unanswered hflags hreply =>
      rw [reply_eq, hanswer] at hreply
      rcases hlink : link answer s.conn.gateway s.carrier s.host with ⟨fault | ⟨⟩, carrier, host⟩
      all_goals simp only [handOver, facing, hlink] at hreply; cases hreply
      exact .unanswered hflags hlink hstream (.refl _)
    | answered hflags hreply =>
      rw [reply_eq, hanswer] at hreply
      rcases hlink : link answer s.conn.gateway s.carrier s.host with ⟨fault | ⟨⟩, carrier, host⟩
      all_goals simp only [handOver, facing, hlink] at hreply; cases hreply
      exact .answered hflags hlink ⟨rfl, rfl, rfl, rfl, hstream, rfl⟩

/-- A closed connection without a stream is started in one of the listed ways. -/
theorem start_begins (now : Nat) (hstate : s.conn.state = .closed) :
    ∃ answer, AnswersOpening packet opening answer
      ∧ Ends (start link packet now) s (Begins link packet opening answer s) := by
  have hfirst := Generator.range_mem (show 100 < 65000 by decide) s.conn.random
  obtain ⟨answer, hformed, hhandle⟩ := handle_begins link hread
    (s := { s with
      conn := s.conn.listening (s.conn.random.range 100 65000).1
        (s.conn.random.range 100 65000).2 }) hstream rfl
  refine ⟨answer, ⟨_, hfirst.1, hfirst.2, hformed⟩, ends_start hstate (hhandle.mono ?_)⟩
  intro r t h
  cases h with
  | refused hflags hnone hnoted =>
    intro _ _ _ _ hclose hnoted'
    rw [close_of_none hnone] at hclose
    cases hclose
    exact .refused hflags hnone (hnoted.trans hnoted')
  | unanswered hflags hlink hnone hnoted =>
    intro _ _ _ _ hclose hnoted'
    rw [close_of_none hnone] at hclose
    cases hclose
    exact .unanswered hflags hlink hnone (hnoted.trans hnoted')
  | answered hflags hlink hmade =>
    exact .answered hflags hlink
      ⟨hmade.state, hmade.gateway, hmade.remote, hmade.near, hmade.stream, hmade.remoteSequence⟩

end

end Connection

end Tcp

namespace Tunnel

variable {ω σ : Type} [Platform ω σ] {s : Scene ω σ} {packet : Ipv4.Packet} {key : Flow.Key}

/-! ## Flows -/

/-- What is said about acting on a packet of a flow that is not live, from `s` to `t`, when the
answer to its segment would be sent as `datagram`. -/
structure CreationLaw (packet : Ipv4.Packet) (opening : Segment) (sender : Endpoint)
    (key : Flow.Key) (datagram : Bytes) (s t : Scene ω σ) : Prop where
  /-- The flow is live exactly if it was opened and sending the answer did not fail: there was an
  initialisation vector for it, and the transport, if there is one, took it. -/
  live : (t.live? key).isSome ↔ opening.flags = Flags.syn ∧
    s.tunnel.channel.vectors.isReady = true ∧
    (s.tunnel.profile.hasTransport = true →
      (Platform.transmit datagram sender s.host.world).1 = .ok ())
  /-- Then its connection waits for the acknowledgement of the answer. -/
  made : ∀ conn, t.live? key = some conn → conn.MadeBy packet opening sender
  /-- The answer was sent, and nothing else happened to the world. -/
  sent : (t.live? key).isSome → s.tunnel.profile.hasTransport = true →
    Platform.transmit datagram sender s.host.world = (.ok (), t.host.world)
  /-- Without a transport nothing was sent. -/
  unsent : (t.live? key).isSome → s.tunnel.profile.hasTransport = false →
    t.host.world = s.host.world
  /-- If the flow is not live, the tables are as they were. -/
  sessions : t.live? key = none → t.tunnel.sessions = s.tunnel.sessions
  /-- Then nothing happened to the world, but that sending the answer may have failed. -/
  idle : t.live? key = none → t.host.world = s.host.world ∨
    s.tunnel.channel.vectors.isReady = true ∧
      ∃ fault, Platform.transmit datagram sender s.host.world = (.error fault, t.host.world)

namespace CreationLaw

variable {opening : Segment} {sender : Endpoint} {datagram : Bytes} {t : Scene ω σ}

/-- The law holds if the flow goes live and the answer was sent. -/
theorem opened {conn : Tcp.Connection σ} (hconn : t.live? key = some conn)
    (hflags : opening.flags = Flags.syn) (hready : s.tunnel.channel.vectors.isReady = true)
    (hmade : conn.MadeBy packet opening sender)
    (hsent : s.tunnel.profile.hasTransport = true →
      Platform.transmit datagram sender s.host.world = (.ok (), t.host.world))
    (hunsent : s.tunnel.profile.hasTransport = false → t.host.world = s.host.world) :
    CreationLaw packet opening sender key datagram s t where
  live := ⟨fun _ => ⟨hflags, hready, fun h => congrArg Prod.fst (hsent h)⟩,
    fun _ => by simp [hconn]⟩
  made _ hother := Option.some.inj (hconn.symm.trans hother) ▸ hmade
  sent _ := hsent
  unsent _ := hunsent
  sessions hnone := absurd (hnone.symm.trans hconn) nofun
  idle hnone := absurd (hnone.symm.trans hconn) nofun

/-- The law holds if the tables stay, and the segment opens nothing or its answer is not sent. -/
theorem refused (hnone : s.live? key = none) (hsessions : t.tunnel.sessions = s.tunnel.sessions)
    (hreason :
      (opening.flags ≠ Flags.syn ∨ s.tunnel.channel.vectors.isReady = false) ∧
          t.host.world = s.host.world ∨
        s.tunnel.profile.hasTransport = true ∧ s.tunnel.channel.vectors.isReady = true ∧ ∃ fault,
          Platform.transmit datagram sender s.host.world = (.error fault, t.host.world)) :
    CreationLaw packet opening sender key datagram s t := by
  have hnone' : t.live? key = none := by rw [Scene.live?, hsessions]; exact hnone
  refine ⟨?live, by simp [hnone'], by simp [hnone'], by simp [hnone'], fun _ => hsessions,
    fun _ => hreason.imp And.right And.right⟩
  rw [hnone']
  constructor
  · intro h
    cases h
  · rintro ⟨hflags, hready, hsent⟩
    rcases hreason with ⟨hother | hunready, -⟩ | ⟨htransport, -, fault, hfailed⟩
    · exact absurd hflags hother
    · rw [hready] at hunready
      cases hunready
    · rw [hfailed] at hsent
      cases hsent htransport

end CreationLaw

omit [Platform ω σ] in
/-- A datagram conveys a packet to the peer, if there is an initialisation vector for it. -/
theorem Profile.exists_conveys (p : Profile) (channel : Esp.Channel)
    (hpacket : Ipv4.Packet.ofBytes packet.toBytes = .ok packet) :
    ∃ datagram, channel.vectors.isReady = true →
      p.association.Conveys (channel.lastOutbound + 1) packet datagram := by
  by_cases hready : channel.vectors.isReady = true
  · obtain ⟨datagram, channel', hwrap⟩ := p.exists_wrap packet hready
    exact ⟨datagram, fun _ => conveys_wrap hpacket hwrap⟩
  · exact ⟨[], fun h => absurd h hready⟩

/-- A flow that is not live is started as the law says. -/
theorem Scene.startFlow_created {opening : Segment}
    (hread : Segment.ofBytes? packet.payload = some opening) (hnone : s.live? key = none)
    (sender : Endpoint) (now : Nat) :
    ∃ answer datagram, Tcp.AnswersOpening packet opening answer ∧
      (s.tunnel.channel.vectors.isReady = true →
        s.tunnel.profile.association.Conveys (s.tunnel.channel.lastOutbound + 1) answer datagram) ∧
      CreationLaw packet opening sender key datagram s (s.startFlow key packet sender now) := by
  have hends : Begun
      (fun r u => ∃ random answer, Tcp.AnswersOpening packet opening answer ∧
        Tcp.Connection.Begins s.tunnel.profile.send packet opening answer
          ⟨.fresh key sender s.tunnel.profile.settings.relaySize random now,
            s.tunnel.channel.draw.2, s.host⟩ r u) key s (s.startFlow key packet sender now) := by
    refine startFlow_ends key fun random => ?_
    obtain ⟨answer, hanswers, hbegins⟩ := Tcp.Connection.start_begins s.tunnel.profile.send hread
      (s := ⟨.fresh key sender s.tunnel.profile.settings.relaySize random now,
        s.tunnel.channel.draw.2, s.host⟩) rfl now rfl
    exact hbegins.mono fun r u h => ⟨random, answer, hanswers, h⟩
  generalize s.startFlow key packet sender now = t at hends ⊢
  cases hends with
  | opened hQ =>
    obtain ⟨random, answer, hanswers, hbegins⟩ := hQ
    cases hbegins with
    | answered hflags hlink hmade =>
      obtain ⟨datagram, hwrap, hsent, hunsent⟩ := Profile.send_ok hlink
      have hconveys := Profile.conveys_wrap hanswers.reads hwrap
      refine ⟨answer, datagram, hanswers, fun _ => hconveys, ?_⟩
      exact .opened (by simp) hflags (Profile.wrap_ok hwrap).1 hmade hsent hunsent
  | ended hQ =>
    obtain ⟨_, _, _, hbegins⟩ := hQ
    cases hbegins
  | refused hQ =>
    obtain ⟨random, answer, hanswers, hbegins⟩ := hQ
    obtain ⟨datagram₀, hconveys₀⟩ :=
      s.tunnel.profile.exists_conveys s.tunnel.channel.draw.2 hanswers.reads
    -- The connection has no stream to be closed, so giving it up does nothing.
    cases hbegins with
    | refused hflags hstream hnoted =>
      refine ⟨answer, datagram₀, hanswers, hconveys₀,
        .refused hnone (by simp [resume, setChannel]) (.inl ⟨.inl hflags, ?_⟩)⟩
      simp [Tcp.Connection.discard_of_none hstream, hnoted.world_eq]
    | @unanswered _ conn _ _ host' hflags hlink hstream hnoted =>
      have hworld : (conn.discard host').world = _ :=
        (congrArg Host.world (Tcp.Connection.discard_of_none hstream host')).trans hnoted.world_eq
      rcases Profile.send_error hlink with ⟨hunready, hsame⟩ |
        ⟨htransport, datagram, fault, hwrap, hfailed⟩
      · refine ⟨answer, datagram₀, hanswers, hconveys₀,
          .refused hnone (by simp [resume, setChannel]) (.inl ⟨.inr hunready, ?_⟩)⟩
        rw [noteFailure_world, hworld]
        exact hsame
      · have hconveys := Profile.conveys_wrap hanswers.reads hwrap
        refine ⟨answer, datagram, hanswers, fun _ => hconveys,
          .refused hnone (by simp [resume, setChannel])
            (.inr ⟨htransport, (Profile.wrap_ok hwrap).1, fault, ?_⟩)⟩
        rw [noteFailure_world, hworld]
        exact hfailed

/-- **How flows are created.** A packet of a flow that is not live makes the flow live exactly if
it is a plain opening segment and its answer does not fail to be sent. The answer is then the only
thing that was sent, and without a transport not even that. Else no table changes, and nothing is
delivered or connected. -/
theorem flow_creation (hflow : packet.flow? = some key) (hnone : s.live? key = none)
    (sender : Endpoint) (now : Nat) :
    ∃ opening answer datagram, Segment.ofBytes? packet.payload = some opening ∧
      Tcp.AnswersOpening packet opening answer ∧
      (s.tunnel.channel.vectors.isReady = true →
        s.tunnel.profile.association.Conveys (s.tunnel.channel.lastOutbound + 1) answer datagram) ∧
      CreationLaw packet opening sender key datagram s (s.dispatch packet sender now) := by
  obtain ⟨-, hkey, -⟩ := Ipv4.Packet.flow?_eq_some.1 hflow
  obtain ⟨opening, hread, -⟩ := Option.map_eq_some_iff.1 hkey
  obtain ⟨answer, datagram, hanswers, hconveys, hlaw⟩ :=
    s.startFlow_created hread hnone sender now
  rw [Scene.dispatch_of_flow hflow, hnone]
  exact ⟨opening, answer, datagram, hread, hanswers, hconveys, hlaw⟩

/-- A fresh tunnel with a transport. -/
def sampleLinked : Scene Simulation.World Simulation.App :=
  ⟨fresh sampleProfile 1 sampleVectors 0, ⟨{}, []⟩⟩

/-- An opening segment of a flow. -/
def sampleSyn : Ipv4.Packet := Tcp.sampleSegment (.ofOctets 55 55 55 55) Flags.syn []

/-- It opens a flow of the tunnel. -/
theorem flow_creation_of_syn :
    sampleSyn.flow? = some sampleKey ∧ sampleLinked.live? sampleKey = none ∧
      ∃ opening answer datagram, Segment.ofBytes? sampleSyn.payload = some opening ∧
        Tcp.AnswersOpening sampleSyn opening answer ∧
        sampleLinked.tunnel.profile.association.Conveys
          (sampleLinked.tunnel.channel.lastOutbound + 1) answer datagram ∧
        CreationLaw sampleSyn opening sampleSender sampleKey datagram sampleLinked
          (sampleLinked.dispatch sampleSyn sampleSender 0) := by
  have hflow : sampleSyn.flow? = some sampleKey := by rfl
  obtain ⟨opening, answer, datagram, hread, hanswers, hconveys, hlaw⟩ :=
    flow_creation (s := sampleLinked) hflow rfl sampleSender 0
  exact ⟨hflow, rfl, opening, answer, datagram, hread, hanswers, hconveys rfl, hlaw⟩

/-- A tunnel without a transport makes the flow live too, and sends nothing. -/
theorem flow_made_without_transport :
    sampleSyn.flow? = some sampleKey ∧ sampleScene.live? sampleKey = none ∧
      ((sampleScene.dispatch sampleSyn sampleSender 0).live? sampleKey).map (·.state) =
        some .synReceived ∧
      (sampleScene.dispatch sampleSyn sampleSender 0).host.world.sent = [] := by
  refine ⟨rfl, rfl, ?_⟩
  decide +kernel

end Tunnel

end Ipsec
