import Ipsec.Proofs.Tunnel.Origin
import Ipsec.Proofs.Tunnel.Settling
import Ipsec.Proofs.Tunnel.Wire

/-!
# The flows of a tunnel are isolated

A packet belongs to one flow at most (`Ipv4.Packet.flow?`). To act on it leaves the connections of
all other flows as they are, and closes no stream but those of its own flow, whatever fails on the
way. A packet that belongs to no flow, or came through another gateway than its flow (`Stray`),
changes no connection at all, and all that may be sent for it is the answer to an echo request
(`PassedOver`). `dispatch_isolated` says so for every scene.

The proof goes by the ways in which acting on a packet can end. In two of them no flow is touched,
and in the others one is, under the key of the packet. What that one closes was held by its
connections (`OfFlow`).
-/

namespace Ipsec

variable {ω σ : Type}

/-- The flow that a packet belongs to, if it belongs to one: it holds a segment, and its key can
name a flow. -/
def Ipv4.Packet.flow? (packet : Packet) : Option Flow.Key :=
  if packet.protocol = Protocol.tcp then (Flow.Key.ofPacket? packet).filter (·.isValid) else none

theorem Ipv4.Packet.flow?_eq_some {packet : Packet} {key : Flow.Key} :
    packet.flow? = some key ↔
      packet.protocol = Protocol.tcp ∧ Flow.Key.ofPacket? packet = some key ∧ key.isValid := by
  unfold flow?
  split
  · next htcp => simp [htcp, Option.filter_eq_some_iff]
  · next hother => simp [hother]

/-- The answer to an echo request is a control message. -/
theorem Icmp.protocol_echoReply {request reply : Ipv4.Packet} {echo : Echo} {data : Bytes}
    {identification : UInt16} (h : echoReply request echo data identification = .ok reply) :
    reply.protocol = Protocol.icmp := by
  unfold echoReply Ipv4.Packet.outgoing Ipv4.Header.outgoing at h
  split at h
  · cases h
    rfl
  · cases h

namespace Tunnel

/-! ## Connections of other flows -/

section

variable [Platform ω σ]

theorem apart_continueFlow (key : Flow.Key) (conn : Tcp.Connection σ) (packet : Ipv4.Packet)
    (sender : Endpoint) (now : Nat) (s : Scene ω σ) :
    Apart key s (s.continueFlow key conn packet sender now) := by
  have hends := Scene.continueFlow_ends (s := s) key sender (Tcp.ends_true
    (Tcp.Connection.accept s.tunnel.profile.send packet now) ⟨conn, s.tunnel.channel, s.host⟩)
  generalize s.continueFlow key conn packet sender now = t at hends ⊢
  cases hends with
  | crossed => exact ⟨rfl, rfl, fun _ _ => rfl, fun _ _ => rfl⟩
  | proceeded => exact ⟨rfl, rfl, fun j hj => by simp [hj], fun j _ => by simp⟩
  | ended => exact apart_terminate key rfl rfl (fun j hj => by simp [hj]) fun j _ => by simp
  | failed =>
    refine apart_terminate key (by simp) ?_ (fun j hj => by simp [hj]) fun j _ => by simp
    rw [Scene.noteFailure_tunnel]
    rfl

theorem apart_startFlow (key : Flow.Key) (packet : Ipv4.Packet) (sender : Endpoint) (now : Nat)
    (s : Scene ω σ) : Apart key s (s.startFlow key packet sender now) := by
  have hends : Scene.Begun (fun _ _ => True) key s (s.startFlow key packet sender now) :=
    Scene.startFlow_ends _ fun _ => Tcp.ends_true _ _
  generalize s.startFlow key packet sender now = t at hends ⊢
  cases hends with
  | opened => exact ⟨rfl, rfl, fun j hj => by simp [hj], fun j _ => by simp⟩
  | ended => exact ⟨rfl, rfl, fun _ _ => rfl, fun _ _ => rfl⟩
  | refused =>
    refine ⟨by simp, ?_, fun j _ => by simp, fun j _ => by simp⟩
    rw [Scene.noteFailure_tunnel]
    rfl

/-- To act on a packet leaves the connections of all flows but its own as they are. -/
theorem Scene.dispatch_spares {packet : Ipv4.Packet} {key : Flow.Key}
    (hkey : packet.flow? ≠ some key) (sender : Endpoint) (now : Nat) (s : Scene ω σ) :
    (s.dispatch packet sender now).live? key = s.live? key ∧
      (s.dispatch packet sender now).parked? key = s.parked? key := by
  have hown : ∀ {j : Flow.Key}, packet.protocol = Protocol.tcp →
      Flow.Key.ofPacket? packet = some j → j.isValid → key ≠ j := by
    rintro j htcp hj hvalid rfl
    exact hkey (Ipv4.Packet.flow?_eq_some.2 ⟨htcp, hj, hvalid⟩)
  have hends := s.dispatch_ends packet sender now
  generalize s.dispatch packet sender now = t at hends ⊢
  cases hends with
  | control =>
    have hsessions := sessions_background.handleControl packet sender s
    exact ⟨congrArg (·.live.get? key) hsessions, parked?_of_sessions hsessions⟩
  | noted => exact ⟨rfl, rfl⟩
  | @continued j conn htcp hj hvalid =>
    have hapart := apart_continueFlow j conn packet sender now s
    exact ⟨hapart.live key (hown htcp hj hvalid), hapart.parked key (hown htcp hj hvalid)⟩
  | @started j htcp hj hvalid =>
    have hapart := apart_startFlow j packet sender now s
    exact ⟨hapart.live key (hown htcp hj hvalid), hapart.parked key (hown htcp hj hvalid)⟩

end

/-! ## Streams of other flows -/

section

variable [Platform ω σ] {key : Flow.Key} {s t : Scene (Watch ω σ) (Watched σ)}

/-- A stream is of a flow: a connection of the flow holds it, or it is opened later. -/
def OfFlow (key : Flow.Key) (s : Scene (Watch ω σ) (Watched σ)) (w : Watched σ) : Prop :=
  s.host.world.opened ≤ w.tag ∨
    ∃ v ∈ heldBy (s.live? key) ++ heldBy (s.parked? key), v.tag = w.tag

/-- From `s` to `t` no streams were closed but some with a given property. -/
def ClosesOnly (P : Watched σ → Prop) (s t : Scene (Watch ω σ) (Watched σ)) : Prop :=
  ∃ more, t.host.world.closed = s.host.world.closed ++ more ∧ ∀ w ∈ more, P w

omit [Platform ω σ] in
theorem ClosesOnly.none {P : Watched σ → Prop} (h : t.host.world.closed = s.host.world.closed) :
    ClosesOnly P s t := ⟨[], by rw [h, List.append_nil], nofun⟩

/-- A packet that goes to the live connection of its flow closes no stream but those of the flow. -/
theorem continueFlow_closes {conn : Tcp.Connection (Watched σ)} (hconn : s.live? key = some conn)
    (packet : Ipv4.Packet) (sender : Endpoint) (now : Nat) :
    ClosesOnly (OfFlow key s) s (s.continueFlow key conn packet sender now) := by
  have hends := Scene.continueFlow_ends (s := s) key sender
    (Tcp.Connection.accept_takes s.tunnel.profile.send_isBlind packet now
      ⟨conn, s.tunnel.channel, s.host⟩)
  -- A flow that is ended closes the stream of its live connection, as it is now, and of the parked
  -- one.
  have hended : ∀ {u : Tcp.Scene Esp.Channel (Watch ω σ) (Watched σ)}
      {t : Scene (Watch ω σ) (Watched σ)},
      Tcp.Connection.Takes packet ⟨conn, s.tunnel.channel, s.host⟩ u →
      t.live? key = some u.conn → t.parked? key = s.parked? key →
      t.host.world = u.host.world → ClosesOnly (OfFlow key s) s (t.terminate key) := by
    intro u t htakes hlive hparked hworld
    refine ⟨heldBy (t.live? key) ++ heldBy (t.parked? key), ?_, fun w hw => ?_⟩
    · rw [(terminate_records key t).2, hworld, htakes.closed_eq, List.append_assoc]
    · rw [hlive, hparked] at hw
      rcases List.mem_append.1 hw with hw | hw
      · obtain ⟨c, hc, hw⟩ := mem_heldBy.1 hw
        cases hc
        refine (htakes.held hw).symm.imp_right fun hown => ?_
        obtain ⟨v, hv, htag⟩ := hown
        exact ⟨v, List.mem_append_left _ (mem_heldBy.2 ⟨conn, hconn, hv⟩), htag⟩
      · exact .inr ⟨w, List.mem_append_right _ hw, rfl⟩
  generalize s.continueFlow key conn packet sender now = t at hends ⊢
  cases hends with
  | crossed => exact .none rfl
  | proceeded _ hQ => exact .none hQ.closed_eq
  | ended _ hQ => exact hended hQ (by simp) (by simp) rfl
  | failed _ hQ => exact hended hQ (by simp) (by simp) (Scene.noteFailure_world _ _ _)

/-- To start a flow closes no stream. -/
theorem closed_startFlow (key : Flow.Key) (packet : Ipv4.Packet) (sender : Endpoint) (now : Nat)
    (s : Scene (Watch ω σ) (Watched σ)) :
    (s.startFlow key packet sender now).host.world.closed = s.host.world.closed := by
  have hends : Scene.Begun
      (fun _ u => u.conn.stream = none ∧ u.host.world.closed = s.host.world.closed) key s
      (s.startFlow key packet sender now) := by
    refine Scene.startFlow_ends key fun random => ?_
    exact (Tcp.Connection.start_untouched s.tunnel.profile.send_isBlind packet now rfl rfl).mono
      fun _ _ h => ⟨h.stream, h.closed⟩
  generalize s.startFlow key packet sender now = t at hends ⊢
  cases hends with
  | opened hQ => exact hQ.2
  | ended hQ hclose hnoted =>
    obtain ⟨-, hclosed, -⟩ := Tcp.Connection.close_records hclose
    rw [hQ.1, Option.toList_none, List.append_nil] at hclosed
    exact (congrArg Watch.closed hnoted.world_eq).trans (hclosed.trans hQ.2)
  | @refused e u hQ =>
    obtain ⟨-, hclosed⟩ := discard_records u.conn u.host
    rw [hQ.1, Option.toList_none, List.append_nil] at hclosed
    exact (congrArg Watch.closed (Scene.noteFailure_world _ _ _)).trans (hclosed.trans hQ.2)

/-- What touches no flow leaves the records of streams alone. -/
theorem records_background :
    Background fun s t : Scene (Watch ω σ) (Watched σ) =>
      t.host.world.opened = s.host.world.opened ∧ t.host.world.closed = s.host.world.closed where
  refl _ := ⟨rfl, rfl⟩
  trans h h' := ⟨h'.1.trans h.1, h'.2.trans h.2⟩
  note _ _ _ := ⟨rfl, rfl⟩
  drawIdentification _ := ⟨rfl, rfl⟩
  send s packet receiver :=
    s.tunnel.profile.send_isBlind packet receiver s.tunnel.channel s.host
  setLastProbe _ _ := ⟨rfl, rfl⟩
  transmitProbe _ _ := ⟨rfl, rfl⟩

/-- To act on a packet closes no stream but those of its flow. -/
theorem Scene.dispatch_closes (packet : Ipv4.Packet) (sender : Endpoint) (now : Nat)
    (s : Scene (Watch ω σ) (Watched σ)) :
    ClosesOnly (fun w => ∃ key, packet.flow? = some key ∧ OfFlow key s w) s
      (s.dispatch packet sender now) := by
  have hends := s.dispatch_ends packet sender now
  generalize s.dispatch packet sender now = t at hends ⊢
  cases hends with
  | control => exact .none (records_background.handleControl packet sender s).2
  | noted => exact .none rfl
  | continued htcp hkey hvalid hconn =>
    obtain ⟨more, hclosed, hmore⟩ := continueFlow_closes hconn packet sender now
    have hflow := Ipv4.Packet.flow?_eq_some.2 ⟨htcp, hkey, hvalid⟩
    exact ⟨more, hclosed, fun w hw => ⟨_, hflow, hmore w hw⟩⟩
  | started => exact .none (closed_startFlow _ packet sender now s)

end

/-! ## Packets that are passed over -/

/-- A packet is nothing to the flows of a tunnel. -/
inductive Stray (packet : Ipv4.Packet) (sender : Endpoint) (s : Scene ω σ) : Prop where
  /-- It carries something else than a segment. -/
  | foreign (hprotocol : packet.protocol ≠ Protocol.tcp)
  /-- Its segment cannot be read. -/
  | unreadable (hread : Flow.Key.ofPacket? packet = none)
  /-- Its key names no flow. -/
  | invalid {key : Flow.Key} (hkey : Flow.Key.ofPacket? packet = some key)
      (hinvalid : key.isValid = false)
  /-- It came through another gateway than the flow under its key. -/
  | crossed {key : Flow.Key} {conn : Tcp.Connection σ}
      (hkey : Flow.Key.ofPacket? packet = some key) (hconn : s.live? key = some conn)
      (hgateway : conn.gateway.address ≠ sender.address)

/-- A stray packet that is no control message is logged, and nothing else. -/
theorem Stray.noted [Platform ω σ] {packet : Ipv4.Packet} {sender : Endpoint} {s : Scene ω σ}
    (hstray : Stray packet sender s) (hother : packet.protocol ≠ Protocol.icmp) (now : Nat) :
    ∃ notice, s.dispatch packet sender now = s.note notice := by
  unfold Scene.dispatch
  rw [if_neg hother]
  split
  · next htcp =>
    unfold Scene.handleSegment
    cases hstray with
    | foreign hprotocol => exact absurd htcp hprotocol
    | unreadable hread =>
      rw [hread]
      exact ⟨_, rfl⟩
    | invalid hkey hinvalid =>
      simp only [hkey, hinvalid]
      exact ⟨_, rfl⟩
    | crossed hkey hconn hgateway =>
      simp only [hkey, hconn, Scene.continueFlow, if_pos hgateway]
      split <;> exact ⟨_, rfl⟩
  · split
    · exact ⟨_, rfl⟩
    · split <;> exact ⟨_, rfl⟩

/-- From `s` to `t` a packet was answered as an echo request. -/
def Answered (packet : Ipv4.Packet) (sender : Endpoint)
    (s t : Scene (Watch (Wire ω) σ) (Watched σ)) : Prop :=
  ∃ echo data identification reply channel datagram,
    Icmp.Message.ofBytes packet.payload = .ok (.echoRequest echo data) ∧
    Icmp.echoReply packet echo data identification = .ok reply ∧
    reply.protocol = Protocol.icmp ∧
    (s.tunnel.profile.wrap reply channel).1 = .ok datagram ∧
    t.host.world.world.sent = s.host.world.world.sent ++ [(datagram, sender)]

/-- From `s` to `t` a packet was acted on and did nothing to any flow. -/
structure PassedOver (packet : Ipv4.Packet) (sender : Endpoint)
    (s t : Scene (Watch (Wire ω) σ) (Watched σ)) : Prop where
  sessions : t.tunnel.sessions = s.tunnel.sessions
  opened : t.host.world.opened = s.host.world.opened
  closed : t.host.world.closed = s.host.world.closed
  /-- All that may be sent is the answer to an echo request. -/
  sent : t.host.world.world.sent = s.host.world.world.sent ∨
    packet.protocol = Protocol.icmp ∧ Answered packet sender s t

section

variable [Platform ω σ] {s : Scene (Watch (Wire ω) σ) (Watched σ)}

/-- To send a packet gives the transport one datagram at most, and the packet is in it. -/
theorem sent_send (packet : Ipv4.Packet) (receiver : Endpoint)
    (s : Scene (Watch (Wire ω) σ) (Watched σ)) :
    (s.send packet receiver).2.host.world.world.sent = s.host.world.world.sent ∨
      ∃ datagram, (s.tunnel.profile.wrap packet s.tunnel.channel).1 = .ok datagram ∧
        (s.send packet receiver).2.host.world.world.sent =
          s.host.world.world.sent ++ [(datagram, receiver)] := by
  have hends := s.tunnel.profile.send_ends packet receiver s.tunnel.channel s.host
  unfold Scene.send
  generalize s.tunnel.profile.send packet receiver s.tunnel.channel s.host = x at hends ⊢
  cases hends with
  | unwrapped => exact .inl rfl
  | transmitted hwrap => exact .inr ⟨_, congrArg Prod.fst hwrap, rfl⟩
  | dropped => exact .inl rfl

/-- For a control message nothing is sent but an answer to an echo request. -/
theorem sent_handleControl (packet : Ipv4.Packet) (sender : Endpoint)
    (s : Scene (Watch (Wire ω) σ) (Watched σ)) :
    (s.handleControl packet sender).host.world.world.sent = s.host.world.world.sent ∨
      Answered packet sender s (s.handleControl packet sender) := by
  unfold Scene.handleControl
  split
  · exact .inl rfl
  · next echo data hrequest =>
    let asked := ((s.note (.echoRequested packet.source sender)).drawIdentification).2
    simp only
    split
    · exact .inl rfl
    · next reply hreply =>
      have hsent := sent_send reply sender asked
      have hanswered : ∀ {t : Scene (Watch (Wire ω) σ) (Watched σ)},
          t.host.world.world.sent = (asked.send reply sender).2.host.world.world.sent →
          t.host.world.world.sent = s.host.world.world.sent ∨ Answered packet sender s t := by
        intro t ht
        refine hsent.imp ht.trans fun ⟨datagram, hwrap, h⟩ => ?_
        exact ⟨echo, data, _, reply, asked.tunnel.channel, datagram, hrequest, hreply,
          Icmp.protocol_echoReply hreply, hwrap, ht.trans h⟩
      split
      all_goals
        next h => exact hanswered (congrArg (·.2.host.world.world.sent) h).symm
  · exact .inl rfl
  · exact .inl rfl

/-- A stray packet is passed over. -/
theorem Stray.passedOver {packet : Ipv4.Packet} {sender : Endpoint} (hstray : Stray packet sender s)
    (now : Nat) : PassedOver packet sender s (s.dispatch packet sender now) := by
  by_cases hcontrol : packet.protocol = Protocol.icmp
  · have hdispatch : s.dispatch packet sender now = s.handleControl packet sender := by
      unfold Scene.dispatch
      rw [if_pos hcontrol]
    rw [hdispatch]
    have hrecords := records_background.handleControl packet sender s
    exact ⟨sessions_background.handleControl packet sender s, hrecords.1, hrecords.2,
      (sent_handleControl packet sender s).imp_right fun h => ⟨hcontrol, h⟩⟩
  · obtain ⟨notice, hnoted⟩ := hstray.noted hcontrol now
    rw [hnoted]
    exact ⟨rfl, rfl, rfl, .inl rfl⟩

/-- From `s` to `t` a packet was acted on, and had to do with no flow but its own. -/
structure Isolated (packet : Ipv4.Packet) (sender : Endpoint)
    (s t : Scene (Watch (Wire ω) σ) (Watched σ)) : Prop where
  /-- The connections of other flows are as they were, with the streams that they hold. -/
  live : ∀ key, packet.flow? ≠ some key → t.live? key = s.live? key
  parked : ∀ key, packet.flow? ≠ some key → t.parked? key = s.parked? key
  /-- No stream is closed but those of its flow. -/
  closes : ClosesOnly (fun w => ∃ key, packet.flow? = some key ∧ OfFlow key s w) s t
  /-- A packet that is nothing to the flows changes none. -/
  stray : Stray packet sender s → PassedOver packet sender s t

/-- **The flows of a tunnel are isolated.** To act on a packet takes part in no flow but that of the
packet, and in none if the packet is stray. -/
theorem dispatch_isolated (packet : Ipv4.Packet) (sender : Endpoint) (now : Nat)
    (s : Scene (Watch (Wire ω) σ) (Watched σ)) :
    Isolated packet sender s (s.dispatch packet sender now) where
  live _ hkey := (Scene.dispatch_spares hkey sender now s).1
  parked _ hkey := (Scene.dispatch_spares hkey sender now s).2
  closes := s.dispatch_closes packet sender now
  stray hstray := hstray.passedOver now

end

end Tunnel

end Ipsec
