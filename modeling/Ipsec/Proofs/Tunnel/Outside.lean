import Ipsec.Proofs.Tunnel.Outcomes

/-!
# What operations do outside the flows

A connection reaches the world through its link and through its host, and a tunnel through its
channel and its host. A preorder on these two that single calls stay in (`Tcp.Outward`,
`Tunnel.Outward`) holds between what they are before and after every step of a connection, and
every operation of a tunnel that neither wraps a packet for its caller nor takes a datagram apart
(`Tunnel.Outward.operated`). To act on a packet it need not allow for probes
(`Tunnel.Uttering.acting`). To end a flow takes the host alone, and less of it (`Host.Ending`).
-/

namespace Ipsec

variable {κ ω σ : Type}

/-! ## Ending connections -/

/-- A preorder on hosts that logging notices and closing streams stay in. No notice is logged that
tells of a packet which was not sent. -/
structure Host.Ending [Platform ω σ] (K : Host ω → Host ω → Prop) : Prop where
  refl : ∀ h, K h h
  trans : ∀ {h h' h''}, K h h' → K h' h'' → K h h''
  note : ∀ h notice, notice.isUnsent = false → K h (h.note notice)
  close : ∀ h stream, K h (h.close stream).2

section

variable [Platform ω σ] {K : Host ω → Host ω → Prop}

theorem Host.Ending.closed (hK : Host.Ending K) {h h' : Host ω} {c c' : Tcp.Connection σ}
    {result : Except IoFault Unit} (hclose : c.close h = (result, c', h')) : K h h' := by
  unfold Tcp.Connection.close at hclose
  split at hclose
  · cases hclose
    exact hK.refl h
  · next stream _ =>
    cases hclose
    exact hK.close h stream

namespace Tunnel

theorem Scene.noteFailure_host (hK : Host.Ending K) (key : Flow.Key) (e : TcpError)
    (s : Scene ω σ) : K s.host (s.noteFailure key e).host := by
  unfold noteFailure
  split
  · exact hK.note _ _ rfl
  · split
    · exact hK.refl _
    · exact hK.note _ _ rfl

theorem Scene.closeRemoved_host (hK : Host.Ending K) (key : Flow.Key)
    (conn : Option (Tcp.Connection σ)) (s : Scene ω σ) :
    K s.host (s.closeRemoved key conn).host := by
  unfold closeRemoved
  split
  · exact hK.refl _
  · split
    · next hclose => exact hK.closed hclose
    · next hclose => exact hK.trans (hK.closed hclose) (hK.note _ _ rfl)

theorem Scene.terminate_host (hK : Host.Ending K) (key : Flow.Key) (s : Scene ω σ) :
    K s.host (s.terminate key).host := by
  unfold terminate
  rcases s.tunnel.sessions.remove key with ⟨⟨live, parked⟩, sessions⟩
  have hlive := closeRemoved_host hK key live (s.setSessions sessions)
  exact hK.trans hlive (closeRemoved_host hK key parked _)

theorem Scene.release_host (hK : Host.Ending K) (key : Flow.Key) (s : Scene ω σ) :
    K s.host (s.release key).host := by
  unfold release
  rcases s.tunnel.sessions.park key with ⟨moved, sessions⟩
  cases moved with
  | false => exact hK.refl _
  | true =>
    simp only [if_true]
    split
    · exact hK.refl _
    · exact hK.closed rfl

end Tunnel

end

/-! ## Connections -/

namespace Tcp

/-- The part of a scene that is not the connection. -/
def Scene.outside (s : Scene κ ω σ) : κ × Host ω := (s.carrier, s.host)

/-- A preorder on the states of a link and its host that every call stays in. -/
structure Outward [Platform ω σ] (link : Link κ ω) (K : κ × Host ω → κ × Host ω → Prop) :
    Prop where
  refl : ∀ x, K x x
  trans : ∀ {x y z}, K x y → K y z → K x z
  /-- Handing a packet over. -/
  handOver : ∀ packet receiver carrier host,
    K (carrier, host) (link packet receiver carrier host).2
  /-- Logging a notice, but for one that tells of a packet which was not sent. -/
  note : ∀ carrier host notice, notice.isUnsent = false →
    K (carrier, host) (carrier, host.note notice)
  /-- Opening a stream. -/
  connect : ∀ carrier host near, K (carrier, host) (carrier, (host.connect near).2)
  /-- Closing a stream. -/
  close : ∀ carrier host stream, K (carrier, host) (carrier, (host.close stream).2)

section

variable [Platform ω σ] {link : Link κ ω} {K : κ × Host ω → κ × Host ω → Prop}
  {s t : Scene κ ω σ} {packet : Ipv4.Packet} {r : Except TcpError Disposition}

namespace Outward

/-- What stays of the preorder when the carrier does. -/
theorem ending (hK : Outward link K) (carrier : κ) :
    Host.Ending fun h h' => K (carrier, h) (carrier, h') where
  refl _ := hK.refl _
  trans := hK.trans
  note h notice hn := hK.note carrier h notice hn
  close h stream := hK.close carrier h stream

theorem noted (hK : Outward link K) (carrier : κ) {host host' : Host ω} (h : host.Routine host') :
    K (carrier, host) (carrier, host') := by
  obtain ⟨notices, rfl, hn⟩ := h
  induction notices generalizing host with
  | nil => simpa [Host.noteAll] using hK.refl (carrier, host)
  | cons n rest ih =>
    have hfirst := hK.note carrier host n (Notice.isUnsent_of_isRoutine (hn n List.mem_cons_self))
    have hrest := hK.trans hfirst (ih fun m hm => hn m (List.mem_cons_of_mem n hm))
    simpa [Host.note, Host.noteAll] using hrest

theorem connected (hK : Outward link K) (carrier : κ) {host host' : Host ω}
    {near : Ipv4Endpoint} {result : Except IoFault σ} (h : host.connect near = (result, host')) :
    K (carrier, host) (carrier, host') := by
  have hconnect := hK.connect carrier host near
  rwa [h] at hconnect

theorem closed (hK : Outward link K) (carrier : κ) {host host' : Host ω} {c c' : Connection σ}
    {result : Except IoFault Unit} (h : c.close host = (result, c', host')) :
    K (carrier, host) (carrier, host') :=
  (hK.ending carrier).closed h

theorem relayed (hK : Outward link K) :
    Connection.Relayed (σ := σ) link fun s t => K s.outside t.outside where
  refl s := hK.refl s.outside
  trans := hK.trans
  reply flags data s := by
    refine Connection.ends_reply (fun _ _ _ => hK.refl _) fun packet _ _ => ?_
    refine Connection.ends_handOver fun _ _ _ h => ?_
    have hmove := hK.handOver packet s.conn.gateway s.carrier s.host
    rwa [h] at hmove
  shrink _ := hK.refl _
  used _ _ _ _ _ := hK.refl _

end Outward

namespace Connection

theorem pump_outside (hK : Outward link K) (s : Scene κ ω σ) :
    Ends (pump link) s fun _ t => K s.outside t.outside :=
  (pump_ends hK.relayed s).mono fun _ _ h => h.1

theorem Completed.outside {segment : Segment} (h : Completed segment s r t)
    (hK : Outward link K) : K s.outside t.outside := by
  cases h with
  | refused => exact hK.refl _
  | unopened _ hnoted _ hconnect =>
    exact hK.trans (hK.noted s.carrier hnoted) (hK.connected s.carrier hconnect)
  | resumed _ hnoted => exact hK.noted s.carrier hnoted
  | opened _ hnoted _ hconnect hnoted' =>
    exact hK.trans (hK.trans (hK.noted s.carrier hnoted) (hK.connected s.carrier hconnect))
      (hK.noted s.carrier hnoted')

theorem Handled.outside
    (h : Handled link (fun s t => K s.outside t.outside) packet s r t) (hK : Outward link K) :
    K s.outside t.outside := by
  cases h with
  | unreadable => exact hK.note _ _ _ rfl
  | closed => exact hK.refl _
  | listening _ _ h =>
    cases h with
    | refused => exact hK.refl _
    | unanswered _ hreply =>
      have hstay := (hK.relayed.reply _ _ _).of_error hreply
      exact hstay
    | answered _ hreply =>
      have hstay := (hK.relayed.reply _ _ _).of_ok hreply
      exact hstay
  | answered _ _ h => exact h.outside hK
  | established _ _ h =>
    cases h with
    | ignored hnoted => exact hK.noted s.carrier hnoted
    | reset hnoted => exact hK.noted s.carrier hnoted
    | empty => exact hK.refl _
    | counted _ hnoted hR => exact hK.trans (hK.noted s.carrier hnoted) hR
  | ending => exact hK.note _ _ _ rfl

theorem accept_outside (hK : Outward link K) (packet : Ipv4.Packet) (now : Nat)
    (s : Scene κ ω σ) : Ends (accept link packet now) s fun _ t => K s.outside t.outside :=
  (accept_ends hK.relayed packet now s).mono fun _ _ h => h.outside hK

theorem start_outside (hK : Outward link K) (packet : Ipv4.Packet) (now : Nat)
    (hclosed : s.conn.state = .closed) :
    Ends (start link packet now) s fun _ t => K s.outside t.outside := by
  refine (start_ends hK.relayed packet now hclosed).mono fun r t h => ?_
  cases h with
  | handled _ h => exact h.outside hK
  | aborted _ h hclose hnoted =>
    exact hK.trans (hK.trans (h.outside hK) (hK.closed _ hclose)) (hK.noted _ hnoted)

end Connection

end

end Tcp

/-! ## Tunnels -/

namespace Tunnel

open Tcp.Connection (accept_outside start_outside pump_outside)

/-- The part of a scene that a tunnel reaches the world through. -/
def Scene.outside (s : Scene ω σ) : Esp.Channel × Host ω := (s.tunnel.channel, s.host)

/-- A preorder on channels and hosts, for every profile, that a tunnel stays in while it acts on a
packet. -/
structure Uttering [Platform ω σ]
    (K : Profile → Esp.Channel × Host ω → Esp.Channel × Host ω → Prop) : Prop where
  /-- What its connections do. -/
  link : ∀ p : Profile, Tcp.Outward (σ := σ) p.send (K p)
  /-- Drawing a random value. -/
  draw : ∀ p channel host, K p (channel, host) (channel.draw.2, host)

/-- A preorder on channels and hosts, for every profile, that every call of a tunnel stays in. -/
structure Outward [Platform ω σ]
    (K : Profile → Esp.Channel × Host ω → Esp.Channel × Host ω → Prop) : Prop
    extends Uttering K where
  /-- Sending a probe. -/
  probe : ∀ p channel host receiver,
    K p (channel, host) (channel, (host.transmit Scene.keepAliveProbe receiver).2)

/-- From `s` to `t` the profile stays, and the outside goes on within a preorder. -/
structure Leads (K : Profile → Esp.Channel × Host ω → Esp.Channel × Host ω → Prop)
    (s t : Scene ω σ) : Prop where
  profile : t.tunnel.profile = s.tunnel.profile
  outside : K s.tunnel.profile s.outside t.outside

namespace Uttering

variable [Platform ω σ] {K : Profile → Esp.Channel × Host ω → Esp.Channel × Host ω → Prop}
  {s t : Scene ω σ} {key : Flow.Key}

theorem still (hK : Uttering (σ := σ) K) (hprofile : t.tunnel.profile = s.tunnel.profile)
    (houtside : t.outside = s.outside) : Leads K s t :=
  ⟨hprofile, houtside ▸ (hK.link _).refl _⟩

theorem terminated (hK : Uttering (σ := σ) K) (h : Leads K s t) (key : Flow.Key) :
    Leads K s (t.terminate key) := by
  have hlink := hK.link s.tunnel.profile
  refine ⟨by rw [Scene.terminate_profile, h.profile], hlink.trans h.outside ?_⟩
  rw [Scene.outside, Scene.outside, Scene.terminate_channel]
  exact Scene.terminate_host (hlink.ending t.tunnel.channel) key t

theorem released (hK : Uttering (σ := σ) K) (key : Flow.Key) (s : Scene ω σ) :
    Leads K s (s.release key) := by
  refine ⟨Scene.release_profile s key, ?_⟩
  rw [Scene.outside, Scene.outside, Scene.release_channel]
  exact Scene.release_host ((hK.link s.tunnel.profile).ending s.tunnel.channel) key s

theorem failed (hK : Uttering (σ := σ) K) (h : Leads K s t) (key : Flow.Key) (e : TcpError) :
    Leads K s (t.noteFailure key e) := by
  have hlink := hK.link s.tunnel.profile
  refine ⟨by rw [Scene.noteFailure_tunnel, h.profile], hlink.trans h.outside ?_⟩
  rw [Scene.outside, Scene.outside, Scene.noteFailure_tunnel]
  exact Scene.noteFailure_host (hlink.ending t.tunnel.channel) key e t

theorem visitLive (hK : Uttering (σ := σ) K) (now : Nat) (key : Flow.Key) (s : Scene ω σ) :
    Leads K s (s.visitLive now key).2 := by
  have h := Scene.visitLive_ends (s := s) key now fun conn _ =>
    pump_outside (hK.link s.tunnel.profile) ⟨conn, s.tunnel.channel, s.host⟩
  generalize (s.visitLive now key).2 = t at h ⊢
  cases h with
  | absent => exact hK.still rfl rfl
  | finished => exact hK.terminated (hK.still rfl rfl) key
  | pumped _ hQ => exact ⟨rfl, hQ⟩
  | @failed _ e u _ hQ =>
    have hstep : Leads K s ((s.resume u).setLive key u.conn) := ⟨rfl, hQ⟩
    exact hK.terminated (hK.failed hstep key e) key

theorem visitParked (hK : Uttering (σ := σ) K) (key : Flow.Key) (s : Scene ω σ) :
    Leads K s (s.visitParked key) := by
  have hlink := hK.link s.tunnel.profile
  have h := Scene.visitParked_ends (s := s) key fun conn _ =>
    pump_outside hlink ⟨conn, s.tunnel.channel, s.host⟩
  generalize s.visitParked key = t at h ⊢
  cases h with
  | absent => exact hK.still rfl rfl
  | forgotten => exact ⟨rfl, hlink.closed _ rfl⟩
  | pumped _ _ hQ => exact ⟨rfl, hQ⟩
  | failed _ _ hQ hclose =>
    exact ⟨rfl, hlink.trans hQ (hlink.trans (hlink.note _ _ _ rfl) (hlink.closed _ hclose))⟩

theorem continueFlow (hK : Uttering (σ := σ) K) (key : Flow.Key) (conn : Tcp.Connection σ)
    (packet : Ipv4.Packet) (sender : Endpoint) (now : Nat) (s : Scene ω σ) :
    Leads K s (s.continueFlow key conn packet sender now) := by
  have hlink := hK.link s.tunnel.profile
  have h := Scene.continueFlow_ends key sender
    (accept_outside hlink packet now ⟨conn, s.tunnel.channel, s.host⟩)
  generalize s.continueFlow key conn packet sender now = t at h ⊢
  cases h with
  | crossed => exact ⟨rfl, hlink.note _ _ _ rfl⟩
  | proceeded _ hQ => exact ⟨rfl, hQ⟩
  | @ended u _ hQ =>
    have hstep : Leads K s ((s.resume u).setLive key u.conn) := ⟨rfl, hQ⟩
    exact hK.terminated hstep key
  | @failed e u _ hQ =>
    have hstep : Leads K s ((s.resume u).setLive key u.conn) := ⟨rfl, hQ⟩
    exact hK.terminated (hK.failed hstep key e) key

theorem startFlow (hK : Uttering (σ := σ) K) (key : Flow.Key) (packet : Ipv4.Packet)
    (sender : Endpoint) (now : Nat) (s : Scene ω σ) :
    Leads K s (s.startFlow key packet sender now) := by
  have hlink := hK.link s.tunnel.profile
  have h : Scene.Begun
      (fun _ u => K s.tunnel.profile (s.tunnel.channel.draw.2, s.host) u.outside) key s
      (s.startFlow key packet sender now) :=
    Scene.startFlow_ends _ fun _ => start_outside hlink packet now rfl
  have hdraw := hK.draw s.tunnel.profile s.tunnel.channel s.host
  generalize s.startFlow key packet sender now = t at h ⊢
  cases h with
  | opened hQ => exact ⟨rfl, hlink.trans hdraw hQ⟩
  | ended hQ hclose hnoted =>
    refine ⟨rfl, hlink.trans (hlink.trans hdraw hQ) ?_⟩
    exact hlink.trans (hlink.closed _ hclose) (hlink.noted _ hnoted)
  | @refused e u hQ =>
    have hdiscarded : Leads K s { s.resume u with host := u.conn.discard u.host } :=
      ⟨rfl, hlink.trans (hlink.trans hdraw hQ) (hlink.closed u.carrier rfl)⟩
    exact hK.failed hdiscarded key e

/-- To act on a packet keeps the profile, and stays in the preorder. -/
theorem acting (hK : Uttering (σ := σ) K) : Acting (ω := ω) (σ := σ) (Leads K) where
  refl _ := hK.still rfl rfl
  trans h h' := by
    refine ⟨h'.profile.trans h.profile, (hK.link _).trans h.outside ?_⟩
    rw [← h.profile]
    exact h'.outside
  note s notice hn := ⟨rfl, (hK.link _).note _ _ _ (Notice.isUnsent_of_isRoutine hn)⟩
  drawIdentification s := ⟨rfl, hK.draw _ _ _⟩
  send s packet receiver :=
    ⟨rfl, (hK.link s.tunnel.profile).handOver packet receiver s.tunnel.channel s.host⟩
  continueFlow packet sender now _ _ _ := hK.continueFlow _ _ packet sender now _
  startFlow packet sender now _ _ _ := hK.startFlow _ packet sender now _

end Uttering

namespace Outward

variable [Platform ω σ] {K : Profile → Esp.Channel × Host ω → Esp.Channel × Host ω → Prop}

/-- All operations that neither wrap a packet for the caller nor take a datagram apart keep the
profile, and stay in the preorder. -/
theorem operated (hK : Outward (σ := σ) K) : Operated (ω := ω) (σ := σ) (Leads K) :=
  { hK.acting with
    setLastProbe := fun _ _ => hK.still rfl rfl
    transmitProbe := fun s receiver =>
      ⟨rfl, hK.probe s.tunnel.profile s.tunnel.channel s.host receiver⟩
    visitLive := fun s now key => hK.visitLive now key s
    visitParked := fun s key => hK.visitParked key s
    terminate := fun _ key => hK.terminated (hK.still rfl rfl) key
    release := fun s key => hK.released key s }

end Outward

end Tunnel

end Ipsec
