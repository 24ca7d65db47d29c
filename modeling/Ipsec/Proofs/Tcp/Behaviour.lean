import Ipsec.Proofs.Tcp.Outcomes

/-!
# Connections that fit their key

A connection under a key belongs to the flow that the key names, and holds a stream exactly if it
is established (`Connection.Fits`). A step of such a connection leaves one that fits too or fails,
and never fails for a reason that would show a fault in the bookkeeping of flows: `accept_behaves`,
`start_behaves` and `pump_behaves` say so for the three steps that a tunnel runs. On the way nothing
is logged but harmless notices (`Host.Quiet`).
-/

namespace Ipsec

open LocalStream (Used)

variable {κ ω σ : Type}

/-! ## Quiet changes of a host -/

/-- The host logged nothing but harmless notices; its world may have changed. -/
def Host.Quiet (h h' : Host ω) : Prop :=
  ∃ notices, h'.log = h.log ++ notices ∧ ∀ n ∈ notices, n.showsViolation = false

namespace Host.Quiet

variable {h h' h'' : Host ω}

theorem of_log_eq (hlog : h'.log = h.log) : h.Quiet h' := ⟨[], by simpa using hlog, nofun⟩

theorem refl (h : Host ω) : h.Quiet h := of_log_eq rfl

theorem trans (h₁ : h.Quiet h') (h₂ : h'.Quiet h'') : h.Quiet h'' := by
  obtain ⟨notices, hlog, hn⟩ := h₁
  obtain ⟨more, hlog', hm⟩ := h₂
  refine ⟨notices ++ more, by rw [hlog', hlog, List.append_assoc], fun n hmem => ?_⟩
  exact (List.mem_append.1 hmem).elim (hn n) (hm n)

theorem of_routine (h₁ : h.Routine h') : h.Quiet h' := by
  obtain ⟨notices, rfl, hn⟩ := h₁.noted
  exact ⟨notices, rfl, hn⟩

/-- What was logged before is still there. -/
theorem logged (h₁ : h.Quiet h') : h.log <+: h'.log := by
  obtain ⟨notices, hlog, _⟩ := h₁
  exact ⟨notices, hlog.symm⟩

theorem note {notice : Notice} (hn : notice.showsViolation = false) : h.Quiet (h.note notice) :=
  ⟨[notice], rfl, by simpa using hn⟩

variable [Platform ω σ]

theorem transmit (data : Bytes) (receiver : Endpoint) (h : Host ω) :
    h.Quiet (h.transmit data receiver).2 := of_log_eq rfl

theorem connect {near : Ipv4Endpoint} {r : Except IoFault σ} (hconnect : h.connect near = (r, h')) :
    h.Quiet h' := of_log_eq (congrArg (·.2.log) hconnect).symm

theorem close {stream : σ} {r : Except IoFault Unit} (hclose : h.close stream = (r, h')) :
    h.Quiet h' := of_log_eq (congrArg (·.2.log) hclose).symm

theorem closeConnection {c c' : Tcp.Connection σ} {r : Except IoFault Unit}
    (hclose : c.close h = (r, c', h')) : h.Quiet h' := by
  unfold Tcp.Connection.close at hclose
  split at hclose
  · cases hclose
    exact refl h
  · next stream _ =>
    cases hclose
    exact close rfl

end Host.Quiet

/-! ## Steps of connections -/

namespace Tcp

/-- From `s` to `t` the flow and the state of a connection stay, and whether it holds a stream. -/
structure Steady (s t : Scene κ ω σ) : Prop where
  key : t.conn.key = s.conn.key
  state : t.conn.state = s.conn.state
  near : t.conn.near = s.conn.near
  remote : t.conn.remote = s.conn.remote
  stream : t.conn.stream.isSome = s.conn.stream.isSome
  quiet : s.host.Quiet t.host

namespace Steady

variable {s t u : Scene κ ω σ}

theorem refl (s : Scene κ ω σ) : Steady s s := ⟨rfl, rfl, rfl, rfl, rfl, .refl _⟩

theorem trans (h : Steady s t) (h' : Steady t u) : Steady s u :=
  ⟨h'.key.trans h.key, h'.state.trans h.state, h'.near.trans h.near, h'.remote.trans h.remote,
    h'.stream.trans h.stream, h.quiet.trans h'.quiet⟩

end Steady

/-- A link that logs nothing but harmless notices. -/
def IsQuietLink (link : Link κ ω) : Prop :=
  ∀ packet receiver carrier (host : Host ω), host.Quiet (link packet receiver carrier host).2.2

namespace Connection

/-- What a connection under a key looks like between operations. -/
structure Fits (key : Flow.Key) (c : Connection σ) : Prop where
  /-- It is stored under its own key. -/
  key_eq : c.key = key
  /-- The key can name a flow. -/
  valid : key.isValid
  /-- The flow comes from the key's address. -/
  source : c.remote.address = key.source
  /-- The flow goes to the key's port. -/
  port : c.near.port = key.port
  /-- It holds a stream exactly if it is established. -/
  stream : c.stream.isSome ↔ c.state = .established

/-- The connection is in one of the states that live connections have between operations. -/
def IsOpen (c : Connection σ) : Prop := c.state = .synReceived ∨ c.state = .established

variable {link : Link κ ω}

theorem steady_relayed [LocalStream σ] (hlink : IsQuietLink link) :
    Relayed (σ := σ) link Steady where
  refl := .refl
  trans := .trans
  reply flags data s := by
    refine ends_reply (fun _ _ _ => ⟨rfl, rfl, rfl, rfl, rfl, .refl _⟩) fun packet _ random => ?_
    refine ends_handOver fun _ _ host h => ⟨rfl, rfl, rfl, rfl, rfl, ?_⟩
    have hquiet := hlink packet s.conn.gateway s.carrier s.host
    rwa [congrArg (·.2.2) h] at hquiet
  shrink _ := ⟨rfl, rfl, rfl, rfl, rfl, .refl _⟩
  used s u v hu _ := ⟨rfl, rfl, rfl, rfl, by simp [hu], .refl _⟩

/-- A step of a connection under a key logs nothing but harmless notices, leaves an open connection
that fits the key if the connection is to go on, and shows no fault in the bookkeeping of flows. -/
structure Behaves (key : Flow.Key) (s : Scene κ ω σ) (r : Except TcpError Disposition)
    (t : Scene κ ω σ) : Prop where
  quiet : s.host.Quiet t.host
  fits : r = .ok .proceed → t.conn.Fits key ∧ t.conn.IsOpen
  sound : ∀ e, r = .error e → e.isInvariantViolation = false

variable {key : Flow.Key} {packet : Ipv4.Packet} {s t : Scene κ ω σ}
  {r : Except TcpError Disposition}

theorem Fits.of_steady (h : s.conn.Fits key) (hsteady : Steady s t) : t.conn.Fits key where
  key_eq := hsteady.key.trans h.key_eq
  valid := h.valid
  source := by rw [hsteady.remote, h.source]
  port := by rw [hsteady.near, h.port]
  stream := by rw [hsteady.stream, hsteady.state, h.stream]

theorem IsOpen.of_steady (h : s.conn.IsOpen) (hsteady : Steady s t) : t.conn.IsOpen := by
  unfold IsOpen
  rwa [hsteady.state]

theorem state_of_close [Platform ω σ] {c c' : Connection σ} {host host' : Host ω}
    {result : Except IoFault Unit} (hclose : c.close host = (result, c', host')) :
    c'.state = .closed := by
  rw [conn_of_close hclose]

/-- A connection that is closed still fits its key. -/
theorem Fits.close [Platform ω σ] {c c' : Connection σ} {host host' : Host ω}
    {result : Except IoFault Unit} (h : c.Fits key)
    (hclose : c.close host = (result, c', host')) : c'.Fits key := by
  rw [conn_of_close hclose]
  exact ⟨h.key_eq, h.valid, h.source, h.port, by simp⟩

theorem Completed.behaves [Platform ω σ] {segment : Segment} (h : Completed segment s r t)
    (hfits : s.conn.Fits key) : Behaves key s r t := by
  cases h with
  | refused => exact ⟨.refl _, nofun, fun _ h => by cases h; rfl⟩
  | unopened _ hnoted _ hconnect =>
    exact ⟨(Host.Quiet.of_routine hnoted).trans (.connect hconnect), nofun,
      fun _ h => by cases h; rfl⟩
  | resumed _ hnoted hsome =>
    refine ⟨.of_routine hnoted, fun _ => ⟨⟨hfits.key_eq, hfits.valid, hfits.source, hfits.port, ?_⟩,
      .inr rfl⟩, nofun⟩
    simp [hsome]
  | opened _ hnoted _ hconnect hnoted' =>
    refine ⟨((Host.Quiet.of_routine hnoted).trans (.connect hconnect)).trans (.of_routine hnoted'),
      fun _ => ⟨⟨hfits.key_eq, hfits.valid, hfits.source, hfits.port, ?_⟩, .inr rfl⟩, nofun⟩
    simp

theorem Taken.behaves {segment : Segment} (h : Taken Steady segment s r t)
    (hfits : s.conn.Fits key) (hstate : s.conn.state = .established) : Behaves key s r t := by
  cases h with
  | ignored hnoted => exact ⟨.of_routine hnoted, fun _ => ⟨hfits, .inr hstate⟩, nofun⟩
  | reset hnoted => exact ⟨.of_routine hnoted, nofun, nofun⟩
  | empty =>
    exact ⟨.refl _, fun _ => ⟨⟨hfits.key_eq, hfits.valid, hfits.source, hfits.port, hfits.stream⟩,
      .inr hstate⟩, nofun⟩
  | counted _ hnoted hR _ herror =>
    have hfits' : t.conn.Fits key := by
      refine Fits.of_steady ?_ hR
      exact ⟨hfits.key_eq, hfits.valid, hfits.source, hfits.port, hfits.stream⟩
    refine ⟨(Host.Quiet.of_routine hnoted).trans hR.quiet,
      fun _ => ⟨hfits', .inr (hR.state.trans hstate)⟩, fun e he => ?_⟩
    rcases herror e he with hworld | ⟨rfl, hnone⟩
    · exact hworld.not_violation
    · have hsome := hfits.stream.2 hstate
      rw [hnone] at hsome
      cases hsome

/-- An open connection that fits its key accepts packets as it should. -/
theorem accept_behaves [Platform ω σ] (hlink : IsQuietLink link) (packet : Ipv4.Packet) (now : Nat)
    (hfits : s.conn.Fits key) (hopen : s.conn.IsOpen) :
    Ends (accept link packet now) s (Behaves key s) := by
  refine (accept_ends (steady_relayed hlink) packet now s).mono fun r t h => ?_
  have hfits' : { s.conn with lastContact := now }.Fits key :=
    ⟨hfits.key_eq, hfits.valid, hfits.source, hfits.port, hfits.stream⟩
  cases h with
  | unreadable => exact ⟨.note rfl, nofun, fun _ h => by cases h; rfl⟩
  | closed hstate => exact absurd hstate (by rcases hopen with h | h <;> simp [h])
  | listening _ hstate => exact absurd hstate (by rcases hopen with h | h <;> simp [h])
  | answered _ _ h =>
    obtain ⟨hquiet, hgo, hsound⟩ := h.behaves hfits'
    exact ⟨hquiet, hgo, hsound⟩
  | established _ hstate h =>
    obtain ⟨hquiet, hgo, hsound⟩ := h.behaves hfits' hstate
    exact ⟨hquiet, hgo, hsound⟩
  | ending _ hstate => exact absurd hstate (by rcases hopen with h | h <;> simp [h])

theorem Opened.behaves [LocalStream σ] {segment : Segment} (h : Opened link packet segment s r t)
    (hlink : IsQuietLink link) (hkey : key = ⟨packet.source, segment.destinationPort⟩)
    (hvalid : key.isValid) (hown : s.conn.key = key) (hnone : s.conn.stream = none) :
    Behaves key s r t ∧ r ≠ .ok .endSession := by
  cases h with
  | refused => exact ⟨⟨.refl _, nofun, fun _ h => by cases h; rfl⟩, nofun⟩
  | unanswered _ hreply =>
    have hsteady := ((steady_relayed (σ := σ) hlink).reply _ _ _).of_error hreply
    have hworld := (reply_fromWorld link _ _ _).of_error hreply
    exact ⟨⟨hsteady.quiet, nofun, fun _ h => by cases h; exact (hworld _ rfl).not_violation⟩,
      nofun⟩
  | answered _ hreply =>
    have hsteady := ((steady_relayed (σ := σ) hlink).reply _ _ _).of_ok hreply
    refine ⟨⟨hsteady.quiet, fun _ => ⟨⟨?_, hvalid, ?_, ?_, ?_⟩, .inl rfl⟩, nofun⟩, nofun⟩
    · exact hsteady.key.trans hown
    · rw [hkey]
      exact congrArg Ipv4Endpoint.address hsteady.remote
    · rw [hkey]
      exact congrArg Ipv4Endpoint.port hsteady.near
    · have hstream := hsteady.stream
      simp only [facing, hnone, Option.isSome_none] at hstream
      simp [hstream]

theorem Handled.starts [Platform ω σ] (h : Handled link Steady packet s r t)
    (hlink : IsQuietLink link) (hkey : Flow.Key.ofPacket? packet = some key) (hvalid : key.isValid)
    (hlisten : s.conn.state = .listen) (hown : s.conn.key = key) (hnone : s.conn.stream = none) :
    Behaves key s r t ∧ r ≠ .ok .endSession := by
  cases h with
  | unreadable => exact ⟨⟨.note rfl, nofun, fun _ h => by cases h; rfl⟩, nofun⟩
  | closed hstate => exact absurd hstate (by simp [hlisten])
  | listening hread _ h =>
    simp only [Flow.Key.ofPacket?, hread, Option.map_some, Option.some.injEq] at hkey
    exact h.behaves hlink hkey.symm hvalid hown hnone
  | answered _ hstate => exact absurd hstate (by simp [hlisten])
  | established _ hstate => exact absurd hstate (by simp [hlisten])
  | ending _ hstate => exact absurd hstate (by simp [hlisten])

/-- A fresh connection starts as it should, and never asks for its end at once. -/
theorem start_behaves [Platform ω σ] (hlink : IsQuietLink link) (now : Nat)
    (hkey : Flow.Key.ofPacket? packet = some key) (hvalid : key.isValid)
    (hclosed : s.conn.state = .closed) (hown : s.conn.key = key) (hnone : s.conn.stream = none) :
    Ends (start link packet now) s fun r t => Behaves key s r t ∧ r ≠ .ok .endSession := by
  refine (start_ends (steady_relayed hlink) packet now hclosed).mono fun r t h => ?_
  cases h with
  | handled _ h =>
    obtain ⟨⟨hquiet, hfits, hsound⟩, hgo⟩ := h.starts hlink hkey hvalid rfl hown hnone
    refine ⟨⟨hquiet, fun hr => ?_, nofun⟩, hgo⟩
    obtain ⟨hfits, hopen⟩ := hfits hr
    exact ⟨⟨hfits.key_eq, hfits.valid, hfits.source, hfits.port, hfits.stream⟩, hopen⟩
  | aborted _ h hclose hnoted =>
    obtain ⟨⟨hquiet, _, hsound⟩, _⟩ := h.starts hlink hkey hvalid rfl hown hnone
    exact ⟨⟨(hquiet.trans (.closeConnection hclose)).trans (.of_routine hnoted), nofun, hsound⟩,
      nofun⟩

/-- Pumping keeps a connection as it is, as far as its flow and its state go. -/
theorem pump_behaves [LocalStream σ] (hlink : IsQuietLink link) (s : Scene κ ω σ) :
    Ends (pump link) s fun r t => Steady s t ∧ ∀ e, r = .error e → e.isInvariantViolation = false :=
  (pump_ends (steady_relayed hlink) s).mono fun _ _ h => ⟨h.1, fun e he => (h.2 e he).not_violation⟩

end Connection

end Tcp

end Ipsec
