import Ipsec.Proofs.Tcp.Steps

/-!
# What a connection makes of a packet

Each handler of a connection has one inductive type that lists how it can end: `Opened`,
`Completed` and `Taken` for the states that take segments, and `Handled` for all states together.
An outcome names the check that led to it, what it changed, and which errors it can end in.
Whatever is relayed on the way is summed up by a preorder `R` on scenes. Facts about runs of
connections are proved by cases on these types, and do not unfold the handlers.
-/

namespace Ipsec

/-! ## Harmless notices -/

/-- The notice shows a fault in the bookkeeping of flows. -/
def Notice.showsViolation : Notice → Bool
  | .tableFault .. => true
  | .parkedFailed _ e => e.isInvariantViolation
  | _ => false

/-- The notice says that a packet was wrapped, but not sent for lack of a transport. -/
def Notice.isUnsent : Notice → Bool
  | .noTransport _ => true
  | _ => false

/-- The notice shows no fault in the bookkeeping, and tells of no packet that was not sent. -/
def Notice.isRoutine (n : Notice) : Bool := !n.showsViolation && !n.isUnsent

theorem Notice.showsViolation_of_isRoutine {n : Notice} (h : n.isRoutine = true) :
    n.showsViolation = false := by
  simp only [isRoutine, Bool.and_eq_true, Bool.not_eq_true'] at h
  exact h.1

theorem Notice.isUnsent_of_isRoutine {n : Notice} (h : n.isRoutine = true) :
    n.isUnsent = false := by
  simp only [isRoutine, Bool.and_eq_true, Bool.not_eq_true'] at h
  exact h.2

/-- The host after some notices, none of which shows a violation. -/
def Host.Noted {ω : Type} (h h' : Host ω) : Prop :=
  ∃ notices, h' = h.noteAll notices ∧ ∀ n ∈ notices, n.showsViolation = false

/-- The host after some routine notices. -/
def Host.Routine {ω : Type} (h h' : Host ω) : Prop :=
  ∃ notices, h' = h.noteAll notices ∧ ∀ n ∈ notices, n.isRoutine = true

namespace Host.Routine

variable {ω : Type} {h h' h'' : Host ω}

theorem refl (h : Host ω) : h.Routine h := ⟨[], by simp [Host.noteAll], nofun⟩

theorem note (notice : Notice) (hn : notice.isRoutine = true) : h.Routine (h.note notice) :=
  ⟨[notice], rfl, by simpa using hn⟩

theorem trans (h₁ : h.Routine h') (h₂ : h'.Routine h'') : h.Routine h'' := by
  obtain ⟨notices, rfl, hn⟩ := h₁
  obtain ⟨more, rfl, hm⟩ := h₂
  refine ⟨notices ++ more, by simp [Host.noteAll], fun n hmem => ?_⟩
  exact (List.mem_append.1 hmem).elim (hn n) (hm n)

theorem world_eq (h₁ : h.Routine h') : h'.world = h.world := by
  obtain ⟨notices, rfl, _⟩ := h₁
  rfl

/-- One of the outcomes of comparing two numbers. -/
theorem of_mismatch {notice : Notice} (hn : notice.isRoutine = true)
    (h₁ : h' = h ∨ h' = h.note notice) : h.Routine h' := by
  rcases h₁ with rfl | rfl
  · exact refl _
  · exact note notice hn

theorem noted (h₁ : h.Routine h') : h.Noted h' := by
  obtain ⟨notices, rfl, hn⟩ := h₁
  exact ⟨notices, rfl, fun n hmem => Notice.showsViolation_of_isRoutine (hn n hmem)⟩

end Host.Routine

namespace Tcp

variable {κ ω σ : Type}

/-! ## Outcomes -/

/-- The segment counts for a flow from the given port: it comes from there, neither opens nor
resets, and is no empty acknowledgement. -/
def Segment.countsFor (port : UInt16) (segment : Segment) : Bool :=
  segment.sourcePort = port ∧ ¬segment.flags.has Flags.syn ∧ ¬segment.flags.has Flags.rst
    ∧ ¬(segment.flags = Flags.ack ∧ segment.data = [])

namespace Connection

/-- Closing takes the stream, whether or not that could be closed. -/
theorem conn_of_close [Platform ω σ] {c c' : Connection σ} {host host' : Host ω}
    {result : Except IoFault Unit} (hclose : c.close host = (result, c', host')) :
    c' = { c with state := .closed, stream := none } := by
  unfold close at hclose
  split at hclose
  · next hnone =>
    cases hclose
    rw [← hnone]
  · cases hclose
    rfl

/-- To close a connection without a stream does nothing to the host. -/
theorem close_of_none [Platform ω σ] {c : Connection σ} (hnone : c.stream = none)
    (host : Host ω) : c.close host = (.ok (), { c with state := .closed }, host) := by
  unfold close
  rw [hnone]

theorem discard_of_none [Platform ω σ] {c : Connection σ} (hnone : c.stream = none)
    (host : Host ω) : c.discard host = host := by
  rw [discard, close_of_none hnone]

/-- A connection that listens takes the endpoints of a segment. -/
def facing (packet : Ipv4.Packet) (segment : Segment) (c : Connection σ) : Connection σ :=
  { c with
    near := ⟨packet.destination, segment.destinationPort⟩
    remote := ⟨packet.source, segment.sourcePort⟩
    window := segment.window
    remoteSequence := segment.sequence + 1 }

/-- How taking an opening segment ends. -/
inductive Opened (link : Link κ ω) (packet : Ipv4.Packet) (segment : Segment)
    (s : Scene κ ω σ) : Except TcpError Disposition → Scene κ ω σ → Prop where
  /-- The segment does not open a flow. -/
  | refused (hflags : segment.flags ≠ Flags.syn) :
      Opened link packet segment s (.error (.unexpectedFlags .listen segment.flags)) s
  /-- The answer cannot be sent. -/
  | unanswered {e : TcpError} {t : Scene κ ω σ} (hflags : segment.flags = Flags.syn)
      (hreply : reply link (Flags.syn ||| Flags.ack) []
        { s with conn := s.conn.facing packet segment } = .error e t) :
      Opened link packet segment s (.error e) t
  /-- The segment is answered. -/
  | answered {t : Scene κ ω σ} (hflags : segment.flags = Flags.syn)
      (hreply : reply link (Flags.syn ||| Flags.ack) []
        { s with conn := s.conn.facing packet segment } = .ok () t) :
      Opened link packet segment s (.ok .proceed)
        { t with conn := { t.conn with state := .synReceived } }

/-- How taking the segment that completes a handshake ends. -/
inductive Completed [Platform ω σ] (segment : Segment) (s : Scene κ ω σ) :
    Except TcpError Disposition → Scene κ ω σ → Prop where
  /-- The segment does not complete a handshake. -/
  | refused (hflags : segment.flags ≠ Flags.ack) :
      Completed segment s (.error (.unexpectedFlags .synReceived segment.flags)) s
  /-- The stream cannot be opened. -/
  | unopened {host host' : Host ω} {fault : IoFault} (hflags : segment.flags = Flags.ack)
      (hnoted : s.host.Routine host) (hnone : s.conn.stream = none)
      (hconnect : host.connect s.conn.near = (.error fault, host')) :
      Completed segment s (.error (.io fault)) { s with host := host' }
  /-- The stream is open already. -/
  | resumed {host : Host ω} {stream : σ} (hflags : segment.flags = Flags.ack)
      (hnoted : s.host.Routine host) (hsome : s.conn.stream = some stream) :
      Completed segment s (.ok .proceed)
        { s with conn := { s.conn with state := .established }, host }
  /-- The stream is opened. -/
  | opened {host host' host'' : Host ω} {stream : σ} (hflags : segment.flags = Flags.ack)
      (hnoted : s.host.Routine host) (hnone : s.conn.stream = none)
      (hconnect : host.connect s.conn.near = (.ok stream, host')) (hnoted' : host'.Routine host'') :
      Completed segment s (.ok .proceed)
        { s with
          conn := { s.conn with stream := some stream, state := .established }
          host := host'' }

/-- How taking a segment of an established flow ends. -/
inductive Taken (R : Scene κ ω σ → Scene κ ω σ → Prop) (segment : Segment)
    (s : Scene κ ω σ) : Except TcpError Disposition → Scene κ ω σ → Prop where
  /-- The segment comes from another port, or opens a flow. -/
  | ignored {host : Host ω} (hnoted : s.host.Routine host)
      (hignored : segment.sourcePort ≠ s.conn.remote.port ∨ segment.flags.has Flags.syn) :
      Taken R segment s (.ok .proceed) { s with host }
  /-- The segment resets the flow. -/
  | reset {host : Host ω} (hnoted : s.host.Routine host)
      (hport : segment.sourcePort = s.conn.remote.port) (hsyn : ¬segment.flags.has Flags.syn)
      (hrst : segment.flags.has Flags.rst) :
      Taken R segment s (.ok .endSession)
        { s with
          conn := { s.conn with window := segment.window, state := .finWait1 }
          host }
  /-- The segment is an empty acknowledgement. -/
  | empty (hflags : segment.flags = Flags.ack) (hdata : segment.data = []) :
      Taken R segment s (.ok .proceed) { s with conn := { s.conn with window := segment.window } }
  /-- The segment counts; its data is delivered and the stream drained, as far as that goes. -/
  | counted {host : Host ω} {r : Except TcpError Disposition} {t : Scene κ ω σ}
      (hcounts : segment.countsFor s.conn.remote.port) (hnoted : s.host.Routine host)
      (hR : R { s with
        conn :=
          { s.conn with
            window := segment.window
            remoteSequence := s.conn.remoteSequence + 1 }
        host } t)
      (hok : ∀ d, r = .ok d → d = .proceed)
      (herror : ∀ e, r = .error e →
        e.FromWorld ∨ e = .closedConnection ∧ s.conn.stream = none) :
      Taken R segment s r t

section Counted

variable {R : Scene κ ω σ → Scene κ ω σ → Prop} {segment : Segment} {s t : Scene κ ω σ}
  {host : Host ω} (hcounts : segment.countsFor s.conn.remote.port) (hnoted : s.host.Routine host)
  (hR : R { s with
    conn :=
      { s.conn with
        window := segment.window
        remoteSequence := s.conn.remoteSequence + 1 }
    host } t)

include hcounts hnoted hR

theorem Taken.counted_ok : Taken R segment s (.ok .proceed) t := by
  refine .counted hcounts hnoted hR (fun d h => ?_) fun e h => ?_
  · exact (Except.ok.inj h).symm
  · cases h

theorem Taken.counted_error {e : TcpError}
    (he : e.FromWorld ∨ e = .closedConnection ∧ s.conn.stream = none) :
    Taken R segment s (.error e) t := by
  refine .counted hcounts hnoted hR (fun d h => ?_) fun e' h => ?_
  · cases h
  · rwa [← Except.error.inj h]

end Counted

/-- How handling a packet ends. -/
inductive Handled [Platform ω σ] (link : Link κ ω) (R : Scene κ ω σ → Scene κ ω σ → Prop)
    (packet : Ipv4.Packet) (s : Scene κ ω σ) :
    Except TcpError Disposition → Scene κ ω σ → Prop where
  /-- The packet holds no segment. -/
  | unreadable (hread : Segment.ofBytes? packet.payload = none) :
      Handled link R packet s (.error .malformed)
        { s with host := s.host.note .segmentUnreadable }
  /-- The connection is closed. -/
  | closed (hstate : s.conn.state = .closed) : Handled link R packet s (.error .closedConnection) s
  /-- The connection listens. -/
  | listening {segment : Segment} {r : Except TcpError Disposition} {t : Scene κ ω σ}
      (hread : Segment.ofBytes? packet.payload = some segment) (hstate : s.conn.state = .listen)
      (h : Opened link packet segment s r t) : Handled link R packet s r t
  /-- The connection answered an opening segment. -/
  | answered {segment : Segment} {r : Except TcpError Disposition} {t : Scene κ ω σ}
      (hread : Segment.ofBytes? packet.payload = some segment)
      (hstate : s.conn.state = .synReceived) (h : Completed segment s r t) :
      Handled link R packet s r t
  /-- The connection is established. -/
  | established {segment : Segment} {r : Except TcpError Disposition} {t : Scene κ ω σ}
      (hread : Segment.ofBytes? packet.payload = some segment)
      (hstate : s.conn.state = .established) (h : Taken R segment s r t) :
      Handled link R packet s r t
  /-- The connection is being ended. -/
  | ending {segment : Segment} (hread : Segment.ofBytes? packet.payload = some segment)
      (hstate : s.conn.state ∉ [.closed, .listen, .synReceived, .established]) :
      Handled link R packet s (.ok .endSession)
        { s with host := s.host.note (.immediateEnd s.conn.state) }

/-! ## The handlers end so -/

theorem handleOpening_ends (link : Link κ ω) (packet : Ipv4.Packet) (segment : Segment)
    (s : Scene κ ω σ) :
    Ends (handleOpening link packet segment) s (Opened link packet segment s) := by
  unfold handleOpening
  simp only [ends_ite, ends_bind, ends_throw, ends_update, ends_pure]
  refine ⟨fun hflags => .refused hflags, fun hflags => ?_⟩
  have hflags : segment.flags = Flags.syn := Decidable.not_not.1 hflags
  unfold Ends
  cases hreply : reply link (Flags.syn ||| Flags.ack) []
    { s with conn := s.conn.facing packet segment } with
  | error e t =>
    have h : Opened link packet segment s (.error e) t := .unanswered hflags hreply
    unfold facing at hreply
    rwa [hreply]
  | ok _ t =>
    have h := Opened.answered hflags hreply
    unfold facing at hreply
    rwa [hreply]

/-- Opening the stream does nothing if it is open already, and else depends on the platform. -/
theorem ends_openStream [Platform ω σ] {s : Scene κ ω σ}
    {Q : Except TcpError Unit → Scene κ ω σ → Prop}
    (hopen : ∀ stream, s.conn.stream = some stream → Q (.ok ()) s)
    (hrefused : s.conn.stream = none → ∀ fault host,
      s.host.connect s.conn.near = (.error fault, host) → Q (.error (.io fault)) { s with host })
    (hopened : s.conn.stream = none → ∀ stream host,
      s.host.connect s.conn.near = (.ok stream, host) →
        Q (.ok ()) { s with conn := { s.conn with stream := some stream }, host }) :
    Ends openStream s Q := by
  unfold Ends openStream
  cases hs : s.conn.stream with
  | some stream => exact hopen stream hs
  | none =>
    rcases hconnect : s.host.connect s.conn.near with ⟨fault | stream, host⟩
    · exact hrefused hs fault host hconnect
    · exact hopened hs stream host hconnect

theorem handleCompletion_ends [Platform ω σ] (segment : Segment) (s : Scene κ ω σ) :
    Ends (handleCompletion segment) s (Completed segment s) := by
  unfold handleCompletion
  simp only [ends_ite, ends_bind, ends_throw, ends_get, ends_update, ends_note, ends_pure]
  refine ⟨fun hflags => .refused hflags, fun hflags => ?_⟩
  have hflags : segment.flags = Flags.ack := Decidable.not_not.1 hflags
  refine ends_noteMismatch fun host₁ h₁ => ends_noteMismatch fun host h => ?_
  have hnoted : s.host.Routine host := (Host.Routine.of_mismatch rfl h₁).trans (.of_mismatch rfl h)
  refine ends_openStream (fun stream hs => ?_) (fun hs fault host' hconnect => ?_)
    (fun hs stream host' hconnect => ?_)
  · exact .resumed hflags (hnoted.trans (.note _ rfl)) hs
  · exact .unopened hflags hnoted hs hconnect
  · exact .opened hflags hnoted hs hconnect (.note _ rfl)

theorem handleEstablished_ends [LocalStream σ] {link : Link κ ω}
    {R : Scene κ ω σ → Scene κ ω σ → Prop} {segment : Segment}
    (hR : Exchanged link segment.data R) (s : Scene κ ω σ) :
    Ends (handleEstablished link segment) s (Taken R segment s) := by
  unfold handleEstablished
  simp only [ends_bind, ends_get, ends_ite, ends_note, ends_update, ends_pure]
  refine ⟨fun hport => ?foreign, fun hport => ⟨fun hsyn => ?opening, fun hsyn =>
    ⟨fun hrst => ?reset, fun hrst => ⟨fun hack => ?empty, fun hack => ?counted⟩⟩⟩⟩
  case foreign => exact .ignored (.note _ rfl) (.inl hport)
  case opening => exact .ignored (.note _ rfl) (.inr hsyn)
  case reset => exact .reset (.note _ rfl) (Decidable.not_not.1 hport) hsyn hrst
  case empty => exact .empty hack.1 hack.2
  case counted =>
    have hcounts : segment.countsFor s.conn.remote.port := by
      simpa [Segment.countsFor, hsyn, hrst, hack] using hport
    refine ends_noteMismatch fun host₁ h₁ => ends_noteMismatch fun host h => ?_
    have hnoted : s.host.Routine host :=
      (Host.Routine.of_mismatch rfl h₁).trans (.of_mismatch rfl h)
    refine ⟨fun _ => ?_, fun _ => ?_⟩
    · refine (hR.deliver_ends _).mono fun r t h => ?_
      obtain ⟨hstay, hdeliver⟩ := h
      cases r with
      | error e => exact .counted_error hcounts hnoted hstay (hdeliver e rfl)
      | ok =>
        refine (hR.drain_ends t).mono fun r u h => ?_
        obtain ⟨hstay', hdrain⟩ := h
        cases r with
        | error e =>
          exact .counted_error hcounts hnoted (hR.trans hstay hstay') (.inl (hdrain e rfl))
        | ok => exact .counted_ok hcounts hnoted (hR.trans hstay hstay')
    · refine (hR.drain_ends _).mono fun r t h => ?_
      obtain ⟨hstay, hdrain⟩ := h
      cases r with
      | error e => exact .counted_error hcounts hnoted hstay (.inl (hdrain e rfl))
      | ok => exact .counted_ok hcounts hnoted hstay

/-- The data of the segment in a packet, if it holds one. -/
def carried (packet : Ipv4.Packet) : Bytes :=
  ((Segment.ofBytes? packet.payload).map (·.data)).getD []

/-- Handling a packet ends in one of the listed ways. -/
theorem handle_exchanges [Platform ω σ] {link : Link κ ω} {R : Scene κ ω σ → Scene κ ω σ → Prop}
    {packet : Ipv4.Packet} (hR : Exchanged link (carried packet) R) (s : Scene κ ω σ) :
    Ends (handle link packet) s (Handled link R packet s) := by
  unfold handle
  cases hread : Segment.ofBytes? packet.payload with
  | none => exact .unreadable hread
  | some segment =>
    simp only [ends_bind, ends_get]
    split
    case h_1 hstate => exact .closed hstate
    case h_2 hstate =>
      exact (handleOpening_ends link packet segment s).mono fun _ _ => .listening hread hstate
    case h_3 hstate =>
      exact (handleCompletion_ends segment s).mono fun _ _ => .answered hread hstate
    case h_4 hstate =>
      have hdata : carried packet = segment.data := by simp [carried, hread]
      rw [hdata] at hR
      exact (handleEstablished_ends hR s).mono fun _ _ => .established hread hstate
    case h_5 hclosed hlisten hanswered hestablished =>
      refine .ending hread ?_
      simpa using ⟨hclosed, hlisten, hanswered, hestablished⟩

/-- Accepting a packet is handling it, after the time of contact is set. -/
theorem accept_exchanges [Platform ω σ] {link : Link κ ω} {R : Scene κ ω σ → Scene κ ω σ → Prop}
    {packet : Ipv4.Packet} (hR : Exchanged link (carried packet) R) (now : Nat)
    (s : Scene κ ω σ) :
    Ends (accept link packet now) s
      (Handled link R packet { s with conn := { s.conn with lastContact := now } }) := by
  unfold accept
  rw [ends_bind, ends_update]
  exact handle_exchanges hR _

theorem accept_ends [Platform ω σ] {link : Link κ ω} {R : Scene κ ω σ → Scene κ ω σ → Prop}
    (hR : Relayed link R) (packet : Ipv4.Packet) (now : Nat) (s : Scene κ ω σ) :
    Ends (accept link packet now) s
      (Handled link R packet { s with conn := { s.conn with lastContact := now } }) :=
  accept_exchanges (hR.exchanged _) now s

/-- Pumping relays if the connection is established, and does nothing if it is not. -/
theorem pump_drains [LocalStream σ] {link : Link κ ω} {R : Scene κ ω σ → Scene κ ω σ → Prop}
    (hR : Drained link R) (s : Scene κ ω σ) :
    Ends (pump link) s fun r t =>
      R s t ∧ ∀ e, r = .error e → e.FromWorld := by
  unfold pump
  simp only [ends_bind, ends_get, ends_ite, ends_pure]
  refine ⟨fun _ => ?established, fun _ => ?other⟩
  case established =>
    refine (hR.drain_ends s).mono fun r t h => ?_
    cases r with
    | error e =>
      refine ⟨h.1, fun e' he => ?_⟩
      cases he
      exact h.2 _ rfl
    | ok =>
      refine ⟨h.1, fun e he => ?_⟩
      cases he
  case other =>
    refine ⟨hR.refl s, fun e he => ?_⟩
    cases he

theorem pump_ends [LocalStream σ] {link : Link κ ω} {R : Scene κ ω σ → Scene κ ω σ → Prop}
    (hR : Relayed link R) (s : Scene κ ω σ) :
    Ends (pump link) s fun r t => R s t ∧ ∀ e, r = .error e → e.FromWorld :=
  pump_drains hR.drained s

/-- A connection that begins to listen. -/
def listening (first : Nat) (random : Generator) (c : Connection σ) : Connection σ :=
  { c with localSequence := UInt32.ofNat first, state := .listen, random }

/-- How starting a closed connection ends. -/
inductive Started [Platform ω σ] (link : Link κ ω) (R : Scene κ ω σ → Scene κ ω σ → Prop)
    (packet : Ipv4.Packet) (now : Nat) (s : Scene κ ω σ) :
    Except TcpError Disposition → Scene κ ω σ → Prop where
  /-- The packet is handled. -/
  | handled {first : Nat} {random : Generator} {d : Disposition} {t : Scene κ ω σ}
      (hfirst : 100 ≤ first ∧ first < 65000)
      (h : Handled link R packet { s with conn := s.conn.listening first random } (.ok d) t) :
      Started link R packet now s (.ok d) { t with conn := { t.conn with lastContact := now } }
  /-- The packet cannot be handled, and the connection is closed again. -/
  | aborted {first : Nat} {random : Generator} {e : TcpError} {t : Scene κ ω σ}
      {result : Except IoFault Unit} {conn : Connection σ} {host host' : Host ω}
      (hfirst : 100 ≤ first ∧ first < 65000)
      (h : Handled link R packet { s with conn := s.conn.listening first random } (.error e) t)
      (hclose : t.conn.close t.host = (result, conn, host)) (hnoted : host.Routine host') :
      Started link R packet now s (.error e) { t with conn, host := host' }

/-- Starting a closed connection is handling the packet while it listens. If that succeeds the
contact is noted, and if it fails the connection is closed again. -/
theorem ends_start [Platform ω σ] {link : Link κ ω} {packet : Ipv4.Packet} {now : Nat}
    {s : Scene κ ω σ} {Q : Except TcpError Disposition → Scene κ ω σ → Prop}
    (hstate : s.conn.state = .closed)
    (h : Ends (handle link packet)
      { s with
        conn := s.conn.listening (s.conn.random.range 100 65000).1
          (s.conn.random.range 100 65000).2 }
      fun r t =>
        match r with
        | .ok d => Q (.ok d) { t with conn := { t.conn with lastContact := now } }
        | .error e => ∀ result conn host host', t.conn.close t.host = (result, conn, host) →
          host.Routine host' → Q (.error e) { t with conn, host := host' }) :
    Ends (start link packet now) s Q := by
  unfold Ends at *
  unfold start
  rw [if_neg (not_not_intro hstate)]
  unfold listening at h
  simp only
  cases hhandle : handle link packet
    { s with conn :=
      { s.conn with
        localSequence := UInt32.ofNat (s.conn.random.range 100 65000).1
        state := .listen
        random := (s.conn.random.range 100 65000).2 } } with
  | ok d t =>
    rw [hhandle] at h
    exact h
  | error e t =>
    rw [hhandle] at h
    rcases hclose : t.conn.close t.host with ⟨fault | ⟨⟩, conn, host⟩
    · simp only [hclose]
      exact h _ _ _ _ hclose (.note _ rfl)
    · simp only [hclose]
      exact h _ _ _ _ hclose (.refl _)

/-- Starting a closed connection ends in one of the listed ways. -/
theorem start_exchanges [Platform ω σ] {link : Link κ ω} {R : Scene κ ω σ → Scene κ ω σ → Prop}
    {packet : Ipv4.Packet} (hR : Exchanged link (carried packet) R) (now : Nat) {s : Scene κ ω σ}
    (hstate : s.conn.state = .closed) :
    Ends (start link packet now) s (Started link R packet now s) := by
  have hfirst := Generator.range_mem (show 100 < 65000 by decide) s.conn.random
  refine ends_start hstate ((handle_exchanges hR _).mono fun r t h => ?_)
  cases r with
  | ok d => exact .handled hfirst h
  | error e => exact fun _ _ _ _ hclose hnoted => .aborted hfirst h hclose hnoted

theorem start_ends [Platform ω σ] {link : Link κ ω} {R : Scene κ ω σ → Scene κ ω σ → Prop}
    (hR : Relayed link R) (packet : Ipv4.Packet) (now : Nat) {s : Scene κ ω σ}
    (hstate : s.conn.state = .closed) :
    Ends (start link packet now) s (Started link R packet now s) :=
  start_exchanges (hR.exchanged _) now hstate

end Connection

end Tcp

end Ipsec
