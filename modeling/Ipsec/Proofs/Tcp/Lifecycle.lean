import Ipsec.Proofs.Tcp.Behaviour
import Ipsec.Proofs.Tcp.Room

/-!
# The states of a connection over its life

Between operations a connection is in one of four states, and it holds a stream in two of them
(`Resting`). `Edge` lists the ways from one state to another: an opening segment that is answered,
an acknowledgement after which a stream is opened, a reset, and closing. Everything else, failures
included, leaves the state as it is. `lifecycle` says so for every run on any platform, and says
which of the ways are taken when they are open.
-/

namespace Ipsec

variable {κ ω σ : Type}

/-- The world alone decides how connecting ends. -/
theorem Host.connect_eq [Platform ω σ] {near : Ipv4Endpoint} {h h' : Host ω}
    {r : Except IoFault σ} (hconnect : h.connect near = (r, h')) :
    Platform.connect near h.world = (r, h'.world) :=
  congrArg (fun p => (p.1, p.2.world)) hconnect

namespace Tcp

/-- The packet holds a segment with a given property. -/
def Holds (packet : Ipv4.Packet) (P : Segment → Prop) : Prop :=
  ∃ segment, Segment.ofBytes? packet.payload = some segment ∧ P segment

/-- The segment in a packet is the only one. -/
theorem Holds.of_read {packet : Ipv4.Packet} {P : Segment → Prop} {segment : Segment}
    (h : Holds packet P) (hread : Segment.ofBytes? packet.payload = some segment) : P segment := by
  obtain ⟨other, hother, hP⟩ := h
  rw [hread] at hother
  cases hother
  exact hP

/-- From `s` to `t` the link sent one packet, with a segment that has the given flags. -/
def Sent (link : Link κ ω) (flags : Flags) (s t : Scene κ ω σ) : Prop :=
  ∃ packet, link packet s.conn.gateway s.carrier s.host = (.ok (), t.carrier, t.host)
    ∧ Holds packet (·.flags = flags)

/-- From `s` to `t` a connection keeps its state, and its hold on a stream. -/
structure Kept (s t : Scene κ ω σ) : Prop where
  state : t.conn.state = s.conn.state
  stream : t.conn.stream.isSome = s.conn.stream.isSome

namespace Connection

/-! ## States between operations -/

/-- What a connection is like between operations. -/
structure Resting (c : Connection σ) : Prop where
  /-- It is in one of four states. -/
  state : c.state ∈ [.closed, .synReceived, .established, .finWait1]
  /-- It holds a stream exactly if it is established or was reset. -/
  stream : c.stream.isSome ↔ c.state ∈ [.established, .finWait1]

theorem Resting.of_kept {s t : Scene κ ω σ} (hs : s.conn.Resting) (h : Kept s t) :
    t.conn.Resting :=
  ⟨h.state ▸ hs.state, by rw [h.stream, h.state, hs.stream]⟩

theorem Resting.stream_eq_none {c : Connection σ} (hc : c.Resting)
    (hstate : c.state ∉ [.established, .finWait1]) : c.stream = none :=
  Option.not_isSome_iff_eq_none.1 fun h => hstate (hc.stream.1 h)

theorem Resting.state_ne_listen {c : Connection σ} (hc : c.Resting) : c.state ≠ .listen := by
  intro hstate
  have hrest := hc.state
  rw [hstate] at hrest
  exact absurd hrest (by decide)

/-- A closed connection without a stream rests. -/
theorem Resting.of_closed {c : Connection σ} (hstate : c.state = .closed)
    (hstream : c.stream = none) : c.Resting :=
  ⟨by simp [hstate], by simp [hstate, hstream]⟩

theorem resting_of_close [Platform ω σ] {c c' : Connection σ} {host host' : Host ω}
    {result : Except IoFault Unit} (hclose : c.close host = (result, c', host')) :
    c'.Resting := by
  rw [conn_of_close hclose]
  exact .of_closed rfl rfl

/-! ## What a moment makes of a scene -/

/-- What a moment makes of a scene on any platform, whether or not the connection fails. -/
def Moment.go [Platform ω σ] (link : Link κ ω) (s : Scene κ ω σ) :
    Moment κ ω σ → Scene κ ω σ
  | start packet now => afterwards (Connection.start link packet now) s
  | accept packet now => afterwards (Connection.accept link packet now) s
  | pump => afterwards (Connection.pump link) s
  | close =>
    let (_, conn, host) := s.conn.close s.host
    { s with conn, host }
  | drift stream carrier host =>
    { conn := { s.conn with stream := s.conn.stream.map stream }
      carrier := carrier s.carrier
      host := host s.host }

/-- What some moments make of a scene in turn, on any platform. -/
def Moment.goAll [Platform ω σ] (link : Link κ ω) (moments : List (Moment κ ω σ))
    (s : Scene κ ω σ) : Scene κ ω σ :=
  moments.foldl (go link) s

/-- The ways in which a moment may change the state of a connection. -/
inductive Edge [Platform ω σ] (link : Link κ ω) (s : Scene κ ω σ) :
    Moment κ ω σ → Scene κ ω σ → Prop where
  /-- The state stays. -/
  | stays {m : Moment κ ω σ} {t : Scene κ ω σ} (hstate : t.conn.state = s.conn.state) :
      Edge link s m t
  /-- A closed connection is started with a plain opening segment, and its answer is sent. -/
  | opened {packet : Ipv4.Packet} {now : Nat} {t : Scene κ ω σ} (hfrom : s.conn.state = .closed)
      (hopening : Holds packet (·.flags = Flags.syn))
      (hanswered : Sent link (Flags.syn ||| Flags.ack) s t) (hto : t.conn.state = .synReceived) :
      Edge link s (.start packet now) t
  /-- A plain acknowledgement completes the handshake, and the stream is opened. -/
  | completed {packet : Ipv4.Packet} {now : Nat} {stream : σ} {t : Scene κ ω σ}
      (hfrom : s.conn.state = .synReceived) (hcompletion : Holds packet (·.flags = Flags.ack))
      (hconnect : Platform.connect s.conn.near s.host.world = (.ok stream, t.host.world))
      (hstream : t.conn.stream = some stream) (hto : t.conn.state = .established) :
      Edge link s (.accept packet now) t
  /-- A segment from the flow's port resets the flow. -/
  | reset {packet : Ipv4.Packet} {now : Nat} {t : Scene κ ω σ} (hfrom : s.conn.state = .established)
      (hreset : Holds packet fun segment => segment.sourcePort = s.conn.remote.port
        ∧ segment.flags.has Flags.rst ∧ ¬segment.flags.has Flags.syn)
      (hto : t.conn.state = .finWait1) : Edge link s (.accept packet now) t
  /-- The connection is closed. -/
  | closed {t : Scene κ ω σ} (hto : t.conn.state = .closed) : Edge link s .close t

/-! ## Steps -/

variable {link : Link κ ω}

/-- A reply that succeeds is sent. -/
theorem reply_sent (flags : Flags) (data : Bytes) (s : Scene κ ω σ) :
    Ends (reply link flags data) s fun r t => r = .ok () → Sent link flags s t := by
  refine ends_reply (fun _ _ _ => nofun) fun p hp random => ?_
  refine ends_handOver fun result carrier host hlink hok => ?_
  cases result with
  | error e => cases hok
  | ok => exact ⟨p, hlink, _, Segment.ofBytes?_wrap hp, rfl⟩

theorem kept_relayed [LocalStream σ] : Relayed (σ := σ) link Kept where
  refl _ := ⟨rfl, rfl⟩
  trans h h' := ⟨h'.state.trans h.state, h'.stream.trans h.stream⟩
  reply flags data s := by
    refine (reply_conn link flags data s).mono fun _ t h => ?_
    obtain ⟨n, random, hconn⟩ := h
    exact ⟨by rw [hconn], by rw [hconn]⟩
  shrink _ := ⟨rfl, rfl⟩
  used s u v hu _ := ⟨rfl, by simp [hu]⟩

theorem pump_kept [LocalStream σ] (s : Scene κ ω σ) : Ends (pump link) s fun _ t => Kept s t :=
  (pump_ends kept_relayed s).mono fun _ _ h => h.1

variable [Platform ω σ] {packet : Ipv4.Packet} {now : Nat} {s t : Scene κ ω σ}
  {r : Except TcpError Disposition}

theorem Completed.edge {segment : Segment} (h : Completed segment s r t)
    (hread : Segment.ofBytes? packet.payload = some segment) (hs : s.conn.Resting)
    (hstate : s.conn.state = .synReceived) :
    t.conn.Resting ∧ Edge link s (.accept packet now) t := by
  have hnone : s.conn.stream = none := hs.stream_eq_none (by simp [hstate])
  cases h with
  | refused => exact ⟨hs, .stays rfl⟩
  | unopened => exact ⟨⟨hs.state, hs.stream⟩, .stays rfl⟩
  | resumed _ _ hsome =>
    rw [hnone] at hsome
    cases hsome
  | opened hflags hnoted _ hconnect hnoted' =>
    refine ⟨⟨by simp, by simp⟩, .completed hstate ⟨segment, hread, hflags⟩ ?_ rfl rfl⟩
    rw [← hnoted.world_eq, hnoted'.world_eq]
    exact Host.connect_eq hconnect

theorem Taken.edge {segment : Segment} (h : Taken Kept segment s r t)
    (hread : Segment.ofBytes? packet.payload = some segment) (hs : s.conn.Resting)
    (hstate : s.conn.state = .established) :
    t.conn.Resting ∧ Edge link s (.accept packet now) t := by
  cases h with
  | ignored => exact ⟨⟨hs.state, hs.stream⟩, .stays rfl⟩
  | reset _ hport hsyn hrst =>
    have hsome : s.conn.stream.isSome := hs.stream.2 (by simp [hstate])
    exact ⟨⟨by simp, by simpa using hsome⟩,
      .reset hstate ⟨segment, hread, hport, hrst, hsyn⟩ rfl⟩
  | empty => exact ⟨⟨hs.state, hs.stream⟩, .stays rfl⟩
  | counted _ _ hR =>
    have hs' : Resting { s.conn with
        window := segment.window
        remoteSequence := s.conn.remoteSequence + 1 } := ⟨hs.state, hs.stream⟩
    exact ⟨hs'.of_kept hR, .stays hR.state⟩

theorem Handled.edge (h : Handled link Kept packet s r t) (hs : s.conn.Resting) :
    t.conn.Resting ∧ Edge link s (.accept packet now) t := by
  cases h with
  | unreadable => exact ⟨hs, .stays rfl⟩
  | closed => exact ⟨hs, .stays rfl⟩
  | listening _ hstate => exact absurd hstate hs.state_ne_listen
  | answered hread hstate h => exact h.edge hread hs hstate
  | established hread hstate h => exact h.edge hread hs hstate
  | ending => exact ⟨hs, .stays rfl⟩

/-- A connection asks for its end exactly if it takes a segment and was reset, now or before. -/
theorem Handled.ending_iff (h : Handled link Kept packet s r t) (hs : s.conn.Resting) :
    r = .ok .endSession ↔ Holds packet (fun _ => True) ∧ t.conn.state = .finWait1 := by
  cases h with
  | unreadable hread =>
    refine ⟨nofun, fun ⟨⟨segment, hsome, _⟩, _⟩ => ?_⟩
    rw [hread] at hsome
    cases hsome
  | closed hstate => simp [hstate]
  | listening _ hstate => exact absurd hstate hs.state_ne_listen
  | answered _ hstate h => cases h <;> simp [hstate]
  | established hread hstate h =>
    cases h with
    | ignored => simp [hstate]
    | reset => exact ⟨fun _ => ⟨⟨_, hread, trivial⟩, rfl⟩, fun _ => rfl⟩
    | empty => simp [hstate]
    | counted _ _ hR hok _ =>
      have hstate' : t.conn.state = .established := hR.state.trans hstate
      refine ⟨fun hr => ?_, fun ⟨_, hfin⟩ => ?_⟩
      · cases hok _ hr
      · rw [hstate'] at hfin
        cases hfin
  | ending hread hstate =>
    have hfin : s.conn.state = .finWait1 := by
      have hrest := hs.state
      simp_all
    exact ⟨fun _ => ⟨⟨_, hread, trivial⟩, hfin⟩, fun _ => rfl⟩

theorem Handled.completes (h : Handled link Kept packet s r t)
    (hstate : s.conn.state = .synReceived) (hack : Holds packet (·.flags = Flags.ack))
    {stream : σ} {world : ω}
    (hconnect : Platform.connect s.conn.near s.host.world = (.ok stream, world)) :
    r = .ok .proceed ∧ t.conn.state = .established := by
  cases h with
  | unreadable hread =>
    obtain ⟨_, hsome, _⟩ := hack
    rw [hread] at hsome
    cases hsome
  | closed hother => exact absurd hother (by simp [hstate])
  | listening _ hother => exact absurd hother (by simp [hstate])
  | answered hread _ h =>
    cases h with
    | refused hflags => exact absurd (hack.of_read hread) hflags
    | unopened _ hnoted _ hfault =>
      have hfault := Host.connect_eq hfault
      rw [hnoted.world_eq, hconnect] at hfault
      cases hfault
    | resumed => exact ⟨rfl, rfl⟩
    | opened => exact ⟨rfl, rfl⟩
  | established _ hother => exact absurd hother (by simp [hstate])
  | ending _ hother => exact absurd hother (by simp [hstate])

theorem Handled.resets (h : Handled link Kept packet s r t) (hstate : s.conn.state = .established)
    (hreset : Holds packet fun segment => segment.sourcePort = s.conn.remote.port
      ∧ segment.flags.has Flags.rst ∧ ¬segment.flags.has Flags.syn) :
    r = .ok .endSession ∧ t.conn.state = .finWait1 := by
  cases h with
  | unreadable hread =>
    obtain ⟨_, hsome, _⟩ := hreset
    rw [hread] at hsome
    cases hsome
  | closed hother => exact absurd hother (by simp [hstate])
  | listening _ hother => exact absurd hother (by simp [hstate])
  | answered _ hother => exact absurd hother (by simp [hstate])
  | established hread _ h =>
    obtain ⟨hport, hrst, hsyn⟩ := hreset.of_read hread
    cases h with
    | ignored _ hignored => exact absurd hignored (by simp [hport, hsyn])
    | reset => exact ⟨rfl, rfl⟩
    | empty hflags =>
      rw [hflags] at hrst
      exact absurd hrst (by decide)
    | counted hcounts => simp [Segment.countsFor, hrst] at hcounts
  | ending _ hother => exact absurd hother (by simp [hstate])

/-- The time of contact plays no part in an edge. -/
theorem Edge.of_contact {m : Moment κ ω σ}
    (h : Edge link { s with conn := { s.conn with lastContact := now } } m t) :
    Edge link s m t := by
  cases h with
  | stays hstate => exact .stays hstate
  | opened hfrom hopening hanswered hto => exact .opened hfrom hopening hanswered hto
  | completed hfrom hcompletion hconnect hstream hto =>
    exact .completed hfrom hcompletion hconnect hstream hto
  | reset hfrom hreset hto => exact .reset hfrom hreset hto
  | closed hto => exact .closed hto

/-- A connection that rests accepts a packet along an edge, and rests again. -/
theorem accept_edge (packet : Ipv4.Packet) (now : Nat) (hs : s.conn.Resting) :
    Ends (accept link packet now) s fun r t =>
      (t.conn.Resting ∧ Edge link s (.accept packet now) t) ∧
        (r = .ok .endSession ↔ Holds packet (fun _ => True) ∧ t.conn.state = .finWait1) := by
  refine (accept_ends kept_relayed packet now s).mono fun r t h => ?_
  have hs' : Resting { s.conn with lastContact := now } := ⟨hs.state, hs.stream⟩
  obtain ⟨hrest, hedge⟩ := h.edge hs'
  exact ⟨⟨hrest, hedge.of_contact⟩, h.ending_iff hs'⟩

/-- A closed connection that rests either is started along an edge, or stays closed. -/
theorem start_edge (packet : Ipv4.Packet) (now : Nat) (hs : s.conn.Resting)
    (hclosed : s.conn.state = .closed) :
    Ends (start link packet now) s fun r t =>
      t.conn.Resting ∧ Edge link s (.start packet now) t ∧
        (r = .ok .proceed ∧ t.conn.state = .synReceived
          ∨ (∃ e, r = .error e) ∧ t.conn.state = .closed) := by
  refine (start_ends kept_relayed packet now hclosed).mono fun r t h => ?_
  cases h with
  | handled _ h =>
    cases h with
    | listening hread _ h =>
      cases h with
      | answered hflags hreply =>
        have hkept := (kept_relayed (σ := σ).reply _ _ _).of_ok hreply
        have hsent := (reply_sent _ _ _).of_ok hreply rfl
        have hnone : s.conn.stream.isSome = false := by
          simp [hs.stream_eq_none (by simp [hclosed])]
        have hstream := hkept.stream.trans hnone
        exact ⟨⟨by simp, by simpa using hstream⟩,
          .opened hclosed ⟨_, hread, hflags⟩ hsent rfl, .inl ⟨rfl, rfl⟩⟩
    | answered _ hstate => cases hstate
    | established _ hstate => cases hstate
    | ending _ hstate => simp [listening] at hstate
  | aborted _ _ hclose =>
    have hstate := state_of_close hclose
    exact ⟨resting_of_close hclose, .stays (hstate.trans hclosed.symm),
      .inr ⟨⟨_, rfl⟩, hstate⟩⟩

/-- A connection that is not closed cannot be started, and stays as it is. -/
theorem start_of_ne_closed (link : Link κ ω) (packet : Ipv4.Packet) (now : Nat)
    (hopen : s.conn.state ≠ .closed) :
    start link packet now s = .error (.invalidState .closed s.conn.state) s := by
  unfold start
  rw [if_pos hopen]

/-! ## Runs -/

/-- A moment leads along an edge from rest to rest. -/
theorem Moment.go_edge (link : Link κ ω) (m : Moment κ ω σ) (hs : s.conn.Resting) :
    (m.go link s).conn.Resting ∧ Edge link s m (m.go link s) := by
  cases m with
  | start packet now =>
    by_cases hclosed : s.conn.state = .closed
    · have hstart : Ends (Connection.start link packet now) s fun _ t =>
          t.conn.Resting ∧ Edge link s (.start packet now) t :=
        (start_edge packet now hs hclosed).mono fun _ _ h => ⟨h.1, h.2.1⟩
      exact hstart.afterwards
    · rw [go, afterwards, start_of_ne_closed link packet now hclosed]
      exact ⟨hs, .stays rfl⟩
  | accept packet now =>
    have haccept : Ends (Connection.accept link packet now) s fun _ t =>
        t.conn.Resting ∧ Edge link s (.accept packet now) t :=
      (accept_edge packet now hs).mono fun _ _ h => h.1
    exact haccept.afterwards
  | pump =>
    have hkept : Kept s (pump.go link s) := (pump_kept s).afterwards
    exact ⟨hs.of_kept hkept, .stays hkept.state⟩
  | close => exact ⟨resting_of_close rfl, .closed (state_of_close rfl)⟩
  | drift => exact ⟨⟨hs.state, by simpa [go] using hs.stream⟩, .stays rfl⟩

theorem Resting.goAll (hs : s.conn.Resting) (link : Link κ ω) (moments : List (Moment κ ω σ)) :
    (Moment.goAll link moments s).conn.Resting := by
  induction moments generalizing s with
  | nil => exact hs
  | cons m rest ih => exact ih (m.go_edge link hs).1

/-- What is said about a connection between operations and about what each does to its state. -/
structure Orderly (link : Link κ ω) (s : Scene κ ω σ) : Prop where
  /-- It is in one of four states, and holds a stream in two of them. -/
  resting : s.conn.Resting
  /-- Every moment leads along an edge. -/
  edge : ∀ m : Moment κ ω σ, Edge link s m (m.go link s)
  /-- A closed connection that cannot be started is closed again. -/
  start : s.conn.state = .closed → ∀ packet now,
    Ends (Connection.start link packet now) s fun r t =>
      r = .ok .proceed ∧ t.conn.state = .synReceived
        ∨ (∃ e, r = .error e) ∧ t.conn.state = .closed
  /-- Any other connection cannot be started, and nothing changes. -/
  misplaced : s.conn.state ≠ .closed → ∀ packet now,
    Connection.start link packet now s = .error (.invalidState .closed s.conn.state) s
  /-- An acknowledgement completes the handshake if a stream can be opened. -/
  completes : s.conn.state = .synReceived → ∀ packet now,
    Holds packet (·.flags = Flags.ack) →
    (∃ stream world, Platform.connect s.conn.near s.host.world = (.ok stream, world)) →
    Ends (Connection.accept link packet now) s fun r t =>
      r = .ok .proceed ∧ t.conn.state = .established
  /-- A reset from the flow's port is taken. -/
  resets : s.conn.state = .established → ∀ packet now,
    Holds packet (fun segment => segment.sourcePort = s.conn.remote.port
      ∧ segment.flags.has Flags.rst ∧ ¬segment.flags.has Flags.syn) →
    Ends (Connection.accept link packet now) s fun r t =>
      r = .ok .endSession ∧ t.conn.state = .finWait1
  /-- The connection asks for its end exactly if it takes a segment and was reset, now or before. -/
  ending : ∀ packet now, Ends (Connection.accept link packet now) s fun r t =>
    (r = .ok .endSession ↔ Holds packet (fun _ => True) ∧ t.conn.state = .finWait1)
  /-- Pumping changes neither the state nor whether there is a stream. -/
  pump : Ends (Connection.pump link) s fun _ t => Kept s t
  /-- Closing closes. -/
  close : (s.conn.close s.host).2.1.state = .closed

theorem Resting.orderly (hs : s.conn.Resting) (link : Link κ ω) : Orderly link s where
  resting := hs
  edge m := (m.go_edge link hs).2
  start hclosed packet now := (start_edge packet now hs hclosed).mono fun _ _ h => h.2.2
  misplaced hopen packet now := start_of_ne_closed link packet now hopen
  completes := by
    rintro hstate packet now hack ⟨stream, world, hconnect⟩
    exact (accept_ends kept_relayed packet now s).mono fun _ _ h =>
      h.completes hstate hack hconnect
  resets hstate packet now hreset :=
    (accept_ends kept_relayed packet now s).mono fun _ _ h => h.resets hstate hreset
  ending packet now := (accept_edge packet now hs).mono fun _ _ h => h.2
  pump := pump_kept s
  close := state_of_close rfl

/-- **The states of a connection.** In every run a connection rests between operations, and each
operation leads along an edge. -/
theorem lifecycle (link : Link κ ω) (key : Flow.Key) (gateway : Endpoint) (relaySize : Nat)
    (random : Generator) (now : Nat) (carrier : κ) (host : Host ω)
    (moments : List (Moment κ ω σ)) :
    Orderly link (Moment.goAll link moments
      ⟨fresh key gateway relaySize random now, carrier, host⟩) := by
  have hfresh : (fresh key gateway relaySize random now : Connection σ).Resting :=
    .of_closed rfl rfl
  exact (Resting.goAll (s := ⟨_, carrier, host⟩) hfresh link moments).orderly link

end Connection

end Tcp

end Ipsec
