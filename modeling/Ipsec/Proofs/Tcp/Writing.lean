import Ipsec.Proofs.Tcp.Draining
import Ipsec.Proofs.Tcp.Lifecycle

/-!
# What is written to the stream

A `Sink` is a kind of stream of which one can tell what was written to it. A send to it fails and
writes nothing, or writes all of its data. `passed` says what a connection writes at a packet: the
data of a segment from the port of its flow, if the connection is established, the segment neither
opens nor resets the flow, and the stream takes the data.

A packet is written before anything is relayed for it (`accept_writes`), and nothing else writes.
By induction over a run, what was written to the stream is what the accepted packets passed, in the
order in which they came (`Event.runAll_written`). `written_in_order` says so of a connection from
any start on.
-/

namespace Ipsec

open LocalStream (Drawn)

variable {κ ω σ : Type}

/-- What was written to a stream is known. A send fails and writes nothing, or writes all of its
data, and no other call writes. -/
structure Sink (ω : Type) {σ : Type} [Platform ω σ] (got : σ → Bytes) : Prop where
  send : ∀ {data u r v}, LocalStream.send data u = (r, v) →
    (∃ fault, r = .error fault) ∧ got v = got u ∨ r = .ok data.length ∧ got v = got u ++ data
  available : ∀ u, got (LocalStream.available u).2 = got u
  receive : ∀ n u, got (LocalStream.receive n u).2 = got u
  connect : ∀ {near : Ipv4Endpoint} {world world' : ω} {u},
    Platform.connect near world = (.ok u, world') → got u = []

namespace Sink

variable [Platform ω σ] {got : σ → Bytes} (hgot : Sink ω got) {data : Bytes} {u v : σ}

include hgot

theorem of_drawn (h : Drawn u v) : got v = got u := by
  induction h with
  | refl => rfl
  | available _ ih => exact (hgot.available _).trans ih
  | receive n _ ih => exact (hgot.receive n _).trans ih

theorem send_ok {n : Nat} (h : (LocalStream.send data u).1 = .ok n) :
    got (LocalStream.send data u).2 = got u ++ data := by
  rcases hsend : LocalStream.send data u with ⟨r, v⟩
  rw [hsend] at h
  rcases hgot.send hsend with ⟨⟨fault, rfl⟩, -⟩ | ⟨-, hall⟩
  · cases h
  · exact hall

theorem send_error {fault : IoFault} (h : (LocalStream.send data u).1 = .error fault) :
    got (LocalStream.send data u).2 = got u := by
  rcases hsend : LocalStream.send data u with ⟨r, v⟩
  rw [hsend] at h
  rcases hgot.send hsend with ⟨-, hsame⟩ | ⟨rfl, -⟩
  · exact hsame
  · cases h

end Sink

namespace Tcp

/-- What was written to the stream that the connection holds. -/
def Scene.written (got : σ → Bytes) (s : Scene κ ω σ) : Bytes := (s.conn.stream.map got).getD []

namespace Connection

/-- What the connection writes to its stream when it accepts a packet, if its flow comes from the
given port. -/
def passed [LocalStream σ] (port : UInt16) (packet : Ipv4.Packet) (c : Connection σ) : Bytes :=
  match Segment.ofBytes? packet.payload, c.stream with
  | some segment, some stream =>
    if c.state = .established ∧ segment.sourcePort = port ∧ ¬segment.flags.has Flags.syn
        ∧ ¬segment.flags.has Flags.rst ∧ (LocalStream.send segment.data stream).1.isOk then
      segment.data
    else []
  | _, _ => []

section

variable [LocalStream σ] {port : UInt16} {packet : Ipv4.Packet} {c : Connection σ}

theorem passed_of_ne_established (h : c.state ≠ .established) : passed port packet c = [] := by
  unfold passed
  split
  · exact if_neg fun hpassed => h hpassed.1
  · rfl

/-- A segment that does not count passes nothing. An empty acknowledgement has nothing to pass. -/
theorem passed_of_skipped (h : ∀ segment, Segment.ofBytes? packet.payload = some segment →
    ¬segment.countsFor port) : passed port packet c = [] := by
  unfold passed
  split
  · next segment stream hread hstream =>
    split
    · next hpassed =>
      obtain ⟨-, hport, hsyn, hrst, -⟩ := hpassed
      have hskipped := h segment hread
      simp only [Segment.countsFor, hport, hsyn, hrst] at hskipped
      simp_all
    · rfl
  · rfl

theorem passed_of_fault {segment : Segment}
    (hread : Segment.ofBytes? packet.payload = some segment)
    (h : ∀ u, c.stream = some u → ∃ fault, (LocalStream.send segment.data u).1 = .error fault) :
    passed port packet c = [] := by
  unfold passed
  split
  · next segment' u hread' hu =>
    obtain rfl := Option.some.inj (hread.symm.trans hread')
    obtain ⟨fault, hfault⟩ := h u hu
    refine if_neg fun hpassed => ?_
    have hok := hpassed.2.2.2.2
    rw [hfault] at hok
    cases hok
  · rfl

theorem passed_of_taken {segment : Segment} (hstate : c.state = .established)
    (hread : Segment.ofBytes? packet.payload = some segment) (hcounts : segment.countsFor port)
    (h : segment.data ≠ [] → ∃ u n, c.stream = some u ∧
      (LocalStream.send segment.data u).1 = .ok n) :
    passed port packet c = segment.data := by
  by_cases hdata : segment.data = []
  · unfold passed
    split
    · next segment' u hread' hu =>
      obtain rfl := Option.some.inj (hread.symm.trans hread')
      rw [hdata, ite_self]
    · exact hdata.symm
  · obtain ⟨u, n, hu, hsend⟩ := h hdata
    simp only [Segment.countsFor, decide_eq_true_eq] at hcounts
    obtain ⟨hport, hsyn, hrst, -⟩ := hcounts
    simp only [passed, hread, hu]
    exact if_pos ⟨hstate, hport, hsyn, hrst, by rw [hsend]; rfl⟩

end

/-- From `s` to `t` some data is written before anything is handed to the link. What can come after
it is one drain. -/
def WritesFirst [LocalStream σ] (got : σ → Bytes) (link : Link κ ω) (data : Bytes)
    (s t : Scene κ ω σ) : Prop :=
  ∃ u, u.carrier = s.carrier ∧ u.written got = s.written got ++ data
    ∧ (t = u ∨ t = afterwards (drain link) u)

/-- A step that neither writes nor hands anything over. -/
theorem WritesFirst.nothing [LocalStream σ] {got : σ → Bytes} {link : Link κ ω}
    {s t : Scene κ ω σ} (hcarrier : t.carrier = s.carrier)
    (hwritten : t.written got = s.written got) : WritesFirst got link [] s t :=
  ⟨t, hcarrier, by rw [hwritten, List.append_nil], .inl rfl⟩

/-! ## Steps -/

section

variable [Platform ω σ] {got : σ → Bytes} (hgot : Sink ω got) {link : Link κ ω}
  {s t : Scene κ ω σ}

include hgot

/-- Draining writes nothing. -/
theorem written_drained : Drained link fun s t : Scene κ ω σ => t.written got = s.written got where
  refl _ := rfl
  trans h h' := h'.trans h
  drain s := by
    refine (drain_drawn s).mono fun _ t hdrawn => ?_
    unfold Scene.written
    revert hdrawn
    generalize s.conn.stream = v, t.conn.stream = w
    rintro (hdrawn | _)
    · exact hgot.of_drawn hdrawn
    · rfl

theorem pump_written (s : Scene κ ω σ) :
    Ends (pump link) s fun _ t => t.written got = s.written got :=
  (pump_drains (written_drained hgot) s).mono fun _ _ h => h.1

theorem WritesFirst.written {data : Bytes} (h : WritesFirst got link data s t) :
    t.written got = s.written got ++ data := by
  obtain ⟨u, -, hwritten, rfl | rfl⟩ := h
  · exact hwritten
  · exact ((written_drained hgot).drain u).afterwards.trans hwritten

theorem Completed.written {segment : Segment} {r : Except TcpError Disposition}
    (h : Completed segment s r t) : WritesFirst got link [] s t := by
  cases h with
  | refused => exact .nothing rfl rfl
  | unopened => exact .nothing rfl rfl
  | resumed => exact .nothing rfl rfl
  | opened _ _ hnone hconnect =>
    refine .nothing rfl ?_
    simp [Scene.written, hnone, hgot.connect (Host.connect_eq hconnect)]

/-- A connection that does not listen writes what the packet passes, before it relays. -/
theorem accept_writes (packet : Ipv4.Packet) (now : Nat) (hlisten : s.conn.state ≠ .listen) :
    Ends (accept link packet now) s fun _ t =>
      WritesFirst got link (passed s.conn.remote.port packet s.conn) s t := by
  by_cases hstate : s.conn.state = .established
  case neg =>
    rw [passed_of_ne_established hstate]
    refine (accept_ends (relayed_true link) packet now s).mono fun _ t h => ?_
    cases h with
    | unreadable => exact .nothing rfl rfl
    | closed => exact .nothing rfl rfl
    | listening _ hother => exact absurd hother hlisten
    | answered _ _ h =>
      have hnothing : WritesFirst got link [] { s with conn := { s.conn with lastContact := now } }
          t := h.written hgot
      exact hnothing
    | established _ hother => exact absurd hother hstate
    | ending => exact .nothing rfl rfl
  case pos =>
    refine ends_accept hstate (fun r t hskipped hfed => ?skipped)
      (fun e t segment hread _ hne hfails hfed => ?undelivered)
      fun u segment hread hcounts htaken hfed => ?delivered
    case skipped =>
      rw [passed_of_skipped hskipped]
      exact .nothing hfed.carrier (by rw [Scene.written, hfed.stream]; rfl)
    case undelivered =>
      rw [passed_of_fault hread hfails]
      refine .nothing hfed.carrier ?_
      rw [Scene.written, hfed.stream, if_neg hne, Scene.written]
      cases hu : s.conn.stream with
      | none => rfl
      | some u =>
        obtain ⟨fault, hfault⟩ := hfails u hu
        exact hgot.send_error hfault
    case delivered =>
      rw [passed_of_taken hstate hread hcounts htaken]
      have hwritten : u.written got = s.written got ++ segment.data := by
        rw [Scene.written, hfed.stream, Scene.written]
        split
        · next hnone => rw [hnone, List.append_nil]
        · next hne =>
          obtain ⟨v, n, hv, hsend⟩ := htaken hne
          rw [hv]
          exact hgot.send_ok hsend
      exact (ends_afterwards _ u).mono fun r t ht => ⟨u, hfed.carrier, hwritten, .inr ht⟩

end

/-! ## Runs -/

namespace Event

/-- Where a connection is left alone, nothing is written to its stream. -/
def Leaves (got : σ → Bytes) : Event κ ω σ → Prop
  | drift stream _ _ => ∀ u, got (stream u) = got u
  | _ => True

/-- What is written to the stream at an event. -/
def passed [LocalStream σ] (port : UInt16) (s : Scene (Recorded κ) ω σ) : Event κ ω σ → Bytes
  | accept packet _ => Connection.passed port packet s.conn
  | _ => []

/-- What is written to the stream at some events in turn. -/
def passedAll [Platform ω σ] (link : Link κ ω) (port : UInt16) :
    List (Event κ ω σ) → Scene (Recorded κ) ω σ → Bytes
  | [], _ => []
  | e :: rest, s => e.passed port s ++ passedAll link port rest (e.run link s)

variable [Platform ω σ] {got : σ → Bytes} (link : Link κ ω) {s : Scene (Recorded κ) ω σ}

theorem run_written (hgot : Sink ω got) (e : Event κ ω σ) (he : e.Leaves got)
    (hlisten : s.conn.state ≠ .listen) :
    (e.run link s).written got = s.written got ++ e.passed s.conn.remote.port s := by
  cases e with
  | accept packet now => exact (accept_writes hgot packet now hlisten).afterwards.written hgot
  | pump =>
    have hwritten : (pump.run link s).written got = s.written got :=
      (pump_written hgot s).afterwards
    simp only [hwritten, passed, List.append_nil]
  | drift stream carrier host =>
    simp only [passed, List.append_nil, Scene.written, run, Option.map_map]
    exact congrArg (·.getD []) (Option.map_congr fun u _ => he u)

/-- A connection stays started over a run, and its flow keeps its port. -/
theorem runAll_started (events : List (Event κ ω σ))
    (hstarted : s.conn.state ≠ .closed ∧ s.conn.state ≠ .listen) :
    (runAll link events s).conn.state ≠ .listen
      ∧ (runAll link events s).conn.remote.port = s.conn.remote.port := by
  induction events generalizing s with
  | nil => exact ⟨hstarted.2, rfl⟩
  | cons e rest ih =>
    have hadvance := e.run_advance link s hstarted
    obtain ⟨hlisten, hport⟩ := ih (hadvance.started hstarted)
    exact ⟨hlisten, hport.trans hadvance.port⟩

/-- What was written over a run is what was passed at its events. -/
theorem runAll_written (hgot : Sink ω got) {port : UInt16} (events : List (Event κ ω σ))
    (hevents : ∀ e ∈ events, e.Leaves got)
    (hstarted : s.conn.state ≠ .closed ∧ s.conn.state ≠ .listen)
    (hport : s.conn.remote.port = port) :
    (runAll link events s).written got = s.written got ++ passedAll link port events s := by
  induction events generalizing s with
  | nil => exact (List.append_nil _).symm
  | cons e rest ih =>
    obtain ⟨he, hrest⟩ := List.forall_mem_cons.1 hevents
    have hadvance := e.run_advance link s hstarted
    have hstep := e.run_written link hgot he hstarted.2
    rw [hport] at hstep
    calc (runAll link rest (e.run link s)).written got
        = (e.run link s).written got ++ passedAll link port rest (e.run link s) :=
          ih hrest (hadvance.started hstarted) (hadvance.port.trans hport)
      _ = s.written got ++ passedAll link port (e :: rest) s := by
          rw [hstep, List.append_assoc, passedAll]

end Event

/-- What is said about what a connection writes from the scene `s` on, in which its flow was just
opened from a port. -/
structure Writing [Platform ω σ] (got : σ → Bytes) (link : Link κ ω) (port : UInt16)
    (s : Scene (Recorded κ) ω σ) : Prop where
  /-- The stream is not open yet. -/
  unopened : s.conn.stream = none
  /-- Over any events, the stream was written what the accepted packets passed, in their order. -/
  written : ∀ events : List (Event κ ω σ), (∀ e ∈ events, e.Leaves got) →
    (Event.runAll link events s).written got = Event.passedAll link port events s
  /-- What a packet passes is written before anything is handed over for it. -/
  first : ∀ (events : List (Event κ ω σ)) packet now,
    WritesFirst got (recorded link)
      (passed port packet (Event.runAll link events s).conn) (Event.runAll link events s)
      (Event.runAll link (events ++ [.accept packet now]) s)

/-- **What is written to the stream.** Whatever a connection went through before, starting it writes
nothing, and from then on its stream gets the data of the packets that it accepts while it is
established, each once and in the order in which they came. -/
theorem written_in_order [Platform ω σ] {got : σ → Bytes} (hgot : Sink ω got) (link : Link κ ω)
    (key : Flow.Key) (gateway : Endpoint) (relaySize : Nat) (random : Generator) (created : Nat)
    (carrier : Recorded κ) (host : Host ω) (moments : List (Moment (Recorded κ) ω σ))
    (packet : Ipv4.Packet) (now : Nat) :
    let s := Moment.goAll (recorded link) moments
      ⟨fresh key gateway relaySize random created, carrier, host⟩
    Ends (start (recorded link) packet now) s fun r t =>
      t.conn.stream = s.conn.stream ∧ ∀ d, r = .ok d → ∃ opening,
        Segment.ofBytes? packet.payload = some opening ∧ Writing got link opening.sourcePort t := by
  intro s
  have hfresh : (fresh key gateway relaySize random created : Connection σ).Resting :=
    .of_closed rfl rfl
  have hs : s.conn.Resting := Resting.goAll (s := ⟨_, carrier, host⟩) hfresh _ moments
  by_cases hclosed : s.conn.state = .closed
  case neg =>
    rw [Ends, start_of_ne_closed _ _ _ hclosed]
    exact ⟨rfl, fun _ hok => by cases hok⟩
  refine ((start_edge packet now hs hclosed).and
    (start_ends advance_relayed packet now hclosed)).mono fun r t h => ?_
  obtain ⟨⟨hrest, -, hstate⟩, hstarted⟩ := h
  have hnone : t.conn.stream = none := by
    refine hrest.stream_eq_none ?_
    rcases hstate with ⟨-, hstate⟩ | ⟨-, hstate⟩
    all_goals simp [hstate]
  refine ⟨hnone.trans (hs.stream_eq_none (by simp [hclosed])).symm, fun d hd => ?_⟩
  subst hd
  obtain ⟨opening, _, _, _, hread, _, _, _, _, _, _, _, hstate, hport, _, _⟩ := hstarted.answered
  have hstarted : t.conn.state ≠ .closed ∧ t.conn.state ≠ .listen := by simp [hstate]
  have hwritten : t.written got = [] := by simp [Scene.written, hnone]
  refine ⟨opening, hread, hnone, fun events hevents => ?_, fun events packet now => ?_⟩
  · rw [Event.runAll_written link hgot events hevents hstarted hport, hwritten, List.nil_append]
  · obtain ⟨hlisten, hport'⟩ := Event.runAll_started link events hstarted
    rw [Event.runAll_append, ← hport, ← hport']
    exact (accept_writes hgot packet now hlisten).afterwards

/-- The application behind a simulated stream got what was written to it. -/
theorem app_sink : Sink Simulation.World Simulation.App.got where
  send {data u r v} h := by
    simp only [LocalStream.send, Simulation.App.send] at h
    split at h
    · next fault _ =>
      cases h
      exact .inl ⟨⟨.other fault, rfl⟩, rfl⟩
    · cases h
      exact .inr ⟨rfl, rfl⟩
  available u := by
    simp only [LocalStream.available, Simulation.App.available]
    split <;> rfl
  receive n u := by
    simp only [LocalStream.receive, Simulation.App.receive]
    split
    · rfl
    · split <;> rfl
  connect {near world world' u} h := by
    simp only [Platform.connect, Simulation.World.connect] at h
    split at h
    · cases h
    · cases h
      rfl

/-- The handshake is completed with data, and the stream fails at the second of three segments. -/
def sampleArrivals : List (Event Unit Simulation.World Simulation.App) :=
  [.accept (sampleSegment (.ofOctets 55 55 55 55) Flags.ack [9]) 0,
    .accept (sampleSegment (.ofOctets 55 55 55 55) (Flags.ack ||| Flags.psh) [1, 2]) 0,
    .drift (·.edit (.sendFault (some "full"))) id id,
    .accept (sampleSegment (.ofOctets 55 55 55 55) (Flags.ack ||| Flags.psh) [3]) 0,
    .drift (·.edit (.sendFault none)) id id,
    .pump,
    .accept (sampleSegment (.ofOctets 55 55 55 55) (Flags.ack ||| Flags.psh) [4]) 0]

/-- The stream gets the data of the first and the third of them. -/
theorem written_of_arrivals :
    Sink Simulation.World Simulation.App.got ∧
      Ends (start (recorded sampleLink) (sampleSegment (.ofOctets 55 55 55 55) Flags.syn []) 0)
        sampleScene fun _ t =>
          (Event.runAll sampleLink sampleArrivals t).written Simulation.App.got = [1, 2, 4] := by
  have hleaves : ∀ e ∈ sampleArrivals, e.Leaves Simulation.App.got := by
    simp [sampleArrivals, Event.Leaves, Simulation.App.edit]
  have hstart : start (recorded sampleLink) (sampleSegment (.ofOctets 55 55 55 55) Flags.syn []) 0
      sampleScene = .ok .proceed (afterwards (start (recorded sampleLink)
        (sampleSegment (.ofOctets 55 55 55 55) Flags.syn []) 0) sampleScene) := by
    rfl
  obtain ⟨-, hwriting⟩ := (written_in_order app_sink sampleLink sampleScene.conn.key
    sampleScene.conn.gateway 1024 ⟨1, 0⟩ 0 ⟨[], ()⟩ ⟨{}, []⟩ [] _ 0).of_ok hstart
  obtain ⟨opening, hread, hwriting⟩ := hwriting .proceed rfl
  have hport : opening.sourcePort = 40000 := by
    have hread' : (Segment.ofBytes?
        (sampleSegment (.ofOctets 55 55 55 55) Flags.syn []).payload).map (·.sourcePort) =
          some 40000 := by
      decide +kernel
    rw [hread] at hread'
    exact Option.some.inj hread'
  refine ⟨app_sink, ?_⟩
  rw [Ends, hstart]
  refine (hwriting.written sampleArrivals hleaves).trans ?_
  rw [hport]
  decide +kernel

end Connection

end Tcp

end Ipsec
