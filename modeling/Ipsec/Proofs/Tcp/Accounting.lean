import Ipsec.Proofs.Tcp.Outcomes
import Ipsec.Proofs.Tcp.Segment
import Ipsec.Simulation.World

/-!
# The sequence numbers of a connection

A connection counts the segments that it hands to its link and the segments that it takes. The
first count is advanced by `reply`, the second by `handleEstablished`, and either may fail right
before or right after. `Advance n s t` says what one step does to both: it takes `n` segments and
then hands some packets over, numbered in turn, each acknowledging all that was taken. Replies,
drains and events are shown to be advances, and `sequence_accounting` follows the two counts from
the opening segment through any run.
-/

namespace Ipsec.Tcp

open LocalStream (Used)

variable {κ ω σ : Type}

/-! ## Links that keep a record -/

/-- The state of a link, with the packets that it was handed. -/
structure Recorded (κ : Type) where
  /-- The packets, the first one first. -/
  handed : List Ipv4.Packet
  /-- The state of the link. -/
  carrier : κ

/-- The link with a record of the packets that it is handed, whether or not it can send them. -/
def recorded (link : Link κ ω) : Link (Recorded κ) ω := fun packet receiver record host =>
  let (result, carrier, host) := link packet receiver record.carrier host
  (result, ⟨record.handed ++ [packet], carrier⟩, host)

/-- The packets carry segments that are numbered in turn and all acknowledge the same number. -/
def Numbered (first acknowledged : UInt32) : List Ipv4.Packet → Prop
  | [] => True
  | p :: rest =>
    (∃ segment, Segment.ofBytes? p.payload = some segment ∧ segment.sequence = first
      ∧ segment.acknowledgement = acknowledged)
      ∧ Numbered (first + 1) acknowledged rest

theorem add_ofNat_succ (first : UInt32) (n : Nat) :
    first + 1 + UInt32.ofNat n = first + UInt32.ofNat (n + 1) := by
  rw [UInt32.add_assoc, UInt32.add_comm 1, UInt32.ofNat_add n 1]
  rfl

theorem add_ofNat_add (first : UInt32) (m n : Nat) :
    first + UInt32.ofNat m + UInt32.ofNat n = first + UInt32.ofNat (m + n) := by
  rw [UInt32.add_assoc, UInt32.ofNat_add]

namespace Numbered

variable {first acknowledged : UInt32}

theorem append {packets more : List Ipv4.Packet} (h : Numbered first acknowledged packets)
    (h' : Numbered (first + UInt32.ofNat packets.length) acknowledged more) :
    Numbered first acknowledged (packets ++ more) := by
  induction packets generalizing first with
  | nil => simpa using h'
  | cons p rest ih =>
    refine ⟨h.1, ih h.2 ?_⟩
    rwa [add_ofNat_succ]

theorem sequence_eq {packets : List Ipv4.Packet} (h : Numbered first acknowledged packets)
    {k : Nat} {p : Ipv4.Packet} (hp : packets[k]? = some p) :
    ∃ segment, Segment.ofBytes? p.payload = some segment
      ∧ segment.sequence = first + UInt32.ofNat k := by
  induction packets generalizing first k with
  | nil => simp at hp
  | cons q rest ih =>
    cases k with
    | zero =>
      obtain ⟨⟨segment, hread, hsequence, _⟩, _⟩ := h
      cases hp
      exact ⟨segment, hread, by simpa using hsequence⟩
    | succ k =>
      obtain ⟨segment, hread, hsequence⟩ := ih h.2 hp
      exact ⟨segment, hread, by rw [hsequence, add_ofNat_succ]⟩

theorem acknowledgement_eq {packets : List Ipv4.Packet} (h : Numbered first acknowledged packets)
    {p : Ipv4.Packet} (hp : p ∈ packets) :
    ∃ segment, Segment.ofBytes? p.payload = some segment
      ∧ segment.acknowledgement = acknowledged := by
  induction packets generalizing first with
  | nil => simp at hp
  | cons q rest ih =>
    rcases List.mem_cons.1 hp with rfl | hp
    · obtain ⟨⟨segment, hread, _, hacknowledged⟩, _⟩ := h
      exact ⟨segment, hread, hacknowledged⟩
    · exact ih h.2 hp

end Numbered

/-! ## Advances -/

/-- From `s` to `t` a connection takes `taken` segments and then hands over some packets. -/
structure Advance (taken : Nat) (s t : Scene (Recorded κ) ω σ) : Prop where
  /-- A connection that was started stays so. -/
  started : s.conn.state ≠ .closed ∧ s.conn.state ≠ .listen →
    t.conn.state ≠ .closed ∧ t.conn.state ≠ .listen
  /-- The flow's port stays. -/
  port : t.conn.remote.port = s.conn.remote.port
  /-- The remote sequence counts what is taken. -/
  remoteSequence : t.conn.remoteSequence = s.conn.remoteSequence + UInt32.ofNat taken
  /-- The local sequence counts what is handed over, in packets that are numbered by it. -/
  handed : ∃ packets, t.carrier.handed = s.carrier.handed ++ packets
    ∧ t.conn.localSequence = s.conn.localSequence + UInt32.ofNat packets.length
    ∧ Numbered s.conn.localSequence t.conn.remoteSequence packets

namespace Advance

variable {s t u : Scene (Recorded κ) ω σ} {taken : Nat}

/-- What neither counts nor hands over is no advance. -/
theorem still (hstate : s.conn.state ≠ .closed ∧ s.conn.state ≠ .listen →
      t.conn.state ≠ .closed ∧ t.conn.state ≠ .listen)
    (hport : t.conn.remote.port = s.conn.remote.port)
    (hremote : t.conn.remoteSequence = s.conn.remoteSequence + UInt32.ofNat taken)
    (hlocal : t.conn.localSequence = s.conn.localSequence)
    (hhanded : t.carrier.handed = s.carrier.handed) : Advance taken s t :=
  ⟨hstate, hport, hremote, [], by simpa using hhanded, by simpa using hlocal, trivial⟩

theorem refl (s : Scene (Recorded κ) ω σ) : Advance 0 s s :=
  still id rfl (by simp) rfl rfl

theorem trans (h : Advance taken s t) (h' : Advance 0 t u) : Advance taken s u := by
  obtain ⟨packets, hhanded, hlocal, hnumbered⟩ := h.handed
  obtain ⟨more, hhanded', hlocal', hnumbered'⟩ := h'.handed
  have hremote : u.conn.remoteSequence = t.conn.remoteSequence := by
    simpa using h'.remoteSequence
  refine ⟨h'.started ∘ h.started, h'.port.trans h.port, hremote.trans h.remoteSequence,
    packets ++ more, ?_, ?_, ?_⟩
  · rw [hhanded', hhanded, List.append_assoc]
  · rw [hlocal', hlocal, List.length_append, add_ofNat_add]
  · refine Numbered.append (hremote ▸ hnumbered) ?_
    rwa [← hlocal]

end Advance

namespace Connection

variable {link : Link κ ω}

/-- A reply is numbered by the local sequence, and acknowledges what was taken. -/
theorem reply_advance (flags : Flags) (data : Bytes) (s : Scene (Recorded κ) ω σ) :
    Ends (reply (recorded link) flags data) s fun _ t => Advance 0 s t := by
  refine ends_reply (fun _ _ _ => .still id rfl (by simp) rfl rfl) fun p hp random => ?_
  refine ends_handOver fun result record host hlink => ?_
  have hrecord : record.handed = s.carrier.handed ++ [p] := by
    rw [← congrArg (·.2.1.handed) hlink]
    rfl
  refine ⟨id, rfl, by simp, [p], hrecord, rfl, ⟨_, Segment.ofBytes?_wrap hp, rfl, rfl⟩, trivial⟩

theorem advance_relayed [LocalStream σ] :
    Relayed (σ := σ) (recorded link) (Advance 0) where
  refl := .refl
  trans := .trans
  reply := reply_advance
  shrink s := .still id rfl (by simp) rfl rfl
  used s _ _ _ _ := .still id rfl (by simp) rfl rfl

/-! ## Segments taken -/

/-- The connection is established, and the packet holds a segment that counts for its flow. -/
def takes (packet : Ipv4.Packet) (c : Connection σ) : Bool :=
  match Segment.ofBytes? packet.payload with
  | none => false
  | some segment => c.state = .established && segment.countsFor c.remote.port

/-- An established connection advances by one exactly at a segment that counts. -/
theorem Taken.advance {segment : Segment} {s t : Scene (Recorded κ) ω σ}
    {r : Except TcpError Disposition} (h : Taken (Advance 0) segment s r t) :
    Advance (segment.countsFor s.conn.remote.port).toNat s t := by
  cases h with
  | ignored hnoted hignored =>
    have hc : segment.countsFor s.conn.remote.port = false := by
      rcases hignored with h | h <;> simp [Segment.countsFor, h]
    rw [hc]
    exact .still id rfl (by simp) rfl rfl
  | reset hnoted hport hsyn hrst =>
    have hc : segment.countsFor s.conn.remote.port = false := by simp [Segment.countsFor, hrst]
    rw [hc]
    exact .still (fun _ => by simp) rfl (by simp) rfl rfl
  | empty hflags hdata =>
    have hc : segment.countsFor s.conn.remote.port = false := by
      simp [Segment.countsFor, hflags, hdata]
    rw [hc]
    exact .still id rfl (by simp) rfl rfl
  | counted hcounts hnoted hR hok herror =>
    rw [hcounts]
    refine Advance.trans ?_ hR
    exact .still id rfl rfl rfl rfl

/-- A connection that was started advances by one exactly at a packet that it takes. -/
theorem accept_advance [Platform ω σ] (packet : Ipv4.Packet) (now : Nat)
    (s : Scene (Recorded κ) ω σ) (hstarted : s.conn.state ≠ .closed ∧ s.conn.state ≠ .listen) :
    Ends (accept (recorded link) packet now) s fun _ t =>
      Advance (takes packet s.conn).toNat s t := by
  refine (accept_ends advance_relayed packet now s).mono fun r t h => ?_
  have hcontact : Advance 0 s { s with conn := { s.conn with lastContact := now } } :=
    .still id rfl (by simp) rfl rfl
  unfold takes
  cases h with
  | unreadable hread =>
    rw [hread]
    exact .still id rfl (by simp) rfl rfl
  | closed hstate => exact absurd hstate hstarted.1
  | listening _ hstate => exact absurd hstate hstarted.2
  | answered hread hstate h =>
    have hstate : s.conn.state = .synReceived := hstate
    simp only [hread, hstate]
    cases h with
    | refused => exact hcontact
    | unopened => exact .still id rfl (by simp) rfl rfl
    | resumed => exact .still (fun _ => ⟨nofun, nofun⟩) rfl (by simp) rfl rfl
    | opened => exact .still (fun _ => ⟨nofun, nofun⟩) rfl (by simp) rfl rfl
  | established hread hstate h =>
    have hstate : s.conn.state = .established := hstate
    have h := h.advance
    simp only [hread, hstate]
    exact ⟨h.started, h.port, h.remoteSequence, h.handed⟩
  | ending hread hstate =>
    have hstate : s.conn.state ≠ .established := by
      intro he
      simp [he] at hstate
    simp only [hread, hstate]
    exact .still id rfl (by simp) rfl rfl

theorem pump_advance [LocalStream σ] (s : Scene (Recorded κ) ω σ) :
    Ends (pump (recorded link)) s fun _ t => Advance 0 s t :=
  (pump_ends advance_relayed s).mono fun _ _ h => h.1

/-! ## Runs -/

/-- What can happen to a connection that was started. -/
inductive Event (κ ω σ : Type) where
  /-- It accepts a packet. -/
  | accept (packet : Ipv4.Packet) (now : Nat)
  /-- It is pumped. -/
  | pump
  /-- Its stream, its link and its host go on without it. -/
  | drift (stream : σ → σ) (carrier : κ → κ) (host : Host ω → Host ω)

namespace Event

variable [Platform ω σ]

/-- What an event makes of a scene, whether or not the connection fails. -/
def run (link : Link κ ω) (s : Scene (Recorded κ) ω σ) :
    Event κ ω σ → Scene (Recorded κ) ω σ
  | accept packet now => afterwards (Connection.accept (recorded link) packet now) s
  | pump => afterwards (Connection.pump (recorded link)) s
  | drift stream carrier host =>
    { conn := { s.conn with stream := s.conn.stream.map stream }
      carrier := { s.carrier with carrier := carrier s.carrier.carrier }
      host := host s.host }

/-- What some events make of a scene in turn. -/
def runAll (link : Link κ ω) (events : List (Event κ ω σ)) (s : Scene (Recorded κ) ω σ) :
    Scene (Recorded κ) ω σ :=
  events.foldl (run link) s

/-- The number of segments that a connection takes at an event. -/
def taken (s : Scene (Recorded κ) ω σ) : Event κ ω σ → Nat
  | accept packet _ => (takes packet s.conn).toNat
  | _ => 0

/-- The number of segments that a connection takes at some events in turn. -/
def takenAll (link : Link κ ω) : List (Event κ ω σ) → Scene (Recorded κ) ω σ → Nat
  | [], _ => 0
  | e :: rest, s => e.taken s + takenAll link rest (e.run link s)

variable (link) in
/-- A connection that was started advances at every event. -/
theorem run_advance (e : Event κ ω σ) (s : Scene (Recorded κ) ω σ)
    (hstarted : s.conn.state ≠ .closed ∧ s.conn.state ≠ .listen) :
    Advance (e.taken s) s (e.run link s) := by
  cases e with
  | accept packet now => exact (accept_advance packet now s hstarted).afterwards
  | pump => exact (pump_advance s).afterwards
  | drift => exact .still id rfl (by simp [taken, run]) rfl rfl

theorem runAll_append (link : Link κ ω) (events more : List (Event κ ω σ))
    (s : Scene (Recorded κ) ω σ) :
    runAll link (events ++ more) s = runAll link more (runAll link events s) :=
  List.foldl_append

end Event

/-! ## Accounts -/

/-- The counts of a connection whose flow was opened by a segment, whose local sequence began with
`first`, and which took `taken` segments since. -/
structure Accounts (opening : Segment) (first : Nat) (taken : Nat)
    (s : Scene (Recorded κ) ω σ) : Prop where
  /-- The connection stays started. -/
  started : s.conn.state ≠ .closed ∧ s.conn.state ≠ .listen
  /-- The flow's port is that of the opening segment. -/
  port : s.conn.remote.port = opening.sourcePort
  /-- The local sequence counts the segments handed over. -/
  localSequence :
    s.conn.localSequence = UInt32.ofNat first + UInt32.ofNat s.carrier.handed.length
  /-- The remote sequence counts the opening segment and the segments taken. -/
  remoteSequence : s.conn.remoteSequence = opening.sequence + 1 + UInt32.ofNat taken
  /-- The segments handed over are numbered in turn. -/
  sequence : ∀ k p, s.carrier.handed[k]? = some p →
    ∃ segment, Segment.ofBytes? p.payload = some segment
      ∧ segment.sequence = UInt32.ofNat first + UInt32.ofNat k

/-- An advance keeps the accounts. -/
theorem Accounts.advance {opening : Segment} {first taken more : Nat}
    {s t : Scene (Recorded κ) ω σ} (h : Accounts opening first taken s) (ha : Advance more s t) :
    Accounts opening first (taken + more) t := by
  obtain ⟨packets, hhanded, hlocal, hnumbered⟩ := ha.handed
  refine ⟨ha.started h.started, ha.port.trans h.port, ?_, ?_, fun k p hp => ?_⟩
  · rw [hlocal, h.localSequence, hhanded, List.length_append, add_ofNat_add]
  · rw [ha.remoteSequence, h.remoteSequence, add_ofNat_add]
  · rw [hhanded] at hp
    rcases Nat.lt_or_ge k s.carrier.handed.length with hk | hk
    · rw [List.getElem?_append_left hk] at hp
      exact h.sequence k p hp
    · rw [List.getElem?_append_right hk] at hp
      obtain ⟨segment, hread, hsequence⟩ := hnumbered.sequence_eq hp
      refine ⟨segment, hread, ?_⟩
      rw [hsequence, h.localSequence, add_ofNat_add, Nat.add_sub_cancel' hk]

variable (link) in
/-- Every run keeps the accounts. -/
theorem Accounts.runAll [Platform ω σ] {opening : Segment} {first taken : Nat}
    {s : Scene (Recorded κ) ω σ} (h : Accounts opening first taken s)
    (events : List (Event κ ω σ)) :
    Accounts opening first (taken + Event.takenAll link events s) (Event.runAll link events s) := by
  induction events generalizing taken s with
  | nil => exact h
  | cons e rest ih =>
    have hstep := h.advance (e.run_advance link s h.started)
    have hrest := ih hstep
    rwa [Nat.add_assoc] at hrest

/-- From `s` to `t` one segment with the given flags was handed over. -/
structure Handed (flags : Flags) (s t : Scene (Recorded κ) ω σ) : Prop where
  /-- The segment is numbered by the local sequence, and acknowledges what was taken. -/
  packet : ∃ p reply, t.carrier.handed = s.carrier.handed ++ [p]
    ∧ Segment.ofBytes? p.payload = some reply ∧ reply.flags = flags
    ∧ reply.sequence = s.conn.localSequence ∧ reply.acknowledgement = s.conn.remoteSequence
  localSequence : t.conn.localSequence = s.conn.localSequence + 1
  remoteSequence : t.conn.remoteSequence = s.conn.remoteSequence
  remote : t.conn.remote = s.conn.remote

/-- A reply that succeeds hands one segment over. -/
theorem reply_handed (flags : Flags) (data : Bytes) (s : Scene (Recorded κ) ω σ) :
    Ends (reply (recorded link) flags data) s fun r t => r = .ok () → Handed flags s t := by
  refine ends_reply (fun _ _ _ => nofun) fun p hp random => ?_
  refine ends_handOver fun _ record _ hlink _ => ?_
  have hrecord : record.handed = s.carrier.handed ++ [p] := by
    rw [← congrArg (·.2.1.handed) hlink]
    rfl
  exact ⟨⟨p, _, hrecord, Segment.ofBytes?_wrap hp, rfl, rfl, rfl⟩, rfl, rfl, rfl⟩

/-- What is said about the numbers of a connection from the scene `s` on, in which its flow was
just opened. -/
structure Accounting [Platform ω σ] (link : Link κ ω) (opening : Segment) (first : Nat)
    (s : Scene (Recorded κ) ω σ) : Prop where
  /-- The first local sequence is drawn from these numbers. -/
  first_mem : 100 ≤ first ∧ first < 65000
  /-- The flow is opened by a plain opening segment. -/
  flags : opening.flags = Flags.syn
  /-- One segment was handed over, which answers the opening segment. -/
  answer : ∃ p reply, s.carrier.handed = [p] ∧ Segment.ofBytes? p.payload = some reply
    ∧ reply.flags = Flags.syn ||| Flags.ack ∧ reply.sequence = UInt32.ofNat first
    ∧ reply.acknowledgement = opening.sequence + 1
  /-- After any events the sequences count what was handed over and what was taken. -/
  accounts : ∀ events, Accounts opening first (Event.takenAll link events s)
    (Event.runAll link events s)
  /-- What an event hands over acknowledges all that was taken, up to and at that event. -/
  acknowledgement : ∀ events e, ∃ packets,
    (Event.runAll link (events ++ [e]) s).carrier.handed =
      (Event.runAll link events s).carrier.handed ++ packets
    ∧ ∀ p ∈ packets, ∃ segment, Segment.ofBytes? p.payload = some segment
      ∧ segment.acknowledgement = (Event.runAll link (events ++ [e]) s).conn.remoteSequence

/-- A connection that was started has handed over its answer, and nothing else. -/
theorem Started.answered [Platform ω σ] {packet : Ipv4.Packet} {now : Nat}
    {s t : Scene (Recorded κ) ω σ} {d : Disposition}
    (h : Started (recorded link) (Advance 0) packet now s (.ok d) t) :
    ∃ opening first p reply, Segment.ofBytes? packet.payload = some opening
      ∧ opening.flags = Flags.syn ∧ (100 ≤ first ∧ first < 65000)
      ∧ t.carrier.handed = s.carrier.handed ++ [p] ∧ Segment.ofBytes? p.payload = some reply
      ∧ reply.flags = Flags.syn ||| Flags.ack ∧ reply.sequence = UInt32.ofNat first
      ∧ reply.acknowledgement = opening.sequence + 1 ∧ t.conn.state = .synReceived
      ∧ t.conn.remote.port = opening.sourcePort
      ∧ t.conn.localSequence = UInt32.ofNat first + 1
      ∧ t.conn.remoteSequence = opening.sequence + 1 := by
  cases h with
  | handled hfirst h =>
    cases h with
    | listening hread hstate h =>
      cases h with
      | answered hflags hreply =>
        have hhanded := (reply_handed _ _ _).of_ok hreply rfl
        obtain ⟨p, reply, hp, hreadp, hsynack, hsequence, hacknowledgement⟩ := hhanded.packet
        exact ⟨_, _, p, reply, hread, hflags, hfirst, hp, hreadp, hsynack, hsequence,
          hacknowledgement, rfl, congrArg Ipv4Endpoint.port hhanded.remote,
          hhanded.localSequence, hhanded.remoteSequence⟩
    | answered _ hstate => cases hstate
    | established _ hstate => cases hstate
    | ending _ hstate => simp [listening] at hstate

/-- **Sequence accounting.** Once an opening segment has started a connection, its sequence numbers
count the segments handed over and the segments taken, in every run. -/
theorem sequence_accounting [Platform ω σ] (link : Link κ ω) (packet : Ipv4.Packet) (now : Nat)
    (conn : Connection σ) (carrier : κ) (host : Host ω) {d : Disposition}
    {s : Scene (Recorded κ) ω σ}
    (h : start (recorded link) packet now ⟨conn, ⟨[], carrier⟩, host⟩ = .ok d s) :
    ∃ opening first, Segment.ofBytes? packet.payload = some opening
      ∧ Accounting link opening first s := by
  have hclosed : conn.state = .closed := by
    refine Decidable.byContradiction fun hstate => ?_
    simp [start, hstate] at h
  obtain ⟨opening, first, p, reply, hread, hflags, hfirst, hp, hreadp, hsynack, hsequence,
    hacknowledgement, hstate, hport, hlocal, hremote⟩ :=
      ((start_ends advance_relayed packet now hclosed).of_ok h).answered
  have haccounts : Accounts opening first 0 s := by
    refine ⟨by simp [hstate], hport, ?_, by simpa using hremote, fun k q hq => ?_⟩
    · rw [hlocal, hp]
      rfl
    · rw [hp] at hq
      obtain ⟨rfl, rfl⟩ : k = 0 ∧ p = q := by
        cases k <;> simp_all
      exact ⟨reply, hreadp, by simpa using hsequence⟩
  refine ⟨opening, first, hread, hfirst, hflags,
    ⟨p, reply, hp, hreadp, hsynack, hsequence, hacknowledgement⟩, fun events => ?_,
    fun events e => ?_⟩
  · simpa using haccounts.runAll link events
  · have hrun := (haccounts.runAll link events).started
    have hstep := e.run_advance link _ hrun
    obtain ⟨packets, hhanded, _, hnumbered⟩ := hstep.handed
    rw [Event.runAll_append]
    exact ⟨packets, hhanded, fun q hq => hnumbered.acknowledgement_eq hq⟩

/-- A packet that opens a flow. -/
def sampleOpening : Ipv4.Packet where
  header :=
    { (default : Ipv4.Header) with
      totalLength := 40
      identification := 1
      dontFragment := true
      timeToLive := 64
      protocol := Protocol.tcp
      source := .ofOctets 10 0 0 5
      destination := .ofOctets 10 0 0 9 }
  payload :=
    { sourcePort := 4321
      destinationPort := 80
      sequence := 0xffffffff
      acknowledgement := 0
      flags := Flags.syn
      window := 1024
      data := []  : Segment }.toBytes

/-- A link that sends nothing and never fails. -/
def sampleLink : Link Unit Simulation.World := fun _ _ carrier host => (.ok (), carrier, host)

/-- A connection that was not started, with nothing handed over yet. -/
def sampleScene : Scene (Recorded Unit) Simulation.World Simulation.App where
  conn := fresh ⟨.ofOctets 10 0 0 5, 80⟩ (.v4 ⟨.ofOctets 203 0 113 1, 4500⟩) 1024 ⟨1, 0⟩ 0
  carrier := ⟨[], ()⟩
  host := ⟨{}, []⟩

/-- The packet starts the connection, and its sequences are accounted for from then on. -/
theorem accounting_of_opening :
    start (recorded sampleLink) sampleOpening 0 sampleScene =
        .ok .proceed (afterwards (start (recorded sampleLink) sampleOpening 0) sampleScene) ∧
      ∃ opening first, Segment.ofBytes? sampleOpening.payload = some opening ∧
        Accounting sampleLink opening first
          (afterwards (start (recorded sampleLink) sampleOpening 0) sampleScene) := by
  have hstart : start (recorded sampleLink) sampleOpening 0 sampleScene =
      .ok .proceed (afterwards (start (recorded sampleLink) sampleOpening 0) sampleScene) := by
    rfl
  exact ⟨hstart, sequence_accounting sampleLink sampleOpening 0 sampleScene.conn () ⟨{}, []⟩ hstart⟩

end Connection

end Ipsec.Tcp
