import Ipsec.Proofs.Ip.Outgoing
import Ipsec.Proofs.Tcp.Collision
import Ipsec.Proofs.Tcp.Lifecycle

/-!
# Segments that a connection sends are well formed

`Formed` is what a receiver may rely on in a packet with a segment: the packet was made here, it is
read back from its bytes and so is the segment, the header adds up, and so does the segment with its
pseudo header. A segment that is wrapped is formed (`Segment.formed_of_wrap`), so a reply hands one
formed packet to the gateway of the connection, or none at all if its data is too long
(`reply_posts`, `reply_of_long`).

Over a run, a link with a record (`posted`) is handed nothing but formed packets, which bear the
endpoints, the window and the acknowledgement that the connection has then (`Speaks`). The window
is that of the last segment that the connection heeded: one that opened the flow, or one that an
established flow did not ignore (`heededAll`). The segment that completes a handshake is taken
without its window.
-/

namespace Ipsec.Tcp

variable {κ ω σ : Type}

/-! ## Formed packets -/

/-- A packet between two addresses carries a segment, and is well formed. -/
structure Formed (source destination : Ipv4Address) (segment : Segment) (p : Ipv4.Packet) :
    Prop extends p.Originates source destination Protocol.tcp where
  reads : Ipv4.Packet.ofBytes p.toBytes = .ok p
  length : p.header.totalLength.toNat = 40 + segment.data.length
  segment : ∃ checksum, Segment.ofBytes? p.payload = some { segment with checksum }
  /-- The pseudo header and the segment add up. -/
  segmentSum : Checksum.AddsUp
    (p.source.toBytes ++ p.destination.toBytes ++ [0, 6]
      ++ bytes16 (UInt16.ofNat p.payload.length) ++ p.payload)

namespace Segment

theorem length_toBytes (s : Segment) : s.toBytes.length = s.headerLength + s.data.length := by
  simp only [toBytes, headerLength, Options.length, List.length_append, List.length_cons,
    List.length_nil, length_bytes16, length_bytes32]

/-- A segment with its checksum in place adds up with its pseudo header. -/
theorem addsUp_sealed (source destination : Ipv4Address) (s : Segment) :
    Checksum.AddsUp (pseudoHeader source destination (s.headerLength + s.data.length)
      ++ { s with checksum := s.sum source destination }.toBytes) := by
  let front : Bytes := pseudoHeader source destination (s.headerLength + s.data.length)
    ++ (bytes16 s.sourcePort ++ bytes16 s.destinationPort ++ bytes32 s.sequence
      ++ bytes32 s.acknowledgement
      ++ [UInt8.ofNat ((5 + s.options.words) * 16 + s.nonce.toNat), s.flags]
      ++ bytes16 s.window)
  let back : Bytes := bytes16 s.urgent ++ (s.options.bytes ++ s.data)
  have hbytes : ∀ w, pseudoHeader source destination (s.headerLength + s.data.length)
      ++ { s with checksum := w }.toBytes = front ++ bytes16 w ++ back := by
    intro w
    simp only [toBytes, front, back, List.append_assoc]
  have heven : front.length % 2 = 0 := by simp [front, pseudoHeader, Ipv4Address.toBytes]
  rw [sum, hbytes, hbytes]
  exact Checksum.addsUp_sealed heven back

/-- A packet that carries a segment without options is well formed. -/
theorem formed_of_wrap {source destination : Ipv4Address} {identification : UInt16} {s : Segment}
    {p : Ipv4.Packet} (hoptions : s.options = .none)
    (h : s.wrap source destination identification = .ok p) :
    Formed source destination s p := by
  have hread := ofBytes?_wrap h
  unfold wrap at h
  rcases hheader : Ipv4.Header.outgoing source destination Protocol.tcp
    (s.headerLength + s.data.length) identification with e | header
  all_goals rw [hheader] at h; cases h
  have hlength : { s with checksum := s.sum source destination }.toBytes.length =
      s.headerLength + s.data.length := length_toBytes _
  rw [← hlength] at hheader
  have horiginates := Ipv4.Packet.originates_of_outgoing hheader
  refine ⟨horiginates, horiginates.ofBytes_toBytes, ?_, ⟨_, hread⟩, ?_⟩
  · have hplain : s.headerLength = 20 := by
      rw [headerLength, hoptions]
      rfl
    rw [horiginates.totalLength, hlength, hplain]
    omega
  · rw [horiginates.source, horiginates.destination, hlength]
    exact addsUp_sealed source destination s

/-- Only a segment that is too long cannot be wrapped. -/
theorem wrap_eq_error {source destination : Ipv4Address} {identification : UInt16} {s : Segment}
    {e : EspError} (h : s.wrap source destination identification = .error e) :
    65515 < s.headerLength + s.data.length ∧ e = .malformed "oversized IPv4 payload" := by
  unfold wrap at h
  rcases hheader : Ipv4.Header.outgoing source destination Protocol.tcp
    (s.headerLength + s.data.length) identification with e' | header
  all_goals rw [hheader] at h; cases h
  exact Ipv4.Header.outgoing_eq_error hheader

end Segment

/-! ## Links that keep a record of packets and receivers -/

/-- The state of a link, with what it was handed. -/
structure Posted (κ : Type) where
  /-- The packets with the endpoints they are for, the first one first. -/
  handed : List (Ipv4.Packet × Endpoint)
  /-- The state of the link. -/
  carrier : κ

/-- The link with a record of what it is handed, whether or not it can send that. -/
def posted (link : Link κ ω) : Link (Posted κ) ω := fun packet receiver record host =>
  let (result, carrier, host) := link packet receiver record.carrier host
  (result, ⟨record.handed ++ [(packet, receiver)], carrier⟩, host)

namespace Connection

variable {link : Link κ ω}

/-! ## Replies -/

/-- The packet is one that the connection hands over as it is now, but for its local sequence: it
is for the gateway, and carries a formed segment from the near to the remote endpoint. -/
structure Speaks (c : Connection σ) (p : Ipv4.Packet × Endpoint) : Prop where
  receiver : p.2 = c.gateway
  formed : ∃ sequence flags data,
    Formed c.near.address c.remote.address { c.segment flags data with sequence } p.1

/-- What a connection hands over does not depend on its other fields. -/
theorem Speaks.congr {c c' : Connection σ} {p : Ipv4.Packet × Endpoint} (h : Speaks c p)
    (hanchored : Anchored c c') (hwindow : c'.window = c.window)
    (hremote : c'.remoteSequence = c.remoteSequence) : Speaks c' p := by
  obtain ⟨hreceiver, sequence, flags, data, hformed⟩ := h
  refine ⟨hreceiver.trans hanchored.gateway.symm, sequence, flags, data, ?_⟩
  simp only [segment, hanchored.near, hanchored.remote, hwindow, hremote]
  exact hformed

/-- From `s` to `t` a connection hands over packets of its own, and keeps what they bear. -/
structure Posts (s t : Scene (Posted κ) ω σ) : Prop where
  anchored : Anchored s.conn t.conn
  window : t.conn.window = s.conn.window
  remoteSequence : t.conn.remoteSequence = s.conn.remoteSequence
  handed : ∃ packets, t.carrier.handed = s.carrier.handed ++ packets
    ∧ ∀ p ∈ packets, Speaks s.conn p

/-- From `s` to `t` one packet was handed over, for the gateway, with a formed segment that has
the given flags and data, and was counted. -/
structure Utters (flags : Flags) (data : Bytes) (s t : Scene (Posted κ) ω σ) : Prop where
  handed : ∃ p, t.carrier.handed = s.carrier.handed ++ [(p, s.conn.gateway)]
    ∧ Formed s.conn.near.address s.conn.remote.address (s.conn.segment flags data) p
  conn : ∃ random,
    t.conn = { s.conn with localSequence := s.conn.localSequence + 1, random }

/-- A reply that fits into a packet is handed over as one, whatever the link makes of it. -/
theorem reply_posts (flags : Flags) {data : Bytes} (hfits : data.length ≤ 65495)
    (s : Scene (Posted κ) ω σ) :
    Ends (reply (posted link) flags data) s fun _ t => Utters flags data s t := by
  refine ends_reply (fun e he => absurd hfits ?_) fun p hp random => ?_
  · obtain ⟨hlong, -⟩ := Segment.wrap_eq_error he
    have hplain : (s.conn.segment flags data).headerLength = 20 := rfl
    have hdata : (s.conn.segment flags data).data = data := rfl
    rw [hplain, hdata] at hlong
    omega
  · refine ends_handOver fun result record host hlink => ?_
    have hrecord : record.handed = s.carrier.handed ++ [(p, s.conn.gateway)] := by
      rw [← congrArg (·.2.1.handed) hlink]
      rfl
    exact ⟨⟨p, hrecord, Segment.formed_of_wrap rfl hp⟩, random, rfl⟩

/-- A reply that is too long for a packet fails, and nothing is handed over or counted. -/
theorem reply_of_long (link : Link κ ω) (flags : Flags) {data : Bytes}
    (hlong : 65495 < data.length) (s : Scene κ ω σ) :
    Ends (reply link flags data) s fun r t =>
      r = .error (.tunnel (.malformed "oversized IPv4 payload"))
        ∧ ∃ random, t = { s with conn := { s.conn with random } } := by
  refine ends_reply (fun e he random => ?_) fun p hp _ => ?_
  · obtain ⟨-, rfl⟩ := Segment.wrap_eq_error he
    exact ⟨rfl, random, rfl⟩
  · have hlength := (Segment.formed_of_wrap rfl hp).length
    have htotal := p.header.totalLength.toNat_lt
    have hdata : (s.conn.segment flags data).data = data := rfl
    rw [hdata] at hlength
    omega

theorem Utters.posts {flags : Flags} {data : Bytes} {s t : Scene (Posted κ) ω σ}
    (h : Utters flags data s t) : Posts s t := by
  obtain ⟨⟨p, hhanded, hformed⟩, random, hconn⟩ := h
  refine ⟨?_, by rw [hconn], by rw [hconn], [(p, s.conn.gateway)], hhanded, fun q hq => ?_⟩
  · rw [hconn]
    exact ⟨rfl, rfl, rfl, rfl⟩
  · obtain rfl := List.mem_singleton.1 hq
    exact ⟨rfl, _, flags, data, hformed⟩

namespace Posts

variable {s t u : Scene (Posted κ) ω σ}

/-- Nothing is handed over. -/
theorem nothing (hanchored : Anchored s.conn t.conn) (hwindow : t.conn.window = s.conn.window)
    (hremote : t.conn.remoteSequence = s.conn.remoteSequence)
    (hcarrier : t.carrier = s.carrier) : Posts s t :=
  ⟨hanchored, hwindow, hremote, [], by simp [hcarrier], nofun⟩

theorem refl (s : Scene (Posted κ) ω σ) : Posts s s := nothing (.refl s.conn) rfl rfl rfl

theorem trans (h : Posts s t) (h' : Posts t u) : Posts s u := by
  obtain ⟨packets, hhanded, hspeaks⟩ := h.handed
  obtain ⟨more, hhanded', hspeaks'⟩ := h'.handed
  refine ⟨h.anchored.trans h'.anchored, h'.window.trans h.window,
    h'.remoteSequence.trans h.remoteSequence, packets ++ more, ?_, fun p hp => ?_⟩
  · rw [hhanded', hhanded, List.append_assoc]
  · have hback : Anchored t.conn s.conn :=
      ⟨h.anchored.key.symm, h.anchored.gateway.symm, h.anchored.near.symm, h.anchored.remote.symm⟩
    rcases List.mem_append.1 hp with hp | hp
    · exact hspeaks p hp
    · exact (hspeaks' p hp).congr hback h.window.symm h.remoteSequence.symm

end Posts

theorem posts_relayed [LocalStream σ] : Relayed (σ := σ) (posted link) Posts where
  refl := .refl
  trans := .trans
  reply flags data s := by
    by_cases hfits : data.length ≤ 65495
    · exact (reply_posts flags hfits s).mono fun _ _ h => h.posts
    · refine (reply_of_long _ flags (Nat.lt_of_not_le hfits) s).mono ?_
      rintro _ _ ⟨-, random, rfl⟩
      exact .nothing ⟨rfl, rfl, rfl, rfl⟩ rfl rfl rfl
  shrink _ := .nothing ⟨rfl, rfl, rfl, rfl⟩ rfl rfl rfl
  used _ _ _ _ _ := .nothing ⟨rfl, rfl, rfl, rfl⟩ rfl rfl rfl

/-! ## Segments that are heeded -/

/-- The segment in a packet, if a connection that handles the packet takes over its window: it
opens a flow, or belongs to an established one and is not ignored. -/
def heeded (packet : Ipv4.Packet) (c : Connection σ) : Option Segment :=
  match c.state with
  | .listen => (Segment.ofBytes? packet.payload).filter (·.flags = Flags.syn)
  | .established =>
    (Segment.ofBytes? packet.payload).filter fun segment => !segment.collides c.remote.port
  | _ => none

/-- From `s` to `t` a connection took over the window of a segment, if of any, and handed over
packets of its own afterwards. -/
structure Heeds (segment : Option Segment) (s t : Scene (Posted κ) ω σ) : Prop where
  window : t.conn.window = (segment.map (·.window)).getD s.conn.window
  handed : ∃ packets, t.carrier.handed = s.carrier.handed ++ packets
    ∧ ∀ p ∈ packets, Speaks t.conn p

theorem Heeds.nothing {s t : Scene (Posted κ) ω σ} (hwindow : t.conn.window = s.conn.window)
    (hcarrier : t.carrier = s.carrier) : Heeds none s t :=
  ⟨hwindow, [], by simp [hcarrier], nofun⟩

/-- What is handed over after a segment is heeded bears its window. -/
theorem Posts.heeds {segment : Option Segment} {s t u : Scene (Posted κ) ω σ} (h : Posts t u)
    (hwindow : t.conn.window = (segment.map (·.window)).getD s.conn.window)
    (hcarrier : t.carrier = s.carrier) : Heeds segment s u := by
  obtain ⟨packets, hhanded, hspeaks⟩ := h.handed
  refine ⟨h.window.trans hwindow, packets, by rw [hhanded, hcarrier], fun p hp => ?_⟩
  exact (hspeaks p hp).congr h.anchored h.window h.remoteSequence

/-- What is handed over later, with the same window and acknowledgement, comes on top. -/
theorem Heeds.posts {segment : Option Segment} {s t u : Scene (Posted κ) ω σ}
    (h : Heeds segment s t) (h' : Posts t u) : Heeds segment s u := by
  obtain ⟨packets, hhanded, hspeaks⟩ := h.handed
  obtain ⟨more, hhanded', hspeaks'⟩ := h'.handed
  refine ⟨h'.window.trans h.window, packets ++ more, ?_, fun p hp => ?_⟩
  · rw [hhanded', hhanded, List.append_assoc]
  · rcases List.mem_append.1 hp with hp | hp
    · exact (hspeaks p hp).congr h'.anchored h'.window h'.remoteSequence
    · exact (hspeaks' p hp).congr h'.anchored h'.window h'.remoteSequence

section

variable [Platform ω σ] {packet : Ipv4.Packet} {s t : Scene (Posted κ) ω σ}
  {r : Except TcpError Disposition}

theorem Opened.heeds {segment : Segment} (h : Opened (posted link) packet segment s r t)
    (hread : Segment.ofBytes? packet.payload = some segment) (hstate : s.conn.state = .listen) :
    Heeds (heeded packet s.conn) s t := by
  have hheeded : heeded packet s.conn =
      if segment.flags = Flags.syn then some segment else none := by
    simp only [heeded, hstate, hread, Option.filter_some, decide_eq_true_eq]
  rw [hheeded]
  cases h with
  | refused hflags =>
    rw [if_neg hflags]
    exact .nothing rfl rfl
  | unanswered hflags hreply =>
    rw [if_pos hflags]
    exact ((posts_relayed (σ := σ).reply _ _ _).of_error hreply).heeds rfl rfl
  | @answered u hflags hreply =>
    rw [if_pos hflags]
    have hanswer : Heeds (some segment) s u :=
      ((posts_relayed (σ := σ).reply _ _ _).of_ok hreply).heeds rfl rfl
    exact hanswer.posts (.nothing ⟨rfl, rfl, rfl, rfl⟩ rfl rfl rfl)

omit [Platform ω σ] in
theorem Taken.heeds {segment : Segment} (h : Taken Posts segment s r t)
    (hbelongs : segment.collides s.conn.remote.port = false) : Heeds (some segment) s t := by
  cases h with
  | ignored _ hignored =>
    have hcollides : segment.collides s.conn.remote.port = true := by
      simpa [Segment.collides] using hignored
    rw [hbelongs] at hcollides
    cases hcollides
  | reset => exact (Posts.refl _).heeds rfl rfl
  | empty => exact (Posts.refl _).heeds rfl rfl
  | counted _ _ hposts => exact hposts.heeds rfl rfl

/-- A connection that handles a packet takes over the window of its segment exactly if it heeds
that. -/
theorem handle_heeds (packet : Ipv4.Packet) (s : Scene (Posted κ) ω σ) :
    Ends (handle (posted link) packet) s fun _ t => Heeds (heeded packet s.conn) s t := by
  -- A collision is followed by itself: the list of outcomes does not tell it from an empty
  -- acknowledgement.
  by_cases hcollision : s.conn.state = .established ∧ Holds packet (·.collides s.conn.remote.port)
  · obtain ⟨hstate, segment, hread, hcollides⟩ := hcollision
    have hheeded : heeded packet s.conn = none := by
      simp [heeded, hstate, hread, hcollides, Option.filter_some]
    unfold Ends
    rw [handle_of_collides _ hstate hread hcollides, hheeded]
    exact .nothing rfl rfl
  · refine (handle_exchanges (posts_relayed.exchanged _) s).mono fun r t h => ?_
    cases h with
    | unreadable hread =>
      have hheeded : heeded packet s.conn = none := by
        unfold heeded
        split <;> simp [hread]
      rw [hheeded]
      exact .nothing rfl rfl
    | closed hstate => simpa [heeded, hstate] using Heeds.nothing rfl rfl
    | listening hread hstate h => exact h.heeds hread hstate
    | answered _ hstate h =>
      simp only [heeded, hstate]
      cases h <;> exact .nothing rfl rfl
    | @established segment _ _ hread hstate h =>
      have hbelongs : segment.collides s.conn.remote.port = false := by
        refine Bool.eq_false_iff.2 fun hcollides => hcollision ⟨hstate, segment, hread, hcollides⟩
      have hheeded : heeded packet s.conn = some segment := by
        simp [heeded, hstate, hread, hbelongs, Option.filter_some]
      rw [hheeded]
      exact h.heeds hbelongs
    | ending _ hstate =>
      have hheeded : heeded packet s.conn = none := by
        unfold heeded
        split <;> simp_all
      rw [hheeded]
      exact .nothing rfl rfl

omit [Platform ω σ] in
theorem heeded_listening (packet : Ipv4.Packet) (first : Nat) (random : Generator)
    (c : Connection σ) :
    heeded packet (c.listening first random) = heeded packet { c with state := .listen } := rfl

theorem accept_heeds (packet : Ipv4.Packet) (now : Nat) (s : Scene (Posted κ) ω σ) :
    Ends (accept (posted link) packet now) s fun _ t => Heeds (heeded packet s.conn) s t := by
  unfold accept
  rw [ends_bind, ends_update]
  exact (handle_heeds packet _).mono fun _ _ h => ⟨h.window, h.handed⟩

theorem start_heeds (packet : Ipv4.Packet) (now : Nat) (s : Scene (Posted κ) ω σ) :
    Ends (start (posted link) packet now) s fun _ t =>
      Heeds
        (if s.conn.state = .closed then heeded packet { s.conn with state := .listen } else none)
        s t := by
  by_cases hclosed : s.conn.state = .closed
  · rw [if_pos hclosed]
    refine ends_start hclosed ((handle_heeds packet _).mono fun r t h => ?_)
    rw [heeded_listening] at h
    have hs : Heeds (heeded packet { s.conn with state := .listen }) s t := ⟨h.window, h.handed⟩
    cases r with
    | ok d => exact hs.posts (.nothing ⟨rfl, rfl, rfl, rfl⟩ rfl rfl rfl)
    | error e =>
      intro _ _ _ _ hclose _
      rw [conn_of_close hclose]
      exact hs.posts (.nothing ⟨rfl, rfl, rfl, rfl⟩ rfl rfl rfl)
  · rw [if_neg hclosed]
    unfold Ends start
    rw [if_pos hclosed]
    exact .nothing rfl rfl

/-! ## Runs -/

namespace Moment

/-- The moment on a link with a record. What goes on by itself does not see the record. -/
def onPosted : Moment κ ω σ → Moment (Posted κ) ω σ
  | start packet now => .start packet now
  | accept packet now => .accept packet now
  | pump => .pump
  | close => .close
  | drift stream carrier host =>
    .drift stream (fun record => { record with carrier := carrier record.carrier }) host

/-- The segment that a connection takes over the window of at a moment. -/
def heeded (c : Connection σ) : Moment κ ω σ → Option Segment
  | start packet _ =>
    if c.state = .closed then Connection.heeded packet { c with state := .listen } else none
  | accept packet _ => Connection.heeded packet c
  | _ => none

/-- What some moments make of a scene in turn, on a link with a record. -/
def post (link : Link κ ω) (moments : List (Moment κ ω σ)) (s : Scene (Posted κ) ω σ) :
    Scene (Posted κ) ω σ :=
  goAll (posted link) (moments.map onPosted) s

/-- The segments that a connection takes over the windows of at some moments in turn. -/
def heededAll (link : Link κ ω) : List (Moment κ ω σ) → Scene (Posted κ) ω σ → List Segment
  | [], _ => []
  | m :: rest, s => (m.heeded s.conn).toList ++ heededAll link rest (post link [m] s)

variable (link) in
theorem post_heeds (m : Moment κ ω σ) (s : Scene (Posted κ) ω σ) :
    Heeds (m.heeded s.conn) s (post link [m] s) := by
  cases m with
  | start packet now => exact (start_heeds packet now s).afterwards
  | accept packet now => exact (accept_heeds packet now s).afterwards
  | pump =>
    have hposts : Posts s (post link [.pump] s) :=
      ((pump_ends posts_relayed s).mono fun _ _ h => h.1).afterwards
    exact hposts.heeds rfl rfl
  | close =>
    have hclosed : (post link [.close] s).conn = { s.conn with state := .closed, stream := none } :=
      conn_of_close rfl
    exact .nothing (by rw [hclosed]) rfl
  | drift stream carrier host => exact ⟨rfl, [], (List.append_nil _).symm, nofun⟩

/-- After a run the window is that of the last segment heeded. -/
theorem post_window (link : Link κ ω) (moments : List (Moment κ ω σ)) (s : Scene (Posted κ) ω σ) :
    (post link moments s).conn.window =
      ((heededAll link moments s).getLast?.map (·.window)).getD s.conn.window := by
  induction moments generalizing s with
  | nil => rfl
  | cons m rest ih =>
    have hwindow := (post_heeds link m s).window
    have hrest : post link (m :: rest) s = post link rest (post link [m] s) := rfl
    rw [hrest, ih, hwindow, heededAll, List.getLast?_append]
    cases (heededAll link rest (post link [m] s)).getLast? with
    | some segment => rfl
    | none => cases m.heeded s.conn <;> rfl

end Moment

end

/-- What is said about the segments that a connection sends from the scene `s` on, after it heeded
some segments. -/
structure WellSpoken [Platform ω σ] (link : Link κ ω) (heeded : List Segment)
    (s : Scene (Posted κ) ω σ) : Prop where
  /-- A reply that fits into a packet is handed over as one, well formed and for the gateway. -/
  reply : ∀ flags data, data.length ≤ 65495 →
    Ends (Connection.reply (posted link) flags data) s fun _ t => Utters flags data s t
  /-- A longer one fails, and nothing is handed over or counted. -/
  oversized : ∀ flags data, 65495 < data.length →
    Ends (Connection.reply (posted link) flags data) s fun r t =>
      r = .error (.tunnel (.malformed "oversized IPv4 payload"))
        ∧ ∃ random, t = { s with conn := { s.conn with random } }
  /-- Whatever is handed over at a moment is well formed and for the gateway, and bears the
  endpoints, the window and the acknowledgement that the connection has then. -/
  handed : ∀ m : Moment κ ω σ, ∃ packets,
    (Moment.post link [m] s).carrier.handed = s.carrier.handed ++ packets
      ∧ ∀ p ∈ packets, Speaks (Moment.post link [m] s).conn p
  /-- The window is that of the last segment heeded. -/
  window : s.conn.window = (heeded.getLast?.map (·.window)).getD 0

/-- **Segments are well formed.** After every run of a connection, all that it sends is well
formed, and bears the window of the last segment that it heeded. -/
theorem segments_well_formed [Platform ω σ] (link : Link κ ω) (key : Flow.Key) (gateway : Endpoint)
    (relaySize : Nat) (random : Generator) (now : Nat) (carrier : κ) (host : Host ω)
    (moments : List (Moment κ ω σ)) :
    WellSpoken link
      (Moment.heededAll link moments
        ⟨fresh key gateway relaySize random now, ⟨[], carrier⟩, host⟩)
      (Moment.post link moments
        ⟨fresh key gateway relaySize random now, ⟨[], carrier⟩, host⟩) where
  reply flags _ hfits := reply_posts flags hfits _
  oversized flags _ hlong := reply_of_long _ flags hlong _
  handed m := (m.post_heeds link _).handed
  window := Moment.post_window link moments _

/-- A segment that completes a handshake, with a smaller window than the one that began it. -/
def sampleCompletion : Ipv4.Packet :=
  { sampleSegment (.ofOctets 55 55 55 55) Flags.ack [] with
    payload :=
      { sourcePort := 40000
        destinationPort := 443
        sequence := 101
        acknowledgement := 0
        flags := Flags.ack
        window := 500
        data := [] : Segment }.toBytes }

/-- A flow is opened. -/
def sampleAnswered : Scene (Posted Unit) Simulation.World Simulation.App :=
  Moment.post sampleLink [.start (sampleSegment (.ofOctets 55 55 55 55) Flags.syn []) 0]
    ⟨fresh ⟨.ofOctets 10 0 0 5, 443⟩ (.v4 ⟨.ofOctets 203 0 113 1, 4500⟩) 1024 ⟨1, 0⟩ 0, ⟨[], ()⟩,
      ⟨{}, []⟩⟩

/-- The flow is established, and then a byte from its stream is relayed. -/
def sampleRelayed : Scene (Posted Unit) Simulation.World Simulation.App :=
  Moment.post sampleLink
    [.accept sampleCompletion 0, .drift (·.edit (.push [7])) id id, .pump] sampleAnswered

/-- The segment that completes the handshake is taken, since it establishes the flow, and nothing
comes after it. Its window is 500, but what is sent next bears the window of the opening segment. -/
theorem window_of_completion_lost :
    sampleAnswered.conn.state = .synReceived ∧ sampleRelayed.conn.state = .established
      ∧ (Segment.ofBytes? sampleCompletion.payload).map (·.window) = some 500
      ∧ (sampleRelayed.carrier.handed.getLast?.bind fun p => Segment.ofBytes? p.1.payload).map
          (fun segment => (segment.data, segment.window)) = some ([7], 1024) := by
  decide +kernel

end Connection

end Ipsec.Tcp
