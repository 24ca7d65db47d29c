import Ipsec.Proofs.Tcp.Watch

/-!
# What is sent to streams

A connection sends nothing to its stream but the data of the packets that it accepts. It does so
only when it is established and the segment comes from the port of its flow (`accept_takes`). A
pump sends nothing to the stream (`pump_feeds`), and a connection that is started opens none
(`start_untouched`).
-/

namespace Ipsec

open LocalStream (Drawn)

variable {κ ω σ : Type}

/-- A stream became another one by calls that sent nothing but some data to it. -/
structure Watched.Fed (data : List Bytes) (v w : Watched σ) : Prop where
  tag : w.tag = v.tag
  target : w.target = v.target
  sent : ∀ {d}, d ∈ w.sent → d ∈ v.sent ∨ d ∈ data

namespace Watched.Fed

variable {data more : List Bytes} {u v w : Watched σ}

theorem refl (data : List Bytes) (w : Watched σ) : Fed data w w := ⟨rfl, rfl, .inl⟩

theorem trans (h : Fed data u v) (h' : Fed data v w) : Fed data u w := by
  refine ⟨h'.tag.trans h.tag, h'.target.trans h.target, fun hsent => ?_⟩
  rcases h'.sent hsent with hsent | hdata
  · exact h.sent hsent
  · exact .inr hdata

/-- A call sends nothing but its data. -/
theorem call {call : Call} (h : w.calls = call :: v.calls ∧ w.tag = v.tag ∧ w.target = v.target)
    (hcall : ∀ d, call.sent? = some d → d ∈ data) : Fed data v w := by
  obtain ⟨hcalls, htag, htarget⟩ := h
  refine ⟨htag, htarget, fun {d} hsent => ?_⟩
  rw [Watched.sent, hcalls, List.filterMap_cons] at hsent
  split at hsent
  · exact .inl hsent
  · next d' hd' =>
    rcases List.mem_cons.1 hsent with rfl | hsent
    · exact .inr (hcall _ hd')
    · exact .inl hsent

/-- What was only drawn from was sent nothing. -/
theorem of_drawn [LocalStream σ] (h : Drawn v w) : Fed data v w := by
  induction h with
  | refl => exact refl data v
  | available _ ih => exact ih.trans (call (Watched.of_available rfl) nofun)
  | receive n _ ih => exact ih.trans (call (Watched.of_receive rfl) nofun)

end Watched.Fed

namespace Tcp

/-- From `s` to `t` nothing but some data is sent to the stream of a connection, and no other stream
is opened or closed. -/
structure Feeds (data : List Bytes) (s t : Scene κ (Watch ω σ) (Watched σ)) : Prop where
  opened : t.host.world.opened = s.host.world.opened
  closed : t.host.world.closed = s.host.world.closed
  stream : Option.Rel (Watched.Fed data) s.conn.stream t.conn.stream

namespace Feeds

variable {data : List Bytes} {s t u : Scene κ (Watch ω σ) (Watched σ)}

theorem untouched (data : List Bytes) (h : Untouched s t) : Feeds data s t := by
  refine ⟨h.opened, h.closed, ?_⟩
  rw [h.stream]
  cases s.conn.stream with
  | none => exact .none
  | some w => exact .some (.refl data w)

theorem refl (data : List Bytes) (s : Scene κ (Watch ω σ) (Watched σ)) : Feeds data s s :=
  untouched data (.refl s)

theorem trans (h : Feeds data s t) (h' : Feeds data t u) : Feeds data s u := by
  refine ⟨h'.opened.trans h.opened, h'.closed.trans h.closed, ?_⟩
  have hstream := h.stream
  have hstream' := h'.stream
  revert hstream hstream'
  generalize s.conn.stream = v, t.conn.stream = w, u.conn.stream = w'
  rintro (hfed | _) (hfed' | _)
  · exact .some (hfed.trans hfed')
  · exact .none

/-- The connection keeps its stream. -/
theorem kept (h : Feeds data s t) {w : Watched σ} (hw : s.conn.stream = some w) :
    ∃ w', t.conn.stream = some w' ∧ w'.tag = w.tag := by
  have hstream := h.stream
  rw [hw] at hstream
  revert hstream
  generalize t.conn.stream = w'
  rintro ⟨hfed⟩
  exact ⟨_, rfl, hfed.tag⟩

/-- The stream of the connection was its own before. -/
theorem held (h : Feeds data s t) {w : Watched σ} (hw : t.conn.stream = some w) :
    ∃ w', s.conn.stream = some w' ∧ w'.tag = w.tag := by
  have hstream := h.stream
  rw [hw] at hstream
  revert hstream
  generalize s.conn.stream = w'
  rintro ⟨hfed⟩
  exact ⟨_, rfl, hfed.tag.symm⟩

end Feeds

namespace Connection

variable {link : Link κ (Watch ω σ)}

/-! ## Exchanges -/

/-- Relaying opens and closes no stream. -/
theorem idle_relayed [LocalStream σ] (hlink : IsBlindLink link) :
    Relayed (σ := Watched σ) link fun s t =>
      t.host.world.opened = s.host.world.opened ∧ t.host.world.closed = s.host.world.closed where
  refl _ := ⟨rfl, rfl⟩
  trans h h' := ⟨h'.1.trans h.1, h'.2.trans h.2⟩
  reply flags data s := (reply_untouched hlink flags data s).mono fun _ _ h => ⟨h.opened, h.closed⟩
  shrink _ := ⟨rfl, rfl⟩
  used _ _ _ _ _ := ⟨rfl, rfl⟩

theorem feeds_drained [LocalStream σ] (hlink : IsBlindLink link) (data : List Bytes) :
    Drained (σ := Watched σ) link (Feeds data) where
  refl := .refl data
  trans := .trans
  drain s := by
    refine (((idle_relayed hlink).drain s).and (drain_drawn s)).mono fun _ t h => ?_
    obtain ⟨⟨⟨hopened, hclosed⟩, -⟩, hdrawn⟩ := h
    refine ⟨hopened, hclosed, ?_⟩
    revert hdrawn
    generalize s.conn.stream = v, t.conn.stream = w
    rintro (hdrawn | _)
    · exact .some (.of_drawn hdrawn)
    · exact .none

theorem feeds_exchanged [LocalStream σ] (hlink : IsBlindLink link) (data : Bytes) :
    Exchanged (σ := Watched σ) link data (Feeds [data]) where
  toDrained := feeds_drained hlink [data]
  deliver s := by
    refine ends_deliver (fun _ => .refl _ s) fun u r v hu hsend => ⟨rfl, rfl, ?_⟩
    rw [hu]
    refine .some (.call (Watched.of_send hsend) fun d hd => ?_)
    cases hd
    exact List.mem_singleton_self data

/-! ## Steps -/

/-- The packet holds a segment that comes from a port. -/
def ComesFrom (packet : Ipv4.Packet) (port : UInt16) : Prop :=
  ∃ segment, Segment.ofBytes? packet.payload = some segment ∧ segment.sourcePort = port

/-- What accepting a packet does to streams. -/
inductive Takes (packet : Ipv4.Packet) (s t : Scene κ (Watch ω σ) (Watched σ)) : Prop where
  /-- Nothing is sent. -/
  | kept (h : Feeds [] s t)
  /-- The data of the packet is sent, which comes from the port of the flow. -/
  | fed (h : Feeds [carried packet] s t) (hport : ComesFrom packet s.conn.remote.port)
  /-- A stream is opened. -/
  | opened {w : Watched σ} (hnone : s.conn.stream = none) (hw : t.conn.stream = some w)
      (hcalls : w.calls = []) (htag : w.tag = s.host.world.opened)
      (htarget : w.target = s.conn.near) (hopened : t.host.world.opened = s.host.world.opened + 1)
      (hclosed : t.host.world.closed = s.host.world.closed)

namespace Takes

variable {packet : Ipv4.Packet} {s t : Scene κ (Watch ω σ) (Watched σ)}

theorem closed_eq (h : Takes packet s t) : t.host.world.closed = s.host.world.closed := by
  cases h with
  | kept h => exact h.closed
  | fed h => exact h.closed
  | opened _ _ _ _ _ _ hclosed => exact hclosed

/-- The connection keeps a stream that it holds. -/
theorem holds (h : Takes packet s t) {w : Watched σ} (hw : s.conn.stream = some w) :
    ∃ w', t.conn.stream = some w' ∧ w'.tag = w.tag := by
  cases h with
  | kept h => exact h.kept hw
  | fed h => exact h.kept hw
  | opened hnone =>
    rw [hnone] at hw
    cases hw

/-- The stream that the connection holds was its own before, or is opened. -/
theorem held (h : Takes packet s t) {w : Watched σ} (hw : t.conn.stream = some w) :
    (∃ w', s.conn.stream = some w' ∧ w'.tag = w.tag) ∨ s.host.world.opened ≤ w.tag := by
  cases h with
  | kept h => exact .inl (h.held hw)
  | fed h => exact .inl (h.held hw)
  | opened _ hw' _ htag =>
    cases hw'.symm.trans hw
    exact .inr (Nat.le_of_eq htag.symm)

/-- The connection holds a stream that is opened. -/
theorem holds_new (h : Takes packet s t) {tag : Nat} (hold : s.host.world.opened ≤ tag)
    (hnew : tag < t.host.world.opened) : ∃ w, t.conn.stream = some w ∧ w.tag = tag := by
  cases h with
  | kept h => exact absurd (h.opened ▸ hnew) (Nat.not_lt_of_le hold)
  | fed h => exact absurd (h.opened ▸ hnew) (Nat.not_lt_of_le hold)
  | opened _ hw _ htag _ hopened => exact ⟨_, hw, by omega⟩

end Takes

variable [Platform ω σ]

theorem pump_feeds (hlink : IsBlindLink link) (s : Scene κ (Watch ω σ) (Watched σ)) :
    Ends (pump link) s fun _ t => Feeds [] s t :=
  (pump_drains (feeds_drained hlink []) s).mono fun _ _ h => h.1

variable {R : Scene κ (Watch ω σ) (Watched σ) → Scene κ (Watch ω σ) (Watched σ) → Prop}
  {packet : Ipv4.Packet} {s t : Scene κ (Watch ω σ) (Watched σ)} {r : Except TcpError Disposition}

theorem Completed.takes {segment : Segment} (h : Completed segment s r t) : Takes packet s t := by
  cases h with
  | refused => exact .kept (.refl _ _)
  | unopened _ hnoted _ hconnect =>
    obtain ⟨hopened, hclosed⟩ := Watch.of_connect_error hconnect
    rw [hnoted.world_eq] at hopened hclosed
    exact .kept (.untouched _ ⟨rfl, hopened, hclosed⟩)
  | resumed _ hnoted _ =>
    exact .kept (.untouched _ ⟨rfl, congrArg _ hnoted.world_eq, congrArg _ hnoted.world_eq⟩)
  | opened _ hnoted hnone hconnect hnoted' =>
    obtain ⟨hcalls, htag, htarget, hopened, hclosed⟩ := Watch.of_connect_ok hconnect
    rw [hnoted.world_eq] at htag hopened hclosed
    rw [← hnoted'.world_eq] at hopened hclosed
    exact .opened hnone rfl hcalls htag htarget hopened hclosed

/-- A connection that listens does nothing to any stream, whatever packet it takes. -/
theorem Handled.untouched (hlink : IsBlindLink link) (h : Handled link R packet s r t)
    (hlisten : s.conn.state = .listen) : Untouched s t := by
  cases h with
  | unreadable => exact ⟨rfl, rfl, rfl⟩
  | closed => exact .refl s
  | listening _ _ h =>
    cases h with
    | refused => exact .refl s
    | unanswered _ hreply =>
      obtain ⟨hstream, hopened, hclosed⟩ := (reply_untouched hlink _ _ _).of_error hreply
      exact ⟨hstream, hopened, hclosed⟩
    | answered _ hreply =>
      obtain ⟨hstream, hopened, hclosed⟩ := (reply_untouched hlink _ _ _).of_ok hreply
      exact ⟨hstream, hopened, hclosed⟩
  | answered _ hstate => simp [hlisten] at hstate
  | established _ hstate => simp [hlisten] at hstate
  | ending _ hstate => simp [hlisten] at hstate

theorem Handled.takes (hlink : IsBlindLink link)
    (h : Handled link (Feeds [carried packet]) packet s r t) : Takes packet s t := by
  have hlistens := h.untouched hlink
  cases h with
  | unreadable => exact .kept (.untouched _ ⟨rfl, rfl, rfl⟩)
  | closed => exact .kept (.refl _ _)
  | listening _ hstate => exact .kept (.untouched _ (hlistens hstate))
  | answered _ _ h => exact h.takes
  | established hread _ h =>
    cases h with
    | ignored hnoted =>
      exact .kept (.untouched _ ⟨rfl, congrArg _ hnoted.world_eq, congrArg _ hnoted.world_eq⟩)
    | reset hnoted =>
      exact .kept (.untouched _ ⟨rfl, congrArg _ hnoted.world_eq, congrArg _ hnoted.world_eq⟩)
    | empty => exact .kept (.untouched _ ⟨rfl, rfl, rfl⟩)
    | counted hcounts hnoted hR =>
      have hport : ComesFrom packet s.conn.remote.port := by
        refine ⟨_, hread, ?_⟩
        simp only [Segment.countsFor, decide_eq_true_eq] at hcounts
        exact hcounts.1
      refine .fed ⟨hR.opened.trans ?_, hR.closed.trans ?_, hR.stream⟩ hport
      · exact congrArg _ hnoted.world_eq
      · exact congrArg _ hnoted.world_eq
  | ending => exact .kept (.untouched _ ⟨rfl, rfl, rfl⟩)

theorem accept_takes (hlink : IsBlindLink link) (packet : Ipv4.Packet) (now : Nat)
    (s : Scene κ (Watch ω σ) (Watched σ)) :
    Ends (accept link packet now) s fun _ t => Takes packet s t := by
  refine (accept_exchanges (feeds_exchanged hlink _) now s).mono fun _ t h => ?_
  cases h.takes hlink with
  | kept h => exact .kept ⟨h.opened, h.closed, h.stream⟩
  | fed h hport => exact .fed ⟨h.opened, h.closed, h.stream⟩ hport
  | opened hnone hw hcalls htag htarget hopened hclosed =>
    exact .opened hnone hw hcalls htag htarget hopened hclosed

/-- A connection without a stream has none when it was started, and no stream was opened. -/
theorem start_untouched (hlink : IsBlindLink link) (packet : Ipv4.Packet) (now : Nat)
    (hstate : s.conn.state = .closed) (hnone : s.conn.stream = none) :
    Ends (start link packet now) s fun _ t => Untouched s t := by
  refine (start_ends (relayed_true link) packet now hstate).mono fun _ t h => ?_
  cases h with
  | handled _ h =>
    obtain ⟨hstream, hopened, hclosed⟩ := h.untouched hlink rfl
    exact ⟨hstream, hopened, hclosed⟩
  | @aborted _ _ _ u _ _ _ _ _ h hclose hnoted =>
    obtain ⟨hstream, hopened, hclosed⟩ := h.untouched hlink rfl
    have hbare : u.conn.stream = none := hstream.trans hnone
    obtain ⟨hopened', hclosed', rfl⟩ := close_records hclose
    rw [hbare, Option.toList_none, List.append_nil] at hclosed'
    refine ⟨hnone.symm, ?_, ?_⟩
    · rw [← hopened, ← hopened', hnoted.world_eq]
    · rw [← hclosed, ← hclosed', hnoted.world_eq]

end Connection

end Tcp

end Ipsec
