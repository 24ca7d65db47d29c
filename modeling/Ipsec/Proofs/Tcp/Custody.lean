import Ipsec.Proofs.Tcp.Outcomes

/-!
# Custody of streams

A `Ledger` is a world that keeps account of the streams it gave out: each is tagged with a number
when it is opened, and the tag is entered when it is closed. Any platform can be given a ledger, and
works on as before. The account balances with a list of tags if the streams opened so far are those
listed and those closed, each of them once (`Ledger.Balances`).

A connection holds at most one stream. Relaying only uses it. Completing a handshake opens it and
closing the connection closes it, whether or not the call succeeds, so that every step of a
connection keeps the account balanced, whatever is held elsewhere (`accept_balanced`,
`start_balanced`, `pump_balanced`).
-/

namespace Ipsec

open LocalStream (Used)

variable {κ ω σ : Type}

/-! ## Worlds that keep account -/

/-- A stream with the number under which it was opened. -/
structure Tagged (σ : Type) where
  /-- The number. -/
  tag : Nat
  /-- The stream. -/
  stream : σ

/-- A world that counts the streams it opened, and lists those that were closed. -/
structure Ledger (ω : Type) where
  /-- The world. -/
  world : ω
  /-- How many streams were opened. -/
  opened : Nat := 0
  /-- The tags of the streams that were closed, one for each call. -/
  closed : List Nat := []

instance [LocalStream σ] : LocalStream (Tagged σ) where
  available s := (LocalStream.available s.stream).map id (.mk s.tag)
  receive n s := (LocalStream.receive n s.stream).map id (.mk s.tag)
  send data s := (LocalStream.send data s.stream).map id (.mk s.tag)
  backlog s := LocalStream.backlog s.stream
  length_receive_le {n s s' bytes} h := by
    have hresult : (LocalStream.receive n s.stream).1 = .ok bytes := congrArg Prod.fst h
    exact LocalStream.length_receive_le (Prod.ext hresult rfl)
  backlog_receive_lt {n s s' byte bytes} h := by
    have hresult : (LocalStream.receive n s.stream).1 = .ok (byte :: bytes) := congrArg Prod.fst h
    have hstream : (LocalStream.receive n s.stream).2 = s'.stream := congrArg (·.2.stream) h
    exact LocalStream.backlog_receive_lt (Prod.ext hresult hstream)
  backlog_available_le s := LocalStream.backlog_available_le s.stream

instance [Platform ω σ] : Platform (Ledger ω) (Tagged σ) where
  transmit data receiver l :=
    let (result, world) := Platform.transmit data receiver l.world
    (result, { l with world })
  connect near l :=
    match Platform.connect near l.world with
    | (.error fault, world) => (.error fault, { l with world })
    | (.ok stream, world) => (.ok ⟨l.opened, stream⟩, { l with world, opened := l.opened + 1 })
  close s l :=
    let (result, world) := Platform.close s.stream l.world
    (result, { l with world, closed := l.closed ++ [s.tag] })

/-- Calls to a stream do not change its tag. -/
theorem LocalStream.Used.tag_eq [LocalStream σ] {s t : Tagged σ} (h : Used s t) :
    t.tag = s.tag := by
  induction h with
  | refl => rfl
  | available _ ih => exact ih
  | receive _ _ ih => exact ih
  | send _ _ ih => exact ih

/-- The streams opened so far are the ones listed and the ones closed, each of them once. -/
def Ledger.Balances (l : Ledger ω) (held : List Nat) : Prop :=
  (held ++ l.closed).Perm (List.range l.opened)

namespace Ledger.Balances

variable {l l' : Ledger ω} {held held' : List Nat}

theorem perm (h : l.Balances held) (hp : held'.Perm held) : l.Balances held' :=
  (hp.append_right l.closed).trans h

/-- A stream that was just opened is held by whoever asked for it. -/
theorem opened (h : l.Balances held) (hopened : l'.opened = l.opened + 1)
    (hclosed : l'.closed = l.closed) : l'.Balances (l.opened :: held) := by
  unfold Ledger.Balances at *
  rw [hopened, hclosed, List.range_succ]
  exact (h.cons l.opened).trans (List.perm_append_singleton _ _).symm

/-- A stream that was just closed is held no more. -/
theorem closed {tag : Nat} (h : l.Balances (tag :: held)) (hopened : l'.opened = l.opened)
    (hclosed : l'.closed = l.closed ++ [tag]) : l'.Balances held := by
  unfold Ledger.Balances at *
  rw [hopened, hclosed]
  refine List.Perm.trans ?_ h
  rw [← List.append_assoc]
  exact List.perm_append_comm

end Ledger.Balances

namespace Ledger

variable [Platform ω σ] {near : Ipv4Endpoint} {h h' : Host (Ledger ω)}

theorem of_connect_error {fault : IoFault}
    (hconnect : h.connect near = (.error fault, h')) :
    h'.world.opened = h.world.opened ∧ h'.world.closed = h.world.closed := by
  simp only [Host.connect, Platform.connect] at hconnect
  rcases hr : Platform.connect near h.world.world with ⟨_ | _, world⟩
  all_goals
    rw [hr] at hconnect
    cases hconnect
  exact ⟨rfl, rfl⟩

theorem of_connect_ok {stream : Tagged σ} (hconnect : h.connect near = (.ok stream, h')) :
    stream.tag = h.world.opened ∧ h'.world.opened = h.world.opened + 1
      ∧ h'.world.closed = h.world.closed := by
  simp only [Host.connect, Platform.connect] at hconnect
  rcases hr : Platform.connect near h.world.world with ⟨_ | _, world⟩
  all_goals
    rw [hr] at hconnect
    cases hconnect
  exact ⟨rfl, rfl, rfl⟩

end Ledger

/-! ## Connections -/

namespace Tcp

/-- The tag of the stream that a connection holds, if it holds one. -/
def Connection.held (c : Connection (Tagged σ)) : List Nat := (c.stream.map Tagged.tag).toList

/-- The account balances with the stream of the connection and those held elsewhere. -/
def Scene.Balanced (others : List Nat) (s : Scene κ (Ledger ω) (Tagged σ)) : Prop :=
  s.host.world.Balances (s.conn.held ++ others)

/-- From `s` to `t` nothing is opened or closed. -/
structure Frugal (s t : Scene κ (Ledger ω) (Tagged σ)) : Prop where
  held : t.conn.held = s.conn.held
  opened : t.host.world.opened = s.host.world.opened
  closed : t.host.world.closed = s.host.world.closed

/-- A link that neither opens nor closes streams. -/
def IsFrugalLink (link : Link κ (Ledger ω)) : Prop :=
  ∀ packet receiver carrier host,
    (link packet receiver carrier host).2.2.world.opened = host.world.opened
      ∧ (link packet receiver carrier host).2.2.world.closed = host.world.closed

namespace Frugal

variable {s t u : Scene κ (Ledger ω) (Tagged σ)} {others : List Nat}

theorem refl (s : Scene κ (Ledger ω) (Tagged σ)) : Frugal s s := ⟨rfl, rfl, rfl⟩

theorem trans (h : Frugal s t) (h' : Frugal t u) : Frugal s u :=
  ⟨h'.held.trans h.held, h'.opened.trans h.opened, h'.closed.trans h.closed⟩

theorem balanced (h : Frugal s t) (hs : s.Balanced others) : t.Balanced others := by
  unfold Scene.Balanced Ledger.Balances at *
  rwa [h.held, h.opened, h.closed]

theorem of_routine {c : Connection (Tagged σ)} {host : Host (Ledger ω)}
    (hc : c.held = s.conn.held) (h : s.host.Routine host) : Frugal s ⟨c, s.carrier, host⟩ :=
  ⟨hc, congrArg Ledger.opened h.world_eq, congrArg Ledger.closed h.world_eq⟩

end Frugal

namespace Connection

variable {link : Link κ (Ledger ω)} {others : List Nat}

theorem frugal_relayed [LocalStream σ] (hlink : IsFrugalLink link) :
    Relayed (σ := Tagged σ) link Frugal where
  refl := .refl
  trans := .trans
  reply flags data s := by
    refine ends_reply (fun _ _ _ => ⟨rfl, rfl, rfl⟩) fun packet _ random => ?_
    refine ends_handOver fun _ _ host h => ?_
    have hlink := hlink packet s.conn.gateway s.carrier s.host
    rw [congrArg (·.2.2) h] at hlink
    exact ⟨rfl, hlink.1, hlink.2⟩
  shrink _ := ⟨rfl, rfl, rfl⟩
  used s u v hu huse := ⟨by simp [held, hu, huse.tag_eq], rfl, rfl⟩

variable [Platform ω σ] {packet : Ipv4.Packet} {s t : Scene κ (Ledger ω) (Tagged σ)}
  {r : Except TcpError Disposition}

/-- A connection that is closed holds nothing, and what it held is closed. -/
theorem close_balances {c c' : Connection (Tagged σ)} {host host' : Host (Ledger ω)}
    {result : Except IoFault Unit} (hclose : c.close host = (result, c', host'))
    (h : host.world.Balances (c.held ++ others)) : c'.held = [] ∧ host'.world.Balances others := by
  unfold Connection.close at hclose
  split at hclose
  · next hnone =>
    cases hclose
    simp only [held, hnone] at h ⊢
    exact ⟨rfl, h⟩
  · next stream hsome =>
    cases hclose
    simp only [held, hsome] at h
    exact ⟨rfl, h.closed rfl rfl⟩

/-- The stream that completing a handshake opens is held by the connection. -/
theorem Completed.balanced {segment : Segment} (h : Completed segment s r t)
    (hs : s.Balanced others) : t.Balanced others := by
  cases h with
  | refused => exact hs
  | unopened _ hnoted hnone hconnect =>
    obtain ⟨hopened, hclosed⟩ := Ledger.of_connect_error hconnect
    rw [hnoted.world_eq] at hopened hclosed
    exact Frugal.balanced (s := s) ⟨rfl, hopened, hclosed⟩ hs
  | resumed _ hnoted _ => exact (Frugal.of_routine rfl hnoted).balanced hs
  | opened _ hnoted hnone hconnect hnoted' =>
    obtain ⟨htag, hopened, hclosed⟩ := Ledger.of_connect_ok hconnect
    rw [hnoted.world_eq] at htag hopened hclosed
    rw [← hnoted'.world_eq] at hopened hclosed
    have hothers : s.host.world.Balances others := by
      simpa [Scene.Balanced, held, hnone] using hs
    simpa [Scene.Balanced, held, htag] using hothers.opened hopened hclosed

theorem Handled.balanced (h : Handled link Frugal packet s r t) (hlink : IsFrugalLink link)
    (hs : s.Balanced others) : t.Balanced others := by
  cases h with
  | unreadable => exact hs
  | closed => exact hs
  | listening _ _ h =>
    cases h with
    | refused => exact hs
    | unanswered _ hreply =>
      exact (((frugal_relayed hlink).reply _ _ _).of_error hreply).balanced hs
    | answered _ hreply => exact (((frugal_relayed hlink).reply _ _ _).of_ok hreply).balanced hs
  | answered _ _ h => exact h.balanced hs
  | established _ _ h =>
    cases h with
    | ignored hnoted => exact (Frugal.of_routine rfl hnoted).balanced hs
    | reset hnoted => exact (Frugal.of_routine rfl hnoted).balanced hs
    | empty => exact hs
    | counted _ hnoted hR => exact hR.balanced ((Frugal.of_routine rfl hnoted).balanced hs)
  | ending => exact hs

/-- Accepting a packet keeps the account balanced. -/
theorem accept_balanced (hlink : IsFrugalLink link) (packet : Ipv4.Packet) (now : Nat)
    (hs : s.Balanced others) : Ends (accept link packet now) s fun _ t => t.Balanced others :=
  (accept_ends (frugal_relayed hlink) packet now s).mono fun _ _ h => h.balanced hlink hs

/-- Starting a connection keeps the account balanced, also if it is closed again. -/
theorem start_balanced (hlink : IsFrugalLink link) (packet : Ipv4.Packet) (now : Nat)
    (hclosed : s.conn.state = .closed) (hs : s.Balanced others) :
    Ends (start link packet now) s fun _ t => t.Balanced others := by
  refine (start_ends (frugal_relayed hlink) packet now hclosed).mono fun r t h => ?_
  cases h with
  | handled _ h => exact h.balanced hlink hs
  | aborted _ h hclose hnoted =>
    obtain ⟨hnothing, hbalances⟩ := close_balances hclose (h.balanced hlink hs)
    simpa [Scene.Balanced, hnothing, hnoted.world_eq] using hbalances

/-- Pumping keeps the account balanced. -/
theorem pump_balanced (hlink : IsFrugalLink link) (hs : s.Balanced others) :
    Ends (pump link) s fun _ t => t.Balanced others :=
  (pump_ends (frugal_relayed hlink) s).mono fun _ _ h => h.1.balanced hs

end Connection

end Tcp

end Ipsec
