import Ipsec.Proofs.Tcp.Outcomes

/-!
# Watched streams

A `Watch` is a world that keeps a record of the streams it gave out. Each is numbered when it is
opened and lists the calls to it with their outcomes, and a stream that was closed stays on record.
Any platform can be watched, and works on as before. What a connection did to its streams over a
run can then be read off the records.
-/

namespace Ipsec

variable {κ ω σ : Type}

/-- A call to a stream, with its outcome. -/
inductive Call where
  /-- It was asked what is available. -/
  | available (result : Except IoFault Nat)
  /-- It was received from, with room for some bytes. -/
  | receive (room : Nat) (result : Except IoFault Bytes)
  /-- It was sent some bytes. -/
  | send (data : Bytes) (result : Except IoFault Nat)

/-- The data that the call sends, if it sends any. -/
def Call.sent? : Call → Option Bytes
  | send data _ => some data
  | _ => none

/-- A stream with its number, the endpoint that it was opened for and the calls to it, the last one
first. -/
structure Watched (σ : Type) where
  /-- The number. -/
  tag : Nat
  /-- The endpoint. -/
  target : Ipv4Endpoint
  /-- The calls. -/
  calls : List Call := []
  /-- The stream. -/
  stream : σ

/-- What was sent to the stream, the last first. -/
def Watched.sent (w : Watched σ) : List Bytes := w.calls.filterMap Call.sent?

/-- A world that counts the streams it opened, and keeps those that were closed. -/
structure Watch (ω σ : Type) where
  /-- The world. -/
  world : ω
  /-- How many streams were opened. -/
  opened : Nat := 0
  /-- The streams that were closed. -/
  closed : List (Watched σ) := []

instance [LocalStream σ] : LocalStream (Watched σ) where
  available w :=
    let (result, stream) := LocalStream.available w.stream
    (result, { w with calls := .available result :: w.calls, stream })
  receive n w :=
    let (result, stream) := LocalStream.receive n w.stream
    (result, { w with calls := .receive n result :: w.calls, stream })
  send data w :=
    let (result, stream) := LocalStream.send data w.stream
    (result, { w with calls := .send data result :: w.calls, stream })
  backlog w := LocalStream.backlog w.stream
  length_receive_le {n w w' bytes} h := by
    have hresult : (LocalStream.receive n w.stream).1 = .ok bytes := congrArg Prod.fst h
    exact LocalStream.length_receive_le (Prod.ext hresult rfl)
  backlog_receive_lt {n w w' byte bytes} h := by
    have hresult : (LocalStream.receive n w.stream).1 = .ok (byte :: bytes) := congrArg Prod.fst h
    have hstream : (LocalStream.receive n w.stream).2 = w'.stream := congrArg (·.2.stream) h
    exact LocalStream.backlog_receive_lt (Prod.ext hresult hstream)
  backlog_available_le w := LocalStream.backlog_available_le w.stream

instance [Platform ω σ] : Platform (Watch ω σ) (Watched σ) where
  transmit data receiver w :=
    let (result, world) := Platform.transmit data receiver w.world
    (result, { w with world })
  connect near w :=
    match Platform.connect near w.world with
    | (.error fault, world) => (.error fault, { w with world })
    | (.ok stream, world) =>
      (.ok { tag := w.opened, target := near, stream }, { w with world, opened := w.opened + 1 })
  close s w :=
    let (result, world) := Platform.close s.stream w.world
    (result, { w with world, closed := w.closed ++ [s] })

/-! ## What calls add to a record -/

namespace Watched

variable [LocalStream σ] {w w' : Watched σ}

theorem of_available {r : Except IoFault Nat} (h : LocalStream.available w = (r, w')) :
    w'.calls = .available r :: w.calls ∧ w'.tag = w.tag ∧ w'.target = w.target := by
  cases h
  exact ⟨rfl, rfl, rfl⟩

theorem of_receive {n : Nat} {r : Except IoFault Bytes} (h : LocalStream.receive n w = (r, w')) :
    w'.calls = .receive n r :: w.calls ∧ w'.tag = w.tag ∧ w'.target = w.target := by
  cases h
  exact ⟨rfl, rfl, rfl⟩

theorem of_send {data : Bytes} {r : Except IoFault Nat} (h : LocalStream.send data w = (r, w')) :
    w'.calls = .send data r :: w.calls ∧ w'.tag = w.tag ∧ w'.target = w.target := by
  cases h
  exact ⟨rfl, rfl, rfl⟩

end Watched

namespace Watch

variable [Platform ω σ] {near : Ipv4Endpoint} {h h' : Host (Watch ω σ)}

theorem of_connect_error {fault : IoFault} (hconnect : h.connect near = (.error fault, h')) :
    h'.world.opened = h.world.opened ∧ h'.world.closed = h.world.closed := by
  simp only [Host.connect, Platform.connect] at hconnect
  rcases hr : Platform.connect near h.world.world with ⟨_ | _, world⟩
  all_goals
    rw [hr] at hconnect
    cases hconnect
  exact ⟨rfl, rfl⟩

theorem of_connect_ok {w : Watched σ} (hconnect : h.connect near = (.ok w, h')) :
    w.calls = [] ∧ w.tag = h.world.opened ∧ w.target = near
      ∧ h'.world.opened = h.world.opened + 1 ∧ h'.world.closed = h.world.closed := by
  simp only [Host.connect, Platform.connect] at hconnect
  rcases hr : Platform.connect near h.world.world with ⟨_ | _, world⟩
  all_goals
    rw [hr] at hconnect
    cases hconnect
  exact ⟨rfl, rfl, rfl, rfl, rfl⟩

end Watch

/-! ## Connections -/

namespace Tcp

/-- A link on a watched platform. It does not see the records. -/
def watched (link : Link κ ω) : Link κ (Watch ω σ) := fun packet receiver carrier host =>
  let (result, carrier, inner) := link packet receiver carrier ⟨host.world.world, host.log⟩
  (result, carrier, ⟨{ host.world with world := inner.world }, inner.log⟩)

/-- A link that leaves the records of streams alone. -/
def IsBlindLink (link : Link κ (Watch ω σ)) : Prop :=
  ∀ packet receiver carrier host,
    (link packet receiver carrier host).2.2.world.opened = host.world.opened
      ∧ (link packet receiver carrier host).2.2.world.closed = host.world.closed

theorem watched_isBlind (link : Link κ ω) : IsBlindLink (watched (σ := σ) link) :=
  fun _ _ _ _ => ⟨rfl, rfl⟩

/-- The records of the stream that a connection holds, and of those that were closed. -/
def Scene.records (s : Scene κ (Watch ω σ) (Watched σ)) : List (Watched σ) :=
  s.conn.stream.toList ++ s.host.world.closed

/-- From `s` to `t` nothing is done to any stream, and none is opened or closed. -/
structure Untouched (s t : Scene κ (Watch ω σ) (Watched σ)) : Prop where
  stream : t.conn.stream = s.conn.stream
  opened : t.host.world.opened = s.host.world.opened
  closed : t.host.world.closed = s.host.world.closed

theorem Untouched.refl (s : Scene κ (Watch ω σ) (Watched σ)) : Untouched s s := ⟨rfl, rfl, rfl⟩

/-- A reply does nothing to any stream. -/
theorem Connection.reply_untouched {link : Link κ (Watch ω σ)} (hlink : IsBlindLink link)
    (flags : Flags) (data : Bytes) (s : Scene κ (Watch ω σ) (Watched σ)) :
    Ends (reply link flags data) s fun _ t => Untouched s t := by
  refine ends_reply (fun _ _ _ => ⟨rfl, rfl, rfl⟩) fun packet _ random => ?_
  refine ends_handOver fun _ _ host h => ?_
  have hblind := hlink packet s.conn.gateway s.carrier s.host
  rw [congrArg (·.2.2) h] at hblind
  exact ⟨rfl, hblind.1, hblind.2⟩

/-- A connection that is closed puts its stream on record. -/
theorem Connection.close_records [Platform ω σ] {c c' : Connection (Watched σ)}
    {host host' : Host (Watch ω σ)} {result : Except IoFault Unit}
    (hclose : c.close host = (result, c', host')) :
    host'.world.opened = host.world.opened
      ∧ host'.world.closed = host.world.closed ++ c.stream.toList
      ∧ c' = { c with state := .closed, stream := none } := by
  unfold Connection.close at hclose
  cases hstream : c.stream with
  | none =>
    rw [hstream] at hclose
    cases hclose
    simp
  | some w =>
    rw [hstream] at hclose
    cases hclose
    exact ⟨rfl, rfl, rfl⟩

end Tcp

end Ipsec
