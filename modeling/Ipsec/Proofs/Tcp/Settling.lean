import Ipsec.Proofs.Tcp.Outcomes

/-!
# Connections with nothing left to relay

A stream is `Dependable` if it answers in the same way until something is received from it, and
gives out what it says it has. Either may fail at any time. After a connection with such a stream
and with room for a piece was pumped without an error it is `Still` (`pump_settles`), and to pump a
still connection changes nothing (`pump_still`). No step that ends without an error takes the room
(`accept_keeps_room`, `start_keeps_room`).
-/

namespace Ipsec

variable {κ ω σ : Type}

/-! ## Streams -/

namespace LocalStream

variable [LocalStream σ]

/-- Streams in these states stay as they are when they say what they have, and give out a piece if
they have something. -/
structure Regular (B : σ → Prop) : Prop where
  available : ∀ {u}, B u →
    (∃ fault v, LocalStream.available u = (.error fault, v))
      ∨ ∃ n, LocalStream.available u = (.ok n, u)
  receive : ∀ {u n m}, B u → 0 < n → LocalStream.available u = (.ok (m + 1), u) →
    (∃ fault v, LocalStream.receive n u = (.error fault, v))
      ∨ ∃ byte bytes v, LocalStream.receive n u = (.ok (byte :: bytes), v) ∧ B v

/-- The stream will go on to stay as it is when it says what it has, and to give out a piece if it
has something, until a call fails. -/
def Dependable (u : σ) : Prop := ∃ B, Regular B ∧ B u

theorem regular_dependable : Regular (Dependable : σ → Prop) where
  available := by
    rintro u ⟨B, hB, hu⟩
    exact hB.available hu
  receive := by
    rintro u n m ⟨B, hB, hu⟩ hn havailable
    refine (hB.receive hu hn havailable).imp_right ?_
    rintro ⟨byte, bytes, v, hreceive, hv⟩
    exact ⟨byte, bytes, v, hreceive, B, hB, hv⟩

end LocalStream

open LocalStream (Dependable regular_dependable)

namespace Tcp.Connection

/-! ## Relaying -/

/-- If a step ended without an error, the room for pieces is as it was. -/
def KeptRoom {α : Type} (s : Scene κ ω σ) (r : Except TcpError α) (t : Scene κ ω σ) : Prop :=
  ∀ a, r = .ok a → t.conn.relaySize = s.conn.relaySize

section

variable {α : Type} {s t : Scene κ ω σ}

theorem KeptRoom.ok {a : α} (h : t.conn.relaySize = s.conn.relaySize) : KeptRoom s (.ok a) t :=
  fun _ _ => h

theorem KeptRoom.error {e : TcpError} : KeptRoom (α := α) s (.error e) t := nofun

end

section

variable [LocalStream σ]

/-- The connection has room for a piece, and its stream is dependable. -/
structure Ready (c : Connection σ) : Prop where
  room : 0 < c.relaySize
  stream : ∀ u, c.stream = some u → Dependable u

/-- There is nothing to relay. -/
def Still (c : Connection σ) : Prop :=
  c.state = .established → ∀ u, c.stream = some u → LocalStream.available u = (.ok 0, u)

variable {link : Link κ ω} {s : Scene κ ω σ}

/-- Relaying to the end takes no room. -/
theorem relay_keeps_room (link : Link κ ω) (u : σ) (available total : Nat) (s : Scene κ ω σ)
    {relayed : Nat} (h : (relay link u available total s).1 = .ok relayed) :
    (relay link u available total s).2.2.conn.relaySize = s.conn.relaySize := by
  fun_induction Connection.relay link u available total s with
  | case1 => rfl
  | case2 => cases h
  | case3 => rfl
  | case4 => cases h
  | case5 => cases h
  | case6 u available total s _ byte bytes v _ more v' _ t hreply ih =>
    obtain ⟨n, random, hconn⟩ := (reply_conn link _ _ s).of_ok hreply
    rw [ih h, hconn]

/-- A dependable stream has nothing left once it is relayed from to the end. -/
theorem relay_settles (link : Link κ ω) (u : σ) (available total : Nat) (s : Scene κ ω σ)
    {relayed : Nat}
    (hu : Dependable u) (havailable : LocalStream.available u = (.ok available, u))
    (hroom : 0 < s.conn.relaySize) (h : (relay link u available total s).1 = .ok relayed) :
    Dependable (relay link u available total s).2.1
      ∧ LocalStream.available (relay link u available total s).2.1 =
          (.ok 0, (relay link u available total s).2.1) := by
  fun_induction Connection.relay link u available total s with
  | case1 => exact ⟨hu, havailable⟩
  | case2 => cases h
  | case3 u available total s hmore v hreceive =>
    -- The stream said that it has something, so it does not come away empty-handed.
    obtain ⟨m, rfl⟩ := Nat.exists_eq_succ_of_ne_zero hmore
    rcases regular_dependable.receive hu hroom havailable with ⟨_, _, hfault⟩ | ⟨_, _, _, hpiece, -⟩
    · rw [hreceive] at hfault
      cases hfault
    · rw [hreceive] at hpiece
      cases hpiece
  | case4 => cases h
  | case5 => cases h
  | case6 u available total s hmore byte bytes v hreceive more v' hmoreAvailable t hreply ih =>
    obtain ⟨m, rfl⟩ := Nat.exists_eq_succ_of_ne_zero hmore
    obtain ⟨n, random, hconn⟩ := (reply_conn link _ _ s).of_ok hreply
    have hv : Dependable v := by
      rcases regular_dependable.receive hu hroom havailable with
        ⟨_, _, hfault⟩ | ⟨_, _, _, hpiece, hv⟩
      · rw [hreceive] at hfault
        cases hfault
      · rw [hreceive] at hpiece
        cases hpiece
        exact hv
    rcases regular_dependable.available hv with ⟨_, _, hfault⟩ | ⟨k, hk⟩
    · rw [hmoreAvailable] at hfault
      cases hfault
    · obtain ⟨rfl, rfl⟩ : more = k ∧ v' = v := by
        rw [hmoreAvailable] at hk
        cases hk
        exact ⟨rfl, rfl⟩
      exact ih hv hmoreAvailable (by rw [hconn]; exact hroom) h

theorem drain_keeps_room (s : Scene κ ω σ) : Ends (drain link) s (KeptRoom s) := by
  refine ends_drain (fun _ => .ok rfl) (fun _ _ _ _ _ => .error)
    fun u n v r w t _ _ h relayed hr => ?_
  have hroom := relay_keeps_room link v n 0 s (by rw [h]; exact hr)
  rwa [h] at hroom

/-- A connection that is drained without an error is ready for more, and has nothing to relay. -/
theorem drain_settles (hs : s.conn.Ready) :
    Ends (drain link) s fun r t => ∀ n, r = .ok n → t.conn.Ready ∧ t.conn.Still := by
  refine ends_drain (fun hnone n _ => ⟨hs, fun _ u hu => ?_⟩) (fun u fault v _ _ n h => ?_)
    fun u n v r w t hu havailable h relayed hr => ?_
  · rw [hnone] at hu
    cases hu
  · cases h
  · have hdependable := hs.stream u hu
    obtain rfl : v = u := by
      rcases regular_dependable.available hdependable with ⟨_, _, hfault⟩ | ⟨k, hk⟩
      · rw [havailable] at hfault
        cases hfault
      · rw [havailable] at hk
        cases hk
        rfl
    have hroom := relay_keeps_room link v n 0 s (by rw [h]; exact hr)
    have hend := relay_settles link v n 0 s hdependable havailable hs.room
      (by rw [h]; exact hr)
    rw [h] at hroom hend
    refine ⟨⟨?_, ?_⟩, fun _ => ?_⟩
    · exact hroom ▸ hs.room
    all_goals
      intro x hx
      obtain rfl := Option.some.inj hx
    · exact hend.1
    · exact hend.2

/-- A connection that is pumped without an error is ready for more, and has nothing to relay. -/
theorem pump_settles (hs : s.conn.Ready) :
    Ends (pump link) s fun r t => ∀ b, r = .ok b → t.conn.Ready ∧ t.conn.Still := by
  unfold pump
  simp only [ends_bind, ends_get, ends_ite, ends_pure]
  refine ⟨fun _ => (drain_settles hs).mono fun r t h => ?_, fun hstate b _ => ⟨hs, ?_⟩⟩
  · cases r with
    | error e =>
      intro b hb
      cases hb
    | ok n =>
      intro b _
      exact h n rfl
  · exact fun h => absurd h hstate

/-- To pump a connection with nothing to relay changes nothing. -/
theorem pump_still (link : Link κ ω) (hs : s.conn.Still) : pump link s = .ok false s := by
  rw [pump_eq]
  split
  · next hstate =>
    have hdrain : drain link s = .ok 0 s := by
      unfold drain
      cases hstream : s.conn.stream with
      | none => rfl
      | some u =>
        have hrelay : relay link u 0 0 s = (.ok 0, u, s) := by
          unfold relay
          rfl
        simp only [hs hstate u hstream, hrelay]
        rw [← hstream]
    rw [hdrain]
    rfl
  · rfl

/-- Relaying leaves the state of a connection, and the time of the last contact. -/
theorem untimed_relayed (link : Link κ ω) :
    Relayed link fun s t : Scene κ ω σ =>
      t.conn.state = s.conn.state ∧ t.conn.lastContact = s.conn.lastContact where
  refl _ := ⟨rfl, rfl⟩
  trans h h' := ⟨h'.1.trans h.1, h'.2.trans h.2⟩
  reply flags data s := (reply_conn link flags data s).mono fun _ t h => by
    obtain ⟨n, random, hconn⟩ := h
    rw [hconn]
    exact ⟨rfl, rfl⟩
  shrink _ := ⟨rfl, rfl⟩
  used _ _ _ _ _ := ⟨rfl, rfl⟩

/-- Pumping leaves both, too. -/
theorem pump_untimed (link : Link κ ω) (s : Scene κ ω σ) :
    Ends (pump link) s fun _ t =>
      t.conn.state = s.conn.state ∧ t.conn.lastContact = s.conn.lastContact :=
  (pump_ends (untimed_relayed link) s).mono fun _ _ h => h.1

end

/-! ## Steps that keep the room -/

section

variable [LocalStream σ] (link : Link κ ω)

/-- A step that drains the stream at its end keeps the room. -/
theorem drain_then_keeps_room {α : Type} (f : Nat → α) {s t : Scene κ ω σ}
    (h : t.conn.relaySize = s.conn.relaySize) :
    Ends (drain link >>= fun n => pure (f n)) t (KeptRoom s) := by
  rw [ends_bind]
  refine (drain_keeps_room t).mono fun r u hu => ?_
  cases r with
  | error e => exact .error
  | ok n => exact .ok ((hu n rfl).trans h)

theorem pump_keeps_room (s : Scene κ ω σ) : Ends (pump link) s (KeptRoom s) := by
  unfold pump
  rw [ends_bind, ends_get]
  simp only [ends_ite]
  exact ⟨fun _ => drain_then_keeps_room link _ rfl, fun _ => .ok rfl⟩

theorem handleEstablished_keeps_room (segment : Segment) (s : Scene κ ω σ) :
    Ends (handleEstablished link segment) s (KeptRoom s) := by
  unfold handleEstablished
  simp only [ends_bind, ends_get, ends_ite, ends_note, ends_update, ends_pure]
  refine ⟨fun _ => .ok rfl, fun _ => ⟨fun _ => .ok rfl, fun _ => ⟨fun _ => .ok rfl, fun _ =>
    ⟨fun _ => .ok rfl, fun _ => ?counted⟩⟩⟩⟩
  refine ends_noteMismatch fun _ _ => ends_noteMismatch fun _ _ => ⟨fun _ => ?_, fun _ => ?_⟩
  · refine ends_deliver (fun _ => .error) fun u r v _ _ => ?_
    cases r with
    | error fault => exact .error
    | ok => exact (ends_bind _ _).1 (drain_then_keeps_room link _ rfl)
  · exact (ends_bind _ _).1 (drain_then_keeps_room link _ rfl)

end

section

variable [Platform ω σ] (link : Link κ ω) (packet : Ipv4.Packet) (s : Scene κ ω σ)

/-- A packet that is handled without an error leaves the room for pieces. -/
theorem handle_keeps_room : Ends (handle link packet) s (KeptRoom s) := by
  unfold handle
  cases hread : Segment.ofBytes? packet.payload with
  | none => exact .error
  | some segment =>
    simp only [ends_bind, ends_get]
    split
    case h_1 => exact .error
    case h_2 =>
      refine (handleOpening_ends link packet segment s).mono fun r t h => ?_
      cases h with
      | refused => exact .error
      | unanswered => exact .error
      | answered _ hreply =>
        obtain ⟨n, random, hconn⟩ := (reply_conn link _ _ _).of_ok hreply
        exact .ok (by rw [hconn]; rfl)
    case h_3 =>
      refine (handleCompletion_ends segment s).mono fun r t h => ?_
      cases h with
      | refused => exact .error
      | unopened => exact .error
      | resumed => exact .ok rfl
      | opened => exact .ok rfl
    case h_4 => exact handleEstablished_keeps_room link segment s
    case h_5 => exact .ok rfl

theorem accept_keeps_room (now : Nat) : Ends (accept link packet now) s (KeptRoom s) := by
  unfold accept
  rw [ends_bind, ends_update]
  exact handle_keeps_room link packet _

theorem relaySize_of_close {c c' : Connection σ} {host host' : Host ω}
    {result : Except IoFault Unit} (hclose : c.close host = (result, c', host')) :
    c'.relaySize = c.relaySize := by
  rw [conn_of_close hclose]

theorem start_keeps_room (now : Nat) : Ends (start link packet now) s (KeptRoom s) := by
  by_cases hclosed : s.conn.state = .closed
  · refine ends_start hclosed ((handle_keeps_room link packet _).mono fun r t h => ?_)
    cases r with
    | ok d => exact .ok (h d rfl)
    | error e => exact fun _ _ _ _ _ _ => .error
  · unfold Ends start
    rw [if_pos hclosed]
    exact .error

end

end Tcp.Connection

end Ipsec
