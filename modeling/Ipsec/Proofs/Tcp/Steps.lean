import Ipsec.Tcp.Connection

/-!
# How steps of a connection end

`Ends step s Q` says that a step, taken from the scene `s`, ends in `Q`, which speaks of its
outcome and of the scene after it. It passes through the parts of a step one by one, so that a
step is followed branch by branch, errors included.

Relaying is a loop over a stream and a link of which nothing is known. `Relayed link R` collects
what a preorder on scenes has to put up with for relaying to stay in it, and `Relayed.drain` is
the induction, done once. A preorder that tells more of a drain than its single calls needs an
induction of its own. `Exchanged link data R` is what the handlers need of either kind.
-/

namespace Ipsec

/-! ## Streams in use -/

/-- A stream became another one by calls to it. -/
inductive LocalStream.Used {σ : Type} [LocalStream σ] : σ → σ → Prop where
  | refl (s : σ) : Used s s
  | available {s t : σ} : Used s t → Used s (LocalStream.available t).2
  | receive {s t : σ} (n : Nat) : Used s t → Used s (LocalStream.receive n t).2
  | send {s t : σ} (data : Bytes) : Used s t → Used s (LocalStream.send data t).2

/-- A stream became another one by calls that send nothing to it. -/
inductive LocalStream.Drawn {σ : Type} [LocalStream σ] : σ → σ → Prop where
  | refl (s : σ) : Drawn s s
  | available {s t : σ} : Drawn s t → Drawn s (LocalStream.available t).2
  | receive {s t : σ} (n : Nat) : Drawn s t → Drawn s (LocalStream.receive n t).2

open LocalStream (Used Drawn)

theorem LocalStream.Drawn.trans {σ : Type} [LocalStream σ] {s t u : σ} (h : Drawn s t)
    (h' : Drawn t u) : Drawn s u := by
  induction h' with
  | refl => exact h
  | available _ ih => exact ih.available
  | receive n _ ih => exact ih.receive n

theorem LocalStream.Drawn.used {σ : Type} [LocalStream σ] {s t : σ} (h : Drawn s t) :
    Used s t := by
  induction h with
  | refl => exact .refl s
  | available _ ih => exact ih.available
  | receive n _ ih => exact ih.receive n

/-- The error comes from the stream or from the link, and not from the connection. -/
def TcpError.FromWorld (e : TcpError) : Prop :=
  (∃ fault, e = .io fault) ∨ ∃ error, e = .tunnel error

theorem TcpError.FromWorld.not_violation {e : TcpError} (h : e.FromWorld) :
    e.isInvariantViolation = false := by
  rcases h with ⟨fault, rfl⟩ | ⟨error, rfl⟩ <;> rfl

namespace Tcp

variable {κ ω σ α β : Type}

/-! ## Ends of steps -/

/-- A step taken from a scene ends in `Q`, which speaks of its outcome and the scene after it. -/
def Ends (step : StepM κ ω σ α) (s : Scene κ ω σ)
    (Q : Except TcpError α → Scene κ ω σ → Prop) : Prop :=
  match step s with
  | .ok a t => Q (.ok a) t
  | .error e t => Q (.error e) t

section

variable {s : Scene κ ω σ} {Q : Except TcpError α → Scene κ ω σ → Prop}

@[simp] theorem ends_pure (a : α) : Ends (pure a) s Q ↔ Q (.ok a) s := Iff.rfl

@[simp] theorem ends_throw (e : TcpError) : Ends (throw e) s Q ↔ Q (.error e) s := Iff.rfl

@[simp] theorem ends_bind (step : StepM κ ω σ β) (next : β → StepM κ ω σ α) :
    Ends (step >>= next) s Q ↔
      Ends step s fun r t =>
        match r with
        | .ok b => Ends (next b) t Q
        | .error e => Q (.error e) t := by
  simp only [Ends, bind, EStateM.bind]
  cases step s <;> rfl

@[simp] theorem ends_get {Q : Except TcpError (Scene κ ω σ) → Scene κ ω σ → Prop} :
    Ends get s Q ↔ Q (.ok s) s := Iff.rfl

@[simp] theorem ends_note {Q : Except TcpError Unit → Scene κ ω σ → Prop} (notice : Notice) :
    Ends (Connection.note notice) s Q ↔ Q (.ok ()) { s with host := s.host.note notice } := Iff.rfl

@[simp] theorem ends_update {Q : Except TcpError Unit → Scene κ ω σ → Prop}
    (f : Connection σ → Connection σ) :
    Ends (Connection.update f) s Q ↔ Q (.ok ()) { s with conn := f s.conn } := Iff.rfl

@[simp] theorem ends_ite (p : Prop) [Decidable p] (x y : StepM κ ω σ α) :
    Ends (if p then x else y) s Q ↔ (p → Ends x s Q) ∧ (¬p → Ends y s Q) := by
  split <;> simp_all

/-- Comparing two numbers does no more than log a notice. -/
theorem ends_noteMismatch {Q : Except TcpError Unit → Scene κ ω σ → Prop}
    {notice : UInt32 → UInt32 → Notice} {expected actual : UInt32}
    (h : ∀ host, host = s.host ∨ host = s.host.note (notice expected actual) →
      Q (.ok ()) { s with host }) :
    Ends (Connection.noteMismatch notice expected actual) s Q := by
  unfold Connection.noteMismatch
  split
  · exact h s.host (.inl rfl)
  · exact h _ (.inr rfl)

/-- Every step ends somehow. -/
theorem ends_true (step : StepM κ ω σ α) (s : Scene κ ω σ) : Ends step s fun _ _ => True := by
  unfold Ends
  split <;> trivial

theorem Ends.mono {step : StepM κ ω σ α} {Q' : Except TcpError α → Scene κ ω σ → Prop}
    (h : Ends step s Q) (hQ : ∀ r t, Q r t → Q' r t) : Ends step s Q' := by
  unfold Ends at *
  cases hs : step s <;> rw [hs] at h <;> exact hQ _ _ h

theorem Ends.and {step : StepM κ ω σ α} {Q' : Except TcpError α → Scene κ ω σ → Prop}
    (h : Ends step s Q) (h' : Ends step s Q') : Ends step s fun r t => Q r t ∧ Q' r t := by
  unfold Ends at *
  cases hs : step s <;> rw [hs] at h h' <;> exact ⟨h, h'⟩

theorem Ends.of_ok {step : StepM κ ω σ α} {a : α} {t : Scene κ ω σ} (h : Ends step s Q)
    (hs : step s = .ok a t) : Q (.ok a) t := by
  rwa [Ends, hs] at h

theorem Ends.of_error {step : StepM κ ω σ α} {e : TcpError} {t : Scene κ ω σ} (h : Ends step s Q)
    (hs : step s = .error e t) : Q (.error e) t := by
  rwa [Ends, hs] at h

/-- The scene that a step ends in. -/
def afterwards (step : StepM κ ω σ α) (s : Scene κ ω σ) : Scene κ ω σ :=
  match step s with
  | .ok _ t => t
  | .error _ t => t

theorem ends_afterwards (step : StepM κ ω σ α) (s : Scene κ ω σ) :
    Ends step s fun _ t => t = afterwards step s := by
  unfold Ends afterwards
  cases step s <;> rfl

theorem Ends.afterwards {step : StepM κ ω σ α} {P : Scene κ ω σ → Prop}
    (h : Ends step s fun _ t => P t) : P (afterwards step s) := by
  unfold Ends at h
  unfold Tcp.afterwards
  cases hs : step s <;> rw [hs] at h <;> exact h

end

/-- The scene with a stream in the hands of the connection. -/
def Scene.holding (stream : σ) (s : Scene κ ω σ) : Scene κ ω σ :=
  { s with conn := { s.conn with stream := some stream } }

namespace Connection

/-! ## Replies -/

/-- The link decides how handing over ends. -/
theorem ends_handOver {link : Link κ ω} {packet : Ipv4.Packet} {s : Scene κ ω σ}
    {Q : Except TcpError Unit → Scene κ ω σ → Prop}
    (h : ∀ result carrier host, link packet s.conn.gateway s.carrier s.host =
      (result, carrier, host) → Q (result.mapError .tunnel) { s with carrier, host }) :
    Ends (handOver link packet) s Q := by
  unfold Ends handOver
  rcases hlink : link packet s.conn.gateway s.carrier s.host with ⟨result, carrier, host⟩
  have hQ := h result carrier host hlink
  cases result <;> exact hQ

/-- The packet that a reply would hand over now. -/
def packet (c : Connection σ) (flags : Flags) (data : Bytes) : Except EspError Ipv4.Packet :=
  (c.segment flags data).wrap c.near.address c.remote.address
    (UInt16.ofNat (c.random.range 10 32700).1)

/-- A reply either cannot be wrapped, or is counted and handed over. -/
theorem ends_reply {link : Link κ ω} {flags : Flags} {data : Bytes} {s : Scene κ ω σ}
    {Q : Except TcpError Unit → Scene κ ω σ → Prop}
    (hunwrapped : ∀ e, s.conn.packet flags data = .error e → ∀ random,
      Q (.error (.tunnel e)) { s with conn := { s.conn with random } })
    (hwrapped : ∀ packet, s.conn.packet flags data = .ok packet → ∀ random,
      Ends (handOver link packet)
        { s with conn := { s.conn with localSequence := s.conn.localSequence + 1, random } } Q) :
    Ends (reply link flags data) s Q := by
  simp only [reply, ends_bind, ends_get, ends_update]
  split
  · next e he => exact hunwrapped e he _
  · next packet hpacket =>
    rw [ends_bind, ends_update]
    exact hwrapped packet hpacket _

/-- A reply fails only if it cannot be sent. -/
theorem reply_fromWorld (link : Link κ ω) (flags : Flags) (data : Bytes) (s : Scene κ ω σ) :
    Ends (reply link flags data) s fun r _ => ∀ e, r = .error e → e.FromWorld := by
  refine ends_reply (fun e _ _ => ?_) fun packet _ _ => ends_handOver fun result _ _ _ => ?_
  · rintro _ ⟨rfl⟩
    exact .inr ⟨e, rfl⟩
  · cases result with
    | error e =>
      rintro _ ⟨rfl⟩
      exact .inr ⟨e, rfl⟩
    | ok => exact nofun

/-- A reply changes nothing in the connection but its local sequence and its random values. -/
theorem reply_conn (link : Link κ ω) (flags : Flags) (data : Bytes) (s : Scene κ ω σ) :
    Ends (reply link flags data) s fun _ t =>
      ∃ n random, t.conn = { s.conn with localSequence := n, random } :=
  ends_reply (fun _ _ random => ⟨s.conn.localSequence, random, rfl⟩) fun _ _ random =>
    ends_handOver fun _ _ _ _ => ⟨s.conn.localSequence + 1, random, rfl⟩

/-! ## Relaying -/

section

variable [LocalStream σ] {s : Scene κ ω σ}

/-- Draining asks the stream what it has, and relays it. The connection holds what becomes of the
stream. -/
theorem ends_drain {link : Link κ ω} {Q : Except TcpError Nat → Scene κ ω σ → Prop}
    (hnone : s.conn.stream = none → Q (.ok 0) s)
    (hfault : ∀ u fault v, s.conn.stream = some u → LocalStream.available u = (.error fault, v) →
      Q (.error (.io fault)) (s.holding v))
    (hrelay : ∀ u n v r w t, s.conn.stream = some u → LocalStream.available u = (.ok n, v) →
      relay link v n 0 s = (r, w, t) → Q r (t.holding w)) :
    Ends (drain link) s Q := by
  unfold Ends drain
  cases hs : s.conn.stream with
  | none => exact hnone hs
  | some u =>
    rcases havailable : LocalStream.available u with ⟨fault | n, v⟩
    · simp only [havailable]
      exact hfault u fault v hs havailable
    · rcases h : relay link v n 0 s with ⟨e | total, w, t⟩
      all_goals
        simp only [havailable, h]
        exact hrelay u n v _ w t hs havailable h

/-- To pump an established connection is to drain it. -/
theorem pump_eq (link : Link κ ω) (s : Scene κ ω σ) :
    pump link s =
      if s.conn.state = .established then
        match drain link s with
        | .ok n t => .ok (decide (0 < n)) t
        | .error e t => .error e t
      else .ok false s := by
  have hpump : pump link s =
      (if s.conn.state = .established then drain link >>= fun n => pure (decide (0 < n))
        else pure false) s := rfl
  rw [hpump]
  split
  · simp only [bind, EStateM.bind]
    cases drain link s <;> rfl
  · rfl

/-- Delivering sends data to the stream. The connection holds what becomes of it. -/
theorem ends_deliver {data : Bytes} {Q : Except TcpError Unit → Scene κ ω σ → Prop}
    (hnone : s.conn.stream = none → Q (.error .closedConnection) s)
    (hsome : ∀ u r v, s.conn.stream = some u → LocalStream.send data u = (r, v) →
      Q ((r.map fun _ => ()).mapError .io) (s.holding v)) :
    Ends (deliver data) s Q := by
  unfold Ends deliver
  cases hs : s.conn.stream with
  | none => exact hnone hs
  | some u =>
    rcases hsend : LocalStream.send data u with ⟨fault | taken, v⟩
    all_goals
      simp only [hsend]
      exact hsome u _ v hs hsend

end

/-- A preorder on scenes that nothing leaves that happens while a connection relays. -/
structure Relayed [LocalStream σ] (link : Link κ ω) (R : Scene κ ω σ → Scene κ ω σ → Prop) :
    Prop where
  refl : ∀ s, R s s
  trans : ∀ {s t u}, R s t → R t u → R s u
  /-- Replying stays in it. -/
  reply : ∀ flags data s, Ends (reply link flags data) s fun _ t => R s t
  /-- So does losing the room for pieces. -/
  shrink : ∀ s, R s { s with conn := { s.conn with relaySize := 0 } }
  /-- So does a call to the stream. -/
  used : ∀ s u v, s.conn.stream = some u → Used u v →
    R s { s with conn := { s.conn with stream := some v } }

section

variable [LocalStream σ] {link : Link κ ω} {R : Scene κ ω σ → Scene κ ω σ → Prop}

/-- Relaying stays in the preorder, leaves the connection's hold on its stream as it is, only draws
from the stream, and fails only if the stream or the link does. -/
theorem Relayed.relay (hR : Relayed link R) (stream : σ) (available total : Nat)
    (s : Scene κ ω σ) :
    R s (relay link stream available total s).2.2
      ∧ (relay link stream available total s).2.2.conn.stream = s.conn.stream
      ∧ Drawn stream (relay link stream available total s).2.1
      ∧ ∀ e, (relay link stream available total s).1 = .error e → e.FromWorld := by
  fun_induction Connection.relay link stream available total s with
  | case1 stream total s => exact ⟨hR.refl s, rfl, .refl stream, nofun⟩
  | case2 stream available total s _ fault rest hreceive =>
    refine ⟨hR.refl s, rfl, ?_, fun _ h => .inl ⟨fault, by cases h; rfl⟩⟩
    simpa [hreceive] using (Drawn.refl stream).receive s.conn.relaySize
  | case3 stream available total s _ rest hreceive =>
    refine ⟨hR.refl s, rfl, ?_, nofun⟩
    simpa [hreceive] using (Drawn.refl stream).receive s.conn.relaySize
  | case4 stream available total s _ byte bytes rest hreceive fault rest' havailable =>
    refine ⟨hR.shrink s, rfl, ?_, fun _ h => .inl ⟨fault, by cases h; rfl⟩⟩
    simpa [hreceive, havailable] using ((Drawn.refl stream).receive s.conn.relaySize).available
  | case5 stream available total s _ byte bytes rest hreceive more rest' havailable e t hreply =>
    obtain ⟨n, random, hconn⟩ := (reply_conn link _ _ s).of_error hreply
    refine ⟨(hR.reply _ _ s).of_error hreply, by rw [hconn], ?_, ?_⟩
    · simpa [hreceive, havailable] using ((Drawn.refl stream).receive s.conn.relaySize).available
    · rintro _ ⟨rfl⟩
      exact (reply_fromWorld link _ _ s).of_error hreply e rfl
  | case6 stream available total s _ byte bytes rest hreceive more rest' havailable t hreply ih =>
    obtain ⟨hstay, hstream, hdrawn, herror⟩ := ih
    obtain ⟨n, random, hconn⟩ := (reply_conn link _ _ s).of_ok hreply
    refine ⟨hR.trans ((hR.reply _ _ s).of_ok hreply) hstay, ?_, ?_, herror⟩
    · rw [hstream, hconn]
    · have hturn : Drawn stream rest' := by
        simpa [hreceive, havailable] using ((Drawn.refl stream).receive s.conn.relaySize).available
      exact hturn.trans hdrawn

/-- Draining stays in the preorder, and fails only if the stream or the link does. -/
theorem Relayed.drain (hR : Relayed link R) (s : Scene κ ω σ) :
    Ends (drain link) s fun r t => R s t ∧ ∀ e, r = .error e → e.FromWorld := by
  refine ends_drain (fun _ => ⟨hR.refl s, nofun⟩) (fun u fault v hu havailable => ?_)
    fun u n v r w t hu havailable h => ?_
  all_goals
    have hask : Drawn u v := by
      have hask := (Drawn.refl u).available
      rwa [havailable] at hask
  · exact ⟨hR.used s u v hu hask.used, fun _ h => .inl ⟨fault, by cases h; rfl⟩⟩
  · obtain ⟨hstay, hstream, hdrawn, herror⟩ := hR.relay v n 0 s
    rw [h] at hstay hstream hdrawn herror
    have hused := (hask.trans hdrawn).used
    exact ⟨hR.trans hstay (hR.used t u w (hstream.trans hu) hused), herror⟩

/-- Delivering stays in the preorder. Without a stream there is nothing to deliver to. -/
theorem Relayed.deliver (hR : Relayed link R) (data : Bytes) (s : Scene κ ω σ) :
    Ends (deliver data) s fun r t =>
      R s t ∧ ∀ e, r = .error e →
        e.FromWorld ∨ e = .closedConnection ∧ s.conn.stream = none := by
  refine ends_deliver (fun hnone => ?_) fun u r v hu hsend => ?_
  · exact ⟨hR.refl s, fun _ h => by cases h; exact .inr ⟨rfl, hnone⟩⟩
  · have hused : Used u v := by
      have hused := (Used.refl u).send data
      rwa [hsend] at hused
    refine ⟨hR.used s u v hu hused, fun e he => .inl (.inl ?_)⟩
    cases r with
    | error fault => exact ⟨fault, by cases he; rfl⟩
    | ok => cases he

end

/-! ## Exchanges -/

section

variable [LocalStream σ] {link : Link κ ω} {R : Scene κ ω σ → Scene κ ω σ → Prop}

/-- A preorder on scenes that draining a stream stays in. -/
structure Drained (link : Link κ ω) (R : Scene κ ω σ → Scene κ ω σ → Prop) : Prop where
  refl : ∀ s, R s s
  trans : ∀ {s t u}, R s t → R t u → R s u
  drain : ∀ s, Ends (drain link) s fun _ t => R s t

/-- A preorder on scenes that delivering some data and draining a stream stay in. -/
structure Exchanged (link : Link κ ω) (data : Bytes) (R : Scene κ ω σ → Scene κ ω σ → Prop) :
    Prop extends Drained link R where
  deliver : ∀ s, Ends (deliver data) s fun _ t => R s t

theorem Relayed.drained (hR : Relayed link R) : Drained link R where
  refl := hR.refl
  trans := hR.trans
  drain s := (hR.drain s).mono fun _ _ h => h.1

theorem Relayed.exchanged (hR : Relayed link R) (data : Bytes) : Exchanged link data R where
  toDrained := hR.drained
  deliver s := (hR.deliver data s).mono fun _ _ h => h.1

variable (link) in
theorem relayed_true : Relayed (σ := σ) link fun _ _ => True where
  refl _ := trivial
  trans _ _ := trivial
  reply _ _ _ := ends_true _ _
  shrink _ := trivial
  used _ _ _ _ _ := trivial

/-- Draining only draws from the stream. -/
theorem drain_drawn (s : Scene κ ω σ) :
    Ends (Connection.drain link) s fun _ t => Option.Rel Drawn s.conn.stream t.conn.stream := by
  refine ends_drain (fun hnone => ?_) (fun u fault v hu havailable => ?_)
    fun u n v r w t hu havailable h => ?_
  · rw [hnone]
    exact .none
  all_goals
    have hask : Drawn u v := by
      have hask := (Drawn.refl u).available
      rwa [havailable] at hask
    rw [hu]
  · exact .some hask
  · obtain ⟨-, -, hdrawn, -⟩ := (relayed_true link).relay v n 0 s
    rw [h] at hdrawn
    exact .some (hask.trans hdrawn)

/-- Draining fails only if the stream or the link does. -/
theorem Drained.drain_ends (hR : Drained link R) (s : Scene κ ω σ) :
    Ends (Connection.drain link) s fun r t => R s t ∧ ∀ e, r = .error e → e.FromWorld :=
  ((hR.drain s).and ((relayed_true link).drain s)).mono fun _ _ h => ⟨h.1, h.2.2⟩

/-- Delivering fails only if the stream does, or if there is none. -/
theorem Exchanged.deliver_ends {data : Bytes} (hR : Exchanged link data R) (s : Scene κ ω σ) :
    Ends (Connection.deliver data) s fun r t =>
      R s t ∧ ∀ e, r = .error e → e.FromWorld ∨ e = .closedConnection ∧ s.conn.stream = none :=
  ((hR.deliver s).and ((relayed_true link).deliver data s)).mono
    fun _ _ h => ⟨h.1, h.2.2⟩

end

end Connection

end Tcp

end Ipsec
