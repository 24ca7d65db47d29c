import Ipsec.Proofs.Tcp.Turn

/-!
# Segments that collide with a flow

A segment collides with an established flow if it comes from another port, or opens a flow. To
accept one does no more than note the time of contact and log a notice (`accept_of_collides`).

Neither of the two is seen by the steps of a connection: from scenes that are `Alike`, which differ
in nothing else, a step ends with the same outcome in scenes that are alike again. A step for which
this holds is `Deaf`, and all steps are, on a link that does not read the log.
-/

namespace Ipsec.Tcp

variable {κ ω σ α β : Type}

/-! ## Collisions -/

/-- The segment collides with an established flow from the given port. -/
def Segment.collides (port : UInt16) (segment : Segment) : Bool :=
  segment.sourcePort ≠ port || segment.flags.has Flags.syn

/-- What is logged about a segment that collides with a flow. -/
def Segment.collision (remote : Ipv4Endpoint) (segment : Segment) : Notice :=
  if segment.sourcePort ≠ remote.port then .foreignPort segment.sourcePort remote
  else .unexpectedOpening remote segment.flags

/-- The scene in which the connection is as it was, but for a later contact and a notice. -/
def Scene.contacted (now : Nat) (notice : Notice) (s : Scene κ ω σ) : Scene κ ω σ :=
  { s with conn := { s.conn with lastContact := now }, host := s.host.note notice }

/-- A step that ends in one way only is known. -/
theorem Ends.eq_ok {step : StepM κ ω σ α} {a : α} {s u : Scene κ ω σ}
    (h : Ends step s fun r t => r = .ok a ∧ t = u) : step s = .ok a u := by
  unfold Ends at h
  cases hstep : step s <;> rw [hstep] at h <;> obtain ⟨hr, rfl⟩ := h
  · cases hr
    rfl
  · cases hr

namespace Connection

/-- A segment that collides with an established flow is logged. -/
theorem handleEstablished_of_collides [LocalStream σ] (link : Link κ ω) {segment : Segment}
    {s : Scene κ ω σ} (h : segment.collides s.conn.remote.port) :
    handleEstablished link segment s =
      .ok .proceed { s with host := s.host.note (segment.collision s.conn.remote) } := by
  refine Ends.eq_ok ?_
  unfold handleEstablished
  simp only [ends_bind, ends_get, ends_ite, ends_note, ends_pure]
  refine ⟨fun hport => ?foreign, fun hport => ⟨fun hsyn => ?opening, fun hsyn => ?neither⟩⟩
  case foreign => simp [Segment.collision, hport]
  case opening => simp [Segment.collision, Decidable.not_not.1 hport]
  case neither => simp_all [Segment.collides]

theorem handle_of_collides [Platform ω σ] (link : Link κ ω) {packet : Ipv4.Packet}
    {segment : Segment} {s : Scene κ ω σ} (hstate : s.conn.state = .established)
    (hread : Segment.ofBytes? packet.payload = some segment)
    (h : segment.collides s.conn.remote.port) :
    handle link packet s =
      .ok .proceed { s with host := s.host.note (segment.collision s.conn.remote) } := by
  rw [← handleEstablished_of_collides link h]
  have hget (next : Scene κ ω σ → StepM κ ω σ Disposition) : (get >>= next) s = next s s := rfl
  unfold handle
  simp only [hread]
  rw [hget, hstate]

/-- A packet with a segment that collides with an established flow is logged, and the contact is
noted. -/
theorem accept_of_collides [Platform ω σ] (link : Link κ ω) {packet : Ipv4.Packet} (now : Nat)
    {segment : Segment} {s : Scene κ ω σ} (hstate : s.conn.state = .established)
    (hread : Segment.ofBytes? packet.payload = some segment)
    (h : segment.collides s.conn.remote.port) :
    accept link packet now s =
      .ok .proceed (s.contacted now (segment.collision s.conn.remote)) := by
  have haccept : accept link packet now s =
      handle link packet { s with conn := { s.conn with lastContact := now } } := rfl
  rw [haccept]
  exact handle_of_collides link hstate hread h

end Connection

/-! ## Scenes that are alike -/

/-- The scene with another time of contact and another log. -/
def Scene.recast (contact : Nat) (log : List Notice) (s : Scene κ ω σ) : Scene κ ω σ :=
  ⟨{ s.conn with lastContact := contact }, s.carrier, ⟨s.host.world, log⟩⟩

/-- Two scenes differ in nothing but the time of contact and the log. -/
def Alike (s t : Scene κ ω σ) : Prop := ∃ contact log, t = s.recast contact log

/-- Two steps end with the same outcome, in scenes that are alike. -/
inductive EndsAlike : EStateM.Result TcpError (Scene κ ω σ) α →
    EStateM.Result TcpError (Scene κ ω σ) α → Prop where
  | ok (a : α) {s t : Scene κ ω σ} (h : Alike s t) : EndsAlike (.ok a s) (.ok a t)
  | error (e : TcpError) {s t : Scene κ ω σ} (h : Alike s t) :
    EndsAlike (.error e s) (.error e t)

/-- A step sees neither the time of contact nor the log. -/
def Deaf (step : StepM κ ω σ α) : Prop := ∀ ⦃s t⦄, Alike s t → EndsAlike (step s) (step t)

theorem Alike.refl (s : Scene κ ω σ) : Alike s s := ⟨s.conn.lastContact, s.host.log, rfl⟩

/-- The connection without its time of contact. -/
def Connection.dateless (c : Connection σ) : Connection σ := { c with lastContact := 0 }

theorem Connection.eq_of_dateless {c c' : Connection σ} (h : c.dateless = c'.dateless) :
    c' = { c with lastContact := c'.lastContact } := by
  cases c
  cases c'
  cases h
  rfl

/-- Scenes are alike if all else in them is equal. -/
theorem alike_iff {s t : Scene κ ω σ} :
    Alike s t ↔ s.conn.dateless = t.conn.dateless ∧ s.carrier = t.carrier ∧
      s.host.world = t.host.world := by
  constructor
  · rintro ⟨contact, log, rfl⟩
    exact ⟨rfl, rfl, rfl⟩
  · obtain ⟨conn, carrier, world, log⟩ := s
    obtain ⟨conn', carrier', world', log'⟩ := t
    rintro ⟨hconn, rfl, rfl⟩
    refine ⟨conn'.lastContact, log', ?_⟩
    rw [Scene.recast, ← Connection.eq_of_dateless hconn]

namespace Deaf

theorem pure (a : α) : Deaf (pure a : StepM κ ω σ α) := fun _ _ h => .ok a h

theorem throw (e : TcpError) : Deaf (throw e : StepM κ ω σ α) := fun _ _ h => .error e h

theorem bind {step : StepM κ ω σ α} {next : α → StepM κ ω σ β} (h : Deaf step)
    (h' : ∀ a, Deaf (next a)) : Deaf (step >>= next) := by
  intro s t hst
  have hends := h hst
  change EndsAlike (EStateM.bind step next s) (EStateM.bind step next t)
  unfold EStateM.bind
  generalize step s = r at hends ⊢
  generalize step t = r' at hends ⊢
  cases hends with
  | ok a halike => exact h' a halike
  | error e halike => exact .error e halike

/-- Looking at the scene is harmless if what follows depends on nothing else. -/
theorem get {next : Scene κ ω σ → StepM κ ω σ α} (h : ∀ s, Deaf (next s))
    (h' : ∀ s contact log, next (s.recast contact log) = next s) : Deaf (get >>= next) := by
  rintro s t ⟨contact, log, rfl⟩
  change EndsAlike (next s s) (next (s.recast contact log) (s.recast contact log))
  rw [h']
  exact h s ⟨contact, log, rfl⟩

theorem ite {p : Prop} [Decidable p] {step step' : StepM κ ω σ α} (h : Deaf step)
    (h' : Deaf step') : Deaf (if p then step else step') := by
  split
  · exact h
  · exact h'

theorem note (notice : Notice) : Deaf (Connection.note notice : StepM κ ω σ Unit) := by
  rintro s t ⟨contact, log, rfl⟩
  exact .ok () ⟨contact, log ++ [notice], rfl⟩

theorem noteMismatch (notice : UInt32 → UInt32 → Notice) (expected actual : UInt32) :
    Deaf (Connection.noteMismatch notice expected actual : StepM κ ω σ Unit) :=
  .ite (.pure ()) (.note _)

/-- A change of the connection that does not depend on the time of contact. -/
theorem update {f : Connection σ → Connection σ}
    (h : ∀ c contact, ∃ contact',
      f { c with lastContact := contact } = { f c with lastContact := contact' }) :
    Deaf (Connection.update f : StepM κ ω σ Unit) := by
  rintro s t ⟨contact, log, rfl⟩
  obtain ⟨contact', hf⟩ := h s.conn contact
  exact .ok () ⟨contact', log, by simp [Scene.recast, hf]⟩

end Deaf

/-! ## Steps are deaf -/

/-- A link that does not read the log. -/
def IsDeafLink (link : Link κ ω) : Prop := ∀ packet receiver carrier host log, ∃ log',
  link packet receiver carrier { host with log } =
    ((link packet receiver carrier host).1, (link packet receiver carrier host).2.1,
      { (link packet receiver carrier host).2.2 with log := log' })

namespace Connection

variable {link : Link κ ω}

theorem handOver_deaf (hlink : IsDeafLink link) (packet : Ipv4.Packet) :
    Deaf (handOver link packet : StepM κ ω σ Unit) := by
  rintro s t ⟨contact, log, rfl⟩
  obtain ⟨log', h⟩ := hlink packet s.conn.gateway s.carrier s.host log
  unfold handOver
  have h' : link packet (s.recast contact log).conn.gateway (s.recast contact log).carrier
      (s.recast contact log).host = _ := h
  rw [h']
  rcases link packet s.conn.gateway s.carrier s.host with ⟨fault | ⟨⟩, carrier, host⟩
  · exact .error _ ⟨contact, log', rfl⟩
  · exact .ok () ⟨contact, log', rfl⟩

theorem reply_deaf (hlink : IsDeafLink link) (flags : Flags) (data : Bytes) :
    Deaf (reply link flags data : StepM κ ω σ Unit) := by
  rintro s t ⟨contact, log, rfl⟩
  rw [reply_eq, reply_eq]
  have hpacket : (s.recast contact log).conn.packet flags data = s.conn.packet flags data := rfl
  rw [hpacket]
  cases s.conn.packet flags data with
  | error e => exact .error _ ⟨contact, log, rfl⟩
  | ok packet => exact handOver_deaf hlink packet ⟨contact, log, rfl⟩

section

variable [LocalStream σ]

/-- Relaying from alike scenes ends alike, with the same stream. -/
theorem relay_alike (hlink : IsDeafLink link) (u : σ) (available total : Nat)
    {s t : Scene κ ω σ} (h : Alike s t) :
    (relay link u available total t).1 = (relay link u available total s).1
      ∧ (relay link u available total t).2.1 = (relay link u available total s).2.1
      ∧ Alike (relay link u available total s).2.2 (relay link u available total t).2.2 := by
  have hsize : ∀ {s t : Scene κ ω σ}, Alike s t → t.conn.relaySize = s.conn.relaySize := by
    rintro s t ⟨contact, log, rfl⟩
    rfl
  -- The induction is on the loop in one scene. The loop in the other is unrolled beside it.
  fun_induction Connection.relay link u available total s generalizing t with
  | case1 u total s =>
    rw [relay_eq, if_pos rfl]
    exact ⟨rfl, rfl, h⟩
  | case2 u available total s hmore fault v hreceive =>
    rw [relay_eq, if_neg hmore, hsize h, hreceive]
    exact ⟨rfl, rfl, h⟩
  | case3 u available total s hmore v hreceive =>
    rw [relay_eq, if_neg hmore, hsize h, hreceive]
    exact ⟨rfl, rfl, h⟩
  | case4 u available total s hmore byte bytes v hreceive fault v' havailable =>
    rw [relay_eq, if_neg hmore, hsize h, hreceive]
    obtain ⟨contact, log, rfl⟩ := h
    simp only [havailable]
    exact ⟨trivial, trivial, contact, log, rfl⟩
  | case5 u available total s hmore byte bytes v hreceive more v' havailable e s' hreply =>
    have hends := reply_deaf hlink (relayFlags more) (byte :: bytes) h
    rw [relay_eq, if_neg hmore, hsize h, hreceive]
    rw [hreply] at hends
    simp only [havailable]
    generalize reply link (relayFlags more) (byte :: bytes) t = r at hends ⊢
    cases hends with
    | error e h' => exact ⟨rfl, rfl, h'⟩
  | case6 u available total s hmore byte bytes v hreceive more v' havailable s' hreply ih =>
    have hends := reply_deaf hlink (relayFlags more) (byte :: bytes) h
    rw [relay_eq, if_neg hmore, hsize h, hreceive]
    rw [hreply] at hends
    simp only [havailable]
    generalize reply link (relayFlags more) (byte :: bytes) t = r at hends ⊢
    cases hends with
    | ok _ h' => exact ih h'

omit [LocalStream σ] in
theorem Alike.holding {s t : Scene κ ω σ} (h : Alike s t) (u : σ) :
    Alike (s.holding u) (t.holding u) := by
  obtain ⟨contact, log, rfl⟩ := h
  exact ⟨contact, log, rfl⟩

theorem drain_deaf (hlink : IsDeafLink link) : Deaf (drain link : StepM κ ω σ Nat) := by
  rintro s t h
  have hstream : t.conn.stream = s.conn.stream := by
    obtain ⟨contact, log, rfl⟩ := h
    rfl
  unfold drain
  rw [hstream]
  cases s.conn.stream with
  | none => exact .ok 0 h
  | some u =>
    rcases havailable : LocalStream.available u with ⟨fault | available, v⟩
    · simp only [havailable]
      exact .error _ (Alike.holding h v)
    · simp only [havailable]
      have hrelay := relay_alike hlink v available 0 h
      generalize relay link v available 0 s = ended at hrelay ⊢
      generalize relay link v available 0 t = ended' at hrelay ⊢
      obtain ⟨result, w, s'⟩ := ended
      obtain ⟨result', w', t'⟩ := ended'
      obtain ⟨rfl, rfl, h'⟩ := hrelay
      cases result' with
      | error e => exact .error e (Alike.holding h' w')
      | ok total => exact .ok total (Alike.holding h' w')

theorem deliver_deaf (data : Bytes) : Deaf (deliver data : StepM κ ω σ Unit) := by
  rintro s t ⟨contact, log, rfl⟩
  unfold deliver
  have hstream : (s.recast contact log).conn.stream = s.conn.stream := rfl
  rw [hstream]
  cases s.conn.stream with
  | none => exact .error _ ⟨contact, log, rfl⟩
  | some u =>
    rcases hsend : LocalStream.send data u with ⟨fault | taken, v⟩
    · simp only [hsend]
      exact .error _ ⟨contact, log, rfl⟩
    · simp only [hsend]
      exact .ok () ⟨contact, log, rfl⟩

theorem pump_deaf (hlink : IsDeafLink link) : Deaf (pump link : StepM κ ω σ Bool) := by
  refine .get (fun s => .ite (.bind (drain_deaf hlink) fun _ => .pure _) (.pure _)) ?_
  intro s contact log
  rfl

end

theorem handleOpening_deaf (hlink : IsDeafLink link) (packet : Ipv4.Packet) (segment : Segment) :
    Deaf (handleOpening link packet segment : StepM κ ω σ Disposition) := by
  unfold handleOpening
  refine .ite (.bind (.throw _) fun _ => ?_) ?_
  all_goals
    refine .bind (.update fun c contact => ⟨contact, rfl⟩) fun _ => ?_
    refine .bind (reply_deaf hlink _ _) fun _ => ?_
    exact .bind (.update fun c contact => ⟨contact, rfl⟩) fun _ => .pure _

theorem handleEstablished_deaf [LocalStream σ] (hlink : IsDeafLink link) (segment : Segment) :
    Deaf (handleEstablished link segment : StepM κ ω σ Disposition) := by
  unfold handleEstablished
  refine .get (fun s => ?_) fun _ _ _ => rfl
  refine .ite (.bind (.note _) fun _ => .pure _) ?_
  refine .ite (.bind (.note _) fun _ => .pure _) ?_
  refine .bind (.update fun c contact => ⟨contact, rfl⟩) fun _ => ?_
  refine .ite (.bind (.note _) fun _ => .bind (.update ?_) fun _ => .pure _) ?_
  · exact fun c contact => ⟨contact, rfl⟩
  refine .ite (.pure _) ?_
  refine .bind (.noteMismatch _ _ _) fun _ => .bind (.noteMismatch _ _ _) fun _ => ?_
  refine .bind (.update fun c contact => ⟨contact, rfl⟩) fun _ => ?_
  have hdrain : Deaf (drain link >>= fun _ => pure Disposition.proceed :
      StepM κ ω σ Disposition) := .bind (drain_deaf hlink) fun _ => .pure _
  exact .ite (.bind (deliver_deaf _) fun _ => hdrain) hdrain

variable [Platform ω σ]

theorem openStream_deaf : Deaf (openStream : StepM κ ω σ Unit) := by
  rintro s t ⟨contact, log, rfl⟩
  unfold openStream
  have hstream : (s.recast contact log).conn.stream = s.conn.stream := rfl
  rw [hstream]
  cases s.conn.stream with
  | some u => exact .ok () ⟨contact, log, rfl⟩
  | none =>
    simp only [Host.connect]
    have hconnect : Platform.connect (s.recast contact log).conn.near
        (s.recast contact log).host.world = Platform.connect s.conn.near s.host.world := rfl
    rw [hconnect]
    rcases Platform.connect s.conn.near s.host.world with ⟨fault | u, world⟩
    · exact .error _ ⟨contact, log, rfl⟩
    · exact .ok () ⟨contact, log, rfl⟩

theorem handleCompletion_deaf (segment : Segment) :
    Deaf (handleCompletion segment : StepM κ ω σ Disposition) := by
  unfold handleCompletion
  refine .ite (.bind (.throw _) fun _ => ?_) ?_
  all_goals
    refine .get (fun s => ?_) fun _ _ _ => rfl
    refine .bind (.noteMismatch _ _ _) fun _ => .bind (.noteMismatch _ _ _) fun _ => ?_
    refine .bind openStream_deaf fun _ => ?_
    refine .bind (.update fun c contact => ⟨contact, rfl⟩) fun _ => ?_
    exact .bind (.note _) fun _ => .pure _

theorem handle_deaf (hlink : IsDeafLink link) (packet : Ipv4.Packet) :
    Deaf (handle link packet : StepM κ ω σ Disposition) := by
  unfold handle
  split
  · exact .bind (.note _) fun _ => .throw _
  · next segment _ =>
    refine .get (fun s => ?_) fun _ _ _ => rfl
    split
    · exact .throw _
    · exact handleOpening_deaf hlink packet segment
    · exact handleCompletion_deaf segment
    · exact handleEstablished_deaf hlink segment
    · exact .bind (.note _) fun _ => .pure _

theorem accept_deaf (hlink : IsDeafLink link) (packet : Ipv4.Packet) (now : Nat) :
    Deaf (accept link packet now : StepM κ ω σ Disposition) :=
  .bind (.update fun _ _ => ⟨now, rfl⟩) fun _ => handle_deaf hlink packet

/-- Closing alike connections ends alike. -/
theorem close_alike {s t : Scene κ ω σ} (h : Alike s t) :
    ∃ contact log, t.conn.close t.host = ((s.conn.close s.host).1,
      { (s.conn.close s.host).2.1 with lastContact := contact },
      { (s.conn.close s.host).2.2 with log }) := by
  obtain ⟨contact, log, rfl⟩ := h
  refine ⟨contact, log, ?_⟩
  unfold close Scene.recast Host.close
  cases s.conn.stream <;> rfl

theorem start_deaf (hlink : IsDeafLink link) (packet : Ipv4.Packet) (now : Nat) :
    Deaf (start link packet now : StepM κ ω σ Disposition) := by
  rintro s t ⟨contact, log, rfl⟩
  unfold start
  have hstate : (s.recast contact log).conn.state = s.conn.state := rfl
  rw [hstate]
  split
  · exact .error _ ⟨contact, log, rfl⟩
  · have hdraw : (s.recast contact log).conn.random = s.conn.random := rfl
    rw [hdraw]
    rcases s.conn.random.range 100 65000 with ⟨first, random⟩
    have hlistening : Alike { s with conn := s.conn.listening first random }
        { s.recast contact log with conn := (s.recast contact log).conn.listening first random } :=
      ⟨contact, log, rfl⟩
    have hends := handle_deaf (ω := ω) hlink packet hlistening
    unfold listening at hends
    simp only
    generalize handle link packet _ = r at hends ⊢
    generalize handle link packet _ = r' at hends ⊢
    cases hends with
    | ok d h =>
      obtain ⟨contact', log', rfl⟩ := h
      exact .ok d ⟨now, log', rfl⟩
    | @error e u u' h =>
      obtain ⟨contact', log', hclose⟩ := close_alike h
      obtain ⟨_, _, rfl⟩ := h
      simp only [hclose]
      rcases u.conn.close u.host with ⟨fault | ⟨⟩, conn, host⟩
      · exact .error e ⟨contact', _, rfl⟩
      · exact .error e ⟨contact', _, rfl⟩

end Connection

end Ipsec.Tcp
