import Ipsec.Proofs.Tcp.Endpoints
import Ipsec.Proofs.Tcp.Segment

/-!
# Turns of a connection

A pump sees nothing of its link but whether that can send. `Answers` are links for which this does
not depend on what they were handed before. For such a link a connection can be pumped by itself, on
a link that does no more than collect packets (`collecting`): the connection, the result and the
packets are its `turn`. On the real link the pump ends in the same way but for the wording of an
error, with the same connection, and the link is handed the packets of the turn one after the other
(`pump_turn`). They all go from the near to the remote endpoint of the connection, by its gateway
(`turn_emits`).
-/

namespace Ipsec.Tcp

variable {κ ω σ α : Type}

/-! ## Links that answer in a fixed way -/

/-- Whether a link can send a packet to an endpoint. -/
abbrev Answer := Ipv4.Packet → Endpoint → Bool

/-- In these states the link can send just these packets, whatever it was handed before. -/
structure Answers (link : Link κ ω) (answer : Answer) (I : κ → Host ω → Prop) : Prop where
  result : ∀ {carrier host}, I carrier host → ∀ packet receiver,
    (link packet receiver carrier host).1.isOk = answer packet receiver
  keeps : ∀ {carrier host}, I carrier host → ∀ packet receiver,
    I (link packet receiver carrier host).2.1 (link packet receiver carrier host).2.2

/-- A link that can send just these packets, and collects what it is handed. -/
def collecting (answer : Answer) : Link (List (Ipv4.Packet × Endpoint)) Unit :=
  fun packet receiver handed host =>
    (if answer packet receiver then .ok () else .error (.transport .networkUnreachable),
      handed ++ [(packet, receiver)], host)

/-- What becomes of a link and its host when the link is handed packets one after the other. -/
def handAll (link : Link κ ω) (x : κ × Host ω) (packets : List (Ipv4.Packet × Endpoint)) :
    κ × Host ω :=
  packets.foldl (fun x p => (link p.1 p.2 x.1 x.2).2) x

variable {link : Link κ ω} {answer : Answer} {I : κ → Host ω → Prop} {x : κ × Host ω}

theorem Answers.handAll (h : Answers link answer I) (hx : I x.1 x.2)
    (packets : List (Ipv4.Packet × Endpoint)) :
    I (handAll link x packets).1 (handAll link x packets).2 := by
  induction packets generalizing x with
  | nil => exact hx
  | cons p rest ih => exact ih (h.keeps hx p.1 p.2)

/-- The scene in which the link was handed what the collecting link has. -/
def replayed (link : Link κ ω) (x : κ × Host ω)
    (t : Scene (List (Ipv4.Packet × Endpoint)) Unit σ) : Scene κ ω σ :=
  ⟨t.conn, (handAll link x t.carrier).1, (handAll link x t.carrier).2⟩

variable (link x) in
theorem replayed_append (t : Scene (List (Ipv4.Packet × Endpoint)) Unit σ) (packet : Ipv4.Packet)
    (receiver : Endpoint) :
    replayed link x { t with carrier := t.carrier ++ [(packet, receiver)] } =
      ⟨t.conn, (link packet receiver (replayed link x t).carrier (replayed link x t).host).2.1,
        (link packet receiver (replayed link x t).carrier (replayed link x t).host).2.2⟩ := by
  simp [replayed, handAll]

/-- Two steps end in the same way, but for the wording of an error, and the scenes they end in are
matched by a function. -/
inductive Mirrored {κ' ω' : Type} (f : Scene κ ω σ → Scene κ' ω' σ) :
    EStateM.Result TcpError (Scene κ ω σ) α → EStateM.Result TcpError (Scene κ' ω' σ) α → Prop where
  | ok (a : α) (t : Scene κ ω σ) : Mirrored f (.ok a t) (.ok a (f t))
  | error (e e' : TcpError) (t : Scene κ ω σ) : Mirrored f (.error e t) (.error e' (f t))

section

variable {κ' ω' : Type} {f : Scene κ ω σ → Scene κ' ω' σ} {t : Scene κ ω σ}
  {r : EStateM.Result TcpError (Scene κ' ω' σ) α}

theorem Mirrored.of_ok {a : α} (h : Mirrored f (.ok a t) r) : r = .ok a (f t) := by
  cases h
  rfl

theorem Mirrored.of_error {e : TcpError} (h : Mirrored f (.error e t) r) :
    ∃ e', r = .error e' (f t) := by
  cases h
  exact ⟨_, rfl⟩

end

namespace Connection

/-! ## Pumps on both links -/

theorem reply_eq (link : Link κ ω) (flags : Flags) (data : Bytes) (s : Scene κ ω σ) :
    reply link flags data s =
      match s.conn.packet flags data with
      | .error e => .error (.tunnel e)
          { s with conn := { s.conn with random := (s.conn.random.range 10 32700).2 } }
      | .ok packet => handOver link packet
          { s with
            conn :=
              { s.conn with
                localSequence := s.conn.localSequence + 1
                random := (s.conn.random.range 10 32700).2 } } := by
  have hreply : reply link flags data s =
      (match s.conn.packet flags data with
        | .error e => throw (.tunnel e)
        | .ok packet => do
          update fun c => { c with localSequence := c.localSequence + 1 }
          handOver link packet : StepM κ ω σ Unit)
        { s with conn := { s.conn with random := (s.conn.random.range 10 32700).2 } } := rfl
  rw [hreply]
  cases s.conn.packet flags data <;> rfl

section

variable [LocalStream σ]

/-- One turn of the loop. -/
theorem relay_eq (link : Link κ ω) (u : σ) (available total : Nat) (s : Scene κ ω σ) :
    relay link u available total s =
      if available = 0 then (.ok total, u, s)
      else match LocalStream.receive s.conn.relaySize u with
        | (.error fault, v) => (.error (.io fault), v, s)
        | (.ok [], v) => (.ok total, v, s)
        | (.ok (byte :: bytes), v) =>
          match LocalStream.available v with
          | (.error fault, v') =>
            (.error (.io fault), v', { s with conn := { s.conn with relaySize := 0 } })
          | (.ok more, v') =>
            match reply link (relayFlags more) (byte :: bytes) s with
            | .error e t => (.error e, v', t)
            | .ok () t => relay link v' more (total + (bytes.length + 1)) t := by
  rw [Connection.relay]
  split
  · rfl
  · split
    · next hreceive => simp only [hreceive]
    · next hreceive => simp only [hreceive]
    · next byte bytes _ hreceive =>
      simp only [hreceive]
      split
      · next havailable => simp only [havailable]
      · next more _ havailable =>
        cases hreply : reply link (relayFlags more) (byte :: bytes) s <;>
          simp only [havailable, hreply]

end

section

variable (h : Answers link answer I) (hx : I x.1 x.2)
  (t : Scene (List (Ipv4.Packet × Endpoint)) Unit σ)

include h hx

theorem handOver_mirrored (packet : Ipv4.Packet) :
    Mirrored (replayed link x) (handOver (collecting answer) packet t)
      (handOver link packet (replayed link x t)) := by
  have hresult := h.result (h.handAll hx t.carrier) packet t.conn.gateway
  have hafter := replayed_append link x t packet t.conn.gateway
  unfold handOver collecting
  rcases hlink : link packet t.conn.gateway (handAll link x t.carrier).1
    (handAll link x t.carrier).2 with ⟨fault | ⟨⟩, carrier, host⟩
  all_goals
    rw [hlink] at hresult
    simp only [replayed, hlink] at hafter ⊢
    rw [← hresult]
  · exact hafter ▸ Mirrored.error _ _ _
  · exact hafter ▸ Mirrored.ok _ _

theorem reply_mirrored (flags : Flags) (data : Bytes) :
    Mirrored (replayed link x) (reply (collecting answer) flags data t)
      (reply link flags data (replayed link x t)) := by
  rw [reply_eq, reply_eq]
  have hconn : (replayed link x t).conn = t.conn := rfl
  rw [hconn]
  cases t.conn.packet flags data with
  | error e => exact .error _ _ _
  | ok packet =>
    exact handOver_mirrored h hx
      { t with
        conn :=
          { t.conn with
            localSequence := t.conn.localSequence + 1
            random := (t.conn.random.range 10 32700).2 } } packet

variable [LocalStream σ]

theorem relay_mirrored (u : σ) (available total : Nat) :
    (relay link u available total (replayed link x t)).1.toOption =
        (relay (collecting answer) u available total t).1.toOption
      ∧ (relay link u available total (replayed link x t)).2 =
        ((relay (collecting answer) u available total t).2.1,
          replayed link x (relay (collecting answer) u available total t).2.2) := by
  have hconn : ∀ t : Scene (List (Ipv4.Packet × Endpoint)) Unit σ,
      (replayed link x t).conn = t.conn := fun _ => rfl
  -- The induction is on the loop that collects. The other one is unrolled beside it.
  fun_induction Connection.relay (collecting answer) u available total t with
  | case1 u total t =>
    rw [relay_eq, if_pos rfl]
    exact ⟨rfl, rfl⟩
  | case2 u available total t hmore fault v hreceive =>
    rw [relay_eq, if_neg hmore, hconn, hreceive]
    exact ⟨rfl, rfl⟩
  | case3 u available total t hmore v hreceive =>
    rw [relay_eq, if_neg hmore, hconn, hreceive]
    exact ⟨rfl, rfl⟩
  | case4 u available total t hmore byte bytes v hreceive fault v' havailable =>
    rw [relay_eq, if_neg hmore, hconn, hreceive]
    simp only [havailable, Except.toOption]
    exact ⟨trivial, rfl⟩
  | case5 u available total t hmore byte bytes v hreceive more v' havailable e t' hreply =>
    obtain ⟨e', hreply'⟩ :=
      (hreply ▸ reply_mirrored h hx t (relayFlags more) (byte :: bytes)).of_error
    rw [relay_eq, if_neg hmore, hconn, hreceive]
    simp only [havailable, hreply', Except.toOption]
    exact ⟨trivial, trivial⟩
  | case6 u available total t hmore byte bytes v hreceive more v' havailable t' hreply ih =>
    have hreply' := (hreply ▸ reply_mirrored h hx t (relayFlags more) (byte :: bytes)).of_ok
    rw [relay_eq, if_neg hmore, hconn, hreceive]
    simp only [havailable, hreply']
    exact ih

theorem drain_mirrored :
    Mirrored (replayed link x) (drain (collecting answer) t) (drain link (replayed link x t)) := by
  unfold drain
  have hconn : (replayed link x t).conn = t.conn := rfl
  rw [hconn]
  cases t.conn.stream with
  | none => exact .ok 0 t
  | some u =>
    rcases havailable : LocalStream.available u with ⟨fault | available, v⟩
    · simp only [havailable]
      exact .error _ _ (t.holding v)
    · simp only [havailable]
      have hrelay := relay_mirrored h hx t v available 0
      generalize relay (collecting answer) v available 0 t = collected at hrelay ⊢
      generalize relay link v available 0 (replayed link x t) = sent at hrelay ⊢
      obtain ⟨e | total, w, t'⟩ := collected <;> obtain ⟨e' | total', w', s⟩ := sent
      · cases hrelay.2
        exact .error _ _ (t'.holding w)
      · cases hrelay.1
      · cases hrelay.1
      · cases hrelay.1
        cases hrelay.2
        exact .ok _ (t'.holding w)

/-- A pump ends in the same way as on the collecting link, and the link is handed what that
collects. -/
theorem pump_mirrored :
    Mirrored (replayed link x) (pump (collecting answer) t) (pump link (replayed link x t)) := by
  rw [pump_eq, pump_eq]
  have hconn : (replayed link x t).conn = t.conn := rfl
  have hdrain := drain_mirrored h hx t
  rw [hconn]
  split
  · generalize drain (collecting answer) t = collected at hdrain ⊢
    generalize drain link (replayed link x t) = sent at hdrain ⊢
    cases hdrain with
    | ok n t' => exact .ok _ t'
    | error e e' t' => exact .error e e' t'
  · exact .ok false t

end

/-! ## Turns -/

variable [LocalStream σ]

/-- What comes of pumping a connection by itself. -/
structure Turn (σ : Type) where
  /-- Whether there was anything to relay. Nothing if relaying failed. -/
  result : Option Bool
  /-- The connection afterwards. -/
  conn : Connection σ
  /-- The packets that were handed over, with the endpoints they are for. -/
  handed : List (Ipv4.Packet × Endpoint)

/-- Pumps a connection on a link that can send just these packets. -/
def turn (answer : Answer) (c : Connection σ) : Turn σ :=
  match pump (collecting answer) ⟨c, [], ⟨(), []⟩⟩ with
  | .ok relayed t => ⟨some relayed, t.conn, t.carrier⟩
  | .error _ t => ⟨none, t.conn, t.carrier⟩

/-- A pump of a connection is its turn. -/
theorem pump_turn (h : Answers link answer I) (c : Connection σ) (hx : I x.1 x.2) :
    Ends (pump link) ⟨c, x.1, x.2⟩ fun r s =>
      r.toOption = (c.turn answer).result ∧ s.conn = (c.turn answer).conn
        ∧ (s.carrier, s.host) = handAll link x (c.turn answer).handed := by
  have hpump := pump_mirrored h hx (⟨c, [], ⟨(), []⟩⟩ : Scene _ Unit σ)
  unfold Ends turn
  change Mirrored _ _ (pump link ⟨c, x.1, x.2⟩) at hpump
  generalize pump (collecting answer) (⟨c, [], ⟨(), []⟩⟩ : Scene _ Unit σ) = collected at hpump ⊢
  generalize pump link ⟨c, x.1, x.2⟩ = sent at hpump ⊢
  cases hpump with
  | ok relayed t => exact ⟨rfl, rfl, rfl⟩
  | error e e' t => exact ⟨rfl, rfl, rfl⟩

/-! ## What is handed over -/

/-- The packet is one that the connection can hand over: it carries a segment from the near to the
remote endpoint, and is for the gateway of the connection. -/
structure Emits (c : Connection σ) (packet : Ipv4.Packet) (receiver : Endpoint) : Prop where
  receiver : receiver = c.gateway
  source : packet.source = c.near.address
  destination : packet.destination = c.remote.address
  segment : ∃ segment, Segment.ofBytes? packet.payload = some segment
    ∧ segment.sourcePort = c.near.port ∧ segment.destinationPort = c.remote.port

omit [LocalStream σ] in
theorem Emits.of_anchored {c c' : Connection σ} {packet : Ipv4.Packet} {receiver : Endpoint}
    (hanchored : Anchored c c') (h : Emits c' packet receiver) : Emits c packet receiver where
  receiver := hanchored.gateway ▸ h.receiver
  source := hanchored.near ▸ h.source
  destination := hanchored.remote ▸ h.destination
  segment := hanchored.near ▸ hanchored.remote ▸ h.segment

/-- From `s` to `t` a connection keeps its endpoints, and hands over packets of its own. -/
structure Emitted (s t : Scene (List (Ipv4.Packet × Endpoint)) Unit σ) : Prop where
  anchored : Anchored s.conn t.conn
  handed : ∃ packets, t.carrier = s.carrier ++ packets ∧ ∀ p ∈ packets, Emits s.conn p.1 p.2

omit [LocalStream σ] in
theorem Emitted.nothing {s t : Scene (List (Ipv4.Packet × Endpoint)) Unit σ}
    (hanchored : Anchored s.conn t.conn) (hcarrier : t.carrier = s.carrier) : Emitted s t :=
  ⟨hanchored, [], by simpa using hcarrier, nofun⟩

theorem relayed_emitted (answer : Answer) : Relayed (σ := σ) (collecting answer) Emitted where
  refl s := .nothing (.refl s.conn) rfl
  trans := by
    rintro s t u ⟨hanchored, packets, hcarrier, hemits⟩ ⟨hanchored', more, hcarrier', hemits'⟩
    refine ⟨hanchored.trans hanchored', packets ++ more, ?_, fun p hp => ?_⟩
    · rw [hcarrier', hcarrier, List.append_assoc]
    · rcases List.mem_append.1 hp with hp | hp
      · exact hemits p hp
      · exact (hemits' p hp).of_anchored hanchored
  reply flags data s := by
    refine ends_reply (fun _ _ _ => .nothing ⟨rfl, rfl, rfl, rfl⟩ rfl) fun packet hpacket _ => ?_
    refine ends_handOver fun result carrier host hlink => ?_
    have hcarrier : s.carrier ++ [(packet, s.conn.gateway)] = carrier := congrArg (·.2.1) hlink
    obtain ⟨hsource, hdestination⟩ := Segment.addresses_wrap hpacket
    refine ⟨⟨rfl, rfl, rfl, rfl⟩, [(packet, s.conn.gateway)], hcarrier.symm, fun p hp => ?_⟩
    obtain rfl := List.mem_singleton.1 hp
    exact ⟨rfl, hsource, hdestination, _, Segment.ofBytes?_wrap hpacket, rfl, rfl⟩
  shrink _ := .nothing ⟨rfl, rfl, rfl, rfl⟩ rfl
  used _ _ _ _ _ := .nothing ⟨rfl, rfl, rfl, rfl⟩ rfl

/-- In its turn a connection keeps its endpoints, and hands over packets of its own. -/
theorem turn_emits (answer : Answer) (c : Connection σ) :
    Anchored c (c.turn answer).conn
      ∧ ∀ p ∈ (c.turn answer).handed, Emits c p.1 p.2 := by
  have hends := pump_ends (relayed_emitted answer) (⟨c, [], ⟨(), []⟩⟩ : Scene _ Unit σ)
  unfold Ends at hends
  unfold turn
  rcases h : pump (collecting answer) (⟨c, [], ⟨(), []⟩⟩ : Scene _ Unit σ) with ⟨_, t⟩ | ⟨_, t⟩
  all_goals
    rw [h] at hends
    obtain ⟨⟨hanchored, packets, hcarrier, hemits⟩, -⟩ := hends
    refine ⟨hanchored, fun p hp => hemits p ?_⟩
    have hp : p ∈ t.carrier := hp
    rwa [hcarrier] at hp

end Connection

end Ipsec.Tcp
