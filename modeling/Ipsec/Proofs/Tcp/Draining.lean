import Ipsec.Proofs.Tcp.Relay
import Ipsec.Proofs.Tcp.Room

/-!
# What is received is handed over in order

`Turns` is the trace of a drain: the pieces that it received and the packets that it handed over,
turn by turn (`relay_turns`). By induction on it, the packets carry the beginning of what was
received, and all of that if the drain succeeds (`Turns.handsOver`). A faithful stream is emptied,
if its pieces fit into packets and the link sends them, and only the last segment asks to be handed
on (`Turns.empties`).

To pump an established connection is to drain its stream once, and to accept a packet that counts
is to do so after its data is delivered (`accept_drains`). `relay_in_order` says so of both.
-/

namespace Ipsec

variable {κ ω σ : Type}

/-! ## What is received -/

/-- The bytes that the call received, if it was one to receive and did not fail. -/
def Call.received? : Call → Option Bytes
  | receive _ (.ok bytes) => some bytes
  | _ => none

namespace Watched

/-- What was received from the stream, the first piece first. -/
def pieces (w : Watched σ) : List Bytes := w.calls.reverse.filterMap Call.received?

theorem pieces_of_calls {w w' : Watched σ} {call : Call} (h : w'.calls = call :: w.calls) :
    w'.pieces = w.pieces ++ call.received?.toList := by
  rw [pieces, h, List.reverse_cons, List.filterMap_append]
  cases hcall : call.received? <;> simp [pieces, hcall]

variable [LocalStream σ] {w w' : Watched σ}

theorem pieces_of_available {r : Except IoFault Nat} (h : LocalStream.available w = (r, w')) :
    w'.pieces = w.pieces := by
  rw [pieces_of_calls (of_available h).1]
  exact List.append_nil _

theorem pieces_of_receive {n : Nat} {r : Except IoFault Bytes}
    (h : LocalStream.receive n w = (r, w')) : w'.pieces = w.pieces ++ r.toOption.toList := by
  rw [pieces_of_calls (of_receive h).1]
  cases r <;> rfl

end Watched

namespace Tcp

/-- What was received so far from the stream that the connection holds. -/
def Scene.pieces (s : Scene κ ω (Watched σ)) : List Bytes :=
  (s.conn.stream.map Watched.pieces).getD []

/-! ## Streams of chunks -/

/-- An application has some bytes pending in chunks that are not empty, and has no faults. -/
structure Waiting (a : Simulation.App) (pending : Bytes) : Prop where
  available : a.availableFault = none ∧ a.availableExtra = 0
  receive : a.receiveFault = none
  chunks : ∀ chunk ∈ a.pending, chunk ≠ []
  flatten : a.pending.flatten = pending
  length_lt : pending.length < 18446744073709551616

/-- Whatever the chunks are, the application is a faithful stream of their bytes. -/
theorem waiting_faithful : Faithful Waiting where
  available {a pending} h := by
    refine ⟨a, ?_, h⟩
    have hreported : a.reportedLength = pending.length := by
      rw [Simulation.App.reportedLength, Simulation.App.pendingLength, h.flatten, h.available.2,
        Nat.add_zero, Nat.mod_eq_of_lt h.length_lt]
    simp [LocalStream.available, Simulation.App.available, h.available.1, hreported]
  receive {a pending n} h hn hne := by
    have hflatten := h.flatten
    rcases hchunks : a.pending with _ | ⟨chunk, more⟩
    · rw [hchunks] at hflatten
      exact absurd hflatten.symm hne
    have hchunk : chunk ≠ [] := h.chunks chunk (by simp [hchunks])
    have hsplit : pending = chunk.take n ++ (chunk.drop n ++ more.flatten) := by
      rw [← List.append_assoc, List.take_append_drop, ← hflatten, hchunks, List.flatten_cons]
    refine ⟨chunk.take n, chunk.drop n ++ more.flatten,
      { a with pending := if chunk.drop n = [] then more else chunk.drop n :: more },
      ?_, hsplit, ?_, h.available, h.receive, ?_, ?_, ?_⟩
    · simpa [hchunk] using Nat.pos_iff_ne_zero.1 hn
    · simp [LocalStream.receive, Simulation.App.receive, h.receive, hchunks]
    · intro rest hrest
      have hmore : ∀ c ∈ more, c ≠ [] := fun c hc => h.chunks c (by simp [hchunks, hc])
      dsimp only at hrest
      split at hrest
      · exact hmore rest hrest
      · next hdrop =>
        rcases List.mem_cons.1 hrest with rfl | hrest
        · exact hdrop
        · exact hmore rest hrest
    · dsimp only
      split
      · next hdrop => rw [hdrop, List.nil_append]
      · rfl
    · have hlength := congrArg List.length hsplit
      rw [List.length_append] at hlength
      exact Nat.lt_of_le_of_lt (hlength ▸ Nat.le_add_left ..) h.length_lt

/-! ## Replies -/

/-- The link sends each of some packets to an endpoint, one after the other. -/
def sendsAll (link : Link κ ω) (receiver : Endpoint) : List Ipv4.Packet → κ → Host ω → Bool
  | [], _, _ => true
  | p :: rest, carrier, host =>
    let (result, carrier, host) := link p receiver carrier host
    result.isOk && sendsAll link receiver rest carrier host

theorem sendsAll_cons {link : Link κ ω} {receiver : Endpoint} {p : Ipv4.Packet}
    {rest : List Ipv4.Packet} {carrier : κ} {host : Host ω} :
    sendsAll link receiver (p :: rest) carrier host = true ↔
      (link p receiver carrier host).1.isOk = true ∧
        sendsAll link receiver rest (link p receiver carrier host).2.1
          (link p receiver carrier host).2.2 = true :=
  Bool.and_eq_true_iff

/-- A link that works sends all of them. -/
theorem Works.sendsAll {link : Link κ ω} {W : κ → Host ω → Prop} (hW : Works link W)
    (receiver : Endpoint) (packets : List Ipv4.Packet) {carrier : κ} {host : Host ω}
    (h : W carrier host) : sendsAll link receiver packets carrier host = true := by
  induction packets generalizing carrier host with
  | nil => rfl
  | cons p rest ih =>
    obtain ⟨carrier', host', hsent, h'⟩ := hW p receiver carrier host h
    rw [sendsAll_cons, hsent]
    exact ⟨rfl, ih h'⟩

namespace Connection

/-- The packet carries a segment with these flags and this data. -/
def Bears (flags : Flags) (data : Bytes) (p : Ipv4.Packet) : Prop :=
  ∃ segment, Segment.ofBytes? p.payload = some segment ∧ segment.flags = flags
    ∧ segment.data = data

theorem Bears.carried {flags : Flags} {data : Bytes} {p : Ipv4.Packet} (h : Bears flags data p) :
    carried p = data := by
  obtain ⟨segment, hread, -, rfl⟩ := h
  simp [Connection.carried, hread]

/-- How a reply ends. -/
inductive Replied (link : Link κ ω) (flags : Flags) (data : Bytes) (s : Scene (Recorded κ) ω σ) :
    Except TcpError Unit → Scene (Recorded κ) ω σ → Prop where
  /-- It does not fit into a packet. -/
  | oversized {e : TcpError} {t : Scene (Recorded κ) ω σ} (hlong : 65495 < data.length)
      (hhanded : t.carrier.handed = s.carrier.handed) : Replied link flags data s (.error e) t
  /-- It is handed over, and the link does not send it. -/
  | unsent {e : TcpError} {p : Ipv4.Packet} {t : Scene (Recorded κ) ω σ}
      (hbears : Bears flags data p) (hhanded : t.carrier.handed = s.carrier.handed ++ [p])
      (hlink : (link p s.conn.gateway s.carrier.carrier s.host).1.isOk = false) :
      Replied link flags data s (.error e) t
  /-- It is handed over, and the link sends it. -/
  | sent {p : Ipv4.Packet} {t : Scene (Recorded κ) ω σ} (hbears : Bears flags data p)
      (hhanded : t.carrier.handed = s.carrier.handed ++ [p])
      (hlink : link p s.conn.gateway s.carrier.carrier s.host =
        (.ok (), t.carrier.carrier, t.host)) :
      Replied link flags data s (.ok ()) t

theorem reply_ends (link : Link κ ω) (flags : Flags) (data : Bytes)
    (s : Scene (Recorded κ) ω σ) :
    Ends (reply (recorded link) flags data) s (Replied link flags data s) := by
  refine ends_reply (fun e he _ => .oversized (length_of_packet_error he) rfl) fun p hp random => ?_
  have hbears : Bears flags data p := ⟨_, Segment.ofBytes?_wrap hp, rfl, rfl⟩
  refine ends_handOver fun result record host hlink => ?_
  rcases hsent : link p s.conn.gateway s.carrier.carrier s.host with ⟨e | ⟨⟩, carrier, host'⟩
  all_goals
    simp only [recorded, hsent, Prod.mk.injEq] at hlink
    obtain ⟨rfl, rfl, rfl⟩ := hlink
  · exact .unsent hbears rfl (by rw [hsent]; rfl)
  · exact .sent hbears rfl hsent

/-! ## Turns -/

/-- The trace of relaying from a stream that is said to have some bytes: the pieces received, the
packets handed over, the result and what becomes of the stream. -/
inductive Turns [LocalStream σ] (link : Link κ ω) (size : Nat) (receiver : Endpoint) :
    σ → Nat → Nat → κ → Host ω → List Bytes → List Ipv4.Packet → Except TcpError Nat → σ →
      Prop where
  /-- Nothing is left. -/
  | ended {u : σ} {total : Nat} {carrier : κ} {host : Host ω} :
      Turns link size receiver u 0 total carrier host [] [] (.ok total) u
  /-- The stream gives no piece. -/
  | failed {u v : σ} {available total : Nat} {carrier : κ} {host : Host ω} {fault : IoFault}
      (hmore : available ≠ 0) (hreceive : LocalStream.receive size u = (.error fault, v)) :
      Turns link size receiver u available total carrier host [] [] (.error (.io fault)) v
  /-- The stream gives an empty piece. -/
  | dried {u v : σ} {available total : Nat} {carrier : κ} {host : Host ω}
      (hmore : available ≠ 0) (hreceive : LocalStream.receive size u = (.ok [], v)) :
      Turns link size receiver u available total carrier host [[]] [] (.ok total) v
  /-- The stream does not say what follows a piece, and the piece is lost. -/
  | lost {u v v' : σ} {available total : Nat} {carrier : κ} {host : Host ω} {piece : Bytes}
      {fault : IoFault} (hmore : available ≠ 0)
      (hreceive : LocalStream.receive size u = (.ok piece, v))
      (hprobe : LocalStream.available v = (.error fault, v')) :
      Turns link size receiver u available total carrier host [piece] [] (.error (.io fault)) v'
  /-- A piece does not fit into a packet. -/
  | oversized {u v v' : σ} {available total more : Nat} {carrier : κ} {host : Host ω}
      {piece : Bytes} {e : TcpError} (hmore : available ≠ 0)
      (hreceive : LocalStream.receive size u = (.ok piece, v))
      (hprobe : LocalStream.available v = (.ok more, v')) (hlong : 65495 < piece.length) :
      Turns link size receiver u available total carrier host [piece] [] (.error e) v'
  /-- The link does not send a piece. -/
  | unsent {u v v' : σ} {available total more : Nat} {carrier : κ} {host : Host ω}
      {piece : Bytes} {p : Ipv4.Packet} {e : TcpError} (hmore : available ≠ 0)
      (hreceive : LocalStream.receive size u = (.ok piece, v)) (hne : piece ≠ [])
      (hprobe : LocalStream.available v = (.ok more, v')) (hbears : Bears (relayFlags more) piece p)
      (hlink : (link p receiver carrier host).1.isOk = false) :
      Turns link size receiver u available total carrier host [piece] [p] (.error e) v'
  /-- A piece is sent, and what follows it is relayed. -/
  | turn {u v v' w : σ} {available total more : Nat} {carrier carrier' : κ} {host host' : Host ω}
      {piece : Bytes} {pieces : List Bytes} {p : Ipv4.Packet} {packets : List Ipv4.Packet}
      {r : Except TcpError Nat} (hmore : available ≠ 0)
      (hreceive : LocalStream.receive size u = (.ok piece, v)) (hne : piece ≠ [])
      (hprobe : LocalStream.available v = (.ok more, v')) (hbears : Bears (relayFlags more) piece p)
      (hlink : link p receiver carrier host = (.ok (), carrier', host'))
      (rest : Turns link size receiver v' more (total + piece.length) carrier' host' pieces packets
        r w) :
      Turns link size receiver u available total carrier host (piece :: pieces) (p :: packets) r w

/-- Relaying goes turn by turn. -/
theorem relay_turns [LocalStream σ] (link : Link κ ω) (u : σ) (available total : Nat)
    (s : Scene (Recorded κ) ω σ) :
    ∃ pieces packets,
      (relay (recorded link) u available total s).2.2.carrier.handed =
        s.carrier.handed ++ packets ∧
      Turns link s.conn.relaySize s.conn.gateway u available total s.carrier.carrier s.host
        pieces packets (relay (recorded link) u available total s).1
        (relay (recorded link) u available total s).2.1 := by
  fun_induction Connection.relay (recorded link) u available total s with
  | case1 u total s => exact ⟨[], [], (List.append_nil _).symm, .ended⟩
  | case2 u available total s hmore fault v hreceive =>
    exact ⟨[], [], (List.append_nil _).symm, .failed hmore hreceive⟩
  | case3 u available total s hmore v hreceive =>
    exact ⟨[[]], [], (List.append_nil _).symm, .dried hmore hreceive⟩
  | case4 u available total s hmore byte bytes v hreceive fault v' hprobe =>
    exact ⟨[byte :: bytes], [], (List.append_nil _).symm, .lost hmore hreceive hprobe⟩
  | case5 u available total s hmore byte bytes v hreceive more v' hprobe e t hreply =>
    have hends := (reply_ends link (relayFlags more) (byte :: bytes) s).of_error hreply
    cases hends with
    | oversized hlong hhanded =>
      refine ⟨[byte :: bytes], [], ?_, .oversized hmore hreceive hprobe hlong⟩
      rw [hhanded, List.append_nil]
    | @unsent _ p _ hbears hhanded hlink =>
      exact ⟨[byte :: bytes], [p], hhanded,
        .unsent hmore hreceive (List.cons_ne_nil _ _) hprobe hbears hlink⟩
  | case6 u available total s hmore byte bytes v hreceive more v' hprobe t hreply ih =>
    obtain ⟨pieces, packets, hhanded', hturns⟩ := ih
    obtain ⟨_, _, hconn⟩ := (reply_conn (recorded link) _ _ s).of_ok hreply
    have hends := (reply_ends link (relayFlags more) (byte :: bytes) s).of_ok hreply
    cases hends with
    | @sent p _ hbears hhanded hlink =>
      rw [hconn] at hturns
      refine ⟨(byte :: bytes) :: pieces, p :: packets, ?_,
        .turn hmore hreceive (List.cons_ne_nil _ _) hprobe hbears hlink hturns⟩
      rw [hhanded', hhanded, List.append_assoc]
      rfl

section

variable {link : Link κ ω} {size available total : Nat} {receiver : Endpoint} {carrier : κ}
  {host : Host ω} {pieces : List Bytes} {packets : List Ipv4.Packet} {r : Except TcpError Nat}

/-- The pieces are those that the stream's record gained. -/
theorem Turns.pieces_eq [LocalStream σ] {w w' : Watched σ}
    (h : Turns link size receiver w available total carrier host pieces packets r w') :
    w'.pieces = w.pieces ++ pieces := by
  induction h with
  | ended => exact (List.append_nil _).symm
  | failed _ hreceive | dried _ hreceive => exact Watched.pieces_of_receive hreceive
  | lost _ hreceive hprobe | oversized _ hreceive hprobe | unsent _ hreceive _ hprobe =>
    rw [Watched.pieces_of_available hprobe]
    exact Watched.pieces_of_receive hreceive
  | turn _ hreceive _ hprobe _ _ _ ih =>
    rw [ih, Watched.pieces_of_available hprobe, Watched.pieces_of_receive hreceive]
    exact List.append_assoc ..

/-! ## Any stream -/

/-- Some packets carry the beginning of what was received in pieces of at most a given size, each
packet at least a byte and at most a piece, and all of it if the result counts the bytes. -/
structure HandsOver (size total : Nat) (pieces : List Bytes) (packets : List Ipv4.Packet)
    (r : Except TcpError Nat) : Prop where
  received : ∀ piece ∈ pieces, piece.length ≤ size
  inOrder : carriedAll packets <+: pieces.flatten
  sizes : ∀ p ∈ packets, 1 ≤ (carried p).length ∧ (carried p).length ≤ size
  complete : ∀ n, r = .ok n →
    carriedAll packets = pieces.flatten ∧ n = total + pieces.flatten.length

namespace HandsOver

/-- Nothing is handed over of what was received last. -/
theorem nothing (hsizes : ∀ piece ∈ pieces, piece.length ≤ size)
    (hcomplete : ∀ n, r = .ok n → pieces.flatten = [] ∧ n = total) :
    HandsOver size total pieces [] r := by
  refine ⟨hsizes, List.nil_prefix, nofun, fun n hn => ?_⟩
  obtain ⟨hnone, rfl⟩ := hcomplete n hn
  rw [hnone]
  exact ⟨rfl, rfl⟩

/-- One more piece is handed over before the others. -/
theorem cons {piece : Bytes} {p : Ipv4.Packet} (hp : carried p = piece) (hne : piece ≠ [])
    (hsize : piece.length ≤ size)
    (h : HandsOver size (total + piece.length) pieces packets r) :
    HandsOver size total (piece :: pieces) (p :: packets) r := by
  have hcarried : carriedAll (p :: packets) = piece ++ carriedAll packets := by
    rw [carriedAll, List.flatMap_cons, hp]
    rfl
  refine ⟨List.forall_mem_cons.2 ⟨hsize, h.received⟩, ?_, List.forall_mem_cons.2 ⟨?_, h.sizes⟩,
    fun n hn => ?_⟩
  · rw [hcarried, List.flatten_cons]
    exact (List.prefix_append_right_inj piece).2 h.inOrder
  · rw [hp]
    exact ⟨List.length_pos_iff.2 hne, hsize⟩
  · obtain ⟨hall, hcount⟩ := h.complete n hn
    rw [hcarried, hall, List.flatten_cons, List.length_append, hcount, Nat.add_assoc]
    exact ⟨rfl, rfl⟩

end HandsOver

/-- Relaying hands over what it receives, in order. -/
theorem Turns.handsOver [LocalStream σ] {u w : σ}
    (h : Turns link size receiver u available total carrier host pieces packets r w) :
    HandsOver size total pieces packets r := by
  have hlength : ∀ {piece : Bytes} {u v : σ}, LocalStream.receive size u = (.ok piece, v) →
      ∀ p ∈ [piece], p.length ≤ size := fun hreceive =>
    List.forall_mem_singleton.2 (LocalStream.length_receive_le hreceive)
  induction h with
  | ended => exact .nothing nofun fun n hn => ⟨rfl, (Except.ok.inj hn).symm⟩
  | failed => exact .nothing nofun nofun
  | dried _ hreceive =>
    exact .nothing (hlength hreceive) fun n hn => ⟨rfl, (Except.ok.inj hn).symm⟩
  | lost _ hreceive | oversized _ hreceive => exact .nothing (hlength hreceive) nofun
  | unsent _ hreceive hne _ hbears =>
    exact .cons hbears.carried hne (LocalStream.length_receive_le hreceive) (.nothing nofun nofun)
  | turn _ hreceive hne _ hbears _ _ ih =>
    exact .cons hbears.carried hne (LocalStream.length_receive_le hreceive) ih

/-! ## Faithful streams -/

/-- A faithful stream with these bytes pending was emptied in some packets: they carry the bytes in
order, and only the last of them asks to be handed on. -/
structure Empties (pending : Bytes) (total : Nat) (packets : List Ipv4.Packet)
    (r : Except TcpError Nat) : Prop where
  result : r = .ok (total + pending.length)
  payloads : carriedAll packets = pending
  silent : pending = [] → packets = []
  burst : ∀ front last, packets = front ++ [last] →
    (∃ data, Bears (Flags.ack ||| Flags.psh) data last) ∧
      ∀ p ∈ front, ∃ data, Bears Flags.none data p

namespace Empties

theorem nothing (total : Nat) : Empties [] total [] (.ok total) where
  result := rfl
  payloads := rfl
  silent _ := rfl
  burst front last h := by simp at h

/-- One more packet, ahead of the others. -/
theorem cons {piece rest : Bytes} {p : Ipv4.Packet} (hp : Bears (relayFlags rest.length) piece p)
    (hne : piece ≠ []) (h : Empties rest (total + piece.length) packets r) :
    Empties (piece ++ rest) total (p :: packets) r where
  result := by rw [h.result, List.length_append, Nat.add_assoc]
  payloads := by
    rw [carriedAll, List.flatMap_cons, hp.carried]
    exact congrArg (piece ++ ·) h.payloads
  silent hnone := absurd (List.append_eq_nil_iff.1 hnone).1 hne
  burst front last hsplit := by
    rcases front with _ | ⟨q, front⟩
    · -- The packet is the last one, so nothing was pending after it.
      obtain ⟨rfl, rfl⟩ := List.cons.inj hsplit
      obtain rfl : [] = rest := h.payloads
      exact ⟨⟨piece, hp⟩, fun _ hq => absurd hq List.not_mem_nil⟩
    · obtain ⟨rfl, hpackets⟩ := List.cons.inj hsplit
      obtain ⟨hlast, hfront⟩ := h.burst front last hpackets
      have hmore : rest.length ≠ 0 := fun hzero => by
        rw [h.silent (List.length_eq_zero_iff.1 hzero)] at hpackets
        simp at hpackets
      rw [relayFlags, if_neg hmore] at hp
      exact ⟨hlast, List.forall_mem_cons.2 ⟨⟨piece, hp⟩, hfront⟩⟩

end Empties

/-- Relaying empties a faithful stream, if its pieces fit into packets and the link sends them. -/
theorem Turns.empties [LocalStream σ] {P : σ → Bytes → Prop} (hP : Faithful P) {u w : σ}
    (h : Turns link size receiver u available total carrier host pieces packets r w)
    {pending : Bytes} (hu : P u pending) (havailable : available = pending.length)
    (hroom : 0 < size) (hfits : ∀ piece ∈ pieces, piece.length ≤ 65495)
    (hsends : sendsAll link receiver packets carrier host = true) :
    Empties pending total packets r ∧ P w [] := by
  induction h generalizing pending with
  | ended =>
    obtain rfl : pending = [] := List.length_eq_zero_iff.1 havailable.symm
    exact ⟨.nothing _, hu⟩
  | failed hmore hreceive | dried hmore hreceive =>
    obtain ⟨_, _, _, _, _, _, _, hpiece, _⟩ := hP.turn hu hroom (havailable ▸ hmore)
    rw [hreceive] at hpiece
    cases hpiece
  | lost hmore hreceive hprobe =>
    obtain ⟨_, _, _, _, _, _, _, hpiece, hasked, _⟩ := hP.turn hu hroom (havailable ▸ hmore)
    rw [hreceive] at hpiece
    cases hpiece
    rw [hprobe] at hasked
    cases hasked
  | oversized _ _ _ hlong =>
    exact absurd (hfits _ (List.mem_singleton_self _)) (Nat.not_le_of_lt hlong)
  | unsent _ _ _ _ _ hlink =>
    rw [sendsAll_cons, hlink] at hsends
    cases hsends.1
  | turn hmore hreceive hne hprobe hbears hlink _ ih =>
    obtain ⟨_, _, rest, _, _, hsplit, -, hpiece, hasked, hrest⟩ :=
      hP.turn hu hroom (havailable ▸ hmore)
    rw [hreceive] at hpiece
    cases hpiece
    rw [hprobe] at hasked
    cases hasked
    rw [sendsAll_cons, hlink] at hsends
    obtain ⟨hempties, hempty⟩ :=
      ih hrest rfl (fun piece hpiece => hfits piece (List.mem_cons_of_mem _ hpiece)) hsends.2
    rw [hsplit]
    exact ⟨hempties.cons hbears hne, hempty⟩

end

/-! ## Drains -/

section

variable [LocalStream σ]

/-- A drain from `s` to `t` received some pieces and handed over some packets. -/
structure Drains (link : Link κ ω) (s : Scene (Recorded κ) ω (Watched σ)) (pieces : List Bytes)
    (packets : List Ipv4.Packet) (r : Except TcpError Nat) (t : Scene (Recorded κ) ω (Watched σ)) :
    Prop where
  received : t.pieces = s.pieces ++ pieces
  handed : t.carrier.handed = s.carrier.handed ++ packets
  inOrder : HandsOver s.conn.relaySize 0 pieces packets r
  empties : ∀ {P : σ → Bytes → Prop} {w : Watched σ} {pending : Bytes}, Faithful P →
    s.conn.stream = some w → P w.stream pending → 1 ≤ s.conn.relaySize →
    (∀ piece ∈ pieces, piece.length ≤ 65495) →
    sendsAll link s.conn.gateway packets s.carrier.carrier s.host = true →
    Empties pending 0 packets r ∧ ∃ w', t.conn.stream = some w' ∧ P w'.stream []

theorem drain_drains (link : Link κ ω) (s : Scene (Recorded κ) ω (Watched σ)) :
    Ends (drain (recorded link)) s fun r t =>
      ∃ pieces packets, Drains link s pieces packets r t := by
  refine ends_drain (fun hnone => ?none) (fun w fault v hw hfault => ?fault)
    fun w available v r v' t hw havailable hrelay => ?relay
  case none =>
    refine ⟨[], [], by simp, by simp, .nothing nofun fun n hn => ⟨rfl, ?_⟩, ?_⟩
    · exact (Except.ok.inj hn).symm
    · intro _ _ _ _ hw
      rw [hnone] at hw
      cases hw
  case fault =>
    refine ⟨[], [], ?_, by simp [Scene.holding], .nothing nofun nofun, ?_⟩
    · simp [Scene.pieces, Scene.holding, hw, Watched.pieces_of_available hfault]
    · intro P w₀ pending hP hw₀ hpending
      rw [hw] at hw₀
      cases hw₀
      obtain ⟨_, havailable, -⟩ := hP.watched.available hpending
      rw [hfault] at havailable
      cases havailable
  case relay =>
    obtain ⟨pieces, packets, hhanded, hturns⟩ := relay_turns link v available 0 s
    rw [hrelay] at hhanded hturns
    refine ⟨pieces, packets, ?_, hhanded, hturns.handsOver, ?_⟩
    · simp [Scene.pieces, Scene.holding, hw, hturns.pieces_eq,
        Watched.pieces_of_available havailable]
    · intro P w₀ pending hP hw₀ hpending hroom hfits hsends
      rw [hw] at hw₀
      cases hw₀
      obtain ⟨_, hasked, hleft⟩ := hP.watched.available hpending
      rw [havailable] at hasked
      cases hasked
      obtain ⟨hempties, hempty⟩ := hturns.empties hP.watched hleft rfl hroom hfits hsends
      exact ⟨hempties, v', rfl, hempty⟩

end

/-! ## Established connections -/

/-- Data, if it is any, was sent to the stream on the way from `s` to `t`, and nothing relayed. -/
structure Fed [LocalStream σ] (data : Bytes) (s t : Scene κ ω σ) : Prop where
  carrier : t.carrier = s.carrier
  relaySize : t.conn.relaySize = s.conn.relaySize
  gateway : t.conn.gateway = s.conn.gateway
  noted : s.host.Noted t.host
  stream : t.conn.stream =
    if data = [] then s.conn.stream else s.conn.stream.map fun u => (LocalStream.send data u).2

/-- How accepting a packet ends for an established connection whose drains end in `Q`. -/
inductive Accepts [LocalStream σ]
    (Q : Scene κ ω σ → Except TcpError Nat → Scene κ ω σ → Prop) (packet : Ipv4.Packet)
    (s : Scene κ ω σ) : Except TcpError Disposition → Scene κ ω σ → Prop where
  /-- The packet does not count, and the stream is left alone. -/
  | skipped {r : Except TcpError Disposition} {t : Scene κ ω σ}
      (hskipped : ∀ segment, Segment.ofBytes? packet.payload = some segment →
        ¬segment.countsFor s.conn.remote.port) (hfed : Fed [] s t) : Accepts Q packet s r t
  /-- The stream does not take the data. -/
  | undelivered {e : TcpError} {t : Scene κ ω σ} (hdata : carried packet ≠ [])
      (hfails : ∀ u, s.conn.stream = some u →
        ∃ fault, (LocalStream.send (carried packet) u).1 = .error fault)
      (hfed : Fed (carried packet) s t) : Accepts Q packet s (.error e) t
  /-- The data is delivered, and the stream is drained once. -/
  | drained {r : Except TcpError Nat} {s' t : Scene κ ω σ} (hfed : Fed (carried packet) s s')
      (hdrain : Q s' r t) : Accepts Q packet s (r.map fun _ => .proceed) t

/-- An established connection that accepts a packet either leaves its stream alone, or delivers the
data and, if the stream takes it, drains the stream. -/
theorem ends_accept [Platform ω σ] {link : Link κ ω} {packet : Ipv4.Packet} {now : Nat}
    {s : Scene κ ω σ} {Q : Except TcpError Disposition → Scene κ ω σ → Prop}
    (hstate : s.conn.state = .established)
    (hskipped : ∀ r t, (∀ segment, Segment.ofBytes? packet.payload = some segment →
      ¬segment.countsFor s.conn.remote.port) → Fed [] s t → Q r t)
    (hundelivered : ∀ e t segment, Segment.ofBytes? packet.payload = some segment →
      segment.countsFor s.conn.remote.port → segment.data ≠ [] →
      (∀ u, s.conn.stream = some u → ∃ fault, (LocalStream.send segment.data u).1 = .error fault) →
      Fed segment.data s t → Q (.error e) t)
    (hdelivered : ∀ s' segment, Segment.ofBytes? packet.payload = some segment →
      segment.countsFor s.conn.remote.port → (segment.data ≠ [] → ∃ u n, s.conn.stream = some u ∧
        (LocalStream.send segment.data u).1 = .ok n) →
      Fed segment.data s s' → Ends (drain link) s' fun r t => Q (r.map fun _ => .proceed) t) :
    Ends (accept link packet now) s Q := by
  have noted : ∀ n : Notice, n.isRoutine = true → s.host.Noted (s.host.note n) :=
    fun n hn => (Host.Routine.note n hn).noted
  unfold accept handle
  simp only [ends_bind, ends_update]
  cases hread : Segment.ofBytes? packet.payload with
  | none =>
    refine hskipped _ _ (fun segment hsegment => ?_) ⟨rfl, rfl, rfl, noted _ rfl, rfl⟩
    rw [hread] at hsegment
    cases hsegment
  | some segment =>
    have skip : ∀ {r window state host}, ¬segment.countsFor s.conn.remote.port →
        s.host.Noted host →
        Q r { s with conn := { s.conn with lastContact := now, window, state }, host } :=
      fun hcounts hnoted => by
        refine hskipped _ _ (fun segment' hsegment => ?_) ⟨rfl, rfl, rfl, hnoted, rfl⟩
        obtain rfl := Option.some.inj (hread.symm.trans hsegment)
        exact hcounts
    simp only [ends_bind, ends_get, hstate]
    unfold handleEstablished
    simp only [ends_bind, ends_get, ends_ite, ends_note, ends_update, ends_pure]
    refine ⟨fun hport => ?foreign, fun hport => ⟨fun hsyn => ?opening, fun hsyn =>
      ⟨fun hrst => ?reset, fun hrst => ⟨fun hack => ?empty, fun hack => ?counted⟩⟩⟩⟩
    case foreign | opening | reset => exact skip (by simp [Segment.countsFor, *]) (noted _ rfl)
    case empty => exact skip (by simp [Segment.countsFor, hack]) (Host.Routine.refl _).noted
    case counted =>
      have hcounts : segment.countsFor s.conn.remote.port := by
        simpa [Segment.countsFor, hsyn, hrst, hack] using hport
      refine ends_noteMismatch fun host₁ h₁ => ends_noteMismatch fun host h => ?_
      have hnoted : s.host.Noted host :=
        ((Host.Routine.of_mismatch rfl h₁).trans (.of_mismatch rfl h)).noted
      refine ⟨fun hsome => ends_deliver (fun hnone => ?closed) fun u r v hu hsend => ?sent,
        fun hempty => Ends.mono (hdelivered _ segment hread hcounts (absurd · hempty)
          ⟨rfl, rfl, rfl, hnoted, ?silent⟩) fun r u h => ?relayed⟩
      case closed =>
        have hnone : s.conn.stream = none := hnone
        refine hundelivered _ _ segment hread hcounts hsome (fun u hu => ?_)
          ⟨rfl, rfl, rfl, hnoted, ?_⟩
        · rw [hnone] at hu
          cases hu
        · simp [hsome, hnone]
      case sent =>
        have hu : s.conn.stream = some u := hu
        have hstream : some v = if segment.data = [] then s.conn.stream
            else s.conn.stream.map fun u => (LocalStream.send segment.data u).2 := by
          simp [hsome, hu, hsend]
        cases r with
        | ok n =>
          have hok : (LocalStream.send segment.data u).1 = .ok n := by rw [hsend]
          refine Ends.mono (hdelivered _ segment hread hcounts (fun _ => ⟨u, n, hu, hok⟩)
            ⟨rfl, rfl, rfl, hnoted, hstream⟩) fun r u h => ?_
          cases r <;> exact h
        | error fault =>
          refine hundelivered _ _ segment hread hcounts hsome (fun u' hu' => ⟨fault, ?_⟩)
            ⟨rfl, rfl, rfl, hnoted, hstream⟩
          obtain rfl := Option.some.inj (hu.symm.trans hu')
          rw [hsend]
      case silent => rw [if_pos (Decidable.not_not.1 hempty)]
      case relayed => cases r <;> exact h

/-- An established connection that accepts a packet drains its stream once, if at all. -/
theorem accept_drains [Platform ω σ] {link : Link κ ω}
    {Q : Scene κ ω σ → Except TcpError Nat → Scene κ ω σ → Prop}
    (hQ : ∀ s, Ends (drain link) s (Q s)) (packet : Ipv4.Packet) (now : Nat) {s : Scene κ ω σ}
    (hstate : s.conn.state = .established) :
    Ends (accept link packet now) s (Accepts Q packet s) := by
  have hdata : ∀ {segment}, Segment.ofBytes? packet.payload = some segment →
      carried packet = segment.data := fun hread => by simp [carried, hread]
  refine ends_accept hstate (fun r t => .skipped) (fun e t segment hread _ hne hfails hfed => ?_)
    fun s' segment hread _ _ hfed => ?_
  all_goals rw [← hdata hread] at *
  · exact .undelivered hne hfails hfed
  · exact (hQ s').mono fun r t => .drained hfed

/-- Whatever the stream and the link do, an established connection that is pumped hands over what
it receives from the stream in order, nothing twice and nothing left out, and so does one that
accepts a packet, once it has delivered the data. It empties a faithful stream if the link sends
what it is handed. -/
theorem relay_in_order [Platform ω σ] (link : Link κ (Watch ω σ))
    {s : Scene (Recorded κ) (Watch ω σ) (Watched σ)} (hstate : s.conn.state = .established) :
    (Ends (pump (recorded link)) s fun r t => ∃ pieces packets r',
      Drains link s pieces packets r' t ∧ r = r'.map fun n => decide (0 < n)) ∧
    ∀ packet now, Ends (accept (recorded link) packet now) s
      (Accepts (fun s' r t => ∃ pieces packets, Drains link s' pieces packets r t) packet s) := by
  refine ⟨?_, fun packet now => accept_drains (drain_drains link) packet now hstate⟩
  have hdrain := drain_drains link s
  unfold Ends at *
  rw [pump_eq, if_pos hstate]
  cases h : drain (recorded link) s
  all_goals
    rw [h] at hdrain
    obtain ⟨pieces, packets, hdrains⟩ := hdrain
    exact ⟨pieces, packets, _, hdrains, rfl⟩

/-- An application with two chunks pending. -/
def sampleChunks : Simulation.App :=
  { id := 0, target := ⟨.ofOctets 10 0 0 9, 80⟩, pending := [[1, 2, 3], [4, 5]] }

/-- An established connection for pieces of two bytes, whose stream has the chunks pending. -/
def sampleTalker : Scene (Recorded Unit) (Watch Simulation.World Simulation.App)
    (Watched Simulation.App) where
  conn :=
    { sampleScene.conn with
      state := .established
      near := ⟨.ofOctets 10 0 0 9, 80⟩
      remote := ⟨.ofOctets 10 0 0 5, 4321⟩
      relaySize := 2
      stream := some { tag := 0, target := sampleChunks.target, stream := sampleChunks } }
  carrier := ⟨[], ()⟩
  host := ⟨{ world := {}, opened := 1 }, []⟩

/-- A pump hands over the bytes of both chunks. -/
theorem relay_of_chunks :
    sampleTalker.conn.state = .established ∧
      Ends (pump (recorded (watched sampleLink))) sampleTalker fun r t =>
        r = .ok true ∧ carriedAll t.carrier.handed = [1, 2, 3, 4, 5] := by
  refine ⟨rfl, (relay_in_order (watched sampleLink) rfl).1.mono ?_⟩
  rintro r t ⟨pieces, packets, r', h, rfl⟩
  have hwaiting : Waiting sampleChunks [1, 2, 3, 4, 5] :=
    ⟨⟨rfl, rfl⟩, rfl, by decide, rfl, by decide⟩
  have hworks : Works sampleLink fun _ _ => True := fun _ _ carrier host _ =>
    ⟨carrier, host, rfl, trivial⟩
  obtain ⟨hempties, -⟩ := h.empties waiting_faithful rfl hwaiting (by decide)
    (fun piece hpiece => Nat.le_trans (h.inOrder.received piece hpiece) (by decide))
    (hworks.watched.sendsAll _ _ trivial)
  have hhanded : t.carrier.handed = packets := h.handed
  rw [hempties.result, hhanded]
  exact ⟨rfl, hempties.payloads⟩

end Connection

end Tcp

end Ipsec
