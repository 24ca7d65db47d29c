import Ipsec.Proofs.Tcp.Accounting

/-!
# What a pump relays

A pump of an established connection hands over all that its stream has pending, in order, if the
stream is faithful, the link works and the pieces fit into packets (`pump_relays`). A connection
without room for a piece hands over nothing, however much is pending (`pump_starves`).
-/

namespace Ipsec.Tcp

variable {κ ω σ : Type}

/-- Streams in these states say how much they have pending, and give it out piece by piece. -/
structure Faithful [LocalStream σ] (P : σ → Bytes → Prop) : Prop where
  available : ∀ {u pending}, P u pending →
    ∃ v, LocalStream.available u = (.ok pending.length, v) ∧ P v pending
  receive : ∀ {u pending n}, P u pending → 0 < n → pending ≠ [] →
    ∃ piece rest v, piece ≠ [] ∧ pending = piece ++ rest
      ∧ LocalStream.receive n u = (.ok piece, v) ∧ P v rest

/-- There is a piece as long as anything is pending, and the stream can say what comes after it. -/
theorem Faithful.turn [LocalStream σ] {P : σ → Bytes → Prop} (hP : Faithful P) {u : σ}
    {pending : Bytes} {n : Nat} (hu : P u pending) (hn : 0 < n)
    (hmore : pending.length ≠ 0) :
    ∃ byte bytes rest v v', pending = byte :: bytes ++ rest ∧ bytes.length + 1 ≤ n
      ∧ LocalStream.receive n u = (.ok (byte :: bytes), v)
      ∧ LocalStream.available v = (.ok rest.length, v') ∧ P v' rest := by
  obtain ⟨piece, rest, v, hpiece, hsplit, hreceive, hv⟩ := hP.receive hu hn (by
    rintro rfl
    exact hmore rfl)
  obtain ⟨v', havailable, hv'⟩ := hP.available hv
  cases piece with
  | nil => exact absurd rfl hpiece
  | cons byte bytes =>
    have hlength := LocalStream.length_receive_le hreceive
    exact ⟨byte, bytes, rest, v, v', hsplit, hlength, hreceive, havailable, hv'⟩

/-- A link in these states sends whatever it is handed. -/
def Works (link : Link κ ω) (W : κ → Host ω → Prop) : Prop :=
  ∀ packet receiver carrier host, W carrier host → ∃ carrier' host',
    link packet receiver carrier host = (.ok (), carrier', host') ∧ W carrier' host'

namespace Connection

/-- The data in some packets. -/
def carriedAll (packets : List Ipv4.Packet) : Bytes := packets.flatMap carried

theorem carriedAll_append (packets more : List Ipv4.Packet) :
    carriedAll (packets ++ more) = carriedAll packets ++ carriedAll more :=
  List.flatMap_append

theorem carriedAll_singleton (p : Ipv4.Packet) : carriedAll [p] = carried p := by
  simp [carriedAll]

/-- The packet of a reply carries its data. -/
theorem carried_packet {c : Connection σ} {flags : Flags} {data : Bytes} {p : Ipv4.Packet}
    (h : c.packet flags data = .ok p) : carried p = data := by
  simp [carried, Segment.ofBytes?_wrap h, segment]

/-- Only data that is too long has no packet. -/
theorem length_of_packet_error {c : Connection σ} {flags : Flags} {data : Bytes} {e : EspError}
    (h : c.packet flags data = .error e) : 65495 < data.length := by
  refine Nat.lt_of_not_le fun hfits => ?_
  obtain ⟨p, hp⟩ := Segment.exists_wrap c.near.address c.remote.address
    (UInt16.ofNat (c.random.range 10 32700).1) (s := c.segment flags data)
    (Nat.add_le_add_left hfits 20)
  rw [packet, hp] at h
  cases h

variable {link : Link κ ω}

/-! ## All that is pending -/

section

variable {W : κ → Host ω → Prop}

/-- A reply that fits into a packet is handed over, if the link works. -/
theorem reply_works (hW : Works link W) (flags : Flags) {data : Bytes}
    (hfits : data.length ≤ 65495) {s : Scene (Recorded κ) ω σ} (hs : W s.carrier.carrier s.host) :
    Ends (reply (recorded link) flags data) s fun r t =>
      r = .ok () ∧ t.conn.relaySize = s.conn.relaySize ∧ W t.carrier.carrier t.host
        ∧ carriedAll t.carrier.handed = carriedAll s.carrier.handed ++ data := by
  refine ends_reply (fun e he => absurd hfits (Nat.not_le_of_lt (length_of_packet_error he)))
    fun p hp random => ends_handOver fun result record host hlink => ?_
  obtain ⟨carrier, host', hsent, hworks⟩ := hW p s.conn.gateway _ _ hs
  simp only [recorded, hsent, Prod.mk.injEq] at hlink
  obtain ⟨rfl, rfl, rfl⟩ := hlink
  refine ⟨rfl, rfl, hworks, ?_⟩
  rw [carriedAll_append, carriedAll_singleton, carried_packet hp]

variable [LocalStream σ] {P : σ → Bytes → Prop}

/-- Relaying comes to the end of what is pending. -/
theorem relay_all (hP : Faithful P) (hW : Works link W) (u : σ) (available total : Nat)
    (s : Scene (Recorded κ) ω σ) {pending : Bytes} (hu : P u pending)
    (havailable : available = pending.length) (hroom : 0 < s.conn.relaySize)
    (hfits : min s.conn.relaySize pending.length ≤ 65495) (hs : W s.carrier.carrier s.host) :
    ∃ v t, relay (recorded link) u available total s = (.ok (total + pending.length), v, t)
      ∧ carriedAll t.carrier.handed = carriedAll s.carrier.handed ++ pending := by
  -- A faithful stream and a working link leave two ways through the loop: the end and a full turn.
  fun_induction Connection.relay (recorded link) u available total s generalizing pending with
  | case1 u total s =>
    obtain rfl : pending = [] := List.length_eq_zero_iff.1 havailable.symm
    exact ⟨u, s, rfl, (List.append_nil _).symm⟩
  | case2 u available total s hmore fault v hreceive =>
    obtain ⟨_, _, _, _, _, _, _, hpiece, _⟩ := hP.turn hu hroom (havailable ▸ hmore)
    rw [hreceive] at hpiece
    cases hpiece
  | case3 u available total s hmore v hreceive =>
    obtain ⟨_, _, _, _, _, _, _, hpiece, _⟩ := hP.turn hu hroom (havailable ▸ hmore)
    rw [hreceive] at hpiece
    cases hpiece
  | case4 u available total s hmore byte bytes v hreceive fault v' hprobe =>
    obtain ⟨_, _, _, _, _, _, _, hpiece, hasked, _⟩ := hP.turn hu hroom (havailable ▸ hmore)
    rw [hreceive] at hpiece
    cases hpiece
    rw [hprobe] at hasked
    cases hasked
  | case5 u available total s hmore byte bytes v hreceive more v' hprobe e t hreply =>
    obtain ⟨_, _, rest, _, _, hsplit, hlength, hpiece, -⟩ := hP.turn hu hroom (havailable ▸ hmore)
    rw [hreceive] at hpiece
    cases hpiece
    have hpiece : (byte :: bytes).length ≤ 65495 := by
      simp [hsplit] at hfits ⊢
      omega
    obtain ⟨hok, -⟩ := (reply_works hW (relayFlags more) hpiece hs).of_error hreply
    cases hok
  | case6 u available total s hmore byte bytes v hreceive more v' hprobe t hreply ih =>
    obtain ⟨_, _, rest, _, _, hsplit, hlength, hpiece, hasked, hrest⟩ :=
      hP.turn hu hroom (havailable ▸ hmore)
    rw [hreceive] at hpiece
    cases hpiece
    rw [hprobe] at hasked
    cases hasked
    have hpiece : (byte :: bytes).length ≤ 65495 := by
      simp [hsplit] at hfits ⊢
      omega
    obtain ⟨-, hsize, hworks, hhanded⟩ := (reply_works hW (relayFlags _) hpiece hs).of_ok hreply
    have hfits' : min t.conn.relaySize rest.length ≤ 65495 := by
      simp [hsplit] at hfits
      omega
    obtain ⟨w, t', hrelay, hall⟩ := ih hrest rfl (by omega) hfits' hworks
    refine ⟨w, t', ?_, ?_⟩
    · rw [hrelay, hsplit, List.length_append, List.length_cons, Nat.add_assoc]
    · rw [hall, hhanded, hsplit, List.append_assoc]

/-- A pump hands over all that is pending, and says whether anything was. -/
theorem pump_relays (hP : Faithful P) (hW : Works link W) {u : σ} {s : Scene (Recorded κ) ω σ}
    {pending : Bytes} (hstate : s.conn.state = .established) (hstream : s.conn.stream = some u)
    (hu : P u pending) (hroom : 0 < s.conn.relaySize)
    (hfits : min s.conn.relaySize pending.length ≤ 65495) (hs : W s.carrier.carrier s.host) :
    Ends (pump (recorded link)) s fun r t =>
      r = .ok (decide (0 < pending.length))
        ∧ carriedAll t.carrier.handed = carriedAll s.carrier.handed ++ pending := by
  unfold pump
  simp only [ends_bind, ends_get, hstate, if_true]
  refine ends_drain (fun hnone => ?_) (fun v fault w hv hfault => ?_) fun v n w r w' t hv hn h => ?_
  · rw [hstream] at hnone
    cases hnone
  all_goals
    rw [hstream] at hv
    cases hv
    obtain ⟨v, havailable, hpending⟩ := hP.available hu
  · rw [hfault] at havailable
    cases havailable
  · rw [hn] at havailable
    cases havailable
    obtain ⟨_, _, hrelay, hall⟩ := relay_all hP hW _ _ 0 s hpending rfl hroom hfits hs
    rw [h] at hrelay
    cases hrelay
    rw [Nat.zero_add]
    exact ⟨rfl, hall⟩

end

/-! ## No room -/

section

variable [LocalStream σ]

/-- Without room no piece is received, and nothing is handed over. -/
theorem relay_starves (link : Link κ ω) (u : σ) (available total : Nat) {s : Scene κ ω σ}
    (hroom : s.conn.relaySize = 0) : (relay link u available total s).2.2 = s := by
  have hnothing : ∀ {byte bytes v},
      LocalStream.receive s.conn.relaySize u ≠ (.ok (byte :: bytes), v) := by
    intro byte bytes v hreceive
    have hlength := LocalStream.length_receive_le hreceive
    rw [hroom] at hlength
    cases hlength
  fun_cases Connection.relay link u available total s with
  | case1 => rfl
  | case2 => rfl
  | case3 => rfl
  | case4 _ _ _ _ hreceive => exact absurd hreceive hnothing
  | case5 _ _ _ _ hreceive => exact absurd hreceive hnothing
  | case6 _ _ _ _ hreceive => exact absurd hreceive hnothing

/-- A pump without room leaves the link and the host as they are. -/
theorem pump_starves {s : Scene κ ω σ} (hroom : s.conn.relaySize = 0) :
    Ends (pump link) s fun _ t => t.carrier = s.carrier ∧ t.host = s.host := by
  unfold pump
  simp only [ends_bind, ends_get, ends_ite, ends_pure]
  refine ⟨fun _ => ?_, fun _ => ⟨trivial, trivial⟩⟩
  refine ends_drain (fun _ => ⟨rfl, rfl⟩) (fun _ _ _ _ _ => ⟨rfl, rfl⟩) fun u n v r w t _ _ h => ?_
  have hstill := relay_starves link v n 0 hroom
  rw [h] at hstill
  cases hstill
  cases r <;> exact ⟨rfl, rfl⟩

end

end Connection

end Ipsec.Tcp
