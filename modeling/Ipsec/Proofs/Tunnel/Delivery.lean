import Ipsec.Proofs.Esp.Sealed
import Ipsec.Tunnel.Basic

/-!
# Delivery between matched tunnels

A peer wraps packets in turn, each with an initialisation vector of its random source, and the
network hands the datagrams over in any order, any number of times or not at all. What the receiver
does is the list function `gated`: it accepts a number exactly if it is not below the next one
expected, and then expects the one after it (`decapsulateAll_eq_gated`). All that is said about
delivery is then about `gated`: `delivery_in_order` says that a datagram is accepted exactly if its
number is larger than all accepted before, that it gives the packet wrapped under its number, and
that the accepted packets are a sublist of the sent ones.
-/

namespace Ipsec

open Ipsec.Aes (Block)

/-! ## The gate -/

namespace Delivery

variable {n : Nat}

/-- What a receiver that accepts numbers from `next` on makes of the datagrams of a schedule,
where datagram `i` carries the number `i + 1`. -/
def gated (packet : Fin n → Ipv4.Packet) (next : Nat) :
    List (Fin n) → List (Except EspError Ipv4.Packet)
  | [] => []
  | i :: rest =>
    if i + 1 < next then
      .error (.staleSequence next (UInt32.ofNat (i + 1))) :: gated packet next rest
    else .ok (packet i) :: gated packet (i + 2) rest

/-- The datagram that arrives at place `k` is accepted. -/
def AcceptedAt (results : List (Except EspError Ipv4.Packet)) (k : Nat) : Prop :=
  ∃ p, results[k]? = some (Except.ok p)

/-- The datagrams of a schedule that were accepted, in the order of their arrival. -/
def accepted (schedule : List (Fin n)) (results : List (Except EspError Ipv4.Packet)) :
    List (Fin n) :=
  (schedule.zip results).filterMap fun (i, result) => result.toOption.map fun _ => i

/-- The results of a schedule deliver the packets in order. -/
structure InOrder (packet : Fin n → Ipv4.Packet) (schedule : List (Fin n))
    (results : List (Except EspError Ipv4.Packet)) : Prop where
  /-- Every datagram has a result. -/
  length : results.length = schedule.length
  /-- A datagram is accepted exactly if it comes after all that were accepted before. -/
  accepted_iff : ∀ k i, schedule[k]? = some i →
    (AcceptedAt results k ↔
      ∀ j < k, ∀ i', schedule[j]? = some i' → AcceptedAt results j → i' < i)
  /-- An accepted datagram gives the packet that was wrapped in it. -/
  packet_eq : ∀ (k : Nat) i p,
    schedule[k]? = some i → results[k]? = some (.ok p) → p = packet i
  /-- No datagram is accepted twice, or after one that was sent later. -/
  increasing : (accepted schedule results).Pairwise (· < ·)
  /-- The accepted packets are those of the accepted datagrams. -/
  packets_eq : results.filterMap Except.toOption = (accepted schedule results).map packet
  /-- The accepted packets are some of those sent, in the order of sending. -/
  sublist : (results.filterMap Except.toOption).Sublist (List.ofFn packet)

variable (packet : Fin n → Ipv4.Packet)

theorem length_gated (next : Nat) (schedule : List (Fin n)) :
    (gated packet next schedule).length = schedule.length := by
  induction schedule generalizing next with
  | nil => rfl
  | cons i rest ih =>
    rw [gated]
    split <;> rw [List.length_cons, List.length_cons, ih]

theorem packet_eq_of_gated (next : Nat) (schedule : List (Fin n)) (k : Nat) {i : Fin n}
    {p : Ipv4.Packet} (hi : schedule[k]? = some i)
    (hk : (gated packet next schedule)[k]? = some (.ok p)) : p = packet i := by
  induction schedule generalizing next k with
  | nil => simp at hi
  | cons first rest ih =>
    rw [gated] at hk
    cases k with
    | zero =>
      obtain rfl : first = i := by simpa using hi
      split at hk <;> simp at hk
      exact hk.symm
    | succ k =>
      rw [List.getElem?_cons_succ] at hi
      split at hk <;> exact ih _ k hi (by simpa using hk)

/-- A datagram passes the gate exactly if its number is neither below the one expected at first
nor one that an accepted datagram before it had or exceeded. -/
theorem gated_accepts_iff (next : Nat) (schedule : List (Fin n)) (k : Nat) {i : Fin n}
    (hi : schedule[k]? = some i) :
    AcceptedAt (gated packet next schedule) k ↔
      next ≤ i + 1 ∧ ∀ j < k, ∀ i', schedule[j]? = some i' →
        AcceptedAt (gated packet next schedule) j → i' < i := by
  unfold AcceptedAt
  induction schedule generalizing next k with
  | nil => simp at hi
  | cons first rest ih =>
    rw [gated]
    cases k with
    | zero =>
      obtain rfl : first = i := by simpa using hi
      split
      · next hlt => simpa using hlt
      · next hlt => simpa using hlt
    | succ k =>
      rw [List.getElem?_cons_succ] at hi
      split
      · next hlt =>
        rw [List.getElem?_cons_succ, ih next k hi, Nat.forall_lt_succ_left]
        simp
      · next hlt =>
        rw [List.getElem?_cons_succ, ih _ k hi, Nat.forall_lt_succ_left]
        simp only [List.getElem?_cons_zero, List.getElem?_cons_succ, Option.some.injEq,
          Except.ok.injEq, exists_eq', forall_const, forall_eq']
        constructor
        · rintro ⟨hnext, hrest⟩
          exact ⟨by omega, Fin.lt_def.2 (by omega), hrest⟩
        · rintro ⟨-, hfirst, hrest⟩
          exact ⟨by rw [Fin.lt_def] at hfirst; omega, hrest⟩

theorem accepted_gated_cons (next : Nat) (first : Fin n) (rest : List (Fin n)) :
    accepted (first :: rest) (gated packet next (first :: rest)) =
      if first + 1 < next then accepted rest (gated packet next rest)
      else first :: accepted rest (gated packet (first + 2) rest) := by
  rw [gated]
  split <;> rfl

theorem next_le_of_mem_accepted {next : Nat} {schedule : List (Fin n)} {i : Fin n}
    (hi : i ∈ accepted schedule (gated packet next schedule)) : next ≤ i + 1 := by
  induction schedule generalizing next with
  | nil => simp [accepted] at hi
  | cons first rest ih =>
    rw [accepted_gated_cons] at hi
    split at hi
    · exact ih hi
    · next hlt =>
      rcases List.mem_cons.1 hi with rfl | hi
      · omega
      · have := ih hi
        omega

theorem accepted_gated_increasing (next : Nat) (schedule : List (Fin n)) :
    (accepted schedule (gated packet next schedule)).Pairwise (· < ·) := by
  induction schedule generalizing next with
  | nil => exact List.Pairwise.nil
  | cons first rest ih =>
    rw [accepted_gated_cons]
    split
    · exact ih next
    · refine List.pairwise_cons.2 ⟨fun i hi => ?_, ih _⟩
      have := next_le_of_mem_accepted packet hi
      exact Fin.lt_def.2 (by omega)

theorem packets_gated (next : Nat) (schedule : List (Fin n)) :
    (gated packet next schedule).filterMap Except.toOption =
      (accepted schedule (gated packet next schedule)).map packet := by
  induction schedule generalizing next with
  | nil => rfl
  | cons first rest ih =>
    rw [accepted_gated_cons, gated]
    split
    · exact ih next
    · rw [List.map_cons, ← ih]
      rfl

/-- The packets that pass the gate are a sublist of those numbered from the expected one on. -/
theorem packets_gated_sublist {next : Nat} (hnext : 0 < next) (schedule : List (Fin n)) :
    ((gated packet next schedule).filterMap Except.toOption).Sublist
      ((List.ofFn packet).drop (next - 1)) := by
  induction schedule generalizing next with
  | nil => exact List.nil_sublist _
  | cons first rest ih =>
    rw [gated]
    split
    · exact ih hnext
    · next hlt =>
      have hlength : (first : Nat) < (List.ofFn packet).length := by simp
      have hrest : ((gated packet (first + 2) rest).filterMap Except.toOption).Sublist
          ((List.ofFn packet).drop (first + 1)) := ih (by omega)
      have hcons : (packet first :: (gated packet (first + 2) rest).filterMap
          Except.toOption).Sublist ((List.ofFn packet).drop first) := by
        rw [List.drop_eq_getElem_cons hlength, List.getElem_ofFn]
        exact hrest.cons_cons _
      exact hcons.trans (List.drop_sublist_drop_left _ (by omega))

/-- A receiver that expects the first number delivers in order. -/
theorem inOrder_gated (schedule : List (Fin n)) :
    InOrder packet schedule (gated packet 1 schedule) where
  length := length_gated packet 1 schedule
  accepted_iff k i hi := by
    rw [gated_accepts_iff packet 1 schedule k hi]
    exact and_iff_right (by omega)
  packet_eq k i p hi hk := packet_eq_of_gated packet 1 schedule k hi hk
  increasing := accepted_gated_increasing packet 1 schedule
  packets_eq := packets_gated packet 1 schedule
  sublist := packets_gated_sublist packet (by omega) schedule

end Delivery

/-! ## Receiving -/

namespace Tunnel

variable {ω σ : Type}

namespace Scene

/-- The results of taking datagrams apart in turn. -/
def decapsulateAll : List Bytes → Scene ω σ → List (Except EspError Ipv4.Packet)
  | [], _ => []
  | data :: rest, s =>
    let (result, s) := s.decapsulate data
    result :: s.decapsulateAll rest

/-- A tunnel takes apart the datagrams of a matched peer as the gate does, if there are fewer of
them than sequence numbers. -/
theorem decapsulateAll_eq_gated {peer : Esp.Association} {n : Nat} (hn : n < UInt32.size)
    (iv : Fin n → Block) (packet : Fin n → Ipv4.Packet)
    (hp : ∀ i, ∃ data, Ipv4.Packet.ofBytes data = .ok (packet i)) (schedule : List (Fin n))
    (s : Scene ω σ) (h : peer.Matched s.tunnel.profile.association) :
    s.decapsulateAll (schedule.map fun i =>
        peer.datagram (iv i) (packet i) (UInt32.ofNat (i + 1))) =
      Delivery.gated packet s.tunnel.channel.nextInbound schedule := by
  induction schedule generalizing s with
  | nil => rfl
  | cons i rest ih =>
    have hnumber : (UInt32.ofNat (i + 1)).toNat = i + 1 :=
      UInt32.toNat_ofNat_of_lt' (Nat.lt_of_le_of_lt i.isLt hn)
    obtain ⟨data, hdata⟩ := hp i
    rw [List.map_cons, decapsulateAll, decapsulate, Delivery.gated,
      Esp.Association.decapsulate_datagram h _ _ hdata, hnumber]
    by_cases hlt : i + 1 < s.tunnel.channel.nextInbound
    · simp only [if_pos hlt]
      exact congrArg (List.cons _) (ih _ h)
    · simp only [if_neg hlt]
      exact congrArg (List.cons _) (ih _ h)

end Scene

/-! ## Sending -/

namespace Profile

/-- The results of wrapping packets in turn. -/
def wrapAll (p : Profile) : List Ipv4.Packet → Esp.Channel → List (Except EspError Bytes)
  | [], _ => []
  | packet :: rest, channel =>
    let (result, channel) := p.wrap packet channel
    result :: p.wrapAll rest channel

/-- If the random source does not fail the packets get consecutive numbers. -/
theorem wrapAll_eq (p : Profile) {ivs : Nat → Block} (sent : List Ipv4.Packet)
    {channel : Esp.Channel} (hivs : channel.vectors.gives = fun i => some (ivs i)) :
    p.wrapAll sent channel = List.ofFn fun i : Fin sent.length =>
      .ok (p.association.datagram (ivs (channel.vectors.calls + i)) (sent.get i)
        (channel.lastOutbound + UInt32.ofNat (i + 1))) := by
  induction sent generalizing channel with
  | nil => rfl
  | cons packet rest ih =>
    have hends := p.association.encapsulate_ends p.settings.captureTraffic packet channel
    rw [wrapAll, wrap]
    generalize p.association.encapsulate p.settings.captureTraffic packet channel = x at hends ⊢
    cases hends with
    | failed hiv => simp [RandomSource.next, hivs] at hiv
    | numbered hiv =>
      obtain rfl : ivs channel.vectors.calls = _ := by
        simpa [RandomSource.next, hivs] using hiv
      have hnumber : ∀ i, channel.lastOutbound + 1 + UInt32.ofNat (i + 1) =
          channel.lastOutbound + UInt32.ofNat (i + 1 + 1) := by
        intro i
        rw [UInt32.add_assoc, UInt32.add_comm 1, UInt32.ofNat_add (i + 1) 1]
        rfl
      rw [List.ofFn_succ]
      refine congrArg (List.cons _) ?_
      rw [ih (by simpa [Esp.Channel.drawVector, RandomSource.next] using hivs)]
      simp only [hnumber, Esp.Channel.drawVector, Esp.Channel.vectors_capture,
        RandomSource.next, Nat.add_assoc, Nat.add_comm 1]
      rfl

end Profile

/-- A fresh tunnel delivers what a matched fresh peer sends, in order. The peer wraps fewer packets
than there are sequence numbers, each one that can be read and with any initialisation vector, and
gives them the numbers from one on. The network hands over any sequence of the datagrams. -/
theorem delivery_in_order {ours peer : Profile}
    (h : peer.association.Matched ours.association) (host : Host ω) (seed seed' : UInt64)
    (ivs : Nat → Block) (vectors : Nat → Option Block) (now now' : Nat) (sent : List Ipv4.Packet)
    (hsent : ∀ p ∈ sent, ∃ data, Ipv4.Packet.ofBytes data = .ok p)
    (hn : sent.length < UInt32.size) :
    ∃ datagram : Fin sent.length → Bytes,
      (peer.wrapAll sent (fresh peer seed (fun i => some (ivs i)) now : Tunnel σ).channel =
        List.ofFn fun i => .ok (datagram i)) ∧
      (∀ i, (Esp.Datagram.ofBytes Esp.Suite.tagLength (datagram i)).map (·.sequence) =
        .ok (UInt32.ofNat (i + 1))) ∧
      ∀ schedule : List (Fin sent.length),
        Delivery.InOrder sent.get schedule
          (Scene.decapsulateAll (schedule.map datagram)
            (⟨fresh ours seed' vectors now', host⟩ : Scene ω σ)) := by
  have hread : ∀ i, ∃ data, Ipv4.Packet.ofBytes data = .ok (sent.get i) :=
    fun i => hsent _ (List.get_mem sent i)
  refine ⟨fun i => peer.association.datagram (ivs i) (sent.get i) (UInt32.ofNat (i + 1)), ?_,
    fun i => ?_, fun schedule => ?_⟩
  · have hgives : (fresh peer seed (fun i => some (ivs i)) now : Tunnel σ).channel.vectors.gives =
        fun i => some (ivs i) := rfl
    have hwrapped := peer.wrapAll_eq sent hgives
    simpa only [fresh, Nat.zero_add, UInt32.zero_add] using hwrapped
  · rw [Esp.Association.ofBytes_datagram]
    rfl
  · rw [Scene.decapsulateAll_eq_gated hn _ _ hread schedule _ h]
    exact Delivery.inOrder_gated _ schedule

/-- The suite of two keys that repeat a byte. -/
def sampleSuite (b : UInt8) : Esp.Suite :=
  ⟨(Aes.Schedule.ofKey? (List.replicate 16 b)).getD (.ofRoundKeys []), List.replicate 32 b⟩

/-- A tunnel with different keys and indices in its two directions. -/
def sampleProfile : Profile where
  association := ⟨0x11111111, 0x22222222, sampleSuite 1, sampleSuite 2⟩
  gateway := .ofOctets 203 0 113 1

/-- Its other end. -/
def samplePeer : Profile :=
  { sampleProfile with association := sampleProfile.association.swapped }

/-- A packet with a given payload. -/
def samplePacket (payload : Bytes) : Ipv4.Packet where
  header :=
    { (default : Ipv4.Header) with
      totalLength := UInt16.ofNat (20 + payload.length)
      identification := 1234
      dontFragment := true
      timeToLive := 64
      protocol := Protocol.udp
      source := .ofOctets 10 0 0 5
      destination := .ofOctets 55 55 55 55 }
  payload

/-- Three packets. -/
def sampleSent : List Ipv4.Packet := [samplePacket [], samplePacket [1, 2, 3], samplePacket [4]]

/-- A random source that does not fail. -/
def sampleVectors : Nat → Option Block := fun _ => some default

/-- The second datagram overtakes the first, comes again after it, and is followed by the third. -/
def sampleSchedule : List (Fin sampleSent.length) :=
  [⟨1, by decide⟩, ⟨0, by decide⟩, ⟨1, by decide⟩, ⟨2, by decide⟩]

/-- What a fresh tunnel makes of that, for some datagrams. -/
def sampleResults (datagram : Fin sampleSent.length → Bytes) :
    List (Except EspError Ipv4.Packet) :=
  Scene.decapsulateAll (sampleSchedule.map datagram)
    (⟨fresh sampleProfile 2 sampleVectors 0, ⟨(), []⟩⟩ : Scene Unit Unit)

/-- The overtaken and the repeated datagram are refused. -/
theorem delivery_of_overtaking :
    samplePeer.association.Matched sampleProfile.association ∧
      (∀ p ∈ sampleSent, ∃ data, Ipv4.Packet.ofBytes data = .ok p) ∧
      sampleSent.length < UInt32.size ∧
      ∃ datagram : Fin sampleSent.length → Bytes,
        samplePeer.wrapAll sampleSent (fresh samplePeer 1 sampleVectors 0 : Tunnel Unit).channel =
          (List.ofFn fun i => .ok (datagram i)) ∧
        Delivery.AcceptedAt (sampleResults datagram) 0 ∧
        ¬Delivery.AcceptedAt (sampleResults datagram) 1 ∧
        ¬Delivery.AcceptedAt (sampleResults datagram) 2 ∧
        Delivery.AcceptedAt (sampleResults datagram) 3 := by
  have hmatched : samplePeer.association.Matched sampleProfile.association := ⟨rfl, rfl⟩
  have hread : ∀ p ∈ sampleSent, ∃ data, Ipv4.Packet.ofBytes data = .ok p := by
    intro p hp
    refine ⟨p.toBytes ++ [], Ipv4.Packet.ofBytes_toBytes_append [] ?_⟩
    revert p
    decide
  have hcount : sampleSent.length < UInt32.size := by decide
  obtain ⟨datagram, hwrapped, -, hdelivered⟩ :=
    delivery_in_order hmatched ⟨(), []⟩ 1 2 (fun _ => default) sampleVectors 0 0 sampleSent hread
      hcount
  have hin : Delivery.InOrder sampleSent.get sampleSchedule (sampleResults datagram) :=
    hdelivered sampleSchedule
  refine ⟨hmatched, hread, hcount, datagram, hwrapped, ?_⟩
  generalize sampleResults datagram = results at hin
  have h0 := (hin.accepted_iff 0 ⟨1, by decide⟩ rfl).2 (by simp)
  have h1 := mt (hin.accepted_iff 1 ⟨0, by decide⟩ rfl).1 fun h => by
    simpa using h 0 (by decide) _ rfl h0
  have h2 := mt (hin.accepted_iff 2 ⟨1, by decide⟩ rfl).1 fun h => by
    simpa using h 0 (by decide) _ rfl h0
  have h3 := (hin.accepted_iff 3 ⟨2, by decide⟩ rfl).2 fun j hj i' hi' haccepted => by
    obtain rfl | rfl | rfl : j = 0 ∨ j = 1 ∨ j = 2 := by omega
    · obtain rfl := Option.some.inj hi'
      simp
    · exact absurd haccepted h1
    · exact absurd haccepted h2
  exact ⟨h0, h1, h2, h3⟩

end Tunnel

end Ipsec
