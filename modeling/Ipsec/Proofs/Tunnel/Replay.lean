import Ipsec.Proofs.Esp.Opening
import Ipsec.Proofs.Esp.Sealed
import Ipsec.Proofs.Tunnel.Channel

/-!
# Protection against replay

A tunnel accepts a datagram when it takes it apart without an error, to act on the packet inside or
to hand it out. `Moment.acceptedAll` lists what a run accepts, in order. A moment either accepts
nothing and leaves the expected number where it is, or accepts one datagram and moves that number
behind it (`Gate`). So the numbers accepted over the life of a tunnel increase (`Guarded.gate`), and
after the last one nothing is accepted any more (`replay_protection`).
-/

namespace Ipsec

variable {ω σ : Type}

/-- The sequence number in a datagram. One that is too short to hold any counts as zero. -/
def Esp.Datagram.number (data : Bytes) : Nat :=
  match Datagram.ofBytes Suite.tagLength data with
  | .ok d => d.sequence.toNat
  | .error _ => 0

theorem Esp.Datagram.number_lt_size (data : Bytes) : number data < UInt32.size := by
  unfold number
  split
  · next d _ => exact d.sequence.toNat_lt_size
  · decide

namespace Tunnel

open Esp.Datagram (number)

/-! ## Accepted datagrams -/

/-- The datagram that an operation takes apart. -/
def Operation.datagram? : Operation → Option Bytes
  | handleDatagram data _ _ => some data
  | decapsulate data => some data
  | _ => none

/-- The datagrams that are accepted at a moment, at most one. -/
def Moment.accepted (s : Scene ω σ) : Moment ω σ → List Bytes
  | operation op => op.datagram?.toList.filter fun data => (s.decapsulate data).1.isOk
  | drift .. => []

/-- The datagrams that are accepted at some moments in turn. -/
def Moment.acceptedAll [Platform ω σ] : List (Moment ω σ) → Scene ω σ → List Bytes
  | [], _ => []
  | m :: rest, s => m.accepted s ++ acceptedAll rest (m.run s)

/-! ## The gate -/

/-- What happens to the expected number when some datagrams are accepted. -/
inductive Gate (s t : Scene ω σ) : List Bytes → Prop where
  /-- Nothing is accepted, and the number stays. -/
  | shut (h : Goes (fun c d => d.nextInbound = c.nextInbound) s t) : Gate s t []
  /-- A datagram is accepted, and the number moves behind its own. -/
  | passed {data : Bytes} {d : Esp.Datagram}
      (hauthentic : s.tunnel.profile.association.Authentic data s.tunnel.channel d)
      (h : Goes (fun _ c => c.nextInbound = d.sequence.toNat + 1) s t) : Gate s t [data]

/-- Sending leaves the expected number. -/
theorem sending_nextInbound : Sending fun c d => d.nextInbound = c.nextInbound where
  refl _ := rfl
  trans h h' := h'.trans h
  draw _ := rfl
  encapsulate := Esp.Association.nextInbound_encapsulate

theorem Gate.trans {s t u : Scene ω σ} {accepted : List Bytes} (h : Gate s t accepted)
    (h' : Goes (fun c d => d.nextInbound = c.nextInbound) t u) : Gate s u accepted := by
  cases h with
  | shut h => exact .shut ⟨h'.profile.trans h.profile, h'.channel.trans h.channel⟩
  | passed hauthentic h =>
    exact .passed hauthentic ⟨h'.profile.trans h.profile, h'.channel.trans h.channel⟩

theorem decapsulate_gate (s : Scene ω σ) (data : Bytes) :
    Gate s (s.decapsulate data).2 ([data].filter fun data => (s.decapsulate data).1.isOk) := by
  obtain ⟨haccepted, hrefused⟩ := (s.tunnel.profile.association.decapsulate_ends
    s.tunnel.profile.settings.captureTraffic data s.tunnel.channel).nextInbound
  cases hresult : (s.decapsulate data).1 with
  | ok packet =>
    obtain ⟨d, hauthentic, hnext⟩ := haccepted packet hresult
    have hgate : Gate s (s.decapsulate data).2 [data] := .passed hauthentic ⟨rfl, hnext⟩
    simpa [hresult, Except.isOk, Except.toBool] using hgate
  | error e =>
    have hgate : Gate s (s.decapsulate data).2 [] := .shut ⟨rfl, hrefused e hresult⟩
    simpa [hresult, Except.isOk, Except.toBool] using hgate

/-! ## What was accepted -/

/-- A tunnel with a given association accepted some datagrams over its life. -/
structure Guarded (a : Esp.Association) (accepted : List Bytes) (s : Scene ω σ) : Prop where
  association : s.tunnel.profile.association = a
  expected : s.tunnel.channel.nextInbound = (accepted.map number).max?.getD 0 + 1
  increasing : (accepted.map number).Pairwise (· < ·)
  positive : ∀ data ∈ accepted, 0 < number data
  tagged : ∀ data ∈ accepted, a.inbound.verifyTag data

theorem max?_append_of_lt {numbers : List Nat} {n : Nat} (h : ∀ m ∈ numbers, m < n) :
    (numbers ++ [n]).max? = some n := by
  refine List.max?_eq_some_iff.2 ⟨List.mem_append_right _ List.mem_cons_self, fun m hm => ?_⟩
  rcases List.mem_append.1 hm with hm | hm
  · exact Nat.le_of_lt (h m hm)
  · exact Nat.le_of_eq (List.mem_singleton.1 hm)

namespace Guarded

variable {a : Esp.Association} {accepted new : List Bytes} {s t : Scene ω σ}

theorem number_lt (h : Guarded a accepted s) {data : Bytes} (hdata : data ∈ accepted) :
    number data < s.tunnel.channel.nextInbound := by
  have hle := List.le_max?_getD_of_mem (k := 0) (List.mem_map_of_mem (f := number) hdata)
  rw [h.expected]
  exact Nat.lt_succ_of_le hle

/-- The expected number is at most one more than the last one that a datagram can bear. -/
theorem expected_le (h : Guarded a accepted s) : s.tunnel.channel.nextInbound ≤ UInt32.size := by
  rw [h.expected]
  cases hmax : (accepted.map number).max? with
  | none => decide
  | some n =>
    obtain ⟨data, _, rfl⟩ := List.mem_map.1 (List.max?_eq_some_iff.1 hmax).1
    exact Nat.succ_le_of_lt (Esp.Datagram.number_lt_size data)

/-- A datagram with a number above all that were accepted is not used. -/
theorem recent (h : Guarded a accepted s) {data : Bytes} (hpositive : 0 < number data)
    (habove : ∀ other ∈ accepted, number other < number data) :
    s.tunnel.channel.nextInbound ≤ number data := by
  rw [h.expected]
  cases hmax : (accepted.map number).max? with
  | none => exact hpositive
  | some n =>
    obtain ⟨other, hother, rfl⟩ := List.mem_map.1 (List.max?_eq_some_iff.1 hmax).1
    exact habove other hother

/-- A datagram with the number of one that was accepted is refused. -/
theorem refuses (h : Guarded a accepted s) {data other : Bytes} (hdata : data ∈ accepted)
    (hnumber : number other = number data) (packet : Ipv4.Packet) :
    (s.decapsulate other).1 ≠ .ok packet := by
  intro hresult
  obtain ⟨d, hauthentic, -⟩ := (s.tunnel.profile.association.decapsulate_ends
    s.tunnel.profile.settings.captureTraffic other s.tunnel.channel).nextInbound.1 packet hresult
  have hlt := h.number_lt hdata
  have hrecent := hauthentic.recent
  rw [← hnumber, number, hauthentic.framed] at hlt
  exact Nat.lt_irrefl _ (Nat.lt_of_lt_of_le hlt hrecent)

/-- What passes the gate has a larger number than all that was accepted before. -/
theorem gate (h : Guarded a accepted s) (hgate : Gate s t new) :
    Guarded a (accepted ++ new) t := by
  cases hgate with
  | shut hgoes =>
    rw [List.append_nil]
    exact ⟨by rw [hgoes.profile, h.association], hgoes.channel.trans h.expected, h.increasing,
      h.positive, h.tagged⟩
  | @passed data d hauthentic hgoes =>
    have hnumber : number data = d.sequence.toNat := by rw [number, hauthentic.framed]
    have hrecent : s.tunnel.channel.nextInbound ≤ number data := hnumber ▸ hauthentic.recent
    -- The expected number is above all that was accepted, and the gate compared with it.
    have hlarger : ∀ n ∈ accepted.map number, n < number data := by
      intro n hn
      obtain ⟨other, hother, rfl⟩ := List.mem_map.1 hn
      exact Nat.lt_of_lt_of_le (h.number_lt hother) hrecent
    have hpositive : 0 < number data := by
      rw [h.expected] at hrecent
      exact Nat.lt_of_lt_of_le (Nat.succ_pos _) hrecent
    have htag : a.inbound.verifyTag data := h.association ▸ hauthentic.tag
    refine ⟨by rw [hgoes.profile, h.association], ?_, ?_,
      List.forall_mem_append.2 ⟨h.positive, List.forall_mem_singleton.2 hpositive⟩,
      List.forall_mem_append.2 ⟨h.tagged, List.forall_mem_singleton.2 htag⟩⟩
    · rw [List.map_append, List.map_singleton, max?_append_of_lt hlarger, hnumber]
      exact hgoes.channel
    · rw [List.map_append, List.pairwise_append]
      exact ⟨h.increasing, List.pairwise_singleton _ _, by simpa using hlarger⟩

end Guarded

/-- Over its life a tunnel with a given association accepted some datagrams, and none that was sent
again. -/
structure ReplaySafe (a : Esp.Association) (accepted : List Bytes) (s : Scene ω σ) : Prop where
  /-- The numbers of the accepted datagrams increase. -/
  increasing : (accepted.map number).Pairwise (· < ·)
  /-- The number expected next is one more than the largest of them. -/
  expected : s.tunnel.channel.nextInbound = (accepted.map number).max?.getD 0 + 1
  /-- None of them is zero. -/
  positive : ∀ data ∈ accepted, 0 < number data
  /-- No datagram is accepted twice. -/
  nodup : accepted.Nodup
  /-- An accepted datagram ends in the tag of what stands before the tag. -/
  tagged : ∀ data ∈ accepted, Esp.Suite.tagLength ≤ data.length ∧
    data.drop (data.length - Esp.Suite.tagLength) =
      a.inbound.tag (data.take (data.length - Esp.Suite.tagLength))
  /-- Once the last number was accepted, every datagram that is long enough and has the right index
  is stale. -/
  exhausted : UInt32.size - 1 ∈ accepted.map number → ∀ data : Bytes,
    Esp.Datagram.headerLength + Esp.Suite.tagLength ≤ data.length →
      ∃ d, Esp.Datagram.ofBytes Esp.Suite.tagLength data = .ok d ∧
        (d.spi = a.spiIn →
          (s.decapsulate data).1 = .error (.staleSequence UInt32.size d.sequence))

theorem Guarded.replaySafe {a : Esp.Association} {accepted : List Bytes} {s : Scene ω σ}
    (h : Guarded a accepted s) : ReplaySafe a accepted s where
  increasing := h.increasing
  expected := h.expected
  positive := h.positive
  nodup := List.Pairwise.of_map number (fun _ _ hlt heq => Nat.lt_irrefl _ (heq ▸ hlt)) h.increasing
  tagged data hdata := (Esp.Suite.verifyTag_iff _ data).1 (h.tagged data hdata)
  exhausted hlast data hlength := by
    obtain ⟨last, hmem, hnumber⟩ := List.mem_map.1 hlast
    have hexpected : s.tunnel.channel.nextInbound = UInt32.size := by
      have hlt := h.number_lt hmem
      have hle := h.expected_le
      omega
    obtain ⟨d, hframe⟩ := (Esp.Datagram.ofBytes_isOk _ data).2 hlength
    refine ⟨d, hframe, fun hspi => ?_⟩
    rw [← h.association] at hspi
    have hstale := Esp.Association.decapsulate_stale s.tunnel.profile.settings.captureTraffic hframe
      hspi (hexpected ▸ d.sequence.toNat_lt_size)
    rw [Scene.decapsulate, hstale, hexpected]

/-! ## Runs -/

variable [Platform ω σ]

/-- What is accepted at a moment passes the gate. -/
theorem Moment.gate (m : Moment ω σ) (s : Scene ω σ) : Gate s (m.run s) (m.accepted s) := by
  have hgoes := sending_nextInbound.operated (ω := ω) (σ := σ)
  cases m with
  | drift live parked world => exact .shut ⟨rfl, rfl⟩
  | operation op =>
    cases op with
    | handleDatagram data sender now =>
      exact (decapsulate_gate s data).trans (hgoes.acted data sender now s)
    | decapsulate data => exact decapsulate_gate s data
    | dispatch packet sender now => exact .shut (hgoes.dispatch packet sender now s)
    | pump rota now => exact .shut (hgoes.pumpBy rota now s)
    | terminate key => exact .shut (hgoes.terminate s key)
    | release key => exact .shut (hgoes.release s key)
    | send packet receiver => exact .shut (hgoes.send s packet receiver)
    | ping source destination => exact .shut (hgoes.ping source destination s)
    | encapsulate packet => exact .shut (sending_nextInbound.wrap packet s)

omit [Platform ω σ] in
/-- A fresh tunnel accepted nothing. -/
theorem guarded_fresh (profile : Profile) (seed : UInt64) (vectors : Nat → Option Aes.Block)
    (now : Nat) (host : Host ω) :
    Guarded profile.association [] (⟨fresh profile seed vectors now, host⟩ : Scene ω σ) :=
  ⟨rfl, rfl, .nil, nofun, nofun⟩

theorem Guarded.runAll {a : Esp.Association} {accepted : List Bytes} {s : Scene ω σ}
    (h : Guarded a accepted s) (moments : List (Moment ω σ)) :
    Guarded a (accepted ++ Moment.acceptedAll moments s) (Moment.runAll moments s) := by
  induction moments generalizing accepted s with
  | nil =>
    rw [Moment.acceptedAll, List.append_nil]
    exact h
  | cons m rest ih =>
    have hrest := ih (h.gate (m.gate s))
    rwa [List.append_assoc] at hrest

/-- **Protection against replay.** After any run of a fresh tunnel the numbers of the datagrams that
it accepted increase, and it goes on from the largest of them. -/
theorem replay_protection (profile : Profile) (seed : UInt64)
    (vectors : Nat → Option Aes.Block) (now : Nat) (host : Host ω) (moments : List (Moment ω σ)) :
    ReplaySafe profile.association
      (Moment.acceptedAll moments ⟨fresh profile seed vectors now, host⟩)
      (Moment.runAll moments ⟨fresh profile seed vectors now, host⟩) := by
  have hrun := (guarded_fresh profile seed vectors now host).runAll moments
  exact hrun.replaySafe

end Tunnel

end Ipsec
