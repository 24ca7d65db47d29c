import Ipsec.Proofs.Tcp.Accounting
import Ipsec.Proofs.Tunnel.Delivery
import Ipsec.Proofs.Tunnel.Outside
import Ipsec.Proofs.Tunnel.Replay
import Ipsec.Proofs.Tunnel.Wire
import Ipsec.Simulation.World

/-!
# The numbers of outbound datagrams

Whatever makes a tunnel send, the packets that it wraps over its life are counted by one number, and
each gets the next one. A packet that cannot be encrypted gets none. The number is a word of 32
bits, so the count starts again at zero after the last word. `Wraps` says of a part of a run which
packets were wrapped: each became a datagram, or was lost for lack of a transport.
`outbound_numbers` says of a whole run that the numbers are those of the packets in turn, and what
follows as long as there are fewer packets than numbers: they increase, and a receiver that accepted
all datagrams before one finds it recent. With more packets it does not follow
(`number_used_again`).
-/

namespace Ipsec

variable {ω σ : Type}

namespace Tunnel

open Esp.Datagram (number)

/-! ## What is wrapped -/

/-- How many packets were wrapped, but not sent for lack of a transport. -/
def unsent (p : Profile) (log : List Notice) : Nat :=
  if p.hasTransport then 0 else log.countP Notice.isUnsent

/-- The datagrams of packets that were wrapped in turn bear the numbers after a given one. A packet
whose datagram was lost had its number too. -/
def Numbered (a : Esp.Association) (last : UInt32) (wraps : List (Option Bytes)) : Prop :=
  ∀ i data, wraps[i]? = some (some data) →
    ∃ iv packet, data = a.datagram iv packet (last + UInt32.ofNat (i + 1))

/-- From `x` to `y` a tunnel wrapped packets in turn. -/
structure Wraps (p : Profile) (wraps : List (Option Bytes)) (x y : Esp.Channel × Host ω) :
    Prop where
  lastOutbound : y.1.lastOutbound = x.1.lastOutbound + UInt32.ofNat wraps.length
  numbered : Numbered p.association x.1.lastOutbound wraps
  /-- Those that were lost are on the log. -/
  lost : unsent p x.2.log + wraps.count none ≤ unsent p y.2.log

theorem Numbered.append {a : Esp.Association} {last : UInt32} {wraps more : List (Option Bytes)}
    (h : Numbered a last wraps) (h' : Numbered a (last + UInt32.ofNat wraps.length) more) :
    Numbered a last (wraps ++ more) := by
  intro i data hi
  rcases Nat.lt_or_ge i wraps.length with hlt | hge
  · rw [List.getElem?_append_left hlt] at hi
    exact h i data hi
  · rw [List.getElem?_append_right hge] at hi
    obtain ⟨iv, packet, rfl⟩ := h' _ data hi
    refine ⟨iv, packet, ?_⟩
    rw [Tcp.add_ofNat_add, ← Nat.add_assoc, Nat.add_sub_cancel' hge]

namespace Wraps

variable {p : Profile} {wraps more : List (Option Bytes)} {x y z : Esp.Channel × Host ω}

/-- What wraps nothing only logs. -/
theorem nothing (hchannel : y.1.lastOutbound = x.1.lastOutbound)
    (hlog : unsent p x.2.log ≤ unsent p y.2.log) : Wraps p [] x y :=
  ⟨by simpa using hchannel, nofun, hlog⟩

theorem trans (h : Wraps p wraps x y) (h' : Wraps p more y z) : Wraps p (wraps ++ more) x z := by
  refine ⟨?_, h.numbered.append (h.lastOutbound ▸ h'.numbered), ?_⟩
  · rw [h'.lastOutbound, h.lastOutbound, Tcp.add_ofNat_add, List.length_append]
  · have hlost := h.lost
    have hlost' := h'.lost
    rw [List.count_append]
    omega

end Wraps

theorem unsent_append (p : Profile) (log notices : List Notice) :
    unsent p log ≤ unsent p (log ++ notices) := by
  unfold unsent
  split
  · exact Nat.le_refl 0
  · rw [List.countP_append]
    exact Nat.le_add_right _ _

/-- A wrapped packet is one more. -/
theorem wraps_wrap {p : Profile} {packet : Ipv4.Packet} {channel channel' : Esp.Channel}
    {datagram : Bytes} (hwrap : p.wrap packet channel = (.ok datagram, channel'))
    (host : Host ω) : Wraps p [some datagram] (channel, host) (channel', host) := by
  obtain ⟨-, hlast, iv, rfl⟩ := Profile.wrap_ok hwrap
  refine ⟨hlast, fun i data hi => ?_, by simp⟩
  cases i with
  | zero =>
    obtain rfl : _ = data := by simpa using hi
    exact ⟨iv, packet, rfl⟩
  | succ i => simp at hi

/-! ## What is sent -/

/-- A datagram is no keep-alive probe. -/
theorem datagram_ne_probe (a : Esp.Association) (iv : Aes.Block) (packet : Ipv4.Packet)
    (sequence : UInt32) : a.datagram iv packet sequence ≠ [0xff] := by
  intro h
  have hread := a.ofBytes_datagram iv packet sequence
  rw [h] at hread
  cases hread

/-- From `x` to `y` packets were wrapped, and the datagrams that were not lost were given to the
transport. -/
def Sends (p : Profile) (x y : Esp.Channel × Host (Wire ω)) : Prop :=
  ∃ wraps, Wraps p wraps x y
    ∧ y.2.world.datagrams = x.2.world.datagrams ++ wraps.filterMap id

theorem Sends.nothing {p : Profile} {x y : Esp.Channel × Host (Wire ω)}
    (hchannel : y.1.lastOutbound = x.1.lastOutbound)
    (hlog : unsent p x.2.log ≤ unsent p y.2.log)
    (hsent : y.2.world.datagrams = x.2.world.datagrams) : Sends p x y :=
  ⟨[], .nothing hchannel hlog, by simpa using hsent⟩

variable [Platform ω σ]

theorem datagrams_transmit (data : Bytes) (receiver : Endpoint) (host : Host (Wire ω)) :
    (host.transmit data receiver).2.world.datagrams =
      host.world.datagrams ++ [data].filter (· ≠ [0xff]) := by
  simp [Wire.datagrams, Host.transmit, Platform.transmit]

/-- A tunnel hands packets over by wrapping and sending them. -/
theorem Sends.handOver (p : Profile) (packet : Ipv4.Packet) (receiver : Endpoint)
    (channel : Esp.Channel) (host : Host (Wire ω)) :
    Sends p (channel, host) (p.send packet receiver channel host).2 := by
  have hends := p.send_ends packet receiver channel host
  generalize p.send packet receiver channel host = x at hends ⊢
  cases hends with
  | unwrapped hwrap => exact .nothing (Profile.wrap_error hwrap).2.1 (Nat.le_refl _) rfl
  | @transmitted datagram channel' hwrap =>
    obtain ⟨hlast, hnumbered, hlost⟩ := wraps_wrap hwrap host
    refine ⟨[some datagram], ⟨hlast, hnumbered, hlost⟩, ?_⟩
    obtain ⟨-, -, iv, rfl⟩ := Profile.wrap_ok hwrap
    rw [datagrams_transmit, List.filter_cons_of_pos]
    · rfl
    · simpa using datagram_ne_probe _ _ _ _
  | dropped hwrap htransport =>
    refine ⟨[none], ⟨(Profile.wrap_ok hwrap).2.1, ?_, ?_⟩, ?_⟩
    · rintro (_ | i) data hi <;> simp at hi
    · simp [unsent, htransport, Host.note, Notice.isUnsent]
    · simp [Host.note]

/-- Everything that a tunnel does is to wrap packets and to give their datagrams to the transport,
as far as it numbers datagrams. -/
theorem outward_sends : Outward (ω := Wire ω) (σ := σ) Sends where
  link p :=
    { refl := fun _ => .nothing rfl (Nat.le_refl _) rfl
      trans := by
        rintro x y z ⟨wraps, h, hsent⟩ ⟨more, h', hsent'⟩
        refine ⟨wraps ++ more, h.trans h', ?_⟩
        rw [hsent', hsent, List.filterMap_append, List.append_assoc]
      handOver := Sends.handOver p
      note := fun _ _ _ _ => .nothing rfl (unsent_append _ _ _) rfl
      connect := fun _ _ _ => .nothing rfl (Nat.le_refl _) rfl
      close := fun _ _ _ => .nothing rfl (Nat.le_refl _) rfl }
  draw _ _ _ := .nothing rfl (Nat.le_refl _) rfl
  probe p channel host receiver := by
    refine .nothing rfl (Nat.le_refl _) ?_
    rw [datagrams_transmit]
    simp [Scene.keepAliveProbe]

/-! ## Runs -/

/-- The datagrams that a moment brings out of a tunnel: one that it wraps for its caller, and those
that it gives to its transport. -/
def Moment.produced (s : Scene (Wire ω) σ) : Moment ω σ → List Bytes
  | operation (.encapsulate packet) => (s.encapsulate packet).1.toOption.toList
  | m => (m.onWire.run s).host.world.datagrams.drop s.host.world.datagrams.length

/-- The datagrams that some moments bring out of a tunnel in turn. -/
def Moment.producedAll : List (Moment ω σ) → Scene (Wire ω) σ → List Bytes
  | [], _ => []
  | m :: rest, s => m.produced s ++ producedAll rest (m.onWire.run s)

/-- From `s` to `t` a tunnel keeps its profile, and wraps packets whose datagrams come out, but for
those that are lost. -/
def Produces (s t : Scene (Wire ω) σ) (produced : List Bytes) : Prop :=
  t.tunnel.profile = s.tunnel.profile
    ∧ ∃ wraps, Wraps s.tunnel.profile wraps s.outside t.outside ∧ wraps.filterMap id = produced

omit [Platform ω σ] in
theorem Leads.produces {s t : Scene (Wire ω) σ} (h : Leads Sends s t) :
    Produces s t (t.host.world.datagrams.drop s.host.world.datagrams.length) := by
  obtain ⟨hprofile, wraps, hwraps, hsent⟩ := h
  have hsent : t.host.world.datagrams = s.host.world.datagrams ++ wraps.filterMap id := hsent
  refine ⟨hprofile, wraps, hwraps, ?_⟩
  rw [hsent, List.drop_left]

omit [Platform ω σ] in
theorem Scene.decapsulate_leads (s : Scene (Wire ω) σ) (data : Bytes) :
    Leads Sends s (s.decapsulate data).2 := by
  refine ⟨rfl, .nothing ?_ (unsent_append _ _ _) rfl⟩
  exact (s.tunnel.profile.association.decapsulate_ends
    s.tunnel.profile.settings.captureTraffic data s.tunnel.channel).lastOutbound

omit [Platform ω σ] in
theorem Scene.produces_encapsulate (packet : Ipv4.Packet) (s : Scene (Wire ω) σ) :
    Produces s (s.encapsulate packet).2 (s.encapsulate packet).1.toOption.toList := by
  unfold encapsulate
  rcases hwrap : s.tunnel.profile.wrap packet s.tunnel.channel with ⟨e | datagram, channel⟩
  · exact ⟨rfl, [], .nothing (Profile.wrap_error hwrap).2.1 (Nat.le_refl _), rfl⟩
  · exact ⟨rfl, [some datagram], wraps_wrap hwrap s.host, rfl⟩

theorem Moment.produces (m : Moment ω σ) (s : Scene (Wire ω) σ) :
    Produces s (m.onWire.run s) (m.produced s) := by
  have hgoes := outward_sends.operated (ω := Wire ω) (σ := σ)
  cases m with
  | drift live parked world =>
    exact Leads.produces ⟨rfl, .nothing rfl (Nat.le_refl _) rfl⟩
  | operation op =>
    cases op with
    | handleDatagram data sender now =>
      exact (hgoes.trans (s.decapsulate_leads data) (hgoes.acted data sender now s)).produces
    | decapsulate data => exact (s.decapsulate_leads data).produces
    | dispatch packet sender now => exact (hgoes.dispatch packet sender now s).produces
    | pump rota now => exact (hgoes.pumpBy rota now s).produces
    | terminate key => exact (hgoes.terminate s key).produces
    | release key => exact (hgoes.release s key).produces
    | send packet receiver => exact (hgoes.send s packet receiver).produces
    | ping source destination => exact (hgoes.ping source destination s).produces
    | encapsulate packet => exact s.produces_encapsulate packet

theorem Produces.runAll (moments : List (Moment ω σ)) (s : Scene (Wire ω) σ) :
    Produces s (Moment.runAll (moments.map .onWire) s) (Moment.producedAll moments s) := by
  induction moments generalizing s with
  | nil => exact ⟨rfl, [], .nothing rfl (Nat.le_refl _), rfl⟩
  | cons m rest ih =>
    obtain ⟨hprofile, wraps, hwraps, hproduced⟩ := m.produces s
    obtain ⟨hprofile', more, hmore, hproduced'⟩ := ih (m.onWire.run s)
    rw [hprofile] at hmore
    refine ⟨hprofile'.trans hprofile, wraps ++ more, hwraps.trans hmore, ?_⟩
    rw [List.filterMap_append, hproduced, hproduced']
    rfl

/-! ## What the numbers are -/

/-- Without a loss every packet that was wrapped came out. -/
theorem wraps_eq_map_some {wraps : List (Option Bytes)} (h : wraps.count none = 0) :
    wraps = (wraps.filterMap id).map some := by
  induction wraps with
  | nil => rfl
  | cons first rest ih =>
    cases first with
    | none => simp at h
    | some data => simpa using ih (by simpa using h)

/-- The numbers that came out are some of those that were used, in their order. -/
theorem numbers_sublist {wraps : List (Option Bytes)} {next : Nat}
    (h : ∀ i data, wraps[i]? = some (some data) → number data = next + i) :
    ((wraps.filterMap id).map number).Sublist (List.range' next wraps.length) := by
  induction wraps generalizing next with
  | nil => exact List.Sublist.slnil
  | cons first rest ih =>
    have hrest : ((rest.filterMap id).map number).Sublist (List.range' (next + 1) rest.length) :=
      ih fun i data hi => by rw [h (i + 1) data (by simpa using hi), Nat.add_assoc, Nat.add_comm 1]
    rw [List.length_cons, List.range'_succ]
    cases first with
    | none => exact hrest.cons next
    | some data =>
      have hnumber : number data = next := by simpa using h 0 data
      simpa [hnumber] using hrest

/-- The number in a datagram is the one under which its packet was wrapped. -/
theorem number_datagram (a : Esp.Association) (iv : Aes.Block) (packet : Ipv4.Packet)
    (sequence : UInt32) : number (a.datagram iv packet sequence) = sequence.toNat := by
  rw [number, a.ofBytes_datagram]

namespace Numbered

variable {a : Esp.Association} {wraps : List (Option Bytes)} {i : Nat} {data : Bytes}

theorem number_eq_mod (h : Numbered a 0 wraps) (hi : wraps[i]? = some (some data)) :
    number data = (i + 1) % UInt32.size := by
  obtain ⟨iv, packet, rfl⟩ := h i data hi
  rw [number_datagram, UInt32.zero_add]
  rfl

theorem number_eq (h : Numbered a 0 wraps) (hfew : wraps.length < UInt32.size)
    (hi : wraps[i]? = some (some data)) : number data = 1 + i := by
  have hlt : i < wraps.length := (List.getElem?_eq_some_iff.1 hi).1
  rw [h.number_eq_mod hi, Nat.mod_eq_of_lt (by omega), Nat.add_comm]

/-- What came out is a datagram of some packet, under the number that it bears. -/
theorem of_mem (h : Numbered a 0 wraps) (hdata : data ∈ wraps.filterMap id) :
    ∃ iv packet sequence, data = a.datagram iv packet sequence ∧ sequence.toNat = number data := by
  have hmem : some data ∈ wraps := by simpa using hdata
  obtain ⟨i, hi⟩ := List.mem_iff_getElem?.1 hmem
  obtain ⟨iv, packet, hdatagram⟩ := h i data hi
  refine ⟨iv, packet, _, hdatagram, ?_⟩
  rw [hdatagram, number_datagram]

end Numbered

/-! ## What a receiver makes of the numbers -/

/-- A fresh receiver that accepted nothing but datagrams in a list finds a given one recent: its
number is not used, and if the receiver is matched it takes the datagram apart and reads the packet
inside. -/
def Recent (a : Esp.Association) (earlier : List Bytes) (data : Bytes) : Prop :=
  ∀ (ω σ : Type) [Platform ω σ] (ours : Profile) (seed : UInt64)
    (vectors : Nat → Option Aes.Block) (now : Nat) (host : Host ω) (moments : List (Moment ω σ)),
    (∀ other ∈ Moment.acceptedAll moments ⟨fresh ours seed vectors now, host⟩, other ∈ earlier) →
      (Moment.runAll moments ⟨fresh ours seed vectors now, host⟩).tunnel.channel.nextInbound ≤
          number data
        ∧ (a.Matched ours.association → ∃ iv packet sequence,
            data = a.datagram iv packet sequence
              ∧ ((Moment.runAll moments ⟨fresh ours seed vectors now, host⟩).decapsulate data).1 =
                  Ipv4.Packet.ofBytes packet.toBytes)

/-- The datagrams that came out of a tunnel over its life, when at most a given number was lost. -/
structure NumberedInTurn (a : Esp.Association) (produced : List Bytes) (lost : Nat) : Prop where
  /-- They are what came out of the packets that were wrapped, each under the next number. -/
  wraps : ∃ wraps, wraps.filterMap id = produced ∧ wraps.count none ≤ lost ∧ Numbered a 0 wraps
  /-- If none was lost their numbers are one, two, and so on, as far as the words go. -/
  inTurn : lost = 0 → ∀ i data, produced[i]? = some data → number data = (i + 1) % UInt32.size
  /-- With fewer packets than numbers their numbers increase, -/
  increasing : produced.length + lost < UInt32.size → (produced.map number).Pairwise (· < ·)
  /-- none of them is zero, -/
  positive : produced.length + lost < UInt32.size → ∀ data ∈ produced, 0 < number data
  /-- and no receiver that accepted only earlier ones finds one of them used. -/
  recent : produced.length + lost < UInt32.size →
    ∀ k data, produced[k]? = some data → Recent a (produced.take k) data

section

variable {a : Esp.Association} {wraps : List (Option Bytes)} {data : Bytes}

theorem length_filterMap_id (wraps : List (Option Bytes)) :
    wraps.length = (wraps.filterMap id).length + wraps.count none := by
  induction wraps with
  | nil => rfl
  | cons first rest ih => cases first <;> simp [ih] <;> omega

theorem Numbered.increasing (h : Numbered a 0 wraps) (hfew : wraps.length < UInt32.size) :
    ((wraps.filterMap id).map number).Pairwise (· < ·) :=
  (List.pairwise_lt_range' 1).sublist (numbers_sublist fun _ _ => h.number_eq hfew)

theorem Numbered.positive (h : Numbered a 0 wraps) (hfew : wraps.length < UInt32.size)
    (hdata : data ∈ wraps.filterMap id) : 0 < number data := by
  have hmem := (numbers_sublist fun _ _ => h.number_eq hfew).subset (List.mem_map_of_mem hdata)
  have hrange := List.mem_range'_1.1 hmem
  omega

theorem Numbered.recent (h : Numbered a 0 wraps) (hfew : wraps.length < UInt32.size) {k : Nat}
    (hk : (wraps.filterMap id)[k]? = some data) :
    Recent a ((wraps.filterMap id).take k) data := by
  intro ω σ _ ours seed vectors now host moments haccepted
  have hdata := List.mem_of_getElem? hk
  have hguarded := (guarded_fresh ours seed vectors now host).runAll moments
  -- The numbers increase across the place where the list is cut.
  have hbelow : ∀ other ∈ (wraps.filterMap id).take k, number other < number data := by
    have hincreasing := List.pairwise_map.1 (h.increasing hfew)
    rw [← List.take_append_drop k (wraps.filterMap id), List.pairwise_append] at hincreasing
    intro other hother
    refine hincreasing.2.2 other hother data (List.mem_of_getElem? (i := 0) ?_)
    rw [List.getElem?_drop, Nat.add_zero, hk]
  have hrecent := hguarded.recent (h.positive hfew hdata) fun other hother =>
    hbelow other (haccepted other hother)
  refine ⟨hrecent, fun hmatched => ?_⟩
  obtain ⟨iv, packet, sequence, hdatagram, hsequence⟩ := h.of_mem hdata
  refine ⟨iv, packet, sequence, hdatagram, ?_⟩
  rw [← hguarded.association] at hmatched
  rw [← hsequence] at hrecent
  rw [hdatagram]
  exact Esp.Association.decapsulate_datagram_recent hmatched _ iv packet hrecent

end

theorem Numbered.inTurn {a : Esp.Association} {wraps : List (Option Bytes)} {lost : Nat}
    (h : Numbered a 0 wraps) (hlost : wraps.count none ≤ lost) :
    NumberedInTurn a (wraps.filterMap id) lost := by
  have hlength := length_filterMap_id wraps
  refine ⟨⟨wraps, rfl, hlost, h⟩, fun hnone i data hi => ?_,
    fun hfew => h.increasing (by omega), fun hfew data => h.positive (by omega),
    fun hfew k data => h.recent (by omega)⟩
  have hall : wraps = (wraps.filterMap id).map some := wraps_eq_map_some (by omega)
  refine h.number_eq_mod ?_
  rw [hall, List.getElem?_map, hi]
  rfl

/-- **The numbers of outbound datagrams.** After any run of a fresh tunnel the datagrams that came
out of it bear the numbers of the packets it wrapped in turn, but for what was lost for lack of a
transport. -/
theorem outbound_numbers (profile : Profile) (seed : UInt64)
    (vectors : Nat → Option Aes.Block) (now : Nat) (world : ω) (moments : List (Moment ω σ)) :
    NumberedInTurn profile.association
      (Moment.producedAll moments ⟨fresh profile seed vectors now, ⟨⟨world, []⟩, []⟩⟩)
      (unsent profile (Moment.runAll (moments.map .onWire)
        ⟨fresh profile seed vectors now, ⟨⟨world, []⟩, []⟩⟩).host.log) := by
  obtain ⟨-, wraps, hwraps, hproduced⟩ :=
    Produces.runAll moments (⟨fresh profile seed vectors now, ⟨⟨world, []⟩, []⟩⟩ : Scene (Wire ω) σ)
  rw [← hproduced]
  refine Numbered.inTurn hwraps.numbered ?_
  exact Nat.le_trans (Nat.le_add_left _ _) hwraps.lost

/-! ## Too many packets -/

/-- A run that wraps the same packet time and again. -/
def wrapping (n : Nat) (packet : Ipv4.Packet) : List (Moment ω σ) :=
  List.replicate n (.operation (.encapsulate packet))

theorem length_producedAll_wrapping (n : Nat) (packet : Ipv4.Packet) {s : Scene (Wire ω) σ}
    (hsteady : s.tunnel.channel.vectors.Steady true) :
    (Moment.producedAll (wrapping n packet) s).length = n := by
  induction n generalizing s with
  | zero => rfl
  | succ n ih =>
    obtain ⟨datagram, channel, hwrap⟩ := s.tunnel.profile.exists_wrap packet hsteady.isReady
    have hone : (s.encapsulate packet).1 = .ok datagram := congrArg Prod.fst hwrap
    have hvectors : (s.encapsulate packet).2.tunnel.channel.vectors =
        s.tunnel.channel.vectors.next.2 :=
      s.tunnel.profile.association.vectors_encapsulate _ packet s.tunnel.channel
    have hrest := ih (s := (s.encapsulate packet).2) (hvectors ▸ hsteady.next)
    rw [wrapping, List.replicate_succ, Moment.producedAll, List.length_append, Moment.produced,
      hone, Nat.add_comm]
    exact congrArg (· + 1) hrest

/-- What comes out when a fresh tunnel wraps a packet a number of times. -/
def wrappedAgain (n : Nat) : List Bytes :=
  Moment.producedAll (wrapping n (samplePacket []))
    (⟨fresh sampleProfile 1 sampleVectors 0, ⟨⟨{}, []⟩, []⟩⟩ :
      Scene (Wire Simulation.World) Simulation.App)

theorem number_wrappedAgain {n i : Nat} (hi : i < n) :
    ∃ data, (wrappedAgain n)[i]? = some data ∧ number data = (i + 1) % UInt32.size := by
  have hlength : (wrappedAgain n).length = n :=
    length_producedAll_wrapping n _ fun _ => rfl
  obtain ⟨-, wraps, hwraps, hproduced⟩ := Produces.runAll (wrapping n (samplePacket []))
    (⟨fresh sampleProfile 1 sampleVectors 0, ⟨⟨{}, []⟩, []⟩⟩ :
      Scene (Wire Simulation.World) Simulation.App)
  have hlost : wraps.count none = 0 := by
    have := hwraps.lost
    simpa [unsent, Scene.outside, fresh, sampleProfile] using this
  have hturn := (hwraps.numbered.inTurn (Nat.le_of_eq hlost)).inTurn rfl
  rw [hproduced] at hturn
  have hget := List.getElem?_eq_getElem (hlength.symm ▸ hi)
  exact ⟨_, hget, hturn i _ hget⟩

/-- After all numbers the first one is used again: two datagrams of one run bear it, and a receiver
that accepted the one refuses the other. -/
theorem number_used_again :
    ∃ first last, (wrappedAgain (UInt32.size + 1))[0]? = some first
      ∧ (wrappedAgain (UInt32.size + 1))[UInt32.size]? = some last
      ∧ number first = 1 ∧ number last = 1
      ∧ ∀ (ω σ : Type) [Platform ω σ] (ours : Profile) (seed : UInt64)
          (vectors : Nat → Option Aes.Block) (now : Nat) (host : Host ω)
          (moments : List (Moment ω σ)),
        first ∈ Moment.acceptedAll moments ⟨fresh ours seed vectors now, host⟩ → ∀ packet,
          ((Moment.runAll moments ⟨fresh ours seed vectors now, host⟩).decapsulate last).1 ≠
            .ok packet := by
  obtain ⟨first, hfirst, hone⟩ := number_wrappedAgain (Nat.succ_pos UInt32.size)
  obtain ⟨last, hlast, hagain⟩ := number_wrappedAgain (Nat.lt_succ_self UInt32.size)
  rw [Nat.add_mod_left] at hagain
  refine ⟨first, last, hfirst, hlast, hone, hagain, ?_⟩
  intro ω σ _ ours seed vectors now host moments haccepted
  have hguarded := (guarded_fresh ours seed vectors now host).runAll moments
  exact hguarded.refuses haccepted (hagain.trans hone.symm)

end Tunnel

end Ipsec
