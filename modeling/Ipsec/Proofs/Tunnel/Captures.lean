import Ipsec.Proofs.Tunnel.Numbers

/-!
# Captured packets

A tunnel that captures packets counts one whenever it sets out to wrap one, and whenever it decrypts
one. The second happens before the packet is read, so a datagram with the right tag whose packet
turns out to be unreadable is counted too, although it is refused. No other datagram that is refused
is (`Esp.Association.Opened.captured`). The first happens before the packet is encrypted. Whatever
else a tunnel does, it counts the packets that it wraps: each comes out, or is lost because the
random source fails, or for lack of a transport (`Captures`). `captured_counts` adds this up over a
run.
-/

namespace Ipsec

variable {ω σ : Type}

/-- The answer to a datagram that passed all checks, but whose packet could not be read. -/
def isUnreadable : Except EspError Ipv4.Packet → Bool
  | .error (.malformed _) => true
  | _ => false

/-- Of the datagrams that are taken apart, those are counted that are accepted or whose packet
cannot be read. -/
theorem Esp.Association.Opened.captured {a : Association} {capture : Bool} {data : Bytes}
    {c : Channel} {opening : Opening} (h : a.Opened capture data c opening) :
    opening.channel.captured = c.captured +
      if capture then
        if opening.result.isOk ∨ isUnreadable opening.result then 1 else 0
      else 0 := by
  have hcapture := Channel.captured_capture c capture
  cases h with
  | unframed hframe =>
    rw [Datagram.eq_truncated hframe]
    simp [Except.isOk, Except.toBool, isUnreadable]
  | undecryptable _ hdecrypt =>
    obtain ⟨reason, rfl⟩ := Suite.eq_decrypt_of_decrypt hdecrypt
    simp [Except.isOk, Except.toBool, isUnreadable]
  | malformed _ _ hread =>
    obtain ⟨part, rfl⟩ := Ipv4.Packet.eq_malformed hread
    simp [isUnreadable, hcapture]
  | accepted => simp [Except.isOk, Except.toBool, hcapture]
  | _ => simp [Except.isOk, Except.toBool, isUnreadable]

namespace Tunnel

/-- A number, if packets are captured. -/
def Profile.capturing (p : Profile) (n : Nat) : Nat := if p.settings.captureTraffic then n else 0

theorem Profile.capturing_add (p : Profile) (m n : Nat) :
    p.capturing (m + n) = p.capturing m + p.capturing n := by
  unfold capturing
  split <;> rfl

/-! ## Packets that come in -/

/-- The datagrams that are refused at a moment because their packet cannot be read, at most one. -/
def Moment.unreadable (s : Scene ω σ) : Moment ω σ → List Bytes
  | operation op => op.datagram?.toList.filter fun data => isUnreadable (s.decapsulate data).1
  | drift .. => []

/-- The datagrams that are refused at some moments in turn because their packet cannot be read. -/
def Moment.unreadableAll [Platform ω σ] : List (Moment ω σ) → Scene ω σ → List Bytes
  | [], _ => []
  | m :: rest, s => m.unreadable s ++ unreadableAll rest (m.run s)

/-- How many of the datagrams that come in at a moment are decrypted as a packet. -/
def Moment.opened (s : Scene ω σ) (m : Moment ω σ) : Nat :=
  (m.accepted s).length + (m.unreadable s).length

theorem Moment.opened_of_datagram {op : Operation} {data : Bytes} (h : op.datagram? = some data)
    (s : Scene ω σ) : Moment.opened s (.operation op) =
      if (s.decapsulate data).1.isOk ∨ isUnreadable (s.decapsulate data).1 then 1 else 0 := by
  simp only [opened, accepted, unreadable, h, Option.toList_some, List.filter_cons,
    List.filter_nil]
  generalize (s.decapsulate data).1 = result
  cases result with
  | ok packet => rfl
  | error e => cases e <;> rfl

theorem Moment.opened_of_none {op : Operation} (h : op.datagram? = none) (s : Scene ω σ) :
    Moment.opened s (.operation op) = 0 := by
  simp [opened, accepted, unreadable, h]

theorem Scene.captured_decapsulate {op : Operation} {data : Bytes} (h : op.datagram? = some data)
    (s : Scene ω σ) :
    (s.decapsulate data).2.tunnel.channel.captured =
      s.tunnel.channel.captured + s.tunnel.profile.capturing (Moment.opened s (.operation op)) := by
  rw [Moment.opened_of_datagram h]
  exact (s.tunnel.profile.association.decapsulate_ends
    s.tunnel.profile.settings.captureTraffic data s.tunnel.channel).captured

/-- A datagram that bears the right tag, and whose payload decrypts to bytes that are no packet, is
refused, and the tunnel changes in nothing but its count. -/
theorem Scene.decapsulate_unreadable (s : Scene ω σ) (iv : Aes.Block) {plain : Bytes}
    {e : EspError} (hplain : Ipv4.Packet.ofBytes plain = .error e) {sequence : UInt32}
    (hrecent : s.tunnel.channel.nextInbound ≤ sequence.toNat) :
    s.decapsulate (s.tunnel.profile.association.inbound.appendTag
        (Esp.Datagram.mk s.tunnel.spiIn sequence
          (s.tunnel.profile.association.inbound.encrypt iv plain Protocol.ipv4)).toBytes) =
      (.error e,
        s.setChannel (s.tunnel.channel.capture s.tunnel.profile.settings.captureTraffic)) := by
  let a := s.tunnel.profile.association
  generalize hd : Esp.Datagram.mk s.tunnel.spiIn sequence
    (a.inbound.encrypt iv plain Protocol.ipv4) = d
  have hframe : Esp.Datagram.ofBytes Esp.Suite.tagLength (a.inbound.appendTag d.toBytes) =
      .ok d := by
    simpa [Esp.Suite.appendTag] using d.ofBytes_toBytes_append (a.inbound.tag d.toBytes)
  have hopening : a.decapsulate s.tunnel.profile.settings.captureTraffic
      (a.inbound.appendTag d.toBytes) s.tunnel.channel =
        ⟨.error e, s.tunnel.channel.capture s.tunnel.profile.settings.captureTraffic, []⟩ := by
    rw [Esp.Association.decapsulate, hframe]
    simp only [← hd, Esp.Suite.verifyTag_appendTag, Esp.Suite.decrypt_encrypt, hplain, ne_eq,
      not_true_eq_false, if_false, if_neg (Nat.not_lt.2 hrecent), Tunnel.spiIn, a]
  unfold Scene.decapsulate
  simp only [a] at hopening
  simp only [hopening, Host.noteAll, List.append_nil]

/-! ## Packets that are wrapped -/

namespace Profile

theorem captured_wrap (p : Profile) (packet : Ipv4.Packet) (channel : Esp.Channel) :
    (p.wrap packet channel).2.captured = channel.captured + p.capturing 1 :=
  p.association.captured_encapsulate p.settings.captureTraffic packet channel

/-- How many packets were to be wrapped and never came out: the random source failed, or there was
no transport. -/
def lost (p : Profile) (x : Esp.Channel × Host ω) : Nat :=
  x.1.vectors.failures + unsent p x.2.log

/-- How many packets were to be wrapped. Each was given to the transport, or lost. -/
def issued (p : Profile) (x : Esp.Channel × Host (Wire ω)) : Nat :=
  x.2.world.datagrams.length + p.lost x

/-- A packet that is to be wrapped is lost, or a datagram comes out. -/
theorem lost_wrap (p : Profile) (packet : Ipv4.Packet) (channel : Esp.Channel) (host : Host ω) :
    (p.wrap packet channel).1.toOption.toList.length + p.lost ((p.wrap packet channel).2, host) =
      p.lost (channel, host) + 1 := by
  have hfailures : (p.wrap packet channel).2.vectors.failures =
      channel.vectors.failures + if channel.vectors.isReady then 0 else 1 := by
    rw [wrap, p.association.vectors_encapsulate, RandomSource.failures_next]
  unfold lost
  rw [hfailures]
  rcases hwrap : p.wrap packet channel with ⟨e | datagram, channel'⟩
  · rw [(wrap_error hwrap).1]
    simp [Except.toOption, Nat.add_right_comm]
  · rw [(wrap_ok hwrap).1]
    simp [Except.toOption, Nat.add_comm]

end Profile

/-- From `x` to `y` the packets that are to be wrapped are counted, and nothing else is. -/
structure Captures (p : Profile) (x y : Esp.Channel × Host (Wire ω)) : Prop where
  recorded : x.2.world.datagrams.length ≤ y.2.world.datagrams.length
  captured : y.1.captured + p.capturing (p.issued x) = x.1.captured + p.capturing (p.issued y)

namespace Captures

variable {p : Profile} {x y z : Esp.Channel × Host (Wire ω)}

theorem nothing (hcaptured : y.1.captured = x.1.captured) (hvectors : y.1.vectors = x.1.vectors)
    (hsent : y.2.world.datagrams = x.2.world.datagrams)
    (hlog : unsent p y.2.log = unsent p x.2.log) : Captures p x y := by
  refine ⟨Nat.le_of_eq (by rw [hsent]), ?_⟩
  simp only [hcaptured, Profile.issued, Profile.lost, hvectors, hsent, hlog]

theorem trans (h : Captures p x y) (h' : Captures p y z) : Captures p x z := by
  have hfirst := h.captured
  have hsecond := h'.captured
  exact ⟨Nat.le_trans h.recorded h'.recorded, by omega⟩

/-- One packet more is to be wrapped, and is counted. -/
theorem one (hrecorded : x.2.world.datagrams.length ≤ y.2.world.datagrams.length)
    (hcaptured : y.1.captured = x.1.captured + p.capturing 1)
    (hissued : p.issued y = p.issued x + 1) : Captures p x y := by
  refine ⟨hrecorded, ?_⟩
  rw [hcaptured, hissued, p.capturing_add]
  omega

end Captures

/-- Only a notice about a packet that was not sent counts for one. -/
theorem unsent_append_eq (p : Profile) (log : List Notice) {notices : List Notice}
    (h : ∀ n ∈ notices, n.isUnsent = false) : unsent p (log ++ notices) = unsent p log := by
  have hnone : notices.countP Notice.isUnsent = 0 :=
    List.countP_eq_zero.2 fun n hn => by simp [h n hn]
  rw [unsent, unsent, List.countP_append, hnone, Nat.add_zero]

/-! ## Tunnels -/

/-- From `s` to `t` a number of packets is counted, and those that are lost. -/
structure Counts (n : Nat) (s t : Scene (Wire ω) σ) : Prop where
  profile : t.tunnel.profile = s.tunnel.profile
  captured : t.tunnel.channel.captured
      + s.tunnel.profile.capturing (s.tunnel.profile.lost s.outside) =
    s.tunnel.channel.captured
      + s.tunnel.profile.capturing (n + s.tunnel.profile.lost t.outside)

namespace Counts

variable {m n : Nat} {s t u : Scene (Wire ω) σ}

theorem refl (s : Scene (Wire ω) σ) : Counts 0 s s := ⟨rfl, by rw [Nat.zero_add]⟩

theorem cast (h : Counts m s t) (hn : m = n) : Counts n s t := hn ▸ h

theorem trans (h : Counts m s t) (h' : Counts n t u) : Counts (m + n) s u := by
  have hfirst := h.captured
  have hsecond := h'.captured
  rw [h.profile] at hsecond
  simp only [Profile.capturing_add] at hfirst hsecond
  refine ⟨h'.profile.trans h.profile, ?_⟩
  simp only [Profile.capturing_add]
  omega

/-- What comes out is on the record. -/
theorem of_leads (h : Leads Captures s t) :
    Counts (t.host.world.datagrams.drop s.host.world.datagrams.length).length s t := by
  obtain ⟨hprofile, hrecorded, hcaptured⟩ := h
  refine ⟨hprofile, ?_⟩
  have hgrown : t.host.world.datagrams.length =
      s.host.world.datagrams.length
        + (t.host.world.datagrams.drop s.host.world.datagrams.length).length := by
    rw [List.length_drop]
    exact (Nat.add_sub_of_le hrecorded).symm
  simp only [Profile.issued, Profile.capturing_add] at hcaptured
  simp only [Scene.outside, hgrown, Profile.capturing_add] at hcaptured ⊢
  omega

theorem decapsulate {op : Operation} {data : Bytes} (h : op.datagram? = some data)
    (s : Scene (Wire ω) σ) :
    Counts (Moment.opened s (.operation op)) s (s.decapsulate data).2 := by
  have hlost : s.tunnel.profile.lost (s.decapsulate data).2.outside =
      s.tunnel.profile.lost s.outside := by
    have hvectors := (s.tunnel.profile.association.decapsulate_ends
      s.tunnel.profile.settings.captureTraffic data s.tunnel.channel).vectors
    have hlog := unsent_append_eq s.tunnel.profile s.host.log fun n hn =>
      Notice.isUnsent_of_isRoutine (s.tunnel.profile.association.decapsulate_notices
        s.tunnel.profile.settings.captureTraffic data s.tunnel.channel n hn)
    unfold Profile.lost
    exact hvectors ▸ hlog ▸ rfl
  refine ⟨rfl, ?_⟩
  rw [Scene.captured_decapsulate h, hlost, Profile.capturing_add]
  omega

theorem encapsulate (packet : Ipv4.Packet) (s : Scene (Wire ω) σ) :
    Counts (s.encapsulate packet).1.toOption.toList.length s (s.encapsulate packet).2 := by
  have hcaptured : (s.encapsulate packet).2.tunnel.channel.captured =
      s.tunnel.channel.captured + s.tunnel.profile.capturing 1 :=
    s.tunnel.profile.captured_wrap packet s.tunnel.channel
  have hlost : (s.encapsulate packet).1.toOption.toList.length
      + s.tunnel.profile.lost (s.encapsulate packet).2.outside =
        s.tunnel.profile.lost s.outside + 1 :=
    s.tunnel.profile.lost_wrap packet s.tunnel.channel s.host
  refine ⟨rfl, ?_⟩
  rw [hcaptured, hlost, Profile.capturing_add]
  omega

end Counts

variable [Platform ω σ]

/-- A packet that is handed over comes out, or is lost, and is counted in either case. -/
theorem Captures.handOver (p : Profile) (packet : Ipv4.Packet) (receiver : Endpoint)
    (channel : Esp.Channel) (host : Host (Wire ω)) :
    Captures p (channel, host) (p.send packet receiver channel host).2 := by
  have hcaptured := p.captured_wrap packet channel
  have hlost := p.lost_wrap packet channel host
  have hends := p.send_ends packet receiver channel host
  generalize p.send packet receiver channel host = x at hends ⊢
  cases hends with
  | unwrapped hwrap =>
    simp only [hwrap, Except.toOption, Option.toList_none, List.length_nil, Nat.zero_add]
      at hcaptured hlost
    exact .one (Nat.le_refl _) hcaptured (by rw [Profile.issued, hlost]; rfl)
  | @transmitted datagram channel' hwrap =>
    simp only [hwrap, Except.toOption, Option.toList_some, List.length_singleton]
      at hcaptured hlost
    have hsent : (host.transmit datagram receiver).2.world.datagrams.length =
        host.world.datagrams.length + 1 := by
      obtain ⟨-, -, iv, rfl⟩ := Profile.wrap_ok hwrap
      rw [datagrams_transmit, List.filter_cons_of_pos, List.filter_nil,
        List.length_append, List.length_singleton]
      simpa using datagram_ne_probe _ _ _ _
    have hissued : p.issued (channel', (host.transmit datagram receiver).2) =
        p.issued (channel, host) + 1 := by
      have hkept : p.lost (channel', (host.transmit datagram receiver).2) =
          p.lost (channel', host) := rfl
      simp only [Profile.issued, hsent, hkept]
      omega
    exact .one (Nat.le_of_succ_le (Nat.le_of_eq hsent.symm)) hcaptured hissued
  | @dropped datagram channel' hwrap htransport =>
    simp only [hwrap, Except.toOption, Option.toList_some, List.length_singleton]
      at hcaptured hlost
    have hissued : p.issued (channel', host.note (.noTransport receiver)) =
        p.issued (channel, host) + 1 := by
      have hnoted : p.lost (channel', host.note (.noTransport receiver)) =
          p.lost (channel', host) + 1 := by
        simp [Profile.lost, unsent, htransport, Host.note, Notice.isUnsent, Nat.add_assoc]
      have hkept : (host.note (.noTransport receiver)).world = host.world := rfl
      simp only [Profile.issued, hnoted, hkept]
      omega
    exact .one (Nat.le_refl _) hcaptured hissued

/-- Everything that a tunnel does is to wrap packets, as far as it counts them. -/
theorem outward_captures : Outward (ω := Wire ω) (σ := σ) Captures where
  link p :=
    { refl := fun _ => .nothing rfl rfl rfl rfl
      trans := Captures.trans
      handOver := Captures.handOver p
      note := fun _ _ _ hn => .nothing rfl rfl rfl (unsent_append_eq p _ (by simpa using hn))
      connect := fun _ _ _ => .nothing rfl rfl rfl rfl
      close := fun _ _ _ => .nothing rfl rfl rfl rfl }
  draw _ _ _ := .nothing rfl rfl rfl rfl
  probe p channel host receiver := by
    refine .nothing rfl rfl ?_ rfl
    rw [datagrams_transmit]
    simp [Scene.keepAliveProbe]

/-! ## Runs -/

/-- A moment counts the datagrams that it decrypts as packets, and those that it brings out. -/
theorem Moment.counts (m : Moment ω σ) (s : Scene (Wire ω) σ) :
    Counts (m.onWire.opened s + (m.produced s).length) s (m.onWire.run s) := by
  have hgoes := outward_captures.operated (ω := Wire ω) (σ := σ)
  have hidle : ∀ {op : Operation} {t : Scene (Wire ω) σ}, op.datagram? = none →
      Leads Captures s t →
      Counts (Moment.opened s (.operation op)
        + (t.host.world.datagrams.drop s.host.world.datagrams.length).length) s t := by
    intro op t hop h
    rw [Moment.opened_of_none hop, Nat.zero_add]
    exact .of_leads h
  cases m with
  | drift live parked world =>
    have hstill : Leads Captures s ((drift live parked world).onWire.run s) :=
      ⟨rfl, .nothing rfl rfl rfl rfl⟩
    have hcounts := Counts.of_leads hstill
    rwa [← Nat.zero_add (List.length _)] at hcounts
  | operation op =>
    cases op with
    | handleDatagram data sender now =>
      exact (Counts.decapsulate rfl s).trans (.of_leads (hgoes.acted data sender now s))
    | decapsulate data =>
      have hproduced : produced s (.operation (.decapsulate data)) = [] := List.drop_length
      rw [hproduced]
      exact Counts.decapsulate rfl s
    | dispatch packet sender now => exact hidle rfl (hgoes.dispatch packet sender now s)
    | pump rota now => exact hidle rfl (hgoes.pumpBy rota now s)
    | terminate key => exact hidle rfl (hgoes.terminate s key)
    | release key => exact hidle rfl (hgoes.release s key)
    | send packet receiver => exact hidle rfl (hgoes.send s packet receiver)
    | ping source destination => exact hidle rfl (hgoes.ping source destination s)
    | encapsulate packet =>
      have hcounts := Counts.encapsulate packet s
      rwa [← Nat.zero_add (List.length _)] at hcounts

theorem Counts.runAll (moments : List (Moment ω σ)) (s : Scene (Wire ω) σ) :
    Counts ((Moment.acceptedAll (moments.map .onWire) s).length
        + (Moment.unreadableAll (moments.map .onWire) s).length
        + (Moment.producedAll moments s).length) s
      (Moment.runAll (moments.map .onWire) s) := by
  induction moments generalizing s with
  | nil => exact .refl s
  | cons m rest ih =>
    refine ((m.counts s).trans (ih (m.onWire.run s))).cast ?_
    simp only [List.map_cons, Moment.opened, Moment.acceptedAll, Moment.unreadableAll,
      Moment.producedAll, List.length_append]
    omega

/-- A tunnel decrypted a number of packets over its life, or brought them out. -/
structure Captured (p : Profile) (packets : Nat) (s : Scene (Wire ω) σ) : Prop where
  /-- If it captures packets it counted them, those that it could not encrypt, one for each failure
  of its random source, and those that it lost for lack of a transport. -/
  enabled : p.settings.captureTraffic = true →
    s.tunnel.channel.captured =
      packets + s.tunnel.channel.vectors.failures + unsent p s.host.log
  /-- Else it counted none. -/
  disabled : p.settings.captureTraffic = false → s.tunnel.channel.captured = 0
  /-- If it refuses the next datagram it counts that one only if its packet cannot be read. -/
  refused : ∀ data e, (s.decapsulate data).1 = .error e →
    (s.decapsulate data).2.tunnel.channel.captured =
      s.tunnel.channel.captured + p.capturing (if isUnreadable (.error e) then 1 else 0)
  /-- If it cannot encrypt the next packet it counts that one, although nothing comes out. -/
  unencrypted : ∀ packet e, (s.encapsulate packet).1 = .error e →
    (s.encapsulate packet).2.tunnel.channel.captured =
      s.tunnel.channel.captured + p.capturing 1

/-- **Captured packets are counted.** Over every run of a fresh tunnel these are the packets of the
datagrams that it accepted, those that it decrypted and could not read, and those that it set out to
wrap. -/
theorem captured_counts (profile : Profile) (seed : UInt64) (vectors : Nat → Option Aes.Block)
    (now : Nat) (world : ω) (moments : List (Moment ω σ)) :
    Captured profile
      ((Moment.acceptedAll (moments.map .onWire)
          ⟨fresh profile seed vectors now, ⟨⟨world, []⟩, []⟩⟩).length
        + (Moment.unreadableAll (moments.map .onWire)
          ⟨fresh profile seed vectors now, ⟨⟨world, []⟩, []⟩⟩).length
        + (Moment.producedAll moments ⟨fresh profile seed vectors now, ⟨⟨world, []⟩, []⟩⟩).length)
      (Moment.runAll (moments.map .onWire)
        ⟨fresh profile seed vectors now, ⟨⟨world, []⟩, []⟩⟩) := by
  obtain ⟨hprofile, hcaptured⟩ :=
    Counts.runAll moments (⟨fresh profile seed vectors now, ⟨⟨world, []⟩, []⟩⟩ : Scene (Wire ω) σ)
  have hlost : profile.lost
      (⟨fresh profile seed vectors now, ⟨⟨world, []⟩, []⟩⟩ : Scene (Wire ω) σ).outside = 0 := by
    simp [Profile.lost, Scene.outside, fresh, RandomSource.failures, unsent]
  change _ + profile.capturing (profile.lost (Scene.outside _)) =
    0 + profile.capturing (_ + profile.lost (Scene.outside _)) at hcaptured
  rw [hlost] at hcaptured
  refine ⟨fun hcapture => ?_, fun hcapture => ?_, fun data e hrefused => ?_, fun packet _ _ => ?_⟩
  · simpa [Profile.capturing, hcapture, Profile.lost, Scene.outside, Nat.add_assoc] using hcaptured
  · simpa [Profile.capturing, hcapture] using hcaptured
  · have hdatagram : Operation.datagram? (.decapsulate data) = some data := rfl
    rw [Scene.captured_decapsulate hdatagram, Moment.opened_of_datagram hdatagram, hprofile,
      hrefused]
    simp only [Except.isOk, Except.toBool, Bool.false_eq_true, false_or]
    rfl
  · have hcapturing := congrArg (·.capturing 1) hprofile
    refine Eq.trans ?_ (congrArg (_ + ·) hcapturing)
    exact Profile.captured_wrap _ packet _

/-! ## Refused, but counted -/

/-- A tunnel that captures packets. -/
def sampleCapturing : Scene (Wire Simulation.World) Simulation.App :=
  ⟨fresh { sampleProfile with settings := { captureTraffic := true } } 1 sampleVectors 0,
    ⟨⟨{}, []⟩, []⟩⟩

/-- A datagram of its peer with an empty payload, although that is declared to be a packet. -/
def sampleEmpty : Bytes :=
  sampleProfile.association.inbound.appendTag (Esp.Datagram.mk sampleProfile.association.spiIn 1
    (sampleProfile.association.inbound.encrypt default [] Protocol.ipv4)).toBytes

/-- The tunnel refuses the datagram and wraps no packet, and yet it counts one. -/
theorem captured_though_refused :
    (sampleCapturing.decapsulate sampleEmpty).1 = .error (.malformed "IPv4 header")
      ∧ Moment.acceptedAll ([.operation (.decapsulate sampleEmpty)].map .onWire)
          sampleCapturing = []
      ∧ Moment.producedAll [.operation (.decapsulate sampleEmpty)] sampleCapturing = []
      ∧ (Moment.runAll ([.operation (.decapsulate sampleEmpty)].map .onWire)
          sampleCapturing).host.log = []
      ∧ (Moment.runAll ([.operation (.decapsulate sampleEmpty)].map .onWire)
          sampleCapturing).tunnel.channel.captured = 1 := by
  have hempty : Ipv4.Packet.ofBytes [] = .error (.malformed "IPv4 header") := rfl
  have hrecent : sampleCapturing.tunnel.channel.nextInbound ≤ (1 : UInt32).toNat := Nat.le_refl 1
  have hopened : sampleCapturing.decapsulate sampleEmpty =
      (.error (.malformed "IPv4 header"),
        sampleCapturing.setChannel (sampleCapturing.tunnel.channel.capture true)) :=
    sampleCapturing.decapsulate_unreadable default hempty hrecent
  have hrun : Moment.runAll ([.operation (.decapsulate sampleEmpty)].map .onWire)
      sampleCapturing = (sampleCapturing.decapsulate sampleEmpty).2 := rfl
  refine ⟨congrArg Prod.fst hopened, ?_, ?_, ?_, ?_⟩
  · simp [Moment.acceptedAll, Moment.accepted, Moment.onWire, Operation.datagram?, hopened,
      Except.isOk, Except.toBool]
  · rfl
  · rw [hrun, hopened]
    rfl
  · rw [hrun, hopened]
    rfl

end Tunnel

end Ipsec
