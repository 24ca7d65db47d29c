import Ipsec.Proofs.Tunnel.Isolation
import Ipsec.Proofs.Tunnel.Numbers

/-!
# The pace of keep-alive probes

The side that set a tunnel up attempts a keep-alive probe on those pump ticks that come an interval
or more after the last attempt, or after the tunnel was set up. An attempt is the byte `0xff` given
to the transport for the gateway, whether or not it can be sent, and its time is noted before.
Nothing else that a tunnel does gives a probe to the transport, or changes the time
(`Attempts.nothing`), so the times of the ticks alone decide when probes are attempted (`dueTimes`).
`keep_alive_pacing` says so for every run of a tunnel with a transport.
-/

namespace Ipsec

variable {ω σ : Type}

/-- The keep-alive probes that the transport was given, with their receivers. -/
def Wire.probes (w : Wire ω) : List (Bytes × Endpoint) := w.sent.filter (·.1 = [0xff])

namespace Tunnel

/-! ## Times -/

theorem getLastD_append {α : Type} (l more : List α) (a : α) :
    (l ++ more).getLastD a = more.getLastD (l.getLastD a) := by
  simp [List.getLastD_eq_getLast?, List.getLast?_append]

/-- Those of some times that come an interval after the last one before them that is chosen, the
first one an interval after a given time. -/
def dueTimes (interval : Nat) : Nat → List Nat → List Nat
  | _, [] => []
  | last, now :: rest =>
    if interval ≤ now - last then now :: dueTimes interval now rest
    else dueTimes interval last rest

theorem dueTimes_singleton (interval last now : Nat) :
    dueTimes interval last [now] = if interval ≤ now - last then [now] else [] := by
  simp [dueTimes]

theorem dueTimes_append (interval last : Nat) (ticks more : List Nat) :
    dueTimes interval last (ticks ++ more) =
      dueTimes interval last ticks
        ++ dueTimes interval ((dueTimes interval last ticks).getLastD last) more := by
  induction ticks generalizing last with
  | nil => rfl
  | cons now rest ih =>
    simp only [List.cons_append, dueTimes]
    split
    · rw [ih now, List.cons_append, List.getLastD_cons]
    · exact ih last

/-- Times that do not decrease are chosen an interval apart. -/
theorem dueTimes_apart (interval last : Nat) {ticks : List Nat}
    (h : (last :: ticks).Pairwise (· ≤ ·)) :
    (last :: dueTimes interval last ticks).Pairwise fun a b => a + interval ≤ b := by
  induction ticks generalizing last with
  | nil => simp [dueTimes]
  | cons now rest ih =>
    obtain ⟨hlast, hrest⟩ := List.pairwise_cons.1 h
    unfold dueTimes
    split
    · next hdue =>
      have hnow : last + interval ≤ now := by
        have := hlast now List.mem_cons_self
        omega
      have hchosen := ih now hrest
      refine List.pairwise_cons.2 ⟨fun b hb => ?_, hchosen⟩
      rcases List.mem_cons.1 hb with rfl | hb
      · exact hnow
      · have := List.rel_of_pairwise_cons hchosen hb
        omega
    · refine ih last (List.pairwise_cons.2 ⟨fun b hb => ?_, hrest.of_cons⟩)
      exact hlast b (List.mem_cons_of_mem now hb)

/-- The times at which a tunnel attempts a probe, of the times of its ticks. -/
def Profile.probeTimes (p : Profile) (last : Nat) (ticks : List Nat) : List Nat :=
  if p.initiator then dueTimes p.settings.keepAliveInterval last ticks else []

theorem Profile.probeTimes_nil (p : Profile) (last : Nat) : p.probeTimes last [] = [] := by
  rw [probeTimes, dueTimes, ite_self]

theorem Profile.probeTimes_singleton (p : Profile) (last now : Nat) :
    p.probeTimes last [now] =
      if p.initiator ∧ p.settings.keepAliveInterval ≤ now - last then [now] else [] := by
  rw [probeTimes, dueTimes_singleton]
  cases p.initiator <;> simp

theorem Profile.probeTimes_append (p : Profile) (last : Nat) (ticks more : List Nat) :
    p.probeTimes last (ticks ++ more) =
      p.probeTimes last ticks ++ p.probeTimes ((p.probeTimes last ticks).getLastD last) more := by
  unfold probeTimes
  split
  · exact dueTimes_append _ _ _ _
  · rfl

/-- The time of a pump tick. -/
def Moment.tick? : Moment ω σ → Option Nat
  | operation (.pump _ now) => some now
  | _ => none

/-- The times of the pump ticks among some moments. -/
def Moment.ticks (moments : List (Moment ω σ)) : List Nat := moments.filterMap tick?

theorem Moment.ticks_cons (m : Moment ω σ) (rest : List (Moment ω σ)) :
    ticks (m :: rest) = m.tick?.toList ++ ticks rest := by
  rw [ticks, List.filterMap_cons]
  cases m.tick? <;> rfl

/-! ## Attempts -/

/-- The probe of a tunnel, for the port of its gateway that the settings name. -/
def Profile.gatewayProbe (p : Profile) : Bytes × Endpoint :=
  ([0xff], .v4 ⟨p.gateway, p.settings.natTraversalPort⟩)

/-- From `s` to `t` a tunnel attempts a probe at some times, and none at others. -/
structure Attempts (times : List Nat) (s t : Scene (Wire ω) σ) : Prop where
  profile : t.tunnel.profile = s.tunnel.profile
  lastProbe : t.tunnel.lastProbe = times.getLastD s.tunnel.lastProbe
  probes : t.host.world.probes = s.host.world.probes
    ++ times.map fun _ => s.tunnel.profile.gatewayProbe

namespace Attempts

variable {times more : List Nat} {s t u : Scene (Wire ω) σ}

theorem nothing (hprofile : t.tunnel.profile = s.tunnel.profile)
    (hlastProbe : t.tunnel.lastProbe = s.tunnel.lastProbe)
    (hprobes : t.host.world.probes = s.host.world.probes) : Attempts [] s t :=
  ⟨hprofile, hlastProbe, by simpa using hprobes⟩

theorem trans (h : Attempts times s t) (h' : Attempts more t u) :
    Attempts (times ++ more) s u := by
  refine ⟨h'.profile.trans h.profile, ?_, ?_⟩
  · rw [h'.lastProbe, h.lastProbe, getLastD_append]
  · rw [h'.probes, h.probes, h.profile, List.map_append, List.append_assoc]

end Attempts

section

variable [Platform ω σ] {s t : Scene (Wire ω) σ}

theorem probes_transmit (data : Bytes) (receiver : Endpoint) (host : Host (Wire ω)) :
    (host.transmit data receiver).2.world.probes =
      host.world.probes ++ [(data, receiver)].filter (·.1 = [0xff]) := by
  simp [Wire.probes, Host.transmit, Platform.transmit]

/-- From `x` to `y` no probe is given to the transport. -/
def Unprobed (_ : Profile) (x y : Esp.Channel × Host (Wire ω)) : Prop :=
  y.2.world.probes = x.2.world.probes

/-- What a tunnel wraps is no probe, so it gives none to the transport but the one of a tick. -/
theorem uttering_unprobed : Uttering (ω := Wire ω) (σ := σ) Unprobed where
  link p :=
    { refl := fun _ => rfl
      trans := fun h h' => h'.trans h
      handOver := fun packet receiver channel host => by
        have hends := p.send_ends packet receiver channel host
        generalize p.send packet receiver channel host = x at hends ⊢
        cases hends with
        | unwrapped => rfl
        | transmitted hwrap =>
          obtain ⟨-, -, iv, rfl⟩ := Profile.wrap_ok hwrap
          rw [Unprobed, probes_transmit]
          simp [datagram_ne_probe]
        | dropped => rfl
      note := fun _ _ _ _ => rfl
      connect := fun _ _ _ => rfl
      close := fun _ _ _ => rfl }
  draw _ _ _ := rfl

namespace Attempts

omit [Platform ω σ] in
theorem spared {key : Flow.Key} (h : Leads Unprobed s t) (hapart : Apart key s t) :
    Attempts [] s t :=
  .nothing hapart.profile hapart.lastProbe h.outside

/-- To act on a packet is no attempt. -/
theorem acting : Acting (ω := Wire ω) (σ := σ) (Attempts []) where
  refl _ := .nothing rfl rfl rfl
  trans := trans
  note _ _ _ := .nothing rfl rfl rfl
  drawIdentification _ := .nothing rfl rfl rfl
  send s packet receiver :=
    .nothing rfl rfl (uttering_unprobed.acting.send s packet receiver).outside
  continueFlow packet sender now _ _ _ :=
    .spared (uttering_unprobed.continueFlow _ _ packet sender now _)
      (apart_continueFlow _ _ packet sender now _)
  startFlow packet sender now _ _ _ :=
    .spared (uttering_unprobed.startFlow _ packet sender now _)
      (apart_startFlow _ packet sender now _)

theorem sweepLive (now : Nat) (keys : List Flow.Key) (s : Scene (Wire ω) σ) :
    Attempts [] s (s.sweepLive now keys).2 := by
  rw [Scene.sweepLive_snd]
  induction keys generalizing s with
  | nil => exact .nothing rfl rfl rfl
  | cons key rest ih =>
    have hvisit := spared (uttering_unprobed.visitLive now key s) (apart_visitLive now key s)
    exact hvisit.trans (ih _)

theorem sweepParked (keys : List Flow.Key) (s : Scene (Wire ω) σ) :
    Attempts [] s (s.sweepParked keys) := by
  unfold Scene.sweepParked
  induction keys generalizing s with
  | nil => exact .nothing rfl rfl rfl
  | cons key rest ih =>
    have hvisit := spared (uttering_unprobed.visitParked key s) (apart_visitParked key s)
    exact hvisit.trans (ih _)

/-- A probe that is due is attempted, and its time noted, whatever becomes of it. -/
theorem probe (htransport : s.tunnel.profile.hasTransport = true) (now : Nat) :
    Attempts (s.tunnel.profile.probeTimes s.tunnel.lastProbe [now]) s (s.probe now).2 := by
  have htimes : s.tunnel.profile.probeTimes s.tunnel.lastProbe [now] =
      if s.probeDue now then [now] else [] := by
    rw [Profile.probeTimes_singleton, Scene.probeDue]
    simp only [Bool.and_eq_true, decide_eq_true_eq]
  rw [htimes]
  unfold Scene.probe
  split
  · have hsent := probes_transmit Scene.keepAliveProbe s.tunnel.profile.gatewayEndpoint s.host
    simp only [Scene.sendProbe, htransport, if_true]
    split
    all_goals
      next hresult =>
        rw [hresult] at hsent
        exact ⟨rfl, rfl, hsent⟩
  · exact .nothing rfl rfl rfl

theorem pumpBy (htransport : s.tunnel.profile.hasTransport = true) (rota : Rota) (now : Nat) :
    Attempts (s.tunnel.profile.probeTimes s.tunnel.lastProbe [now]) s (s.pumpBy rota now).2 := by
  have hprobed := probe htransport now
  unfold Scene.pumpBy
  generalize s.probe now = probed at hprobed ⊢
  have hlive := sweepLive now (rota.live probed.2.tunnel.sessions.live.keys) probed.2
  have hparked : ∀ u : Scene (Wire ω) σ, Attempts [] u (u.sweepParked _) :=
    fun u => sweepParked (rota.parked u.tunnel.sessions.parked.keys) u
  have hticked := hprobed.trans (hlive.trans (hparked _))
  rwa [List.append_nil, List.append_nil] at hticked

end Attempts

/-! ## Runs -/

/-- The keep-alive probes that a moment gives to the transport, with their receivers. -/
def Moment.probes (s : Scene (Wire ω) σ) (m : Moment ω σ) : List (Bytes × Endpoint) :=
  (m.onWire.run s).host.world.probes.drop s.host.world.probes.length

/-- The attempts of a pump tick, with its time. -/
def Moment.attempts (s : Scene (Wire ω) σ) (m : Moment ω σ) : List (Nat × Endpoint) :=
  match m.tick? with
  | none => []
  | some now => (m.probes s).map fun e => (now, e.2)

/-- The attempts of the pump ticks among some moments in turn, with their times. -/
def Moment.attemptsAll : List (Moment ω σ) → Scene (Wire ω) σ → List (Nat × Endpoint)
  | [], _ => []
  | m :: rest, s => m.attempts s ++ attemptsAll rest (m.onWire.run s)

/-- What a moment attempts depends on its time alone. -/
theorem Moment.attempted (m : Moment ω σ) (htransport : s.tunnel.profile.hasTransport = true) :
    Attempts (s.tunnel.profile.probeTimes s.tunnel.lastProbe m.tick?.toList) s
      (m.onWire.run s) := by
  have hidle : ∀ {t}, Attempts [] s t →
      Attempts (s.tunnel.profile.probeTimes s.tunnel.lastProbe []) s t := by
    intro t h
    rwa [Profile.probeTimes_nil]
  have hacting := Attempts.acting (ω := ω) (σ := σ)
  cases m with
  | drift live parked world => exact hidle (.nothing rfl rfl rfl)
  | operation op =>
    cases op with
    | pump rota now => exact Attempts.pumpBy htransport rota now
    | handleDatagram data sender now =>
      have hopened : Attempts [] s (s.decapsulate data).2 := .nothing rfl rfl rfl
      exact hidle (hopened.trans (hacting.acted data sender now s))
    | dispatch packet sender now => exact hidle (hacting.dispatch packet sender now s)
    | terminate key =>
      have hapart : Apart key s (s.terminate key) :=
        apart_terminate key rfl rfl (fun _ _ => rfl) fun _ _ => rfl
      have hended := uttering_unprobed.terminated (uttering_unprobed.still (s := s) rfl rfl) key
      exact hidle (.spared hended hapart)
    | release key =>
      refine hidle (.nothing (Scene.release_profile s key) ?_
        (uttering_unprobed.released key s).outside)
      rw [onWire, run, Operation.run, Scene.release_tunnel]
    | send packet receiver => exact hidle (hacting.send s packet receiver)
    | ping source destination => exact hidle (hacting.ping source destination s)
    | encapsulate packet => exact hidle (.nothing rfl rfl rfl)
    | decapsulate data => exact hidle (.nothing rfl rfl rfl)

/-- What a run attempts depends on the times of its ticks alone. -/
theorem Attempts.runAll (moments : List (Moment ω σ))
    (htransport : s.tunnel.profile.hasTransport = true) :
    Attempts (s.tunnel.profile.probeTimes s.tunnel.lastProbe (Moment.ticks moments)) s
      (Moment.runAll (moments.map .onWire) s) := by
  induction moments generalizing s with
  | nil =>
    rw [Moment.ticks, List.filterMap_nil, Profile.probeTimes_nil]
    exact .nothing rfl rfl rfl
  | cons m rest ih =>
    have hfirst := m.attempted htransport
    have hrest := ih (hfirst.profile ▸ htransport)
    rw [hfirst.profile, hfirst.lastProbe] at hrest
    rw [Moment.ticks_cons, Profile.probeTimes_append]
    exact hfirst.trans hrest

theorem Moment.probes_eq (m : Moment ω σ) (htransport : s.tunnel.profile.hasTransport = true) :
    m.probes s = (s.tunnel.profile.probeTimes s.tunnel.lastProbe m.tick?.toList).map fun _ =>
      s.tunnel.profile.gatewayProbe := by
  rw [probes, (m.attempted htransport).probes, List.drop_left]

theorem Moment.attempts_eq (m : Moment ω σ) (htransport : s.tunnel.profile.hasTransport = true) :
    m.attempts s = (s.tunnel.profile.probeTimes s.tunnel.lastProbe m.tick?.toList).map
      (·, s.tunnel.profile.gatewayProbe.2) := by
  unfold attempts
  split
  · next htick => rw [htick, Option.toList_none, Profile.probeTimes_nil, List.map_nil]
  · next now htick =>
    rw [m.probes_eq htransport, htick, Option.toList_some, Profile.probeTimes_singleton]
    split <;> rfl

theorem Moment.attemptsAll_eq (moments : List (Moment ω σ))
    (htransport : s.tunnel.profile.hasTransport = true) :
    attemptsAll moments s = (s.tunnel.profile.probeTimes s.tunnel.lastProbe (ticks moments)).map
      (·, s.tunnel.profile.gatewayProbe.2) := by
  induction moments generalizing s with
  | nil => rw [attemptsAll, ticks, List.filterMap_nil, Profile.probeTimes_nil, List.map_nil]
  | cons m rest ih =>
    have hfirst := m.attempted htransport
    have hrest := ih (hfirst.profile ▸ htransport)
    rw [hfirst.profile, hfirst.lastProbe] at hrest
    rw [attemptsAll, hrest, m.attempts_eq htransport, ticks_cons, Profile.probeTimes_append,
      List.map_append]

/-- How a tunnel paces its keep-alive probes over a run that begins in `s`, at a given time. -/
structure Paced (p : Profile) (start : Nat) (moments : List (Moment ω σ))
    (s : Scene (Wire ω) σ) : Prop where
  /-- If this side set the tunnel up, a tick that comes after the run attempts one probe when an
  interval has passed since the last attempt, or since the beginning if there was none. Otherwise it
  attempts none. -/
  tick : ∀ rota now,
    Moment.probes (Moment.runAll (moments.map .onWire) s) (.operation (.pump rota now)) =
      if p.initiator ∧ p.settings.keepAliveInterval ≤
          now - ((Moment.attemptsAll moments s).map Prod.fst).getLastD start then
        [([0xff], .v4 ⟨p.gateway, p.settings.natTraversalPort⟩)]
      else []
  /-- Anything else that comes after the run attempts none. -/
  elsewhere : ∀ m : Moment ω σ, m.tick? = none →
    m.probes (Moment.runAll (moments.map .onWire) s) = []
  /-- The times of the ticks in the run decide what it attempts. -/
  attempts : Moment.attemptsAll moments s =
    (p.probeTimes start (Moment.ticks moments)).map
      (·, .v4 ⟨p.gateway, p.settings.natTraversalPort⟩)
  /-- As long as the clock does not go back, attempts are an interval apart. -/
  apart : (start :: Moment.ticks moments).Pairwise (· ≤ ·) →
    (start :: (Moment.attemptsAll moments s).map Prod.fst).Pairwise fun a b =>
      a + p.settings.keepAliveInterval ≤ b

theorem Profile.probeTimes_apart (p : Profile) (last : Nat) {ticks : List Nat}
    (h : (last :: ticks).Pairwise (· ≤ ·)) :
    (last :: p.probeTimes last ticks).Pairwise fun a b =>
      a + p.settings.keepAliveInterval ≤ b := by
  unfold probeTimes
  split
  · exact dueTimes_apart _ last h
  · exact List.pairwise_singleton _ last

/-- **Keep-alive probes are paced.** Over every run of a fresh tunnel with a transport, a tick
attempts a probe exactly if one is due since the last attempt, and nothing else that happens
attempts or postpones one. -/
theorem keep_alive_pacing (profile : Profile) (htransport : profile.hasTransport = true)
    (seed : UInt64) (vectors : Nat → Option Aes.Block) (start : Nat) (world : ω)
    (moments : List (Moment ω σ)) :
    Paced profile start moments ⟨fresh profile seed vectors start, ⟨⟨world, []⟩, []⟩⟩ := by
  let s : Scene (Wire ω) σ := ⟨fresh profile seed vectors start, ⟨⟨world, []⟩, []⟩⟩
  have hrun : Attempts (profile.probeTimes start (Moment.ticks moments)) s
      (Moment.runAll (moments.map .onWire) s) :=
    Attempts.runAll (s := s) moments htransport
  have hall : Moment.attemptsAll moments s = (profile.probeTimes start (Moment.ticks moments)).map
      (·, profile.gatewayProbe.2) := Moment.attemptsAll_eq (s := s) moments htransport
  have htimes : (Moment.attemptsAll moments s).map Prod.fst =
      profile.probeTimes start (Moment.ticks moments) := by
    rw [hall, List.map_map]
    exact List.map_id _
  -- The run leaves the profile, and the time of its last attempt.
  have hnext : ∀ m : Moment ω σ, m.probes (Moment.runAll (moments.map .onWire) s) =
      (profile.probeTimes (((Moment.attemptsAll moments s).map Prod.fst).getLastD start)
        m.tick?.toList).map fun _ => profile.gatewayProbe := by
    intro m
    rw [m.probes_eq (hrun.profile ▸ htransport), hrun.profile, hrun.lastProbe, htimes]
    rfl
  refine ⟨fun rota now => ?_, fun m hm => ?_, hall, fun hticks => ?_⟩
  · rw [hnext, Moment.tick?, Option.toList_some, Profile.probeTimes_singleton]
    split <;> rfl
  · rw [hnext, hm, Option.toList_none, Profile.probeTimes_nil, List.map_nil]
  · rw [htimes]
    exact profile.probeTimes_apart start hticks

/-- The profile of a tunnel that this side set up. -/
def sampleInitiator : Profile := { sampleProfile with initiator := true }

/-- Two ticks right after each other and one an interval later, with traffic in between, in a world
that sends nothing. -/
def sampleTicks : List (Moment Simulation.World Simulation.App) :=
  [.operation (.pump {} 10000000),
    .operation (.send (samplePacket []) sampleInitiator.gatewayEndpoint),
    .operation (.pump {} 10000001),
    .operation (.decapsulate []),
    .operation (.pump {} 20000000)]

/-- An attempt that fails is not made again before the interval is over. -/
theorem keep_alive_pacing_failing :
    sampleInitiator.hasTransport = true
      ∧ Paced sampleInitiator 0 sampleTicks
          ⟨fresh sampleInitiator 1 sampleVectors 0, ⟨⟨{ sendFault := some "down" }, []⟩, []⟩⟩
      ∧ Moment.attemptsAll sampleTicks
          ⟨fresh sampleInitiator 1 sampleVectors 0, ⟨⟨{ sendFault := some "down" }, []⟩, []⟩⟩ =
          [(10000000, .v4 ⟨.ofOctets 203 0 113 1, 4500⟩),
            (20000000, .v4 ⟨.ofOctets 203 0 113 1, 4500⟩)] := by
  have hpaced := keep_alive_pacing sampleInitiator rfl 1 sampleVectors 0
    { sendFault := some "down" } sampleTicks
  refine ⟨rfl, hpaced, ?_⟩
  rw [hpaced.attempts]
  decide

end

end Tunnel

end Ipsec
