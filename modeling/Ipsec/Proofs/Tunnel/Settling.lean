import Ipsec.Proofs.Tunnel.Room

/-!
# Pumping settles

At a fixed time, and without any input, the first pump tick of a tunnel ends what is over and
relays what its streams have (`Prepared.drained`). The second one forgets the parked connections
that failed in the first (`Drained.settled`), and from then on a tick changes nothing
(`Settled.pumpBy`). It takes streams that are dependable, and connections with room for a piece.
-/

namespace Ipsec

/-- What every step of a fold keeps holds after it. What a step brings about holds of every element
in the list, if the steps of other elements keep it. -/
theorem foldl_reaches {α β : Type} [DecidableEq α] {f : β → α → β} {P : β → Prop}
    {Q : α → β → Prop} (hkeep : ∀ {b} a, P b → P (f b a)) (hreach : ∀ {b} a, P b → Q a (f b a))
    (hstay : ∀ {b} a c, c ≠ a → P b → Q c b → Q c (f b a)) {b : β} (hb : P b) (l : List α) :
    P (l.foldl f b) ∧ ∀ a, a ∈ l ∨ Q a b → Q a (l.foldl f b) := by
  induction l generalizing b with
  | nil => exact ⟨hb, fun a h => h.resolve_left List.not_mem_nil⟩
  | cons c rest ih =>
    obtain ⟨hP, hQ⟩ := ih (hkeep c hb)
    refine ⟨hP, fun a ha => hQ a ?_⟩
    by_cases hac : a = c
    · exact .inr (hac ▸ hreach c hb)
    · exact ha.imp (fun ha => (List.mem_cons.1 ha).resolve_left hac) (hstay c a hac hb)

namespace Tunnel

open Tcp.Connection (Ready Still pump_settles pump_still pump_untimed)

variable {ω σ : Type}

variable [Platform ω σ] {s : Scene ω σ} {now : Nat} {key j : Flow.Key}

/-! ## Flows with nothing left to do -/

/-- The live connection of a flow, if there is one, is not over and has nothing to relay. -/
def LiveStill (now : Nat) (key : Flow.Key) (s : Scene ω σ) : Prop :=
  ∀ conn, s.live? key = some conn → ¬s.isOver now conn ∧ conn.Still

/-- The parked connection of a flow, if there is one, is closed or has nothing to relay. -/
def ParkedDrained (key : Flow.Key) (s : Scene ω σ) : Prop :=
  ∀ conn, s.parked? key = some conn → conn.state = .closed ∨ conn.Still

/-- The parked connection of a flow, if there is one, is open and has nothing to relay. -/
def ParkedStill (key : Flow.Key) (s : Scene ω σ) : Prop :=
  ∀ conn, s.parked? key = some conn → conn.state ≠ .closed ∧ conn.Still

omit [Platform ω σ] in
theorem Scene.setLive_of_live? {conn : Tcp.Connection σ} (h : s.live? key = some conn) :
    s.setLive key conn = s := by
  have hinsert : s.tunnel.sessions.live.insert key conn = s.tunnel.sessions.live :=
    Assoc.insert_get? h
  simp only [setLive, setSessions, Flow.Table.setLive, hinsert]

omit [Platform ω σ] in
theorem Scene.setParked_of_parked? {conn : Tcp.Connection σ} (h : s.parked? key = some conn) :
    s.setParked key conn = s := by
  have hinsert : s.tunnel.sessions.parked.insert key conn = s.tunnel.sessions.parked :=
    Assoc.insert_get? h
  simp only [setParked, setSessions, Flow.Table.setParked, hinsert]

/-- To pump a connection with nothing to relay changes nothing in its tunnel. -/
theorem Scene.runStep_pump_still {conn : Tcp.Connection σ} (h : conn.Still) (s : Scene ω σ) :
    s.runStep (Tcp.Connection.pump s.tunnel.profile.send) conn = (.ok false, conn, s) := by
  have hpump := pump_still s.tunnel.profile.send (s := ⟨conn, s.tunnel.channel, s.host⟩) h
  unfold runStep
  rw [hpump]
  rfl

theorem LiveStill.visitLive (h : LiveStill now key s) : s.visitLive now key = (false, s) := by
  unfold Scene.visitLive
  split
  · rfl
  · next conn hconn =>
    obtain ⟨hgoes, hstill⟩ := h conn hconn
    rw [if_neg hgoes, Scene.runStep_pump_still hstill]
    simp only [Scene.setLive_of_live? hconn]

theorem ParkedStill.visitParked (h : ParkedStill key s) : s.visitParked key = s := by
  unfold Scene.visitParked
  split
  · rfl
  · next conn hconn =>
    obtain ⟨hopen, hstill⟩ := h conn hconn
    rw [if_neg hopen, Scene.runStep_pump_still hstill]
    simp only [Scene.setParked_of_parked? hconn]

/-! ## What visits leave alone -/

/-- From `s` to `t` nothing changed but the connections of one flow, the channel and the host. -/
structure Apart (key : Flow.Key) (s t : Scene ω σ) : Prop where
  profile : t.tunnel.profile = s.tunnel.profile
  lastProbe : t.tunnel.lastProbe = s.tunnel.lastProbe
  live : ∀ j ≠ key, t.live? j = s.live? j
  parked : ∀ j ≠ key, t.parked? j = s.parked? j

theorem apart_terminate (key : Flow.Key) {s t : Scene ω σ}
    (hprofile : t.tunnel.profile = s.tunnel.profile)
    (hlastProbe : t.tunnel.lastProbe = s.tunnel.lastProbe)
    (hlive : ∀ j ≠ key, t.live? j = s.live? j) (hparked : ∀ j ≠ key, t.parked? j = s.parked? j) :
    Apart key s (t.terminate key) :=
  ⟨by simp [hprofile], by rw [Scene.terminate_tunnel]; exact hlastProbe,
    fun j hj => by simp [hj, hlive j hj], fun j hj => by simp [hj, hparked j hj]⟩

theorem apart_visitLive (now : Nat) (key : Flow.Key) (s : Scene ω σ) :
    Apart key s (s.visitLive now key).2 := by
  have hends := Scene.visitLive_ends (s := s) key now fun conn _ =>
    Tcp.ends_true (Tcp.Connection.pump s.tunnel.profile.send) ⟨conn, s.tunnel.channel, s.host⟩
  generalize (s.visitLive now key).2 = t at hends ⊢
  cases hends with
  | absent => exact ⟨rfl, rfl, fun _ _ => rfl, fun _ _ => rfl⟩
  | finished => exact apart_terminate key rfl rfl (fun _ _ => rfl) fun _ _ => rfl
  | pumped => exact ⟨rfl, rfl, fun j hj => by simp [hj], fun j _ => by simp⟩
  | failed =>
    refine apart_terminate key (by simp) ?_ (fun j hj => by simp [hj]) fun j _ => by simp
    rw [Scene.noteFailure_tunnel]
    rfl

theorem apart_visitParked (key : Flow.Key) (s : Scene ω σ) :
    Apart key s (s.visitParked key) := by
  have hends := Scene.visitParked_ends (s := s) key fun conn _ =>
    Tcp.ends_true (Tcp.Connection.pump s.tunnel.profile.send) ⟨conn, s.tunnel.channel, s.host⟩
  generalize s.visitParked key = t at hends ⊢
  cases hends with
  | absent => exact ⟨rfl, rfl, fun _ _ => rfl, fun _ _ => rfl⟩
  | forgotten => exact ⟨rfl, rfl, fun _ _ => rfl, fun j hj => by simp [hj]⟩
  | pumped => exact ⟨rfl, rfl, fun _ _ => rfl, fun j hj => by simp [hj]⟩
  | failed => exact ⟨rfl, rfl, fun _ _ => rfl, fun j hj => by simp [hj]⟩

namespace Apart

variable {t : Scene ω σ}

omit [Platform ω σ] in
theorem probeDue (h : Apart key s t) (now : Nat) : t.probeDue now = s.probeDue now := by
  rw [Scene.probeDue, h.profile, h.lastProbe, Scene.probeDue]

omit [Platform ω σ] in
theorem isOver (h : Apart key s t) (now : Nat) (conn : Tcp.Connection σ) :
    t.isOver now conn = s.isOver now conn := by
  rw [Scene.isOver, h.profile, Scene.isOver]

theorem liveStill (h : Apart key s t) (hlive : t.live? j = s.live? j) (hj : LiveStill now j s) :
    LiveStill now j t := by
  intro conn hconn
  rw [h.isOver]
  exact hj conn (hlive ▸ hconn)

end Apart

theorem live?_visitParked (key j : Flow.Key) (s : Scene ω σ) :
    (s.visitParked key).live? j = s.live? j := by
  have hends := Scene.visitParked_ends (s := s) key fun conn _ =>
    Tcp.ends_true (Tcp.Connection.pump s.tunnel.profile.send) ⟨conn, s.tunnel.channel, s.host⟩
  generalize s.visitParked key = t at hends ⊢
  cases hends <;> rfl

/-! ## Visits -/

/-- The connections of a tunnel are ready to be pumped, but for parked ones that are closed. -/
structure Prepared (s : Scene ω σ) : Prop where
  live : ∀ {key conn}, s.live? key = some conn → conn.Ready
  parked : ∀ {key conn}, s.parked? key = some conn → conn.state = .closed ∨ conn.Ready

/-- A visit of a live flow ends it, or leaves it with nothing to do. -/
theorem Prepared.visitLive (hs : Prepared s) (now : Nat) (key : Flow.Key) :
    Prepared (s.visitLive now key).2 ∧ LiveStill now key (s.visitLive now key).2 := by
  have hends := Scene.visitLive_ends (s := s) key now fun conn hconn =>
    (pump_untimed s.tunnel.profile.send ⟨conn, s.tunnel.channel, s.host⟩).and
      (pump_settles (hs.live hconn))
  generalize (s.visitLive now key).2 = t at hends ⊢
  have hended : ∀ {u : Scene ω σ}, (∀ j ≠ key, u.live? j = s.live? j) →
      (∀ j, u.parked? j = s.parked? j) →
      Prepared (u.terminate key) ∧ LiveStill now key (u.terminate key) := by
    intro u hlive hparked
    refine ⟨⟨fun {j c} hc => ?_, fun {j c} hc => ?_⟩, fun c hc => ?_⟩
    · rw [Scene.live?_terminate] at hc
      split at hc
      · cases hc
      · next hj => exact hs.live (hlive j hj ▸ hc)
    · rw [Scene.parked?_terminate] at hc
      split at hc
      · cases hc
      · exact hs.parked (hparked j ▸ hc)
    · simp at hc
  cases hends with
  | absent hnone => exact ⟨hs, fun c hc => by rw [hnone] at hc; cases hc⟩
  | finished => exact hended (fun _ _ => rfl) fun _ => rfl
  | failed => exact hended (fun j hj => by simp [hj]) fun j => by simp
  | @pumped conn _ u hconn hQ hgoes =>
    obtain ⟨⟨hstate, hcontact⟩, hsettled⟩ := hQ
    obtain ⟨hready, hstill⟩ := hsettled _ rfl
    refine ⟨⟨fun {j c} hc => ?_, hs.parked⟩, fun c hc => ?_⟩
    · rw [Scene.live?_setLive] at hc
      split at hc
      · cases hc
        exact hready
      · exact hs.live hc
    · rw [Scene.live?_setLive, if_pos rfl] at hc
      cases hc
      refine ⟨?_, hstill⟩
      -- The time stands still, so a turn makes no connection idle for longer.
      have hover : ((s.resume u).setLive key u.conn).isOver now u.conn = s.isOver now conn := by
        rw [Scene.isOver, Scene.isOver, Tcp.Connection.idle, Tcp.Connection.idle, hstate, hcontact]
        rfl
      rwa [hover]

/-- A visit of a parked flow forgets it, or leaves it closed or with nothing to do. -/
theorem Prepared.visitParked (hs : Prepared s) (key : Flow.Key) :
    Prepared (s.visitParked key) ∧ ParkedDrained key (s.visitParked key) := by
  have hends := Scene.visitParked_ends (s := s) key
    (Q := fun conn r u => conn.state ≠ .closed → ∀ b, r = .ok b → u.conn.Ready ∧ u.conn.Still)
    fun conn hconn => by
      rcases hs.parked hconn with hclosed | hready
      · exact (Tcp.ends_true _ _).mono fun _ _ _ hopen => absurd hclosed hopen
      · exact (pump_settles hready).mono fun _ _ h _ => h
  generalize s.visitParked key = t at hends ⊢
  have hput : ∀ {u : Scene ω σ} {c : Tcp.Connection σ}, (∀ j, u.live? j = s.live? j) →
      (∀ j, u.parked? j = s.parked? j) → c.state = .closed ∨ c.Ready ∧ c.Still →
      Prepared (u.setParked key c) ∧ ParkedDrained key (u.setParked key c) := by
    intro u c hlive hparked hc
    refine ⟨⟨fun {j d} hd => hs.live (hlive j ▸ hd), fun {j d} hd => ?_⟩, fun d hd => ?_⟩
    · rw [Scene.parked?_setParked] at hd
      split at hd
      · cases hd
        exact hc.imp_right And.left
      · exact hs.parked (hparked j ▸ hd)
    · rw [Scene.parked?_setParked, if_pos rfl] at hd
      cases hd
      exact hc.imp_right And.right
  cases hends with
  | absent hnone => exact ⟨hs, fun c hc => by rw [hnone] at hc; cases hc⟩
  | forgotten =>
    refine ⟨⟨hs.live, fun {j d} hd => ?_⟩, fun d hd => ?_⟩
    · rw [Scene.parked?_removeParked] at hd
      split at hd
      · cases hd
      · exact hs.parked hd
    · simp at hd
  | pumped _ hopen hQ => exact hput (fun _ => rfl) (fun _ => rfl) (.inr (hQ hopen _ rfl))
  | failed _ _ _ hclose =>
    exact hput (fun _ => rfl) (fun _ => rfl) (.inl (Tcp.Connection.state_of_close hclose))

/-- A visit of a parked flow with nothing left to relay forgets it if it is closed, and else changes
nothing. -/
theorem ParkedDrained.visitParked (h : ParkedDrained key s) :
    ParkedStill key (s.visitParked key) := by
  cases hparked : s.parked? key with
  | none =>
    have hvisit : s.visitParked key = s := by
      unfold Scene.visitParked
      rw [hparked]
    rw [hvisit]
    exact fun conn hconn => by rw [hparked] at hconn; cases hconn
  | some conn =>
    by_cases hclosed : conn.state = .closed
    · intro c hc
      unfold Scene.visitParked at hc
      simp [hparked, hclosed] at hc
    · have hstill : ParkedStill key s := by
        intro c hc
        obtain rfl := Option.some.inj (hparked.symm.trans hc)
        exact ⟨hclosed, (h conn hparked).resolve_left hclosed⟩
      rwa [hstill.visitParked]

/-! ## Sweeps -/

theorem Scene.sweepLive_snd (now : Nat) (keys : List Flow.Key) (s : Scene ω σ) :
    (s.sweepLive now keys).2 = keys.foldl (fun s key => (s.visitLive now key).2) s := by
  unfold sweepLive
  generalize false = acted
  induction keys generalizing s acted with
  | nil => rfl
  | cons key rest ih => exact ih _ _

theorem LiveStill.sweepLive (h : ∀ key, LiveStill now key s) (keys : List Flow.Key) :
    s.sweepLive now keys = (false, s) := by
  unfold Scene.sweepLive
  induction keys with
  | nil => rfl
  | cons key rest ih =>
    simp only [List.foldl_cons, (h key).visitLive, Bool.or_false]
    exact ih

theorem ParkedStill.sweepParked (h : ∀ key, ParkedStill key s) (keys : List Flow.Key) :
    s.sweepParked keys = s := by
  unfold Scene.sweepParked
  induction keys with
  | nil => rfl
  | cons key rest ih => rw [List.foldl_cons, (h key).visitParked, ih]

/-! ## Ticks -/

/-- No probe is due, live flows have nothing left to do, and parked ones are closed or have nothing
to relay. -/
structure Drained (now : Nat) (s : Scene ω σ) : Prop where
  probe : s.probeDue now = false
  live : ∀ key, LiveStill now key s
  parked : ∀ key, ParkedDrained key s

/-- There is nothing to do for a tick. -/
structure Settled (now : Nat) (s : Scene ω σ) : Prop where
  probe : s.probeDue now = false
  live : ∀ key, LiveStill now key s
  parked : ∀ key, ParkedStill key s

theorem Settled.drained (h : Settled now s) : Drained now s :=
  ⟨h.probe, h.live, fun key conn hconn => .inr (h.parked key conn hconn).2⟩

theorem Drained.of_tunnel {t : Scene ω σ} (hs : Drained now s) (h : t.tunnel = s.tunnel) :
    Drained now t := by
  obtain ⟨tunnel, host⟩ := t
  obtain rfl : tunnel = s.tunnel := h
  exact ⟨hs.probe, hs.live, hs.parked⟩

theorem Settled.of_tunnel {t : Scene ω σ} (hs : Settled now s) (h : t.tunnel = s.tunnel) :
    Settled now t := by
  obtain ⟨tunnel, host⟩ := t
  obtain rfl : tunnel = s.tunnel := h
  exact ⟨hs.probe, hs.live, hs.parked⟩

theorem Scene.probe_of_not_due (h : s.probeDue now = false) : s.probe now = (false, s) := by
  unfold probe
  rw [h]
  rfl

theorem LiveStill.of_not_mem {keys : List Flow.Key}
    (hkeys : keys.Perm s.tunnel.sessions.live.keys) (h : key ∉ keys) : LiveStill now key s := by
  intro conn hconn
  have hnone : s.live? key = none :=
    (Assoc.get?_eq_none_iff _ key).2 fun hmem => h (hkeys.mem_iff.2 hmem)
  rw [hnone] at hconn
  cases hconn

omit [Platform ω σ] in
theorem parked?_of_not_mem {keys : List Flow.Key}
    (hkeys : keys.Perm s.tunnel.sessions.parked.keys) (h : key ∉ keys) : s.parked? key = none :=
  (Assoc.get?_eq_none_iff _ key).2 fun hmem => h (hkeys.mem_iff.2 hmem)

/-- After the live sweep of a prepared tunnel all live flows have nothing left to do. -/
theorem Prepared.sweepLive (hs : Prepared s) (hprobe : s.probeDue now = false)
    {keys : List Flow.Key} (hkeys : keys.Perm s.tunnel.sessions.live.keys) :
    (Prepared (s.sweepLive now keys).2 ∧ (s.sweepLive now keys).2.probeDue now = false)
      ∧ ∀ key, LiveStill now key (s.sweepLive now keys).2 := by
  rw [Scene.sweepLive_snd]
  obtain ⟨hkept, hreached⟩ := foldl_reaches
    (f := fun (s : Scene ω σ) key => (s.visitLive now key).2)
    (P := fun s => Prepared s ∧ s.probeDue now = false) (Q := LiveStill now)
    (fun {s} key h =>
      ⟨(h.1.visitLive now key).1, ((apart_visitLive now key s).probeDue now).trans h.2⟩)
    (fun key h => (h.1.visitLive now key).2)
    (fun {s} key j hj _ hstill =>
      (apart_visitLive now key s).liveStill ((apart_visitLive now key s).live j hj) hstill)
    ⟨hs, hprobe⟩ keys
  refine ⟨hkept, fun key => hreached key ?_⟩
  by_cases hmem : key ∈ keys
  · exact .inl hmem
  · exact .inr (.of_not_mem hkeys hmem)

/-- After the parked sweep that follows, all parked flows are closed or have nothing to relay. -/
theorem Prepared.sweepParked (hs : Prepared s) (hprobe : s.probeDue now = false)
    (hlive : ∀ key, LiveStill now key s) {keys : List Flow.Key}
    (hkeys : keys.Perm s.tunnel.sessions.parked.keys) : Drained now (s.sweepParked keys) := by
  obtain ⟨⟨-, hprobe, hlive⟩, hreached⟩ := foldl_reaches
    (f := fun (s : Scene ω σ) key => s.visitParked key)
    (P := fun s => Prepared s ∧ s.probeDue now = false ∧ ∀ key, LiveStill now key s)
    (Q := ParkedDrained)
    (fun {s} key h =>
      ⟨(h.1.visitParked key).1, ((apart_visitParked key s).probeDue now).trans h.2.1,
        fun j => (apart_visitParked key s).liveStill (live?_visitParked key j s) (h.2.2 j)⟩)
    (fun key h => (h.1.visitParked key).2)
    (fun {s} key j hj _ hdrained conn hconn =>
      hdrained conn ((apart_visitParked key s).parked j hj ▸ hconn))
    ⟨hs, hprobe, hlive⟩ keys
  refine ⟨hprobe, hlive, fun key => hreached key ?_⟩
  by_cases hmem : key ∈ keys
  · exact .inl hmem
  · refine .inr fun conn hconn => ?_
    rw [parked?_of_not_mem hkeys hmem] at hconn
    cases hconn

/-- After another parked sweep no parked flow is closed. -/
theorem Drained.sweepParked (hs : Drained now s) {keys : List Flow.Key}
    (hkeys : keys.Perm s.tunnel.sessions.parked.keys) : Settled now (s.sweepParked keys) := by
  have hdrained : ∀ {s : Scene ω σ} key, Drained now s → Drained now (s.visitParked key) := by
    intro s key h
    have hapart := apart_visitParked key s
    refine ⟨(hapart.probeDue now).trans h.probe,
      fun j => hapart.liveStill (live?_visitParked key j s) (h.live j), fun j conn hconn => ?_⟩
    by_cases hj : j = key
    · exact .inr ((h.parked key).visitParked conn (hj ▸ hconn)).2
    · exact h.parked j conn (hapart.parked j hj ▸ hconn)
  obtain ⟨hs, hreached⟩ := foldl_reaches (f := fun (s : Scene ω σ) key => s.visitParked key)
    (P := Drained now) (Q := ParkedStill) hdrained
    (fun key h => (h.parked key).visitParked)
    (fun {s} key j hj _ hstill conn hconn =>
      hstill conn ((apart_visitParked key s).parked j hj ▸ hconn))
    hs keys
  refine ⟨hs.probe, hs.live, fun key => hreached key ?_⟩
  by_cases hmem : key ∈ keys
  · exact .inl hmem
  · refine .inr fun conn hconn => ?_
    rw [parked?_of_not_mem hkeys hmem] at hconn
    cases hconn

/-- The profile lets some time pass between two keep-alive probes, if it has any sent at all. -/
def Profile.PacesProbes (p : Profile) : Prop :=
  p.initiator = false ∨ 0 < p.settings.keepAliveInterval

theorem Scene.sendProbe_tunnel (s : Scene ω σ) : s.sendProbe.tunnel = s.tunnel := by
  unfold sendProbe
  simp only
  split
  · split <;> rfl
  · rfl

/-- Right after the time for a probe none is due. -/
theorem Scene.probeDue_probe (hpaces : s.tunnel.profile.PacesProbes) (now : Nat) :
    (s.probe now).2.probeDue now = false := by
  unfold probe
  split
  · simp only [probeDue, sendProbe_tunnel]
    rcases hpaces with hpassive | hinterval
    · simp [hpassive]
    · simp [Nat.not_le.2 hinterval]
  · next hdue => simpa using hdue

theorem Prepared.of_sessions {t : Scene ω σ} (hs : Prepared s)
    (h : t.tunnel.sessions = s.tunnel.sessions) : Prepared t := by
  refine ⟨fun {j c} hc => hs.live (?_ : s.live? j = some c), fun {j c} hc =>
    hs.parked (?_ : s.parked? j = some c)⟩
  · rwa [Scene.live?, ← h]
  · rwa [Scene.parked?, ← h]

variable {rota : Rota}

/-- The first tick of a prepared tunnel. -/
theorem Prepared.drained (hs : Prepared s) (hpaces : s.tunnel.profile.PacesProbes)
    (hrota : rota.IsFair) (now : Nat) : Drained now (s.pumpBy rota now).2 := by
  have hprobed := hs.of_sessions (sessions_background.probe now s)
  obtain ⟨⟨hswept, hdue⟩, hlive⟩ :=
    hprobed.sweepLive (Scene.probeDue_probe hpaces now) (hrota.live _)
  exact hswept.sweepParked hdue hlive (hrota.parked _)

/-- The tick after that reports no work, and leaves none. -/
theorem Drained.settled (hs : Drained now s) (hrota : rota.IsFair) :
    (s.pumpBy rota now).1 = false ∧ Settled now (s.pumpBy rota now).2 := by
  unfold Scene.pumpBy
  simp only [Scene.probe_of_not_due hs.probe, LiveStill.sweepLive hs.live]
  exact ⟨rfl, hs.sweepParked (hrota.parked _)⟩

/-- Any further tick changes nothing. -/
theorem Settled.pumpBy (hs : Settled now s) (rota : Rota) : s.pumpBy rota now = (false, s) := by
  unfold Scene.pumpBy
  simp only [Scene.probe_of_not_due hs.probe, LiveStill.sweepLive hs.live,
    ParkedStill.sweepParked hs.parked, Bool.or_false]

/-- The tunnel comes to rest at a given time: with its flows in fair orders, the second tick reports
no work, and any tick after it changes nothing. -/
def Settles (now : Nat) (s : Scene ω σ) : Prop :=
  ∀ first second : Rota, first.IsFair → second.IsFair →
    ((s.pumpBy first now).2.pumpBy second now).1 = false
      ∧ ∀ rota : Rota, ((s.pumpBy first now).2.pumpBy second now).2.pumpBy rota now =
          (false, ((s.pumpBy first now).2.pumpBy second now).2)

theorem Prepared.settles (hs : Prepared s) (hpaces : s.tunnel.profile.PacesProbes) (now : Nat) :
    Settles now s := by
  intro first second hfirst hsecond
  obtain ⟨hquiet, hsettled⟩ := (hs.drained hpaces hfirst now).settled hsecond
  exact ⟨hquiet, hsettled.pumpBy⟩

end Tunnel

end Ipsec
