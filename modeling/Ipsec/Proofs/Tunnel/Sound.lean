import Ipsec.Proofs.Flow.Assoc
import Ipsec.Proofs.Tcp.Behaviour
import Ipsec.Proofs.Tunnel.Operation

/-!
# The session table of a tunnel is sound

Between operations every connection in the table fits its key. Live connections are open, and
parked ones are open or closed. `Sound` says this of a table. Each way in which a step of a
connection can end either keeps it or makes the tunnel end the flow, so every operation keeps it
(`stable_upright`), and a tunnel never meets an error that shows a fault in its own bookkeeping
(`session_table_sound`).
-/

namespace Ipsec

variable {ω σ : Type}

/-! ## Tables -/

namespace Tunnel

open Tcp (Ends)
open Tcp.Connection (accept_behaves start_behaves pump_behaves)

/-- Every connection of a table fits its key. Live ones are open, and parked ones open or closed. -/
structure Sound (sessions : Flow.Table Flow.Key (Tcp.Connection σ)) : Prop where
  live : ∀ {key conn}, sessions.live.get? key = some conn → conn.Fits key ∧ conn.IsOpen
  parked : ∀ {key conn}, sessions.parked.get? key = some conn →
    conn.Fits key ∧ (conn.IsOpen ∨ conn.state = .closed)

namespace Sound

variable {sessions : Flow.Table Flow.Key (Tcp.Connection σ)} {key : Flow.Key}
  {conn : Tcp.Connection σ}

theorem empty : Sound (∅ : Flow.Table Flow.Key (Tcp.Connection σ)) := ⟨nofun, nofun⟩

theorem setLive (h : Sound sessions) (hfits : conn.Fits key) (hopen : conn.IsOpen) :
    Sound (sessions.setLive key conn) := by
  refine ⟨fun {j c} hc => ?_, h.parked⟩
  rw [Flow.Table.setLive, Assoc.get?_insert] at hc
  split at hc
  · next hj =>
    cases hc
    exact hj ▸ ⟨hfits, hopen⟩
  · exact h.live hc

theorem setParked (h : Sound sessions) (hfits : conn.Fits key)
    (hstate : conn.IsOpen ∨ conn.state = .closed) : Sound (sessions.setParked key conn) := by
  refine ⟨h.live, fun {j c} hc => ?_⟩
  rw [Flow.Table.setParked, Assoc.get?_insert] at hc
  split at hc
  · next hj =>
    cases hc
    exact hj ▸ ⟨hfits, hstate⟩
  · exact h.parked hc

/-- Whatever a table has under other keys is all that is left of it when a key is removed. -/
theorem remove_of_ne (hlive : ∀ {j c}, j ≠ key → sessions.live.get? j = some c →
      c.Fits j ∧ c.IsOpen)
    (hparked : ∀ {j c}, j ≠ key → sessions.parked.get? j = some c →
      c.Fits j ∧ (c.IsOpen ∨ c.state = .closed)) : Sound (sessions.remove key).2 := by
  refine ⟨fun {j c} hc => ?_, fun {j c} hc => ?_⟩
  all_goals
    rw [Flow.Table.remove, Assoc.get?_erase] at hc
    split at hc
    · cases hc
  · exact hlive ‹_› hc
  · exact hparked ‹_› hc

theorem remove (h : Sound sessions) (key : Flow.Key) : Sound (sessions.remove key).2 :=
  remove_of_ne (fun _ => h.live) fun _ => h.parked

/-- A connection that is put under a key and removed again leaves no trace. -/
theorem setLive_remove (h : Sound sessions) (key : Flow.Key) (conn : Tcp.Connection σ) :
    Sound ((sessions.setLive key conn).remove key).2 := by
  refine remove_of_ne (fun hj hc => h.live ?_) fun _ => h.parked
  rwa [Flow.Table.setLive, Assoc.get?_insert_of_ne _ _ hj] at hc

theorem park (h : Sound sessions) (key : Flow.Key) : Sound (sessions.park key).2 := by
  unfold Flow.Table.park
  split
  · exact h
  · next v hv =>
    obtain ⟨hfits, hopen⟩ := h.live hv
    refine ⟨fun {j c} hc => ?_, (h.setParked hfits (.inl hopen)).parked⟩
    rw [Assoc.get?_erase] at hc
    split at hc
    · cases hc
    · exact h.live hc

theorem removeParked (h : Sound sessions) (key : Flow.Key) :
    Sound (sessions.removeParked key).2 := by
  refine ⟨h.live, fun {j c} hc => ?_⟩
  rw [Flow.Table.removeParked, Assoc.get?_erase] at hc
  split at hc
  · cases hc
  · exact h.parked hc

end Sound

/-! ## Scenes -/

/-- The table of the tunnel is sound, and since a given state of the host nothing but harmless
notices was logged. -/
structure Upright (host : Host ω) (s : Scene ω σ) : Prop where
  sound : Sound s.tunnel.sessions
  quiet : host.Quiet s.host

variable {host : Host ω} {s : Scene ω σ} {key : Flow.Key}

namespace Upright

theorem note (hs : Upright host s) {notice : Notice} (hn : notice.showsViolation = false) :
    Upright host (s.note notice) := ⟨hs.sound, hs.quiet.trans (.note hn)⟩

theorem noteFailure (hs : Upright host s) (key : Flow.Key) {e : TcpError}
    (he : e.isInvariantViolation = false) : Upright host (s.noteFailure key e) := by
  unfold Scene.noteFailure
  rw [if_neg (by simp [he])]
  split
  · exact hs
  · exact hs.note rfl

end Upright

variable [Platform ω σ]

/-- A tunnel's own link logs nothing but harmless notices. -/
theorem Profile.send_isQuiet (p : Profile) : Tcp.IsQuietLink (ω := ω) p.send := by
  intro packet receiver channel host
  have hends := p.send_ends packet receiver channel host
  generalize p.send packet receiver channel host = x at hends ⊢
  cases hends with
  | unwrapped => exact .refl host
  | transmitted => exact .transmit _ receiver host
  | dropped => exact .note rfl

theorem Scene.closeRemoved_quiet (key : Flow.Key) (conn : Option (Tcp.Connection σ))
    (s : Scene ω σ) : s.host.Quiet (s.closeRemoved key conn).host := by
  unfold closeRemoved
  split
  · exact .refl _
  · split
    · next hclose => exact .closeConnection hclose
    · next hclose => exact (Host.Quiet.closeConnection hclose).trans (.note rfl)

theorem Scene.terminate_quiet (key : Flow.Key) (s : Scene ω σ) :
    s.host.Quiet (s.terminate key).host := by
  unfold terminate
  rcases s.tunnel.sessions.remove key with ⟨⟨live, parked⟩, sessions⟩
  have hlive := closeRemoved_quiet key live (s.setSessions sessions)
  exact hlive.trans (closeRemoved_quiet key parked _)

namespace Upright

theorem terminate (hs : Upright host s) (key : Flow.Key) : Upright host (s.terminate key) := by
  refine ⟨?_, hs.quiet.trans (Scene.terminate_quiet key s)⟩
  rw [Scene.terminate_tunnel]
  exact hs.sound.remove key

/-- A connection whose step failed, or asks for its end, is removed whatever became of it. -/
theorem setLive_terminate (hs : Upright host s) (key : Flow.Key) (conn : Tcp.Connection σ) :
    Upright host ((s.setLive key conn).terminate key) := by
  refine ⟨?_, hs.quiet.trans (Scene.terminate_quiet key (s.setLive key conn))⟩
  rw [Scene.terminate_tunnel]
  exact hs.sound.setLive_remove key conn

theorem release (hs : Upright host s) (key : Flow.Key) : Upright host (s.release key) := by
  have hpark := hs.sound.park key
  unfold Scene.release
  rcases h : s.tunnel.sessions.park key with ⟨moved, sessions⟩
  rw [h] at hpark
  cases moved with
  | false => exact hs
  | true =>
    simp only [if_true]
    split
    · exact ⟨hpark, hs.quiet⟩
    · exact ⟨hpark, hs.quiet.trans (.closeConnection rfl)⟩

theorem continueFlow (hs : Upright host s) {conn : Tcp.Connection σ} (packet : Ipv4.Packet)
    (sender : Endpoint) (now : Nat) (hconn : s.live? key = some conn) :
    Upright host (s.continueFlow key conn packet sender now) := by
  unfold Scene.continueFlow
  split
  · exact hs.note rfl
  · obtain ⟨hfits, hopen⟩ := hs.sound.live hconn
    obtain ⟨r, t, hstep, hbehaves⟩ := Scene.runStep_ends (s := s)
      (accept_behaves s.tunnel.profile.send_isQuiet packet now hfits hopen)
    have hs' : Upright host (({ s with host := t.host }).setChannel t.carrier) :=
      ⟨hs.sound, hs.quiet.trans hbehaves.quiet⟩
    simp only [hstep]
    rcases r with e | proceed | endSession
    · simp only [Scene.settle, Scene.noteFailure_setLive]
      exact (hs'.noteFailure key (hbehaves.sound e rfl)).setLive_terminate key t.conn
    · obtain ⟨hfits', hopen'⟩ := hbehaves.fits rfl
      exact ⟨hs'.sound.setLive hfits' hopen', hs'.quiet⟩
    · exact hs'.setLive_terminate key t.conn

theorem startFlow (hs : Upright host s) {packet : Ipv4.Packet} (sender : Endpoint) (now : Nat)
    (hkey : Flow.Key.ofPacket? packet = some key) (hvalid : key.isValid) :
    Upright host (s.startFlow key packet sender now) := by
  unfold Scene.startFlow
  rcases s.tunnel.channel.draw with ⟨seed, channel⟩
  let conn : Tcp.Connection σ :=
    .fresh key sender s.tunnel.profile.settings.relaySize ⟨seed, 0⟩ now
  obtain ⟨r, t, hstep, hbehaves, hgo⟩ := Scene.runStep_ends (s := s.setChannel channel)
    (start_behaves (s := ⟨conn, channel, s.host⟩) s.tunnel.profile.send_isQuiet now hkey hvalid
      rfl rfl rfl)
  have hs' : Upright host (({ s with host := t.host }).setChannel t.carrier) :=
    ⟨hs.sound, hs.quiet.trans hbehaves.quiet⟩
  simp only [conn] at hstep
  simp only [hstep]
  rcases r with e | proceed | endSession
  · have hdiscarded : Upright host
        { ({ s.setChannel channel with host := t.host }).setChannel t.carrier with
          host := t.conn.discard t.host } :=
      ⟨hs'.sound, hs'.quiet.trans (.closeConnection rfl)⟩
    exact hdiscarded.noteFailure key (hbehaves.sound e rfl)
  · obtain ⟨hfits, hopen⟩ := hbehaves.fits rfl
    exact ⟨hs'.sound.setLive hfits hopen, hs'.quiet⟩
  · exact absurd rfl hgo

/-- A connection that was pumped still fits its key, and still is in the same state. -/
theorem visitLive (hs : Upright host s) (now : Nat) (key : Flow.Key) :
    Upright host (s.visitLive now key).2 := by
  unfold Scene.visitLive
  split
  · exact hs
  · next conn hconn =>
    obtain ⟨hfits, hopen⟩ := hs.sound.live hconn
    split
    · exact hs.terminate key
    · obtain ⟨r, t, hstep, hsteady, hsound⟩ := Scene.runStep_ends (s := s)
        (pump_behaves s.tunnel.profile.send_isQuiet ⟨conn, s.tunnel.channel, s.host⟩)
      have hs' : Upright host (({ s with host := t.host }).setChannel t.carrier) :=
        ⟨hs.sound, hs.quiet.trans hsteady.quiet⟩
      simp only [hstep]
      cases r with
      | ok relayed =>
        exact ⟨hs'.sound.setLive (hfits.of_steady hsteady) (hopen.of_steady hsteady), hs'.quiet⟩
      | error e =>
        simp only [Scene.noteFailure_setLive]
        exact (hs'.noteFailure key (hsound e rfl)).setLive_terminate key t.conn

theorem visitParked (hs : Upright host s) (key : Flow.Key) : Upright host (s.visitParked key) := by
  unfold Scene.visitParked
  split
  · exact hs
  · next conn hconn =>
    obtain ⟨hfits, hstate⟩ := hs.sound.parked hconn
    split
    · exact ⟨hs.sound.removeParked key, hs.quiet.trans (.closeConnection rfl)⟩
    · next hnot =>
      have hopen := hstate.resolve_right hnot
      obtain ⟨r, t, hstep, hsteady, hsound⟩ := Scene.runStep_ends (s := s)
        (pump_behaves s.tunnel.profile.send_isQuiet ⟨conn, s.tunnel.channel, s.host⟩)
      have hs' : Upright host (({ s with host := t.host }).setChannel t.carrier) :=
        ⟨hs.sound, hs.quiet.trans hsteady.quiet⟩
      have hfits' := hfits.of_steady hsteady
      simp only [hstep]
      cases r with
      | ok relayed =>
        exact ⟨hs'.sound.setParked hfits' (.inl (hopen.of_steady hsteady)), hs'.quiet⟩
      | error e =>
        have hharmless : (Notice.parkedFailed key e).showsViolation = false := hsound e rfl
        have hnoted := hs'.note hharmless
        rcases hclose : t.conn.close (t.host.note (.parkedFailed key e)) with ⟨result, conn', host'⟩
        have hclosed := Tcp.Connection.state_of_close hclose
        have hquiet : host.Quiet host' := hnoted.quiet.trans (.closeConnection hclose)
        simp only [Scene.note, Scene.setChannel, hclose]
        exact ⟨hnoted.sound.setParked (hfits'.close hclose) (.inr hclosed), hquiet⟩

end Upright

/-- Every operation of a tunnel keeps its table sound, and logs no fault in the bookkeeping. -/
theorem stable_upright (host : Host ω) : Stable (σ := σ) (Upright host) where
  note _ hn hs := hs.note hn
  setChannel _ hs := ⟨hs.sound, hs.quiet⟩
  setLastProbe _ hs := ⟨hs.sound, hs.quiet⟩
  transmit data receiver hs := ⟨hs.sound, hs.quiet.trans (.transmit data receiver _)⟩
  terminate key hs := hs.terminate key
  release key hs := hs.release key
  continueFlow packet sender now _ _ hconn hs := hs.continueFlow packet sender now hconn
  startFlow _ sender now hkey hvalid _ hs := hs.startFlow sender now hkey hvalid
  visitLive now key hs := hs.visitLive now key
  visitParked key hs := hs.visitParked key

/-! ## Runs -/

theorem Sound.drift {sessions : Flow.Table Flow.Key (Tcp.Connection σ)} (h : Sound sessions)
    (live parked : Tcp.Connection σ → σ → σ) :
    Sound ⟨sessions.live.mapValues (drifted live), sessions.parked.mapValues (drifted parked)⟩ := by
  have hfits : ∀ {key f} {c : Tcp.Connection σ}, c.Fits key → (drifted f c).Fits key :=
    fun h => ⟨h.key_eq, h.valid, h.source, h.port, by simpa [drifted] using h.stream⟩
  constructor
  all_goals
    intro key conn hconn
    rw [Assoc.get?_mapValues, Option.map_eq_some_iff] at hconn
    obtain ⟨c, hc, rfl⟩ := hconn
  · exact ⟨hfits (h.live hc).1, (h.live hc).2⟩
  · exact ⟨hfits (h.parked hc).1, (h.parked hc).2⟩

theorem Upright.runAll (hs : Upright host s) (moments : List (Moment ω σ)) :
    Upright host (Moment.runAll moments s) := by
  induction moments generalizing s with
  | nil => exact hs
  | cons moment rest ih =>
    refine ih ?_
    cases moment with
    | operation op => exact (stable_upright host).run op hs
    | drift live parked world =>
      exact ⟨hs.sound.drift live parked, hs.quiet.trans (.of_log_eq rfl)⟩

/-- No step that a tunnel runs on its connections ends in an error that shows a fault in the
bookkeeping of flows. -/
structure Faultless (ω : Type) [Platform ω σ] (t : Tunnel σ) : Prop where
  /-- A live connection that accepts a packet. -/
  accept : ∀ {key conn}, t.sessions.live.get? key = some conn →
    ∀ packet now channel (host : Host ω),
      Ends (Tcp.Connection.accept t.profile.send packet now) ⟨conn, channel, host⟩
        fun r _ => ∀ e, r = .error e → e.isInvariantViolation = false
  /-- A fresh connection that is started with the first packet of its flow. -/
  start : ∀ {key packet}, Flow.Key.ofPacket? packet = some key → key.isValid →
    ∀ gateway relaySize random now channel (host : Host ω),
      Ends (Tcp.Connection.start t.profile.send packet now)
        ⟨(.fresh key gateway relaySize random now : Tcp.Connection σ), channel, host⟩
        fun r _ => ∀ e, r = .error e → e.isInvariantViolation = false
  /-- A live or parked connection that is pumped. -/
  pump : ∀ {key conn}, t.sessions.live.get? key = some conn
      ∨ t.sessions.parked.get? key = some conn →
    ∀ channel (host : Host ω),
      Ends (Tcp.Connection.pump t.profile.send) ⟨conn, channel, host⟩
        fun r _ => ∀ e, r = .error e → e.isInvariantViolation = false

theorem Sound.faultless {t : Tunnel σ} (h : Sound t.sessions) : Faultless ω t where
  accept hconn packet now _ _ :=
    (accept_behaves t.profile.send_isQuiet packet now (h.live hconn).1 (h.live hconn).2).mono
      fun _ _ hbehaves => hbehaves.sound
  start hkey hvalid _ _ _ now _ _ :=
    (start_behaves t.profile.send_isQuiet now hkey hvalid rfl rfl rfl).mono
      fun _ _ hbehaves => hbehaves.1.sound
  pump _ _ _ :=
    (pump_behaves t.profile.send_isQuiet _).mono fun _ _ hbehaves => hbehaves.2

/-- **The session table is sound.** After any run of a fresh tunnel its table is sound, none of its
steps can end in a fault of its own bookkeeping, and none was logged. -/
theorem session_table_sound (profile : Profile) (seed : UInt64)
    (vectors : Nat → Option Aes.Block) (now : Nat) (host : Host ω) (moments : List (Moment ω σ)) :
    Sound (Moment.runAll moments ⟨fresh profile seed vectors now, host⟩).tunnel.sessions ∧
      Faultless ω (Moment.runAll moments ⟨fresh profile seed vectors now, host⟩).tunnel ∧
      host.Quiet (Moment.runAll moments ⟨fresh profile seed vectors now, host⟩).host := by
  have hfresh : Upright host (⟨fresh profile seed vectors now, host⟩ : Scene ω σ) :=
    ⟨Sound.empty, .refl host⟩
  have hrun := hfresh.runAll moments
  exact ⟨hrun.sound, hrun.sound.faultless, hrun.quiet⟩

end Tunnel

end Ipsec
