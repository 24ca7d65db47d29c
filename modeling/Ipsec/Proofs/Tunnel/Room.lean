import Ipsec.Proofs.Tcp.Settling
import Ipsec.Proofs.Tunnel.Parked

/-!
# The room of the connections of a tunnel

A connection without room for a piece relays nothing. One can lose its room, but only in a step
that fails, and then its tunnel ends or closes it. So the connections in the tables of a tunnel have
room, but for parked ones that are closed (`Spacious`), whatever is done to the tunnel
(`Spacious.access`).
-/

namespace Ipsec.Tunnel

open Tcp.Connection (pump_keeps_room accept_keeps_room start_keeps_room)

variable {ω σ : Type}

/-! ## Room in the tables -/

/-- Every connection of a table has room for a piece, but for parked ones that are closed. -/
structure Spacious (sessions : Flow.Table Flow.Key (Tcp.Connection σ)) : Prop where
  live : ∀ {key conn}, sessions.live.get? key = some conn → 0 < conn.relaySize
  parked : ∀ {key conn}, sessions.parked.get? key = some conn →
    conn.state = .closed ∨ 0 < conn.relaySize

namespace Spacious

variable {s : Scene ω σ} {key : Flow.Key} {conn : Tcp.Connection σ}

theorem setLive (h : Spacious s.tunnel.sessions) (hroom : 0 < conn.relaySize) :
    Spacious (s.setLive key conn).tunnel.sessions := by
  refine ⟨fun {j c} (hc : (s.setLive key conn).live? j = some c) => ?_, h.parked⟩
  rw [Scene.live?_setLive] at hc
  split at hc
  · cases hc
    exact hroom
  · exact h.live hc

theorem setParked (h : Spacious s.tunnel.sessions)
    (hroom : conn.state = .closed ∨ 0 < conn.relaySize) :
    Spacious (s.setParked key conn).tunnel.sessions := by
  refine ⟨h.live, fun {j c} (hc : (s.setParked key conn).parked? j = some c) => ?_⟩
  rw [Scene.parked?_setParked] at hc
  split at hc
  · cases hc
    exact hroom
  · exact h.parked hc

theorem removeParked (h : Spacious s.tunnel.sessions) (key : Flow.Key) :
    Spacious (s.tunnel.sessions.removeParked key).2 := by
  refine ⟨h.live, fun {j c} hc => ?_⟩
  rw [Flow.Table.removeParked, Assoc.get?_erase] at hc
  split at hc
  · cases hc
  · exact h.parked hc

variable [Platform ω σ]

/-- What becomes of the connections of a flow does not matter when the flow is ended. -/
theorem terminate_of_ne (hlive : ∀ {j c}, j ≠ key → s.live? j = some c → 0 < c.relaySize)
    (hparked : ∀ {j c}, j ≠ key → s.parked? j = some c → c.state = .closed ∨ 0 < c.relaySize) :
    Spacious (s.terminate key).tunnel.sessions := by
  refine ⟨fun {j c} (hc : (s.terminate key).live? j = some c) => ?_,
    fun {j c} (hc : (s.terminate key).parked? j = some c) => ?_⟩
  · rw [Scene.live?_terminate] at hc
    split at hc
    · cases hc
    · exact hlive ‹_› hc
  · rw [Scene.parked?_terminate] at hc
    split at hc
    · cases hc
    · exact hparked ‹_› hc

theorem terminate (h : Spacious s.tunnel.sessions) (key : Flow.Key) :
    Spacious (s.terminate key).tunnel.sessions :=
  terminate_of_ne (fun _ => h.live) fun _ => h.parked

/-- A connection that is put under a key and removed again leaves no trace. -/
theorem setLive_terminate (h : Spacious s.tunnel.sessions) (key : Flow.Key)
    (conn : Tcp.Connection σ) :
    Spacious ((s.setLive key conn).terminate key).tunnel.sessions := by
  refine terminate_of_ne (fun {j c} hj hc => ?_) fun _ => h.parked
  exact h.live (show s.live? j = some c by simpa [hj] using hc)

theorem fail (h : Spacious s.tunnel.sessions) (key : Flow.Key) (e : TcpError)
    (conn : Tcp.Connection σ) :
    Spacious (((s.setLive key conn).noteFailure key e).terminate key).tunnel.sessions := by
  have hnoted : Spacious (s.noteFailure key e).tunnel.sessions := by
    rwa [Scene.noteFailure_tunnel]
  rw [Scene.noteFailure_setLive]
  exact hnoted.setLive_terminate key conn

theorem release (h : Spacious s.tunnel.sessions) (key : Flow.Key) :
    Spacious (s.release key).tunnel.sessions := by
  refine ⟨fun {j c} (hc : (s.release key).live? j = some c) => ?_,
    fun {j c} (hc : (s.release key).parked? j = some c) => ?_⟩
  · rw [Scene.live?_release] at hc
    split at hc
    · cases hc
    · exact h.live hc
  · rw [Scene.parked?_release] at hc
    split at hc
    · rcases Option.or_eq_some_iff.1 hc with hlive | ⟨-, hparked⟩
      · exact .inr (h.live hlive)
      · exact h.parked hparked
    · exact h.parked hc

theorem continueFlow (h : Spacious s.tunnel.sessions) (packet : Ipv4.Packet) (sender : Endpoint)
    (now : Nat) (hconn : s.live? key = some conn) :
    Spacious (s.continueFlow key conn packet sender now).tunnel.sessions := by
  have hends := Scene.continueFlow_ends (s := s) key sender
    (accept_keeps_room s.tunnel.profile.send packet ⟨conn, s.tunnel.channel, s.host⟩ now)
  generalize s.continueFlow key conn packet sender now = t at hends ⊢
  cases hends with
  | crossed => exact h
  | @proceeded u _ hQ =>
    have hresume : Spacious (s.resume u).tunnel.sessions := h
    exact hresume.setLive ((hQ _ rfl).symm ▸ h.live hconn)
  | @ended u _ _ =>
    have hresume : Spacious (s.resume u).tunnel.sessions := h
    exact hresume.setLive_terminate key u.conn
  | @failed e u _ _ =>
    have hresume : Spacious (s.resume u).tunnel.sessions := h
    exact hresume.fail key e u.conn

theorem startFlow (h : Spacious s.tunnel.sessions) (key : Flow.Key) (packet : Ipv4.Packet)
    (sender : Endpoint) (now : Nat) :
    Spacious (s.startFlow key packet sender now).tunnel.sessions := by
  have hends : Scene.Begun (fun r u => ∀ d, r = .ok d → 0 < u.conn.relaySize) key s
      (s.startFlow key packet sender now) := by
    refine Scene.startFlow_ends _ fun random =>
      (start_keeps_room s.tunnel.profile.send packet _ now).mono fun r u hu d hd => ?_
    rw [hu d hd]
    exact Nat.lt_of_lt_of_le Nat.zero_lt_one (Nat.le_max_right _ _)
  generalize s.startFlow key packet sender now = t at hends ⊢
  cases hends with
  | @opened u hQ =>
    have hresume : Spacious (s.resume u).tunnel.sessions := h
    exact hresume.setLive (hQ _ rfl)
  | ended => exact h
  | refused =>
    rw [Scene.noteFailure_tunnel]
    exact h

theorem visitLive (h : Spacious s.tunnel.sessions) (now : Nat) (key : Flow.Key) :
    Spacious (s.visitLive now key).2.tunnel.sessions := by
  have hends := Scene.visitLive_ends (s := s) key now fun conn _ =>
    pump_keeps_room s.tunnel.profile.send ⟨conn, s.tunnel.channel, s.host⟩
  generalize (s.visitLive now key).2 = t at hends ⊢
  cases hends with
  | absent => exact h
  | finished => exact h.terminate key
  | @pumped conn _ u hconn hQ =>
    have hresume : Spacious (s.resume u).tunnel.sessions := h
    exact hresume.setLive ((hQ _ rfl).symm ▸ h.live hconn)
  | @failed _ e u =>
    have hresume : Spacious (s.resume u).tunnel.sessions := h
    exact hresume.fail key e u.conn

theorem visitParked (h : Spacious s.tunnel.sessions) (key : Flow.Key) :
    Spacious (s.visitParked key).tunnel.sessions := by
  have hends := Scene.visitParked_ends (s := s) key fun conn _ =>
    pump_keeps_room s.tunnel.profile.send ⟨conn, s.tunnel.channel, s.host⟩
  generalize s.visitParked key = t at hends ⊢
  cases hends with
  | absent => exact h
  | forgotten => exact h.removeParked key
  | @pumped conn _ u hconn hopen hQ =>
    have hresume : Spacious (s.resume u).tunnel.sessions := h
    exact hresume.setParked (.inr ((hQ _ rfl).symm ▸ (h.parked hconn).resolve_left hopen))
  | @failed _ _ _ u _ host _ _ _ hclose =>
    have hresume : Spacious ({ s.resume u with host } : Scene ω σ).tunnel.sessions := h
    exact hresume.setParked (.inl (Tcp.Connection.state_of_close hclose))

end Spacious

variable [Platform ω σ] {s : Scene ω σ}

/-- Every operation of a tunnel keeps the room in its tables. -/
theorem stable_spacious : Stable fun s : Scene ω σ => Spacious s.tunnel.sessions where
  note _ _ hs := hs
  setChannel _ hs := hs
  setLastProbe _ hs := hs
  transmit _ _ hs := hs
  terminate key hs := hs.terminate key
  release key hs := hs.release key
  continueFlow packet sender now _ _ hconn hs := hs.continueFlow packet sender now hconn
  startFlow packet sender now _ _ _ hs := hs.startFlow _ packet sender now
  visitLive now key hs := hs.visitLive now key
  visitParked key hs := hs.visitParked key

/-! ## Accesses -/

omit [Platform ω σ] in
theorem Spacious.drift {sessions : Flow.Table Flow.Key (Tcp.Connection σ)} (h : Spacious sessions)
    (live parked : Tcp.Connection σ → σ → σ) :
    Spacious
      ⟨sessions.live.mapValues (drifted live), sessions.parked.mapValues (drifted parked)⟩ := by
  constructor
  all_goals
    intro key conn hconn
    rw [Assoc.get?_mapValues, Option.map_eq_some_iff] at hconn
    obtain ⟨c, hc, rfl⟩ := hconn
  · have hroom := h.live hc
    exact hroom
  · have hroom := h.parked hc
    exact hroom

theorem Spacious.terminateEach (h : Spacious s.tunnel.sessions) (keys : List Flow.Key) :
    Spacious (s.terminateEach keys).tunnel.sessions := by
  unfold Scene.terminateEach
  induction keys generalizing s with
  | nil => exact h
  | cons key rest ih => exact ih (h.terminate key)

theorem Spacious.closeLive (h : Spacious s.tunnel.sessions) (key : Flow.Key) :
    Spacious (s.closeLive key).2.tunnel.sessions := by
  unfold Scene.closeLive
  split
  · exact h
  · next conn hconn =>
    have hsize : (conn.close s.host).2.1.relaySize = conn.relaySize :=
      Tcp.Connection.relaySize_of_close rfl
    exact setLive (s := { s with host := (conn.close s.host).2.2 }) h (hsize ▸ h.live hconn)

theorem Spacious.closeParked (h : Spacious s.tunnel.sessions) (key : Flow.Key) :
    Spacious (s.closeParked key).2.tunnel.sessions := by
  unfold Scene.closeParked
  split
  · exact h
  · next conn hconn =>
    exact setParked (s := { s with host := (conn.close s.host).2.2 }) h
      (.inl (Tcp.Connection.state_of_close rfl))

/-- Whatever is done to a tunnel keeps the room in its tables. -/
theorem Spacious.access (h : Spacious s.tunnel.sessions) (access : Access) :
    Spacious (access.run s).tunnel.sessions := by
  cases access with
  | operation op => exact stable_spacious.run op h
  | endAll rota => exact (h.terminateEach _).terminateEach _
  | closeLive key => exact h.closeLive key
  | closeParked key => exact h.closeParked key

end Ipsec.Tunnel
