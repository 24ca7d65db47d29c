import Ipsec.Proofs.Flow.Assoc
import Ipsec.Proofs.Tunnel.Operation

/-!
# What a tunnel makes of its flows

A flow is touched when a packet is passed to its live connection, when a packet starts it, and when
a pump tick visits it. Each of these has one inductive type that lists how it can end: `Continued`,
`Begun`, `VisitedLive` and `VisitedParked`. Each runs one step of a connection, and what is known of
the end of that step is a parameter `Q`. Facts about tunnels are proved by cases on these types,
with the lookups after each change, and do not unfold the operations.
-/

namespace Ipsec

/-! ## Tables -/

namespace Flow.Table

variable {κ ν : Type} [DecidableEq κ] (t : Table κ ν) (j k : κ)

/-- Parking takes the live value of a key away. -/
theorem live_park : (t.park k).2.live.get? j = if j = k then none else t.live.get? j := by
  unfold park
  split
  · next hnone =>
    split
    · next hj => rw [hj, hnone]
    · rfl
  · exact Assoc.get?_erase _ _ _

/-- Parking puts the live value of a key, if there is one, in place of the parked one. -/
theorem parked_park : (t.park k).2.parked.get? j =
    if j = k then (t.live.get? k).or (t.parked.get? k) else t.parked.get? j := by
  unfold park
  split
  · next hnone =>
    split
    · next hj => rw [hj, hnone, Option.none_or]
    · rfl
  · next v hsome =>
    rw [hsome, Option.some_or]
    exact Assoc.get?_insert _ _ _ _

end Flow.Table

namespace Tunnel.Scene

open Tcp (Ends Disposition)

variable {ω σ : Type}

/-- The scene in which a step of a connection leaves its tunnel, the connection itself apart. -/
def resume (t : Tcp.Scene Esp.Channel ω σ) (s : Scene ω σ) : Scene ω σ :=
  ({ s with host := t.host }).setChannel t.carrier

/-! ## What stays, and lookups -/

section

variable (s : Scene ω σ) (key j : Flow.Key) (conn : Tcp.Connection σ)

@[simp] theorem noteFailure_tunnel (e : TcpError) : (s.noteFailure key e).tunnel = s.tunnel := by
  unfold noteFailure
  split
  · rfl
  · split <;> rfl

/-- To log how a flow failed does nothing to the world. -/
@[simp] theorem noteFailure_world (e : TcpError) :
    (s.noteFailure key e).host.world = s.host.world := by
  unfold noteFailure
  split
  · rfl
  · split <;> rfl

@[simp] theorem live?_noteFailure (e : TcpError) : (s.noteFailure key e).live? j = s.live? j := by
  rw [live?, noteFailure_tunnel, live?]

@[simp] theorem parked?_noteFailure (e : TcpError) :
    (s.noteFailure key e).parked? j = s.parked? j := by
  rw [parked?, noteFailure_tunnel, parked?]

@[simp] theorem setLive_profile : (s.setLive key conn).tunnel.profile = s.tunnel.profile := rfl

@[simp] theorem setLive_channel : (s.setLive key conn).tunnel.channel = s.tunnel.channel := rfl

@[simp] theorem live?_setLive :
    (s.setLive key conn).live? j = if j = key then some conn else s.live? j :=
  Assoc.get?_insert _ _ _ _

@[simp] theorem parked?_setLive : (s.setLive key conn).parked? j = s.parked? j := rfl

@[simp] theorem live?_setParked : (s.setParked key conn).live? j = s.live? j := rfl

@[simp] theorem parked?_setParked :
    (s.setParked key conn).parked? j = if j = key then some conn else s.parked? j :=
  Assoc.get?_insert _ _ _ _

@[simp] theorem live?_host (host : Host ω) : ({ s with host } : Scene ω σ).live? j = s.live? j :=
  rfl

@[simp] theorem parked?_host (host : Host ω) :
    ({ s with host } : Scene ω σ).parked? j = s.parked? j := rfl

@[simp] theorem live?_removeParked (host : Host ω) :
    (({ s with host }).setSessions (s.tunnel.sessions.removeParked key).2).live? j = s.live? j :=
  rfl

@[simp] theorem parked?_removeParked (host : Host ω) :
    (({ s with host }).setSessions (s.tunnel.sessions.removeParked key).2).parked? j =
      if j = key then none else s.parked? j :=
  Assoc.get?_erase _ _ _

variable (t : Tcp.Scene Esp.Channel ω σ)

@[simp] theorem resume_profile : (s.resume t).tunnel.profile = s.tunnel.profile := rfl

@[simp] theorem resume_channel : (s.resume t).tunnel.channel = t.carrier := rfl

@[simp] theorem live?_resume : (s.resume t).live? j = s.live? j := rfl

@[simp] theorem parked?_resume : (s.resume t).parked? j = s.parked? j := rfl

variable [Platform ω σ]

@[simp] theorem terminate_profile : (s.terminate key).tunnel.profile = s.tunnel.profile := by
  rw [terminate_tunnel]

@[simp] theorem terminate_channel : (s.terminate key).tunnel.channel = s.tunnel.channel := by
  rw [terminate_tunnel]

@[simp] theorem live?_terminate :
    (s.terminate key).live? j = if j = key then none else s.live? j := by
  rw [live?, terminate_tunnel]
  exact Assoc.get?_erase _ _ _

@[simp] theorem parked?_terminate :
    (s.terminate key).parked? j = if j = key then none else s.parked? j := by
  rw [parked?, terminate_tunnel]
  exact Assoc.get?_erase _ _ _

/-- Parking a flow moves its live connection, and changes nothing else in the tunnel. -/
theorem release_tunnel :
    (s.release key).tunnel = { s.tunnel with sessions := (s.tunnel.sessions.park key).2 } := by
  unfold release
  cases hlive : s.tunnel.sessions.live.get? key with
  | none => simp [Flow.Table.park, hlive]
  | some conn =>
    simp only [Flow.Table.park, hlive, if_true]
    split <;> rfl

@[simp] theorem release_profile : (s.release key).tunnel.profile = s.tunnel.profile := by
  rw [release_tunnel]

@[simp] theorem release_channel : (s.release key).tunnel.channel = s.tunnel.channel := by
  rw [release_tunnel]

@[simp] theorem live?_release :
    (s.release key).live? j = if j = key then none else s.live? j := by
  rw [live?, release_tunnel]
  exact Flow.Table.live_park _ _ _

@[simp] theorem parked?_release :
    (s.release key).parked? j =
      if j = key then (s.live? key).or (s.parked? key) else s.parked? j := by
  rw [parked?, release_tunnel]
  exact Flow.Table.parked_park _ _ _

end

/-! ## Outcomes -/

/-- How passing a packet to a live connection ends. -/
inductive Continued [Platform ω σ]
    (Q : Except TcpError Disposition → Tcp.Scene Esp.Channel ω σ → Prop) (key : Flow.Key)
    (conn : Tcp.Connection σ) (sender : Endpoint) (s : Scene ω σ) : Scene ω σ → Prop where
  /-- It came through another gateway than the flow. -/
  | crossed (hgateway : conn.gateway.address ≠ sender.address) :
      Continued Q key conn sender s
        (s.note (.crossedConnection conn.gateway.address sender.address))
  /-- The connection goes on. -/
  | proceeded {t : Tcp.Scene Esp.Channel ω σ} (hgateway : conn.gateway.address = sender.address)
      (hQ : Q (.ok .proceed) t) :
      Continued Q key conn sender s ((s.resume t).setLive key t.conn)
  /-- The connection asks for its end. -/
  | ended {t : Tcp.Scene Esp.Channel ω σ} (hgateway : conn.gateway.address = sender.address)
      (hQ : Q (.ok .endSession) t) :
      Continued Q key conn sender s (((s.resume t).setLive key t.conn).terminate key)
  /-- The connection fails. -/
  | failed {e : TcpError} {t : Tcp.Scene Esp.Channel ω σ}
      (hgateway : conn.gateway.address = sender.address) (hQ : Q (.error e) t) :
      Continued Q key conn sender s
        ((((s.resume t).setLive key t.conn).noteFailure key e).terminate key)

/-- How starting a connection ends. -/
inductive Begun [Platform ω σ]
    (Q : Except TcpError Disposition → Tcp.Scene Esp.Channel ω σ → Prop) (key : Flow.Key)
    (s : Scene ω σ) : Scene ω σ → Prop where
  /-- The connection goes live. -/
  | opened {t : Tcp.Scene Esp.Channel ω σ} (hQ : Q (.ok .proceed) t) :
      Begun Q key s ((s.resume t).setLive key t.conn)
  /-- The connection asks for its end at once. -/
  | ended {t : Tcp.Scene Esp.Channel ω σ} {result : Except IoFault Unit} {conn : Tcp.Connection σ}
      {host host' : Host ω} (hQ : Q (.ok .endSession) t)
      (hclose : t.conn.close t.host = (result, conn, host)) (hnoted : host.Routine host') :
      Begun Q key s { s.resume t with host := host' }
  /-- The connection is not started. -/
  | refused {e : TcpError} {t : Tcp.Scene Esp.Channel ω σ} (hQ : Q (.error e) t) :
      Begun Q key s (({ s.resume t with host := t.conn.discard t.host }).noteFailure key e)

/-- How visiting a live flow ends. -/
inductive VisitedLive [Platform ω σ]
    (Q : Tcp.Connection σ → Except TcpError Bool → Tcp.Scene Esp.Channel ω σ → Prop) (now : Nat)
    (key : Flow.Key) (s : Scene ω σ) : Scene ω σ → Prop where
  /-- There is no live connection. -/
  | absent (hnone : s.live? key = none) : VisitedLive Q now key s s
  /-- The connection was idle for too long, or is closed. -/
  | finished {conn : Tcp.Connection σ} (hconn : s.live? key = some conn)
      (hover : s.isOver now conn) : VisitedLive Q now key s (s.terminate key)
  /-- The connection is pumped. -/
  | pumped {conn : Tcp.Connection σ} {relayed : Bool} {t : Tcp.Scene Esp.Channel ω σ}
      (hconn : s.live? key = some conn) (hQ : Q conn (.ok relayed) t)
      (hgoes : ¬s.isOver now conn) :
      VisitedLive Q now key s ((s.resume t).setLive key t.conn)
  /-- Pumping the connection fails. -/
  | failed {conn : Tcp.Connection σ} {e : TcpError} {t : Tcp.Scene Esp.Channel ω σ}
      (hconn : s.live? key = some conn) (hQ : Q conn (.error e) t) :
      VisitedLive Q now key s
        ((((s.resume t).setLive key t.conn).noteFailure key e).terminate key)

/-- How visiting a parked flow ends. -/
inductive VisitedParked [Platform ω σ]
    (Q : Tcp.Connection σ → Except TcpError Bool → Tcp.Scene Esp.Channel ω σ → Prop)
    (key : Flow.Key) (s : Scene ω σ) : Scene ω σ → Prop where
  /-- There is no parked connection. -/
  | absent (hnone : s.parked? key = none) : VisitedParked Q key s s
  /-- The connection is closed, and is forgotten. -/
  | forgotten {conn : Tcp.Connection σ} (hconn : s.parked? key = some conn)
      (hclosed : conn.state = .closed) :
      VisitedParked Q key s
        (({ s with host := conn.discard s.host }).setSessions
          (s.tunnel.sessions.removeParked key).2)
  /-- The connection is pumped. -/
  | pumped {conn : Tcp.Connection σ} {relayed : Bool} {t : Tcp.Scene Esp.Channel ω σ}
      (hconn : s.parked? key = some conn) (hopen : conn.state ≠ .closed)
      (hQ : Q conn (.ok relayed) t) :
      VisitedParked Q key s ((s.resume t).setParked key t.conn)
  /-- Pumping the connection fails, and it is closed. -/
  | failed {conn conn' : Tcp.Connection σ} {e : TcpError} {t : Tcp.Scene Esp.Channel ω σ}
      {result : Except IoFault Unit} {host : Host ω} (hconn : s.parked? key = some conn)
      (hopen : conn.state ≠ .closed) (hQ : Q conn (.error e) t)
      (hclose : t.conn.close (t.host.note (.parkedFailed key e)) = (result, conn', host)) :
      VisitedParked Q key s (({ s.resume t with host }).setParked key conn')

/-! ## The operations end so -/

variable [Platform ω σ] {s : Scene ω σ} (key : Flow.Key)

theorem continueFlow_ends {conn : Tcp.Connection σ} {packet : Ipv4.Packet} (sender : Endpoint)
    {now : Nat} {Q : Except TcpError Disposition → Tcp.Scene Esp.Channel ω σ → Prop}
    (h : Ends (Tcp.Connection.accept s.tunnel.profile.send packet now)
      ⟨conn, s.tunnel.channel, s.host⟩ Q) :
    Continued Q key conn sender s (s.continueFlow key conn packet sender now) := by
  unfold continueFlow
  split
  · next hgateway => exact .crossed hgateway
  · next hgateway =>
    have hgateway := Decidable.not_not.1 hgateway
    obtain ⟨r, t, hstep, hQ⟩ := runStep_ends h
    simp only [hstep]
    rcases r with e | proceed | endSession
    · exact .failed hgateway hQ
    · exact .proceeded hgateway hQ
    · exact .ended hgateway hQ

theorem startFlow_ends {packet : Ipv4.Packet} {sender : Endpoint} {now : Nat}
    {Q : Except TcpError Disposition → Tcp.Scene Esp.Channel ω σ → Prop}
    (h : ∀ random, Ends (Tcp.Connection.start s.tunnel.profile.send packet now)
      ⟨.fresh key sender s.tunnel.profile.settings.relaySize random now,
        s.tunnel.channel.draw.2, s.host⟩ Q) :
    Begun Q key s (s.startFlow key packet sender now) := by
  unfold startFlow
  obtain ⟨r, t, hstep, hQ⟩ :=
    runStep_ends (s := s.setChannel s.tunnel.channel.draw.2) (h ⟨s.tunnel.channel.draw.1, 0⟩)
  simp only [hstep]
  rcases r with e | proceed | endSession
  · exact .refused hQ
  · exact .opened hQ
  · rcases hclose : t.conn.close t.host with ⟨fault | ⟨⟩, conn, host⟩
    · simp only [setChannel, hclose]
      exact .ended hQ hclose (.note _ rfl)
    · simp only [setChannel, hclose]
      exact .ended hQ hclose (.refl _)

theorem visitLive_ends (now : Nat)
    {Q : Tcp.Connection σ → Except TcpError Bool → Tcp.Scene Esp.Channel ω σ → Prop}
    (h : ∀ conn, s.live? key = some conn →
      Ends (Tcp.Connection.pump s.tunnel.profile.send) ⟨conn, s.tunnel.channel, s.host⟩ (Q conn)) :
    VisitedLive Q now key s (s.visitLive now key).2 := by
  unfold visitLive
  split
  · next hnone => exact .absent hnone
  · next conn hconn =>
    split
    · next hover => exact .finished hconn hover
    · next hgoes =>
      obtain ⟨r, t, hstep, hQ⟩ := runStep_ends (h conn hconn)
      simp only [hstep]
      cases r with
      | ok relayed => exact .pumped hconn hQ hgoes
      | error e => exact .failed hconn hQ

theorem visitParked_ends
    {Q : Tcp.Connection σ → Except TcpError Bool → Tcp.Scene Esp.Channel ω σ → Prop}
    (h : ∀ conn, s.parked? key = some conn →
      Ends (Tcp.Connection.pump s.tunnel.profile.send) ⟨conn, s.tunnel.channel, s.host⟩ (Q conn)) :
    VisitedParked Q key s (s.visitParked key) := by
  unfold visitParked
  split
  · next hnone => exact .absent hnone
  · next conn hconn =>
    split
    · next hclosed => exact .forgotten hconn hclosed
    · next hopen =>
      obtain ⟨r, t, hstep, hQ⟩ := runStep_ends (h conn hconn)
      simp only [hstep]
      cases r with
      | ok relayed => exact .pumped hconn hopen hQ
      | error e =>
        rcases hclose : t.conn.close (t.host.note (.parkedFailed key e)) with ⟨result, conn', host⟩
        simp only [note, setChannel, hclose]
        exact .failed hconn hopen hQ hclose

end Tunnel.Scene

end Ipsec
