import Ipsec.Proofs.Tcp.Endpoints
import Ipsec.Proofs.Tunnel.Delivery
import Ipsec.Proofs.Tunnel.Outcomes
import Ipsec.Proofs.Tunnel.Sound
import Ipsec.Simulation.World

/-!
# What becomes of a parked connection

A parked connection takes no part in new traffic. `Fate` lists all that can become of it when its
tunnel is accessed: an inbound packet leaves it as it is, a pump tick goes on with it until it is
closed (`Course`), and requests from outside can end it. There is one more way. When the *live*
connection of the same flow ends, because of a packet or in a tick, the tunnel ends both
(`Dragged`). `parked_fate` shows that there is no other, and `parked_dragged_by_reset` is a case of
this one.
-/

namespace Ipsec.Tunnel

variable {ω σ : Type}

/-! ## Accesses -/

/-- What can be done to a tunnel, also from outside. -/
inductive Access where
  /-- It is asked for something. -/
  | operation (op : Operation)
  /-- All its flows are ended, in given orders. -/
  | endAll (rota : Rota)
  /-- A live connection is closed behind its back. -/
  | closeLive (key : Flow.Key)
  /-- A parked connection is closed behind its back. -/
  | closeParked (key : Flow.Key)

/-- What an access makes of a scene. -/
def Access.run [Platform ω σ] (s : Scene ω σ) : Access → Scene ω σ
  | operation op => op.run s
  | endAll rota => s.terminateAllBy rota
  | closeLive key => (s.closeLive key).2
  | closeParked key => (s.closeParked key).2

/-- The operation acts on what comes in through the tunnel. -/
def Operation.isInbound : Operation → Bool
  | handleDatagram .. => true
  | dispatch .. => true
  | _ => false

/-! ## Fates -/

/-- A connection goes on with the same flow, in the same state, and keeps the stream that it has. -/
structure Continues (c c' : Tcp.Connection σ) : Prop extends c.Anchored c' where
  state : c'.state = c.state
  stream : c'.stream.isSome = c.stream.isSome

/-- From `s` to `t` the failure of the parked connection of a flow was reported. -/
def Reported (key : Flow.Key) (s t : Scene ω σ) : Prop :=
  ∃ e notices, t.host.log = s.host.log ++ notices ∧ .parkedFailed key e ∈ notices

/-- From `s` to `t` the live connection of a flow ended, and the parked one is gone with it. -/
structure Dragged (key : Flow.Key) (s t : Scene ω σ) : Prop where
  live : (s.live? key).isSome
  ended : t.live? key = none
  gone : t.parked? key = none

/-- What becomes of the parked connection of a flow in a pump tick, or in a part of it. -/
inductive Course (key : Flow.Key) (c : Tcp.Connection σ) (s t : Scene ω σ) : Prop where
  /-- It goes on. -/
  | going {c' : Tcp.Connection σ} (h : t.parked? key = some c') (hsame : Continues c c')
  /-- Pumping it failed, and it is closed. -/
  | failed {c' : Tcp.Connection σ} (hreported : Reported key s t) (h : t.parked? key = some c')
      (hclosed : c'.state = .closed)
  /-- It was found closed and is forgotten. In a tick that visits it twice, it may fail first. -/
  | forgotten (hclosed : c.state = .closed ∨ Reported key s t) (hnone : t.parked? key = none)
  /-- The live connection of the flow ended. -/
  | dragged (h : Dragged key s t)

/-- What becomes of the parked connection of a flow when its tunnel is accessed. -/
inductive Fate (key : Flow.Key) (c : Tcp.Connection σ) (s : Scene ω σ) :
    Access → Scene ω σ → Prop where
  /-- It stays as it is. -/
  | kept {access : Access} {t : Scene ω σ} (h : t.parked? key = some c) : Fate key c s access t
  /-- It takes part in a pump tick. -/
  | pumped {rota : Rota} {now : Nat} {t : Scene ω σ} (h : Course key c s t) :
      Fate key c s (.operation (.pump rota now)) t
  /-- An inbound packet ended the live connection of the flow. -/
  | dragged {op : Operation} {t : Scene ω σ} (hop : op.isInbound) (h : Dragged key s t) :
      Fate key c s (.operation op) t
  /-- Its flow was ended on request. -/
  | ended {t : Scene ω σ} (hnone : t.parked? key = none) :
      Fate key c s (.operation (.terminate key)) t
  /-- The live connection of its flow was parked in its place. -/
  | displaced {l : Tcp.Connection σ} {t : Scene ω σ} (hlive : s.live? key = some l)
      (h : t.parked? key = some l) : Fate key c s (.operation (.release key)) t
  /-- All flows were ended. -/
  | endedAll {rota : Rota} {t : Scene ω σ} (hnone : t.parked? key = none) :
      Fate key c s (.endAll rota) t
  /-- It was closed from outside. -/
  | closed {c' : Tcp.Connection σ} {t : Scene ω σ} (h : t.parked? key = some c')
      (hclosed : c'.state = .closed) : Fate key c s (.closeParked key) t

namespace Continues

variable {c c' c'' : Tcp.Connection σ}

theorem refl (c : Tcp.Connection σ) : Continues c c := ⟨.refl c, rfl, rfl⟩

theorem trans (h : Continues c c') (h' : Continues c' c'') : Continues c c'' :=
  ⟨h.toAnchored.trans h'.toAnchored, h'.state.trans h.state, h'.stream.trans h.stream⟩

end Continues

/-! ## Pump ticks -/

/-- From `s` to `t`, a part of a pump tick, a flow gets no new connection, and its parked one takes
its course. -/
structure Ticked (key : Flow.Key) (s t : Scene ω σ) : Prop where
  logged : s.host.log <+: t.host.log
  live : s.live? key = none → t.live? key = none
  parked : s.parked? key = none → t.parked? key = none
  course : ∀ c, s.parked? key = some c → Course key c s t

variable {key : Flow.Key} {s t u : Scene ω σ}

theorem Reported.before (h : Reported key s t) (hlogged : t.host.log <+: u.host.log) :
    Reported key s u := by
  obtain ⟨e, notices, hlog, hmem⟩ := h
  obtain ⟨more, hmore⟩ := hlogged
  exact ⟨e, notices ++ more, by rw [← hmore, hlog, List.append_assoc],
    List.mem_append_left more hmem⟩

theorem Reported.after (h : Reported key t u) (hlogged : s.host.log <+: t.host.log) :
    Reported key s u := by
  obtain ⟨e, notices, hlog, hmem⟩ := h
  obtain ⟨earlier, hearlier⟩ := hlogged
  exact ⟨e, earlier ++ notices, by rw [hlog, ← hearlier, List.append_assoc],
    List.mem_append_right earlier hmem⟩

namespace Ticked

theorem trans (h : Ticked key s t) (h' : Ticked key t u) : Ticked key s u := by
  -- A part of a tick makes no live connection, so one that ended later was there before.
  have hdragged : Dragged key t u → Dragged key s u := by
    intro hd
    refine ⟨Option.isSome_iff_ne_none.2 fun hnone => ?_, hd.ended, hd.gone⟩
    have hlive := hd.live
    rw [h.live hnone] at hlive
    cases hlive
  refine ⟨h.logged.trans h'.logged, h'.live ∘ h.live, h'.parked ∘ h.parked, fun c hc => ?_⟩
  cases h.course c hc with
  | going hc' hsame =>
    cases h'.course _ hc' with
    | going hc'' hsame' => exact .going hc'' (hsame.trans hsame')
    | failed hreported hc'' hclosed => exact .failed (hreported.after h.logged) hc'' hclosed
    | forgotten hclosed hnone =>
      exact .forgotten (hclosed.imp (hsame.state.symm.trans ·) (·.after h.logged)) hnone
    | dragged hd => exact .dragged (hdragged hd)
  | failed hreported hc' hclosed =>
    have hreported' := hreported.before h'.logged
    cases h'.course _ hc' with
    | going hc'' hsame => exact .failed hreported' hc'' (hsame.state.trans hclosed)
    | failed _ hc'' hclosed' => exact .failed hreported' hc'' hclosed'
    | forgotten _ hnone => exact .forgotten (.inr hreported') hnone
    | dragged hd => exact .dragged (hdragged hd)
  | forgotten hclosed hnone =>
    exact .forgotten (hclosed.imp_right (·.before h'.logged)) (h'.parked hnone)
  | dragged hd => exact .dragged ⟨hd.live, h'.live hd.ended, h'.parked hd.gone⟩

/-- What leaves the parked connection alone, and makes no live one, is part of its course. -/
theorem of_lookups (hlogged : s.host.log <+: t.host.log)
    (hlive : s.live? key = none → t.live? key = none)
    (hparked : t.parked? key = s.parked? key) : Ticked key s t :=
  ⟨hlogged, hlive, (hparked.trans ·), fun c hc => .going (hparked.trans hc) (.refl c)⟩

theorem of_sessions (hlogged : s.host.log <+: t.host.log)
    (h : t.tunnel.sessions = s.tunnel.sessions) : Ticked key s t := by
  have hlive : t.live? key = s.live? key := congrArg (·.live.get? key) h
  exact of_lookups hlogged (hlive.trans ·) (congrArg (·.parked.get? key) h)

theorem refl (s : Scene ω σ) : Ticked key s s := of_sessions (List.prefix_refl _) rfl

/-- A live connection goes on after a step. -/
theorem setLive {j : Flow.Key} {c : Tcp.Scene Esp.Channel ω σ} (hlive : (s.live? j).isSome)
    (hquiet : s.host.Quiet c.host) : Ticked key s ((s.resume c).setLive j c.conn) := by
  refine of_lookups hquiet.logged (fun hnone => ?_) rfl
  by_cases hj : key = j
  · rw [hj] at hnone
    simp [hnone] at hlive
  · simpa [hj] using hnone

theorem noteFailure (j : Flow.Key) (e : TcpError) (s : Scene ω σ) :
    Ticked key s (s.noteFailure j e) := by
  refine of_sessions ?_ (by simp)
  unfold Scene.noteFailure
  split
  · exact List.prefix_append _ _
  · split
    · exact List.prefix_refl _
    · exact List.prefix_append _ _

/-- A parked connection goes on after a step. -/
theorem setParked {j : Flow.Key} {conn : Tcp.Connection σ} {c : Tcp.Scene Esp.Channel ω σ}
    (hconn : s.parked? j = some conn) (hsteady : Tcp.Steady ⟨conn, s.tunnel.channel, s.host⟩ c)
    (hanchored : conn.Anchored c.conn) : Ticked key s ((s.resume c).setParked j c.conn) := by
  have hcontinues : Continues conn c.conn := ⟨hanchored, hsteady.state, hsteady.stream⟩
  by_cases hj : key = j
  · subst hj
    refine ⟨hsteady.quiet.logged, by simp, by simp [hconn], fun c' hc' => ?_⟩
    obtain rfl : conn = c' := Option.some.inj (hconn.symm.trans hc')
    exact .going (by simp) hcontinues
  · exact of_lookups hsteady.quiet.logged (by simp) (by simp [hj])

variable [Platform ω σ]

/-- A live connection that ends takes the parked one of its flow along. -/
theorem terminate {j : Flow.Key} (hlive : (s.live? j).isSome) : Ticked key s (s.terminate j) := by
  have hlogged := (Scene.terminate_quiet j s).logged
  by_cases hj : key = j
  · subst hj
    exact ⟨hlogged, by simp, by simp, fun c _ => .dragged ⟨hlive, by simp, by simp⟩⟩
  · exact of_lookups hlogged (by simp [hj]) (by simp [hj])

theorem visitLive (now : Nat) (j : Flow.Key) (s : Scene ω σ) :
    Ticked key s (s.visitLive now j).2 := by
  have h := Scene.visitLive_ends (s := s) j now fun conn _ =>
    Tcp.Connection.pump_behaves s.tunnel.profile.send_isQuiet ⟨conn, s.tunnel.channel, s.host⟩
  generalize (s.visitLive now j).2 = t at h ⊢
  cases h with
  | absent => exact refl s
  | finished hconn => exact terminate (by simp [hconn])
  | pumped hconn hQ => exact setLive (by simp [hconn]) hQ.1.quiet
  | @failed _ _ u hconn hQ =>
    have hstep : Ticked key s ((s.resume u).setLive j u.conn) :=
      setLive (by simp [hconn]) hQ.1.quiet
    refine (hstep.trans (noteFailure j _ _)).trans (terminate ?_)
    simp

/-- A parked connection that is closed is forgotten. -/
theorem forget {j : Flow.Key} {conn : Tcp.Connection σ} (hconn : s.parked? j = some conn)
    (hclosed : conn.state = .closed) :
    Ticked key s (({ s with host := conn.discard s.host }).setSessions
      (s.tunnel.sessions.removeParked j).2) := by
  have hlogged : s.host.log <+: (conn.discard s.host).log :=
    (Host.Quiet.closeConnection rfl).logged
  by_cases hj : key = j
  · subst hj
    refine ⟨hlogged, by simp, by simp, fun c hc => ?_⟩
    obtain rfl : conn = c := Option.some.inj (hconn.symm.trans hc)
    exact .forgotten (.inl hclosed) (by simp)
  · exact of_lookups hlogged (by simp) (by simp [hj])

/-- A parked connection that fails is reported and closed. -/
theorem fail {j : Flow.Key} {conn conn' : Tcp.Connection σ} {e : TcpError}
    {c : Tcp.Scene Esp.Channel ω σ} {result : Except IoFault Unit} {host : Host ω}
    (hconn : s.parked? j = some conn) (hquiet : s.host.Quiet c.host)
    (hclose : c.conn.close (c.host.note (.parkedFailed j e)) = (result, conn', host)) :
    Ticked key s (({ s.resume c with host }).setParked j conn') := by
  obtain ⟨notices, hlog, -⟩ := hquiet
  obtain ⟨more, hmore, -⟩ := Host.Quiet.closeConnection hclose
  have hlog' : host.log = s.host.log ++ (notices ++ [.parkedFailed j e] ++ more) := by
    rw [hmore, Host.note, hlog]
    simp
  by_cases hj : key = j
  · subst hj
    refine ⟨⟨_, hlog'.symm⟩, by simp, by simp [hconn], fun c' hc' => ?_⟩
    refine .failed ⟨e, _, hlog', by simp⟩ ?_ (Tcp.Connection.state_of_close hclose)
    simp
  · exact of_lookups ⟨_, hlog'.symm⟩ (by simp) (by simp [hj])

theorem visitParked (j : Flow.Key) (s : Scene ω σ) : Ticked key s (s.visitParked j) := by
  have h := Scene.visitParked_ends (s := s) j fun conn _ =>
    (Tcp.Connection.pump_behaves s.tunnel.profile.send_isQuiet
      ⟨conn, s.tunnel.channel, s.host⟩).and (Tcp.Connection.pump_anchored _)
  generalize s.visitParked j = t at h ⊢
  cases h with
  | absent => exact refl s
  | forgotten hconn hclosed =>
    exact forget hconn hclosed
  | pumped hconn hopen hQ => exact setParked hconn hQ.1.1 hQ.2
  | failed hconn _ hQ hclose =>
    exact fail hconn hQ.1.1.quiet hclose

/-- Nothing in a pump tick does more to a parked connection than a tick may do. -/
theorem swept : Swept (ω := ω) (σ := σ) (Ticked key) where
  refl := refl
  trans := trans
  note _ _ _ := of_sessions (List.prefix_append _ _) rfl
  drawIdentification _ := of_sessions (List.prefix_refl _) rfl
  send s packet receiver :=
    of_sessions (s.tunnel.profile.send_isQuiet packet receiver s.tunnel.channel s.host).logged rfl
  setLastProbe _ _ := of_sessions (List.prefix_refl _) rfl
  transmitProbe _ _ := of_sessions (List.prefix_refl _) rfl
  visitLive s now j := visitLive now j s
  visitParked s j := visitParked j s

end Ticked

/-! ## Inbound packets -/

theorem Scene.parked?_of_sessions (h : t.tunnel.sessions = s.tunnel.sessions) :
    t.parked? key = s.parked? key := congrArg (·.parked.get? key) h

variable [Platform ω σ] {c : Tcp.Connection σ}

/-- What touches no flow leaves the tables alone. -/
theorem sessions_background :
    Background fun s t : Scene ω σ => t.tunnel.sessions = s.tunnel.sessions where
  refl _ := rfl
  trans h h' := h'.trans h
  note _ _ _ := rfl
  drawIdentification _ := rfl
  send _ _ _ := rfl
  setLastProbe _ _ := rfl
  transmitProbe _ _ := rfl

namespace Scene

/-- To end a live flow is to spare the parked connections of all other flows. -/
theorem terminate_spares {j : Flow.Key} (hlive : (s.live? j).isSome) (hc : t.parked? key = some c) :
    (t.terminate j).parked? key = some c ∨ Dragged key s (t.terminate j) := by
  by_cases hj : key = j
  · subst hj
    exact .inr ⟨hlive, by simp, by simp⟩
  · exact .inl (by simpa [hj] using hc)

/-- An inbound packet leaves a parked connection as it is, if it does not end the live connection of
the same flow. -/
theorem Dispatched.spares {packet : Ipv4.Packet} {sender : Endpoint} {now : Nat}
    (h : Dispatched packet sender now s t) (hc : s.parked? key = some c) :
    t.parked? key = some c ∨ Dragged key s t := by
  cases h with
  | control =>
    have hsessions := sessions_background.handleControl packet sender s
    exact .inl ((parked?_of_sessions hsessions).trans hc)
  | noted => exact .inl hc
  | @continued j conn _ _ _ hconn =>
    have h := continueFlow_ends (s := s) j sender (Tcp.ends_true
      (Tcp.Connection.accept s.tunnel.profile.send packet now) ⟨conn, s.tunnel.channel, s.host⟩)
    generalize s.continueFlow j conn packet sender now = t at h ⊢
    cases h with
    | crossed => exact .inl hc
    | proceeded => exact .inl hc
    | ended => exact terminate_spares (by simp [hconn]) (by simpa using hc)
    | failed => exact terminate_spares (by simp [hconn]) (by simpa using hc)
  | @started j _ _ _ hnone =>
    have h : Begun (fun _ _ => True) j s (s.startFlow j packet sender now) :=
      startFlow_ends _ fun _ => Tcp.ends_true _ _
    generalize s.startFlow j packet sender now = t at h ⊢
    cases h with
    | opened => exact .inl hc
    | ended => exact .inl hc
    | refused => exact .inl (by simpa using hc)

theorem handleDatagram_spares (data : Bytes) (sender : Endpoint) (now : Nat) (s : Scene ω σ)
    (hc : s.parked? key = some c) :
    (s.handleDatagram data sender now).2.parked? key = some c
      ∨ Dragged key s (s.handleDatagram data sender now).2 := by
  have hparked : (s.decapsulate data).2.parked? key = some c := hc
  have hlive : (s.decapsulate data).2.live? key = s.live? key := rfl
  unfold handleDatagram
  rcases hopen : s.decapsulate data with ⟨e | packet, t⟩
  all_goals rw [hopen] at hparked hlive
  · exact .inl hparked
  · have hspared := (t.dispatch_ends packet sender now).spares hparked
    exact hspared.imp_right fun h => ⟨hlive ▸ h.live, h.ended, h.gone⟩

/-! ## Requests from outside -/

@[simp] theorem parked?_closeLive (j : Flow.Key) (s : Scene ω σ) :
    (s.closeLive j).2.parked? key = s.parked? key := by
  unfold closeLive
  split <;> rfl

theorem closeParked_closes (j : Flow.Key) (s : Scene ω σ) (hc : s.parked? key = some c) :
    (s.closeParked j).2.parked? key = some c
      ∨ j = key ∧ ∃ c', (s.closeParked j).2.parked? key = some c' ∧ c'.state = .closed := by
  unfold closeParked
  split
  · exact .inl hc
  · next conn hconn =>
    by_cases hj : key = j
    · refine .inr ⟨hj.symm, (conn.close s.host).2.1, by simp [hj], ?_⟩
      exact Tcp.Connection.state_of_close rfl
    · exact .inl (by simpa [hj] using hc)

@[simp] theorem parked?_terminateEach (keys : List Flow.Key) (s : Scene ω σ) :
    (s.terminateEach keys).parked? key = if key ∈ keys then none else s.parked? key := by
  unfold terminateEach
  induction keys generalizing s with
  | nil => simp
  | cons j rest ih =>
    rw [List.foldl_cons, ih, parked?_terminate]
    by_cases hj : key = j <;> simp [hj]

theorem parked?_terminateAllBy (rota : Rota) (key : Flow.Key) (s : Scene ω σ) :
    (s.terminateAllBy rota).parked? key = none
      ∨ (s.terminateAllBy rota).parked? key = s.parked? key := by
  unfold terminateAllBy
  rw [parked?_terminateEach, parked?_terminateEach]
  split
  · exact .inl rfl
  · split
    · exact .inl rfl
    · exact .inr rfl

end Scene

/-! ## All accesses -/

theorem Operation.fate (op : Operation) (hc : s.parked? key = some c) :
    Fate key c s (.operation op) (op.run s) := by
  have hsessions : s.tunnel.sessions = (op.run s).tunnel.sessions →
      Fate key c s (.operation op) (op.run s) := by
    intro h
    exact .kept ((Scene.parked?_of_sessions h.symm).trans hc)
  cases op with
  | handleDatagram data sender now =>
    rcases s.handleDatagram_spares data sender now hc with h | h
    · exact .kept h
    · exact .dragged rfl h
  | dispatch packet sender now =>
    rcases (s.dispatch_ends packet sender now).spares hc with h | h
    · exact .kept h
    · exact .dragged rfl h
  | pump rota now => exact .pumped ((Ticked.swept.pumpBy rota now s).course c hc)
  | terminate j =>
    by_cases hj : key = j
    · subst hj
      exact .ended (by simp [run])
    · exact .kept (by simpa [run, hj] using hc)
  | release j =>
    by_cases hj : key = j
    · subst hj
      cases hlive : s.live? key with
      | none => exact .kept (by simpa [run, hlive] using hc)
      | some l => exact .displaced hlive (by simp [run, hlive])
    · exact .kept (by simpa [run, hj] using hc)
  | send packet receiver => exact hsessions rfl
  | ping source destination => exact hsessions (sessions_background.ping source destination s).symm
  | encapsulate packet => exact hsessions rfl
  | decapsulate data => exact hsessions rfl

/-- **The fate of parked connections.** Whatever is done to a tunnel, one of the listed things
becomes of a connection that is parked. -/
theorem parked_fate (s : Scene ω σ) {key : Flow.Key} {c : Tcp.Connection σ}
    (hparked : s.parked? key = some c) (access : Access) :
    Fate key c s access (access.run s) := by
  cases access with
  | operation op => exact op.fate hparked
  | endAll rota =>
    rcases s.parked?_terminateAllBy rota key with h | h
    · exact .endedAll h
    · exact .kept (h.trans hparked)
  | closeLive j => exact .kept (by simpa [Access.run] using hparked)
  | closeParked j =>
    rcases s.closeParked_closes j hparked with h | ⟨rfl, c', h, hclosed⟩
    · exact .kept h
    · exact .closed h hclosed

/-! ## A reset that ends two connections -/

/-- A tunnel without a transport, on a host on which nothing fails. -/
def sampleScene : Scene Simulation.World Simulation.App :=
  ⟨fresh { sampleProfile with hasTransport := false } 1 sampleVectors 0, ⟨{}, []⟩⟩

/-- Where the packets of a flow come through. -/
def sampleSender : Endpoint := .v4 ⟨.ofOctets 203 0 113 1, 4500⟩

/-- A packet of the flow is dispatched. -/
def sampleDispatch (flags : Tcp.Flags) : Operation :=
  .dispatch (Tcp.sampleSegment (.ofOctets 55 55 55 55) flags []) sampleSender 0

/-- The key of the flow. -/
def sampleKey : Flow.Key := ⟨.ofOctets 10 0 0 5, 443⟩

/-- The flow is opened and parked, and opened again. -/
def sampleReused : Scene Simulation.World Simulation.App :=
  Moment.runAll
    ([sampleDispatch Tcp.Flags.syn, sampleDispatch Tcp.Flags.ack, .release sampleKey,
      sampleDispatch Tcp.Flags.syn].map .operation) sampleScene

theorem parked_fate_of_reset : ∃ c, sampleReused.parked? sampleKey = some c ∧
    Fate sampleKey c sampleReused (.operation (sampleDispatch Tcp.Flags.rst))
      ((Access.operation (sampleDispatch Tcp.Flags.rst)).run sampleReused) :=
  ⟨_, rfl, parked_fate sampleReused rfl _⟩

/-- A segment that resets the second connection of a flow also ends the first one, which is parked
and still established, and closes its stream. -/
theorem parked_dragged_by_reset :
    (sampleReused.parked? sampleKey).map (·.state) = some .established ∧
      (sampleReused.live? sampleKey).map (·.state) = some .synReceived ∧
      ((sampleDispatch Tcp.Flags.rst).run sampleReused).parked? sampleKey = none ∧
      ((sampleDispatch Tcp.Flags.rst).run sampleReused).host.world.closed.map (·.id) = [0] := by
  refine ⟨rfl, rfl, rfl, rfl⟩

end Ipsec.Tunnel
