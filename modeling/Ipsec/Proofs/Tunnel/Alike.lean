import Ipsec.Proofs.Tcp.Collision
import Ipsec.Proofs.Tunnel.Contact

/-!
# Tunnels that are alike

Two scenes are `Alike` if they differ in nothing but the times of contact of their connections and
the log. What can be asked of a tunnel does not see the difference: from scenes that are alike it
ends with the same result, in scenes that are alike again (`EndAlike`). The exception is a pump
tick, which ends the flows that are idle for too long. There it is a condition that the same flows
are (`SameIdle`), and a tick sees no more than that.
-/

namespace Ipsec

open Tcp.Connection (dateless)

/-! ## Tables -/

namespace Flow.Table

variable {κ ν : Type}

/-- Applies a function to every value. -/
def mapValues (f : ν → ν) (t : Table κ ν) : Table κ ν :=
  ⟨t.live.mapValues f, t.parked.mapValues f⟩

variable [DecidableEq κ] (f : ν → ν) (t : Table κ ν) (k : κ) (v : ν)

theorem mapValues_setLive : (t.setLive k v).mapValues f = (t.mapValues f).setLive k (f v) := by
  simp only [mapValues, setLive, Assoc.mapValues_insert]

theorem mapValues_setParked :
    (t.setParked k v).mapValues f = (t.mapValues f).setParked k (f v) := by
  simp only [mapValues, setParked, Assoc.mapValues_insert]

theorem mapValues_remove : (t.remove k).2.mapValues f = ((t.mapValues f).remove k).2 := by
  simp only [mapValues, remove, Assoc.mapValues_erase]

theorem mapValues_removeParked :
    (t.removeParked k).2.mapValues f = ((t.mapValues f).removeParked k).2 := by
  simp only [mapValues, removeParked, Assoc.mapValues_erase]

theorem park_mapValues : (t.mapValues f).park k = ((t.park k).1, (t.park k).2.mapValues f) := by
  have hlive : (t.mapValues f).live.get? k = (t.live.get? k).map f := Assoc.get?_mapValues f _ k
  unfold park
  rw [hlive]
  cases t.live.get? k with
  | none => rfl
  | some v => simp only [Option.map_some, mapValues, Assoc.mapValues_erase, Assoc.mapValues_insert]

end Flow.Table

namespace Tunnel

variable {ω σ α : Type}

/-! ## Scenes that are alike -/

/-- Two scenes differ in nothing but the times of contact and the log. -/
structure Alike (s t : Scene ω σ) : Prop where
  profile : s.tunnel.profile = t.tunnel.profile
  channel : s.tunnel.channel = t.tunnel.channel
  lastProbe : s.tunnel.lastProbe = t.tunnel.lastProbe
  sessions : s.tunnel.sessions.mapValues dateless = t.tunnel.sessions.mapValues dateless
  world : s.host.world = t.host.world

/-- Two actions end with the same result, in scenes that are alike. -/
inductive EndAlike : α × Scene ω σ → α × Scene ω σ → Prop where
  | mk (result : α) {s t : Scene ω σ} (h : Alike s t) : EndAlike (result, s) (result, t)

theorem EndAlike.scene {x y : α × Scene ω σ} (h : EndAlike x y) : Alike x.2 y.2 := by
  cases h with
  | mk _ halike => exact halike

/-- Two connections that may be missing are equal but for the time of contact. -/
inductive Matched : Option (Tcp.Connection σ) → Option (Tcp.Connection σ) → Prop where
  | none : Matched none none
  | some {c c' : Tcp.Connection σ} (h : c.dateless = c'.dateless) : Matched (some c) (some c')

theorem Matched.of_map {o o' : Option (Tcp.Connection σ)}
    (h : o.map dateless = o'.map dateless) : Matched o o' := by
  cases o <;> cases o' <;> simp at h
  · exact .none
  · exact .some h

theorem Matched.isSome_eq {o o' : Option (Tcp.Connection σ)} (h : Matched o o') :
    o.isSome = o'.isSome := by
  cases h <;> rfl

/-- Closing two connections ends with the same result, in connections that are equal but for the
time of contact, and in the same world. -/
inductive ClosedAlike : Except IoFault Unit × Tcp.Connection σ × Host ω →
    Except IoFault Unit × Tcp.Connection σ × Host ω → Prop where
  | mk (result : Except IoFault Unit) {c c' : Tcp.Connection σ} {h h' : Host ω}
    (hc : c.dateless = c'.dateless) (hworld : h.world = h'.world) :
    ClosedAlike (result, c, h) (result, c', h')

theorem close_alike [Platform ω σ] {c c' : Tcp.Connection σ} {h h' : Host ω}
    (hc : c.dateless = c'.dateless) (hworld : h.world = h'.world) :
    ClosedAlike (c.close h) (c'.close h') := by
  obtain ⟨contact, log, hclose⟩ := Tcp.Connection.close_alike
    (s := (⟨c, (), h⟩ : Tcp.Scene Unit ω σ)) (t := ⟨c', (), h'⟩)
    (Tcp.alike_iff.2 ⟨hc, rfl, hworld⟩)
  simp only [hclose]
  exact .mk _ rfl rfl

theorem discard_alike [Platform ω σ] {c c' : Tcp.Connection σ} {h h' : Host ω}
    (hc : c.dateless = c'.dateless) (hworld : h.world = h'.world) :
    (c.discard h).world = (c'.discard h').world := by
  have hclose := close_alike hc hworld
  unfold Tcp.Connection.discard
  generalize c.close h = x at hclose ⊢
  generalize c'.close h' = y at hclose ⊢
  obtain ⟨result, -, hclosed⟩ := hclose
  exact hclosed

/-- Two steps of connections end with the same result, in connections that are equal but for the
time of contact, and in tunnels that are alike. -/
inductive RunAlike : α × Tcp.Connection σ × Scene ω σ → α × Tcp.Connection σ × Scene ω σ →
    Prop where
  | mk (result : α) {c c' : Tcp.Connection σ} {s t : Scene ω σ} (hc : c.dateless = c'.dateless)
    (h : Alike s t) : RunAlike (result, c, s) (result, c', t)

namespace Alike

variable {s t u : Scene ω σ} {c c' : Tcp.Connection σ}

theorem refl (s : Scene ω σ) : Alike s s := ⟨rfl, rfl, rfl, rfl, rfl⟩

theorem trans (h : Alike s t) (h' : Alike t u) : Alike s u :=
  ⟨h.profile.trans h'.profile, h.channel.trans h'.channel, h.lastProbe.trans h'.lastProbe,
    h.sessions.trans h'.sessions, h.world.trans h'.world⟩

theorem live (h : Alike s t) (key : Flow.Key) : Matched (s.live? key) (t.live? key) := by
  have hmap := congrArg (·.live.get? key) h.sessions
  simp only [Flow.Table.mapValues, Assoc.get?_mapValues] at hmap
  exact .of_map hmap

theorem parked (h : Alike s t) (key : Flow.Key) : Matched (s.parked? key) (t.parked? key) := by
  have hmap := congrArg (·.parked.get? key) h.sessions
  simp only [Flow.Table.mapValues, Assoc.get?_mapValues] at hmap
  exact .of_map hmap

theorem liveKeys (h : Alike s t) : s.tunnel.sessions.live.keys = t.tunnel.sessions.live.keys := by
  have hkeys := congrArg (·.live.keys) h.sessions
  simpa only [Flow.Table.mapValues, Assoc.keys_mapValues] using hkeys

theorem parkedKeys (h : Alike s t) :
    s.tunnel.sessions.parked.keys = t.tunnel.sessions.parked.keys := by
  have hkeys := congrArg (·.parked.keys) h.sessions
  simpa only [Flow.Table.mapValues, Assoc.keys_mapValues] using hkeys

/-! ## Changes -/

theorem setHost (h : Alike s t) {host host' : Host ω} (hworld : host.world = host'.world) :
    Alike { s with host } { t with host := host' } :=
  ⟨h.profile, h.channel, h.lastProbe, h.sessions, hworld⟩

theorem note (h : Alike s t) (notice notice' : Notice) : Alike (s.note notice) (t.note notice') :=
  h.setHost h.world

theorem setChannel (h : Alike s t) (channel : Esp.Channel) :
    Alike (s.setChannel channel) (t.setChannel channel) :=
  ⟨h.profile, rfl, h.lastProbe, h.sessions, h.world⟩

theorem setSessions (h : Alike s t) {m m' : Flow.Table Flow.Key (Tcp.Connection σ)}
    (hm : m.mapValues dateless = m'.mapValues dateless) :
    Alike (s.setSessions m) (t.setSessions m') :=
  ⟨h.profile, h.channel, h.lastProbe, hm, h.world⟩

theorem setLive (h : Alike s t) (key : Flow.Key) (hc : c.dateless = c'.dateless) :
    Alike (s.setLive key c) (t.setLive key c') := by
  refine h.setSessions ?_
  rw [Flow.Table.mapValues_setLive, Flow.Table.mapValues_setLive, h.sessions, hc]

theorem setParked (h : Alike s t) (key : Flow.Key) (hc : c.dateless = c'.dateless) :
    Alike (s.setParked key c) (t.setParked key c') := by
  refine h.setSessions ?_
  rw [Flow.Table.mapValues_setParked, Flow.Table.mapValues_setParked, h.sessions, hc]

theorem noteFailure (h : Alike s t) (key : Flow.Key) (e : TcpError) :
    Alike (s.noteFailure key e) (t.noteFailure key e) := by
  unfold Scene.noteFailure
  split
  · exact h.note _ _
  · split
    · exact h
    · exact h.note _ _

theorem drawIdentification (h : Alike s t) :
    EndAlike s.drawIdentification t.drawIdentification := by
  unfold Scene.drawIdentification
  rw [h.channel]
  exact .mk _ (h.setChannel _)

theorem encapsulate (h : Alike s t) (packet : Ipv4.Packet) :
    EndAlike (s.encapsulate packet) (t.encapsulate packet) := by
  unfold Scene.encapsulate
  rw [h.channel, h.profile]
  exact .mk _ (h.setChannel _)

theorem decapsulate (h : Alike s t) (data : Bytes) :
    EndAlike (s.decapsulate data) (t.decapsulate data) := by
  unfold Scene.decapsulate
  simp only [h.channel, h.profile]
  exact .mk _ ((h.setHost (by exact h.world)).setChannel _)

end Alike

/-! ## Sending and ending -/

/-- A tunnel does not read the log when it sends. -/
theorem Profile.send_deaf [Platform ω σ] (p : Profile) : Tcp.IsDeafLink (ω := ω) p.send := by
  intro packet receiver carrier host log
  unfold Profile.send Host.transmit
  rcases p.wrap packet carrier with ⟨e | datagram, channel⟩
  · exact ⟨log, rfl⟩
  · simp only
    split
    · rcases Platform.transmit datagram receiver host.world with ⟨fault | ⟨⟩, world⟩
      · exact ⟨log, rfl⟩
      · exact ⟨log, rfl⟩
    · exact ⟨_, rfl⟩

namespace Alike

variable [Platform ω σ] {s t : Scene ω σ} {c c' : Tcp.Connection σ}

theorem send (h : Alike s t) (packet : Ipv4.Packet) (receiver : Endpoint) :
    EndAlike (s.send packet receiver) (t.send packet receiver) := by
  obtain ⟨log, hsend⟩ := s.tunnel.profile.send_deaf packet receiver s.tunnel.channel s.host
    t.host.log
  rw [h.world] at hsend
  unfold Scene.send
  rw [← h.profile, ← h.channel, hsend]
  generalize s.tunnel.profile.send packet receiver s.tunnel.channel s.host = sent
  obtain ⟨result, channel, host⟩ := sent
  refine .mk result ((h.setHost ?_).setChannel channel)
  rfl

theorem ping (h : Alike s t) (source destination : Ipv4Address) :
    EndAlike (s.ping source destination) (t.ping source destination) := by
  have hdraw := h.drawIdentification
  unfold Scene.ping
  generalize s.drawIdentification = x at hdraw ⊢
  generalize t.drawIdentification = y at hdraw ⊢
  obtain ⟨identification, hdrawn⟩ := hdraw
  simp only
  split
  · exact .mk _ hdrawn
  · rw [hdrawn.profile]
    exact (hdrawn.note _ _).send _ _

theorem closeRemoved (h : Alike s t) (key : Flow.Key) {o o' : Option (Tcp.Connection σ)}
    (hmatched : Matched o o') : Alike (s.closeRemoved key o) (t.closeRemoved key o') := by
  cases hmatched with
  | none => exact h
  | @some c c' hc =>
    have hclose := close_alike hc h.world
    unfold Scene.closeRemoved
    simp only
    generalize c.close s.host = x at hclose ⊢
    generalize c'.close t.host = y at hclose ⊢
    obtain ⟨result, -, hworld⟩ := hclose
    rcases result with fault | ⟨⟩
    · exact h.setHost hworld
    · exact h.setHost hworld

theorem terminate (h : Alike s t) (key : Flow.Key) : Alike (s.terminate key) (t.terminate key) := by
  have hremoved : Alike (s.setSessions (s.tunnel.sessions.remove key).2)
      (t.setSessions (t.tunnel.sessions.remove key).2) := by
    refine h.setSessions ?_
    rw [Flow.Table.mapValues_remove, Flow.Table.mapValues_remove, h.sessions]
  exact (hremoved.closeRemoved key (h.live key)).closeRemoved key (h.parked key)

theorem release (h : Alike s t) (key : Flow.Key) : Alike (s.release key) (t.release key) := by
  have hpark := congrArg (·.park key) h.sessions
  simp only [Flow.Table.park_mapValues, Prod.mk.injEq] at hpark
  have hparked := h.parked key
  unfold Scene.release
  simp only [hpark.1]
  split
  · generalize s.parked? key = o at hparked ⊢
    generalize t.parked? key = o' at hparked ⊢
    cases hparked with
    | none => exact h.setSessions hpark.2
    | some hc => exact (h.setHost (discard_alike hc h.world)).setSessions hpark.2
  · exact h

theorem terminateEach (h : Alike s t) (keys : List Flow.Key) :
    Alike (s.terminateEach keys) (t.terminateEach keys) := by
  unfold Scene.terminateEach
  induction keys generalizing s t with
  | nil => exact h
  | cons key rest ih => exact ih (h.terminate key)

theorem terminateAllBy (h : Alike s t) (rota : Rota) :
    Alike (s.terminateAllBy rota) (t.terminateAllBy rota) := by
  have hlive : Alike (s.terminateEach (rota.live s.tunnel.sessions.live.keys))
      (t.terminateEach (rota.live t.tunnel.sessions.live.keys)) := by
    rw [h.liveKeys]
    exact h.terminateEach _
  unfold Scene.terminateAllBy
  simp only [hlive.parkedKeys]
  exact hlive.terminateEach _

theorem closeLive (h : Alike s t) (key : Flow.Key) :
    EndAlike (s.closeLive key) (t.closeLive key) := by
  have hlive := h.live key
  unfold Scene.closeLive
  generalize s.live? key = o at hlive ⊢
  generalize t.live? key = o' at hlive ⊢
  cases hlive with
  | none => exact .mk _ h
  | @some c c' hc =>
    have hclose := close_alike hc h.world
    simp only
    generalize c.close s.host = x at hclose ⊢
    generalize c'.close t.host = y at hclose ⊢
    obtain ⟨result, hclosed, hworld⟩ := hclose
    exact .mk _ ((h.setHost hworld).setLive key hclosed)

theorem closeParked (h : Alike s t) (key : Flow.Key) :
    EndAlike (s.closeParked key) (t.closeParked key) := by
  have hparked := h.parked key
  unfold Scene.closeParked
  generalize s.parked? key = o at hparked ⊢
  generalize t.parked? key = o' at hparked ⊢
  cases hparked with
  | none => exact .mk _ h
  | @some c c' hc =>
    have hclose := close_alike hc h.world
    simp only
    generalize c.close s.host = x at hclose ⊢
    generalize c'.close t.host = y at hclose ⊢
    obtain ⟨result, hclosed, hworld⟩ := hclose
    exact .mk _ ((h.setHost hworld).setParked key hclosed)

/-! ## Inbound packets -/

omit [Platform ω σ] in
/-- A step that sees neither the time of contact nor the log ends alike in both tunnels. -/
theorem runStep {step : Tcp.StepM Esp.Channel ω σ α} (hstep : Tcp.Deaf step) (h : Alike s t)
    (hc : c.dateless = c'.dateless) : RunAlike (s.runStep step c) (t.runStep step c') := by
  have hends := hstep (Tcp.alike_iff.2 ⟨hc, h.channel, h.world⟩ :
    Tcp.Alike ⟨c, s.tunnel.channel, s.host⟩ ⟨c', t.tunnel.channel, t.host⟩)
  unfold Scene.runStep
  generalize step ⟨c, s.tunnel.channel, s.host⟩ = r at hends ⊢
  generalize step ⟨c', t.tunnel.channel, t.host⟩ = r' at hends ⊢
  cases hends with
  | ok _ halike | error _ halike =>
    obtain ⟨hconn, hcarrier, hworld⟩ := Tcp.alike_iff.1 halike
    simp only [hcarrier]
    exact .mk _ hconn ((h.setHost hworld).setChannel _)

theorem handleControl (h : Alike s t) (packet : Ipv4.Packet) (sender : Endpoint) :
    Alike (s.handleControl packet sender) (t.handleControl packet sender) := by
  unfold Scene.handleControl
  split
  · exact h.note _ _
  · next echo data _ =>
    have hdraw := (h.note (.echoRequested packet.source sender)
      (.echoRequested packet.source sender)).drawIdentification
    generalize (s.note _).drawIdentification = x at hdraw ⊢
    generalize (t.note _).drawIdentification = y at hdraw ⊢
    obtain @⟨identification, s', t', hdrawn⟩ := hdraw
    simp only
    split
    · exact hdrawn.note _ _
    · next reply _ =>
      have hsend := hdrawn.send reply sender
      generalize Scene.send reply sender s' = x at hsend ⊢
      generalize Scene.send reply sender t' = y at hsend ⊢
      obtain ⟨result, hsent⟩ := hsend
      rcases result with e | ⟨⟩
      · exact hsent.note _ _
      · exact hsent
  · exact h.note _ _
  · exact h

theorem settle (h : Alike s t) (key : Flow.Key) (result : Except TcpError Tcp.Disposition) :
    Alike (s.settle key result) (t.settle key result) := by
  unfold Scene.settle
  split
  · exact h
  · exact h.terminate key
  · exact (h.noteFailure key _).terminate key

theorem continueFlow (h : Alike s t) (key : Flow.Key) (hc : c.dateless = c'.dateless)
    (packet : Ipv4.Packet) (sender : Endpoint) (now : Nat) :
    Alike (s.continueFlow key c packet sender now) (t.continueFlow key c' packet sender now) := by
  have hgateway : c.gateway = c'.gateway := congrArg (·.gateway) hc
  have hstep := h.runStep
    (Tcp.Connection.accept_deaf (σ := σ) s.tunnel.profile.send_deaf packet now) hc
  unfold Scene.continueFlow
  rw [hgateway]
  split
  · exact h.note _ _
  · simp only [← h.profile]
    generalize Scene.runStep _ c s = x at hstep ⊢
    generalize Scene.runStep _ c' t = y at hstep ⊢
    obtain ⟨result, hconn, hscene⟩ := hstep
    exact (hscene.setLive key hconn).settle key result

theorem startFlow (h : Alike s t) (key : Flow.Key) (packet : Ipv4.Packet) (sender : Endpoint)
    (now : Nat) :
    Alike (s.startFlow key packet sender now) (t.startFlow key packet sender now) := by
  unfold Scene.startFlow
  rw [← h.channel, ← h.profile]
  simp only
  have hstep := (h.setChannel s.tunnel.channel.draw.2).runStep
    (Tcp.Connection.start_deaf (σ := σ) s.tunnel.profile.send_deaf packet now)
    (rfl : (Tcp.Connection.fresh key sender s.tunnel.profile.settings.relaySize
      ⟨s.tunnel.channel.draw.1, 0⟩ now).dateless = _)
  generalize Scene.runStep _ _ (s.setChannel s.tunnel.channel.draw.2) = x at hstep ⊢
  generalize Scene.runStep _ _ (t.setChannel s.tunnel.channel.draw.2) = y at hstep ⊢
  obtain @⟨result, d, d', s', t', hd, hscene⟩ := hstep
  rcases result with e | proceed | endSession
  · exact (hscene.setHost (discard_alike hd hscene.world)).noteFailure key e
  · exact hscene.setLive key hd
  · have hclose := close_alike hd hscene.world
    simp only
    generalize d.close s'.host = x at hclose ⊢
    generalize d'.close t'.host = y at hclose ⊢
    obtain ⟨result, -, hworld⟩ := hclose
    rcases result with fault | ⟨⟩
    · exact hscene.setHost hworld
    · exact hscene.setHost hworld

theorem dispatch (h : Alike s t) (packet : Ipv4.Packet) (sender : Endpoint) (now : Nat) :
    Alike (s.dispatch packet sender now) (t.dispatch packet sender now) := by
  have hsegment :
      Alike (s.handleSegment packet sender now) (t.handleSegment packet sender now) := by
    unfold Scene.handleSegment
    split
    · exact h.note _ _
    · next key _ =>
      split
      · have hlive := h.live key
        generalize s.live? key = o at hlive ⊢
        generalize t.live? key = o' at hlive ⊢
        cases hlive with
        | none => exact h.startFlow key packet sender now
        | some hc => exact h.continueFlow key hc packet sender now
      · exact h.note _ _
  unfold Scene.dispatch
  split
  · exact h.handleControl packet sender
  · split
    · exact hsegment
    · split
      · exact h.note _ _
      · split
        · exact h.note _ _
        · exact h.note _ _

theorem handleDatagram (h : Alike s t) (data : Bytes) (sender : Endpoint) (now : Nat) :
    EndAlike (s.handleDatagram data sender now) (t.handleDatagram data sender now) := by
  have htaken := h.decapsulate data
  unfold Scene.handleDatagram
  generalize s.decapsulate data = x at htaken ⊢
  generalize t.decapsulate data = y at htaken ⊢
  obtain ⟨result, hscene⟩ := htaken
  rcases result with e | packet
  · exact .mk _ hscene
  · exact .mk _ (hscene.dispatch packet sender now)

end Alike

/-! ## Pump ticks -/

/-- The live connection of a flow, if there is one, is idle for too long. -/
def Scene.isIdle (now : Nat) (key : Flow.Key) (s : Scene ω σ) : Bool :=
  (s.live? key).any fun conn => s.tunnel.profile.settings.tcpTimeout < conn.idle now

/-- In both scenes the same flows are idle for too long. -/
def SameIdle (now : Nat) (s t : Scene ω σ) : Prop := ∀ key, s.isIdle now key = t.isIdle now key

/-- Until the time-out has passed once, no flow is idle for too long. -/
theorem SameIdle.of_le {s t : Scene ω σ} {now : Nat}
    (hs : now ≤ s.tunnel.profile.settings.tcpTimeout)
    (ht : now ≤ t.tunnel.profile.settings.tcpTimeout) : SameIdle now s t := by
  have hidle : ∀ {s : Scene ω σ}, now ≤ s.tunnel.profile.settings.tcpTimeout →
      ∀ key, s.isIdle now key = false := fun hle key => by
    refine (Option.any_eq_false _ _).2 fun conn _ => ?_
    exact decide_eq_false (Nat.not_lt.2 (Nat.le_trans (Nat.sub_le now conn.lastContact) hle))
  intro key
  rw [hidle hs key, hidle ht key]

/-- What is no contact does not change which of the flows that stay live are idle. -/
theorem Unmet.isIdle {s t : Scene ω σ} (h : Unmet s t)
    (hprofile : t.tunnel.profile = s.tunnel.profile) (now : Nat) (key : Flow.Key) :
    t.isIdle now key = ((t.live? key).isSome && s.isIdle now key) := by
  unfold Scene.isIdle
  cases hlive : t.live? key with
  | none => rfl
  | some c' =>
    obtain ⟨c, hc, hages⟩ := h key c' hlive
    rw [hc, Option.any_some, Option.any_some, Option.isSome_some, Bool.true_and, hprofile,
      Tcp.Connection.idle, Tcp.Connection.idle, hages.lastContact]

theorem SameIdle.of_unmet {s s' t t' : Scene ω σ} {now : Nat} (h : SameIdle now s t)
    (hs : Unmet s s') (ht : Unmet t t') (hprofile : s'.tunnel.profile = s.tunnel.profile)
    (hprofile' : t'.tunnel.profile = t.tunnel.profile) (halike : Alike s' t') :
    SameIdle now s' t' := by
  intro key
  rw [hs.isIdle hprofile, ht.isIdle hprofile', (halike.live key).isSome_eq, h key]

namespace Alike

variable [Platform ω σ] {s t : Scene ω σ} {now : Nat}

theorem visitLive (h : Alike s t) (hidle : SameIdle now s t) (key : Flow.Key) :
    EndAlike (s.visitLive now key) (t.visitLive now key) := by
  have hlive := h.live key
  have hkey := hidle key
  unfold Scene.isIdle at hkey
  unfold Scene.visitLive
  generalize s.live? key = o at hlive hkey ⊢
  generalize t.live? key = o' at hlive hkey ⊢
  cases hlive with
  | none => exact .mk _ h
  | @some c c' hc =>
    have hstate : c.state = c'.state := congrArg (·.state) hc
    have hover : s.isOver now c = t.isOver now c' := by
      unfold Scene.isOver
      rw [Option.any_some, Option.any_some] at hkey
      rw [hkey, hstate]
    have hstep := h.runStep (Tcp.Connection.pump_deaf (σ := σ) s.tunnel.profile.send_deaf) hc
    simp only [hover, ← h.profile]
    split
    · exact .mk true (h.terminate key)
    · generalize Scene.runStep _ c s = x at hstep ⊢
      generalize Scene.runStep _ c' t = y at hstep ⊢
      obtain ⟨result, hd, hscene⟩ := hstep
      rcases result with e | relayed
      · exact .mk true (((hscene.setLive key hd).noteFailure key e).terminate key)
      · exact .mk relayed (hscene.setLive key hd)

theorem sweepLive (h : Alike s t) (hidle : SameIdle now s t) (keys : List Flow.Key) :
    EndAlike (s.sweepLive now keys) (t.sweepLive now keys) := by
  unfold Scene.sweepLive
  generalize false = acted
  -- A visit is no contact, so the flows that are not visited yet are still judged alike.
  induction keys generalizing s t acted with
  | nil => exact .mk acted h
  | cons key rest ih =>
    have hvisit := h.visitLive hidle key
    have hidle' := hidle.of_unmet (.visitLive now key s) (.visitLive now key t)
      (apart_visitLive now key s).profile (apart_visitLive now key t).profile hvisit.scene
    simp only [List.foldl_cons]
    generalize s.visitLive now key = x at hvisit hidle' ⊢
    generalize t.visitLive now key = y at hvisit hidle' ⊢
    obtain ⟨did, hscene⟩ := hvisit
    exact ih hscene hidle' (acted || did)

theorem visitParked (h : Alike s t) (key : Flow.Key) :
    Alike (s.visitParked key) (t.visitParked key) := by
  have hparked := h.parked key
  unfold Scene.visitParked
  generalize s.parked? key = o at hparked ⊢
  generalize t.parked? key = o' at hparked ⊢
  cases hparked with
  | none => exact h
  | @some c c' hc =>
    have hstate : c.state = c'.state := congrArg (·.state) hc
    have hstep := h.runStep (Tcp.Connection.pump_deaf (σ := σ) s.tunnel.profile.send_deaf) hc
    simp only [hstate, ← h.profile]
    split
    · refine (h.setHost (discard_alike hc h.world)).setSessions ?_
      rw [Flow.Table.mapValues_removeParked, Flow.Table.mapValues_removeParked, h.sessions]
    · generalize Scene.runStep _ c s = x at hstep ⊢
      generalize Scene.runStep _ c' t = y at hstep ⊢
      obtain @⟨result, d, d', s', t', hd, hscene⟩ := hstep
      rcases result with e | relayed
      · have hnoted := hscene.note (.parkedFailed key e) (.parkedFailed key e)
        have hclose := close_alike hd hnoted.world
        simp only
        generalize d.close (s'.note _).host = x at hclose ⊢
        generalize d'.close (t'.note _).host = y at hclose ⊢
        obtain ⟨result, hclosed, hworld⟩ := hclose
        exact (hnoted.setHost hworld).setParked key hclosed
      · exact hscene.setParked key hd

theorem sweepParked (h : Alike s t) (keys : List Flow.Key) :
    Alike (s.sweepParked keys) (t.sweepParked keys) := by
  unfold Scene.sweepParked
  induction keys generalizing s t with
  | nil => exact h
  | cons key rest ih => exact ih (h.visitParked key)

theorem sendProbe (h : Alike s t) : Alike s.sendProbe t.sendProbe := by
  unfold Scene.sendProbe Host.transmit
  simp only [h.profile, h.world]
  split
  · rcases Platform.transmit _ _ t.host.world with ⟨fault | ⟨⟩, world⟩
    · exact h.setHost rfl
    · exact h.setHost rfl
  · exact h

theorem probe (h : Alike s t) (now : Nat) : EndAlike (s.probe now) (t.probe now) := by
  have hdue : s.probeDue now = t.probeDue now := by
    unfold Scene.probeDue
    rw [h.profile, h.lastProbe]
  unfold Scene.probe
  rw [hdue]
  split
  · exact .mk true (sendProbe ⟨h.profile, h.channel, rfl, h.sessions, h.world⟩)
  · exact .mk false h

theorem pumpBy (h : Alike s t) (rota : Rota) (hidle : SameIdle now s t) :
    EndAlike (s.pumpBy rota now) (t.pumpBy rota now) := by
  have hprobe := h.probe now
  have hspared : ∀ s : Scene ω σ, Unmet s (s.probe now).2 ∧
      (s.probe now).2.tunnel.profile = s.tunnel.profile := fun s =>
    ⟨Unmet.swept.probe now s, ((spared_background default).probe now s).profile⟩
  have hidle' := hidle.of_unmet (hspared s).1 (hspared t).1 (hspared s).2 (hspared t).2 hprobe.scene
  unfold Scene.pumpBy
  generalize s.probe now = x at hprobe hidle' ⊢
  generalize t.probe now = y at hprobe hidle' ⊢
  obtain @⟨probed, s', t', hprobed⟩ := hprobe
  have hswept := hprobed.sweepLive hidle' (rota.live s'.tunnel.sessions.live.keys)
  simp only [← hprobed.liveKeys]
  generalize Scene.sweepLive now _ s' = x at hswept ⊢
  generalize Scene.sweepLive now _ t' = y at hswept ⊢
  obtain ⟨acted, hscene⟩ := hswept
  simp only [hscene.parkedKeys]
  exact .mk _ (hscene.sweepParked _)

end Alike

/-! ## Incidents -/

/-- The function does not look at the time of contact. -/
def Dateless (f : Tcp.Connection σ → σ → σ) : Prop := ∀ c, f c.dateless = f c

/-- An incident that can not tell two scenes apart by the times of contact in them. -/
def Incident.TreatsAlike (s t : Scene ω σ) : Incident ω σ → Prop
  | access (.operation (.pump _ now)) => SameIdle now s t
  | access _ => True
  | drift live parked _ => Dateless live ∧ Dateless parked

theorem mapValues_drifted {f : Tcp.Connection σ → σ → σ} (hf : Dateless f)
    (m : Assoc Flow.Key (Tcp.Connection σ)) :
    (m.mapValues (drifted f)).mapValues dateless =
      (m.mapValues dateless).mapValues (drifted f) := by
  have hcomm : dateless ∘ drifted f = drifted f ∘ dateless := by
    funext c
    simp only [Function.comp_apply, drifted, hf c]
    rfl
  rw [Assoc.mapValues_mapValues, Assoc.mapValues_mapValues, hcomm]

namespace Alike

variable [Platform ω σ] {s t : Scene ω σ}

theorem drift (h : Alike s t) {live parked : Tcp.Connection σ → σ → σ} (hlive : Dateless live)
    (hparked : Dateless parked) (world : ω → ω) :
    Alike ((Moment.drift live parked world).run s) ((Moment.drift live parked world).run t) := by
  refine (h.setHost (congrArg world h.world)).setSessions ?_
  have hlives := congrArg (·.live) h.sessions
  have hparkeds := congrArg (·.parked) h.sessions
  simp only [Flow.Table.mapValues] at hlives hparkeds ⊢
  rw [mapValues_drifted hlive, mapValues_drifted hlive, mapValues_drifted hparked,
    mapValues_drifted hparked, hlives, hparkeds]

/-- What happens to scenes that are alike leaves them alike. -/
theorem incident (h : Alike s t) (i : Incident ω σ) (hi : i.TreatsAlike s t) :
    Alike (i.run s) (i.run t) := by
  cases i with
  | drift live parked world => exact h.drift hi.1 hi.2 world
  | access access =>
    cases access with
    | endAll rota => exact h.terminateAllBy rota
    | closeLive key => exact (h.closeLive key).scene
    | closeParked key => exact (h.closeParked key).scene
    | operation op =>
      cases op with
      | handleDatagram data sender now => exact (h.handleDatagram data sender now).scene
      | dispatch packet sender now => exact h.dispatch packet sender now
      | pump rota now => exact (h.pumpBy rota hi).scene
      | terminate key => exact h.terminate key
      | release key => exact h.release key
      | send packet receiver => exact (h.send packet receiver).scene
      | ping source destination => exact (h.ping source destination).scene
      | encapsulate packet => exact (h.encapsulate packet).scene
      | decapsulate data => exact (h.decapsulate data).scene

end Alike

end Tunnel

end Ipsec
