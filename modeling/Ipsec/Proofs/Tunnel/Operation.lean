import Ipsec.Proofs.Esp.Opening
import Ipsec.Proofs.Tcp.Outcomes
import Ipsec.Tunnel.Dispatch
import Ipsec.Tunnel.Pump

/-!
# Operations of a tunnel

`Operation` lists what the owner of a tunnel can ask of it. A preorder on scenes has every operation
in it once it has the few parts that operations are made of: `Answering`, `Acting`, `Background`,
`Swept` and `Operated` name the parts, and `Operated.run` puts them together, sweeps included. An
invariant is the case of a preorder that leads from where it holds to where it holds (`Stable`).
Between operations the streams of a tunnel and its world go on by themselves, and a `Moment` is
either of the two.
-/

namespace Ipsec

/-- Taking a datagram apart logs routine notices. -/
theorem Esp.Association.decapsulate_notices (a : Association) (capture : Bool) (data : Bytes)
    (c : Channel) : ∀ n ∈ (a.decapsulate capture data c).notices, n.isRoutine = true := by
  have htag : ∀ n ∈ a.tagNotices data, n.isRoutine = true := by
    unfold tagNotices
    split <;> simp [Notice.isRoutine, Notice.showsViolation, Notice.isUnsent]
  have hsequence : ∀ sequence, ∀ n ∈ a.sequenceNotices sequence, n.isRoutine = true := by
    intro sequence
    unfold sequenceNotices
    split <;> simp [Notice.isRoutine, Notice.showsViolation, Notice.isUnsent]
  have hends := a.decapsulate_ends capture data c
  generalize a.decapsulate capture data c = opening at hends ⊢
  cases hends with
  | forged => exact htag
  | accepted => exact hsequence _
  | _ => simp

namespace Tunnel

open Tcp (StepM Ends)

variable {ω σ α : Type}

/-! ## Steps of a connection in a tunnel -/

namespace Scene

/-- A step of a connection, run by a tunnel, moves the channel and the host of the tunnel to where
the step ends. -/
theorem runStep_ends {step : StepM Esp.Channel ω σ α} {conn : Tcp.Connection σ} {s : Scene ω σ}
    {Q : Except TcpError α → Tcp.Scene Esp.Channel ω σ → Prop}
    (h : Ends step ⟨conn, s.tunnel.channel, s.host⟩ Q) :
    ∃ r t, s.runStep step conn = (r, t.conn, ({ s with host := t.host }).setChannel t.carrier)
      ∧ Q r t := by
  unfold Ends at h
  unfold runStep
  cases hstep : step ⟨conn, s.tunnel.channel, s.host⟩ with
  | ok a t =>
    rw [hstep] at h
    exact ⟨.ok a, t, rfl, h⟩
  | error e t =>
    rw [hstep] at h
    exact ⟨.error e, t, rfl, h⟩

theorem noteFailure_setLive (key : Flow.Key) (e : TcpError) (conn : Tcp.Connection σ)
    (s : Scene ω σ) :
    (s.setLive key conn).noteFailure key e = (s.noteFailure key e).setLive key conn := by
  unfold noteFailure
  split
  · rfl
  · split <;> rfl

theorem closeRemoved_tunnel [Platform ω σ] (key : Flow.Key) (conn : Option (Tcp.Connection σ))
    (s : Scene ω σ) : (s.closeRemoved key conn).tunnel = s.tunnel := by
  unfold closeRemoved
  split
  · rfl
  · split <;> rfl

/-- Ending a flow takes it out of both tables, and changes nothing else in the tunnel. -/
theorem terminate_tunnel [Platform ω σ] (key : Flow.Key) (s : Scene ω σ) :
    (s.terminate key).tunnel = { s.tunnel with sessions := (s.tunnel.sessions.remove key).2 } := by
  unfold terminate
  simp only [closeRemoved_tunnel]
  rfl

/-- How acting on a packet ends. -/
inductive Dispatched [Platform ω σ] (packet : Ipv4.Packet) (sender : Endpoint) (now : Nat)
    (s : Scene ω σ) : Scene ω σ → Prop where
  /-- It is a control message. -/
  | control : Dispatched packet sender now s (s.handleControl packet sender)
  /-- It is ignored. -/
  | noted (notice : Notice) (hn : notice.isRoutine = true) :
      Dispatched packet sender now s (s.note notice)
  /-- It goes to the live connection of its flow. -/
  | continued {key : Flow.Key} {conn : Tcp.Connection σ} (htcp : packet.protocol = Protocol.tcp)
      (hkey : Flow.Key.ofPacket? packet = some key) (hvalid : key.isValid)
      (hconn : s.live? key = some conn) :
      Dispatched packet sender now s (s.continueFlow key conn packet sender now)
  /-- Its flow has no live connection. -/
  | started {key : Flow.Key} (htcp : packet.protocol = Protocol.tcp)
      (hkey : Flow.Key.ofPacket? packet = some key) (hvalid : key.isValid)
      (hnone : s.live? key = none) :
      Dispatched packet sender now s (s.startFlow key packet sender now)

theorem dispatch_ends [Platform ω σ] (packet : Ipv4.Packet) (sender : Endpoint) (now : Nat)
    (s : Scene ω σ) : Dispatched packet sender now s (s.dispatch packet sender now) := by
  have hsegment (htcp : packet.protocol = Protocol.tcp) :
      Dispatched packet sender now s (s.handleSegment packet sender now) := by
    unfold handleSegment
    split
    · exact .noted _ rfl
    · next key hkey =>
      split
      · next hvalid =>
        split
        · next conn hconn => exact .continued htcp hkey hvalid hconn
        · next hnone => exact .started htcp hkey hvalid hnone
      · exact .noted _ rfl
  unfold dispatch
  split
  · exact .control
  · split
    · next htcp => exact hsegment htcp
    · split
      · exact .noted _ rfl
      · split <;> exact .noted _ rfl

end Scene

/-- How sending a packet ends. -/
inductive Profile.Sent [Platform ω σ] (p : Profile) (packet : Ipv4.Packet) (receiver : Endpoint)
    (channel : Esp.Channel) (host : Host ω) :
    Except EspError Unit × Esp.Channel × Host ω → Prop where
  /-- The packet cannot be wrapped. -/
  | unwrapped {e : EspError} {channel' : Esp.Channel}
      (hwrap : p.wrap packet channel = (.error e, channel')) :
      Sent p packet receiver channel host (.error e, channel', host)
  /-- The transport gets the datagram. -/
  | transmitted {datagram : Bytes} {channel' : Esp.Channel}
      (hwrap : p.wrap packet channel = (.ok datagram, channel'))
      (htransport : p.hasTransport = true) :
      Sent p packet receiver channel host
        ((host.transmit datagram receiver).1.mapError .transport, channel',
          (host.transmit datagram receiver).2)
  /-- There is no transport. -/
  | dropped {datagram : Bytes} {channel' : Esp.Channel}
      (hwrap : p.wrap packet channel = (.ok datagram, channel'))
      (htransport : p.hasTransport = false) :
      Sent p packet receiver channel host (.ok (), channel', host.note (.noTransport receiver))

theorem Profile.send_ends [Platform ω σ] (p : Profile) (packet : Ipv4.Packet)
    (receiver : Endpoint) (channel : Esp.Channel) (host : Host ω) :
    p.Sent packet receiver channel host (p.send packet receiver channel host) := by
  unfold send
  rcases hwrap : p.wrap packet channel with ⟨e | datagram, channel'⟩
  · exact .unwrapped hwrap
  · cases htransport : p.hasTransport with
    | false => exact .dropped hwrap htransport
    | true =>
      have hsent : p.Sent packet receiver channel host
          ((host.transmit datagram receiver).1.mapError .transport, channel',
            (host.transmit datagram receiver).2) :=
        .transmitted hwrap htransport
      simp only [if_true]
      split
      all_goals
        next h =>
          rw [h] at hsent
          exact hsent

/-! ## Operations -/

/-- A tunnel that visits all its flows in these orders visits each of them once. -/
structure Rota.IsFair (rota : Rota) : Prop where
  live : ∀ keys, (rota.live keys).Perm keys
  parked : ∀ keys, (rota.parked keys).Perm keys

/-- The orders of the tables are fair. -/
theorem Rota.isFair_default : Rota.IsFair {} := ⟨fun _ => .refl _, fun _ => .refl _⟩

/-- What can be asked of a tunnel. -/
inductive Operation where
  /-- Takes a datagram apart and acts on the packet inside. -/
  | handleDatagram (data : Bytes) (sender : Endpoint) (now : Nat)
  /-- Acts on a packet. -/
  | dispatch (packet : Ipv4.Packet) (sender : Endpoint) (now : Nat)
  /-- One pump tick, with the flows in given orders. -/
  | pump (rota : Rota) (now : Nat)
  /-- Ends a flow. -/
  | terminate (key : Flow.Key)
  /-- Parks a flow. -/
  | release (key : Flow.Key)
  /-- Sends a packet. -/
  | send (packet : Ipv4.Packet) (receiver : Endpoint)
  /-- Sends an echo request. -/
  | ping (source destination : Ipv4Address)
  /-- Wraps a packet. -/
  | encapsulate (packet : Ipv4.Packet)
  /-- Takes a datagram apart. -/
  | decapsulate (data : Bytes)

/-- What an operation makes of a scene. -/
def Operation.run [Platform ω σ] (s : Scene ω σ) : Operation → Scene ω σ
  | handleDatagram data sender now => (s.handleDatagram data sender now).2
  | dispatch packet sender now => s.dispatch packet sender now
  | pump rota now => (s.pumpBy rota now).2
  | terminate key => s.terminate key
  | release key => s.release key
  | send packet receiver => (s.send packet receiver).2
  | ping source destination => (s.ping source destination).2
  | encapsulate packet => (s.encapsulate packet).2
  | decapsulate data => (s.decapsulate data).2

/-! ## Preorders on scenes -/

/-- A preorder on scenes that answering a packet outside the flows stays in. -/
structure Answering [Platform ω σ] (R : Scene ω σ → Scene ω σ → Prop) : Prop where
  refl : ∀ s, R s s
  trans : ∀ {s t u}, R s t → R t u → R s u
  /-- Logging a routine notice. -/
  note : ∀ s notice, notice.isRoutine = true → R s (s.note notice)
  /-- Drawing a packet identification. -/
  drawIdentification : ∀ s, R s s.drawIdentification.2
  /-- Wrapping a packet and sending it. -/
  send : ∀ s packet receiver, R s (s.send packet receiver).2

/-- A preorder on scenes that acting on a packet stays in. -/
structure Acting [Platform ω σ] (R : Scene ω σ → Scene ω σ → Prop) : Prop
    extends Answering R where
  /-- Passing a packet to a live connection. -/
  continueFlow : ∀ {s key conn} packet sender now, Flow.Key.ofPacket? packet = some key →
    key.isValid → s.live? key = some conn → R s (s.continueFlow key conn packet sender now)
  /-- Starting a connection. -/
  startFlow : ∀ {s key} packet sender now, Flow.Key.ofPacket? packet = some key →
    key.isValid → s.live? key = none → R s (s.startFlow key packet sender now)

/-- A preorder on scenes that the parts of operations which touch no flow stay in. -/
structure Background [Platform ω σ] (R : Scene ω σ → Scene ω σ → Prop) : Prop
    extends Answering R where
  /-- Noting the time of a probe. -/
  setLastProbe : ∀ (s : Scene ω σ) lastProbe,
    R s { s with tunnel := { s.tunnel with lastProbe } }
  /-- Sending a probe. -/
  transmitProbe : ∀ (s : Scene ω σ) receiver,
    R s { s with host := (s.host.transmit Scene.keepAliveProbe receiver).2 }

/-- A preorder on scenes that a pump tick stays in. -/
structure Swept [Platform ω σ] (R : Scene ω σ → Scene ω σ → Prop) : Prop
    extends Background R where
  /-- Visiting a live flow. -/
  visitLive : ∀ s now key, R s (s.visitLive now key).2
  /-- Visiting a parked flow. -/
  visitParked : ∀ s key, R s (s.visitParked key)

/-- A preorder on scenes that all stay in but wrapping a packet and taking a datagram apart. -/
structure Operated [Platform ω σ] (R : Scene ω σ → Scene ω σ → Prop) : Prop
    extends Swept R, Acting R where
  /-- Ending a flow. -/
  terminate : ∀ s key, R s (s.terminate key)
  /-- Parking a flow. -/
  release : ∀ s key, R s (s.release key)

section

variable [Platform ω σ] {R : Scene ω σ → Scene ω σ → Prop}

theorem Answering.ping (hR : Answering R) (source destination : Ipv4Address) (s : Scene ω σ) :
    R s (s.ping source destination).2 := by
  unfold Scene.ping
  have hdraw := hR.drawIdentification s
  simp only
  split
  · exact hdraw
  · exact hR.trans hdraw (hR.trans (hR.note _ _ rfl) (hR.send _ _ _))

theorem Answering.handleControl (hR : Answering R) (packet : Ipv4.Packet) (sender : Endpoint)
    (s : Scene ω σ) : R s (s.handleControl packet sender) := by
  unfold Scene.handleControl
  split
  · exact hR.note _ _ rfl
  · next echo data _ =>
    have hdraw := hR.trans (hR.note s (.echoRequested packet.source sender) rfl)
      (hR.drawIdentification _)
    simp only
    split
    · exact hR.trans hdraw (hR.note _ _ rfl)
    · next reply _ =>
      have hsend := hR.trans hdraw (hR.send _ reply sender)
      split
      · next h =>
        rw [h] at hsend
        exact hsend
      · next h =>
        rw [h] at hsend
        exact hR.trans hsend (hR.note _ _ rfl)
  · exact hR.note _ _ rfl
  · exact hR.refl s

theorem Background.probe (hR : Background R) (now : Nat) (s : Scene ω σ) :
    R s (s.probe now).2 := by
  unfold Scene.probe
  split
  · have hdue := hR.setLastProbe s now
    unfold Scene.sendProbe
    simp only
    split
    · have hsent := hR.trans hdue
        (hR.transmitProbe _ s.tunnel.profile.gatewayEndpoint)
      split
      · next host h =>
        rw [h] at hsent
        exact hsent
      · next fault host h =>
        rw [h] at hsent
        exact hR.trans hsent (hR.note _ _ rfl)
    · exact hdue
  · exact hR.refl s

theorem Swept.sweepLive (hR : Swept R) (now : Nat) (keys : List Flow.Key) (s : Scene ω σ) :
    R s (s.sweepLive now keys).2 := by
  unfold Scene.sweepLive
  generalize false = acted
  induction keys generalizing s acted with
  | nil => exact hR.refl s
  | cons key rest ih => exact hR.trans (hR.visitLive s now key) (ih _ _)

theorem Swept.sweepParked (hR : Swept R) (keys : List Flow.Key) (s : Scene ω σ) :
    R s (s.sweepParked keys) := by
  unfold Scene.sweepParked
  induction keys generalizing s with
  | nil => exact hR.refl s
  | cons key rest ih => exact hR.trans (hR.visitParked s key) (ih _)

/-- A pump tick stays in the preorder if its visits do. -/
theorem Swept.pumpBy (hR : Swept R) (rota : Rota) (now : Nat) (s : Scene ω σ) :
    R s (s.pumpBy rota now).2 :=
  hR.trans (hR.trans (hR.probe now s) (hR.sweepLive now _ _)) (hR.sweepParked _ _)

theorem Acting.dispatched (hR : Acting R) {packet : Ipv4.Packet} {sender : Endpoint}
    {now : Nat} {s t : Scene ω σ} (h : Scene.Dispatched packet sender now s t) : R s t := by
  cases h with
  | control => exact hR.handleControl packet sender s
  | noted notice hn => exact hR.note s notice hn
  | continued _ hkey hvalid hconn => exact hR.continueFlow packet sender now hkey hvalid hconn
  | started _ hkey hvalid hnone => exact hR.startFlow packet sender now hkey hvalid hnone

theorem Acting.dispatch (hR : Acting R) (packet : Ipv4.Packet) (sender : Endpoint)
    (now : Nat) (s : Scene ω σ) : R s (s.dispatch packet sender now) :=
  hR.dispatched (s.dispatch_ends packet sender now)

/-- What follows when a datagram was taken apart stays in the preorder. -/
theorem Acting.acted (hR : Acting R) (data : Bytes) (sender : Endpoint) (now : Nat)
    (s : Scene ω σ) : R (s.decapsulate data).2 (s.handleDatagram data sender now).2 := by
  unfold Scene.handleDatagram
  rcases s.decapsulate data with ⟨e | packet, t⟩
  · exact hR.refl t
  · exact hR.dispatch packet sender now t

/-- An operation stays in the preorder if wrapping a packet and taking a datagram apart do. -/
theorem Operated.run (hR : Operated R) (hencapsulate : ∀ s packet, R s (s.encapsulate packet).2)
    (hdecapsulate : ∀ s data, R s (s.decapsulate data).2) (op : Operation) (s : Scene ω σ) :
    R s (op.run s) := by
  cases op with
  | handleDatagram data sender now =>
    exact hR.trans (hdecapsulate s data) (hR.acted data sender now s)
  | dispatch packet sender now => exact hR.dispatch packet sender now s
  | pump rota now => exact hR.pumpBy rota now s
  | terminate key => exact hR.terminate s key
  | release key => exact hR.release s key
  | send packet receiver => exact hR.send s packet receiver
  | ping source destination => exact hR.ping source destination s
  | encapsulate packet => exact hencapsulate s packet
  | decapsulate data => exact hdecapsulate s data

end

/-! ## Invariants -/

/-- An invariant of scenes that every part of an operation keeps. -/
structure Stable [Platform ω σ] (I : Scene ω σ → Prop) : Prop where
  /-- Logging a harmless notice. -/
  note : ∀ {s} notice, notice.showsViolation = false → I s → I (s.note notice)
  /-- Drawing random values, counting and numbering. -/
  setChannel : ∀ {s} channel, I s → I (s.setChannel channel)
  /-- Noting the time of a probe. -/
  setLastProbe : ∀ {s : Scene ω σ} lastProbe, I s →
    I { s with tunnel := { s.tunnel with lastProbe } }
  /-- Sending a datagram. -/
  transmit : ∀ {s : Scene ω σ} data receiver, I s →
    I { s with host := (s.host.transmit data receiver).2 }
  /-- Ending a flow. -/
  terminate : ∀ {s} key, I s → I (s.terminate key)
  /-- Parking a flow. -/
  release : ∀ {s} key, I s → I (s.release key)
  /-- Passing a packet to a live connection. -/
  continueFlow : ∀ {s key conn} packet sender now, Flow.Key.ofPacket? packet = some key →
    key.isValid → s.live? key = some conn → I s → I (s.continueFlow key conn packet sender now)
  /-- Starting a connection. -/
  startFlow : ∀ {s key} packet sender now, Flow.Key.ofPacket? packet = some key →
    key.isValid → s.live? key = none → I s → I (s.startFlow key packet sender now)
  /-- Visiting a live flow. -/
  visitLive : ∀ {s} now key, I s → I (s.visitLive now key).2
  /-- Visiting a parked flow. -/
  visitParked : ∀ {s} key, I s → I (s.visitParked key)

namespace Stable

variable [Platform ω σ] {I : Scene ω σ → Prop} {s : Scene ω σ}

theorem send (hI : Stable I) (packet : Ipv4.Packet) (receiver : Endpoint) (hs : I s) :
    I (s.send packet receiver).2 := by
  have hhost : I { s with
      host := (s.tunnel.profile.send packet receiver s.tunnel.channel s.host).2.2 } := by
    have hends := s.tunnel.profile.send_ends packet receiver s.tunnel.channel s.host
    generalize s.tunnel.profile.send packet receiver s.tunnel.channel s.host = x at hends ⊢
    cases hends with
    | unwrapped => exact hs
    | transmitted => exact hI.transmit _ receiver hs
    | dropped => exact hI.note _ rfl hs
  unfold Scene.send
  exact hI.setChannel _ hhost

/-- To keep an invariant is a preorder on scenes. -/
theorem operated (hI : Stable I) : Operated fun s t => I s → I t where
  refl _ := id
  trans h h' := h' ∘ h
  note _ notice hn := hI.note notice (Notice.showsViolation_of_isRoutine hn)
  drawIdentification _ := hI.setChannel _
  send _ packet receiver := hI.send packet receiver
  setLastProbe _ lastProbe := hI.setLastProbe lastProbe
  transmitProbe _ receiver := hI.transmit Scene.keepAliveProbe receiver
  visitLive _ now key := hI.visitLive now key
  visitParked _ key := hI.visitParked key
  terminate _ key := hI.terminate key
  release _ key := hI.release key
  continueFlow := hI.continueFlow
  startFlow := hI.startFlow

theorem noteAll (hI : Stable I) {notices : List Notice}
    (hn : ∀ n ∈ notices, n.showsViolation = false) (hs : I s) :
    I { s with host := s.host.noteAll notices } := by
  induction notices generalizing s with
  | nil => simpa [Host.noteAll] using hs
  | cons n rest ih =>
    have hrest := ih (fun m hm => hn m (List.mem_cons_of_mem n hm))
      (hI.note n (hn n List.mem_cons_self) hs)
    simpa [Scene.note, Host.note, Host.noteAll] using hrest

theorem decapsulate (hI : Stable I) (data : Bytes) (hs : I s) : I (s.decapsulate data).2 := by
  have hnotices := s.tunnel.profile.association.decapsulate_notices
    s.tunnel.profile.settings.captureTraffic data s.tunnel.channel
  unfold Scene.decapsulate
  exact hI.setChannel _ (hI.noteAll (fun n hn =>
    Notice.showsViolation_of_isRoutine (hnotices n hn)) hs)

/-- What the parts of operations keep, operations keep. -/
theorem run (hI : Stable I) (op : Operation) (hs : I s) : I (op.run s) :=
  hI.operated.run (fun _ _ => hI.setChannel _) (fun _ data => hI.decapsulate data) op s hs

end Stable

/-! ## Runs -/

/-- What happens to a tunnel: an operation, or its streams and its world go on without it. -/
inductive Moment (ω σ : Type) where
  /-- The tunnel is asked for something. -/
  | operation (op : Operation)
  /-- The streams of the live and of the parked connections change, and the world does. -/
  | drift (live parked : Tcp.Connection σ → σ → σ) (world : ω → ω)

/-- The connection with its stream changed. -/
def drifted (f : Tcp.Connection σ → σ → σ) (c : Tcp.Connection σ) : Tcp.Connection σ :=
  { c with stream := c.stream.map (f c) }

/-- What a moment makes of a scene. -/
def Moment.run [Platform ω σ] (s : Scene ω σ) : Moment ω σ → Scene ω σ
  | operation op => op.run s
  | drift live parked world =>
    { s with host := { s.host with world := world s.host.world } }.setSessions
      ⟨s.tunnel.sessions.live.mapValues (drifted live),
        s.tunnel.sessions.parked.mapValues (drifted parked)⟩

/-- What some moments make of a scene in turn. -/
def Moment.runAll [Platform ω σ] (moments : List (Moment ω σ)) (s : Scene ω σ) : Scene ω σ :=
  moments.foldl run s

end Tunnel

end Ipsec
