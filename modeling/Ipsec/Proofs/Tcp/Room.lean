import Ipsec.Proofs.Tcp.Endpoints
import Ipsec.Proofs.Tcp.Relay
import Ipsec.Proofs.Tcp.Watch

/-!
# The room for pieces

A connection relays from its stream in pieces, and has room for one. It keeps that room over every
step, however the stream, the platform and the link fail, but for one failure: when a stream cannot
say what is available right after a piece was received from it (`falters`), the room is gone with
the piece. `relay_room` says so for every run. As long as there is room, a pump relays all that a
faithful stream has pending, also after other failures, and once it is gone a pump relays nothing.
-/

namespace Ipsec.Tcp

variable {κ ω σ : Type}

/-! ## Failures that take the room -/

/-- In some calls, the last one first, a stream failed to say what is available right after a piece
was received from it. -/
def falters : List Call → Bool
  | .available (.error _) :: .receive _ (.ok (_ :: _)) :: _ => true
  | _ :: earlier => falters earlier
  | [] => false

/-- The last of some calls did not receive a piece. -/
def isSettled : List Call → Bool
  | .receive _ (.ok (_ :: _)) :: _ => false
  | _ => true

section

variable (calls : List Call)

@[simp] theorem falters_send (data : Bytes) (r : Except IoFault Nat) :
    falters (.send data r :: calls) = falters calls := by
  simp [falters]

@[simp] theorem falters_receive (n : Nat) (r : Except IoFault Bytes) :
    falters (.receive n r :: calls) = falters calls := by
  simp [falters]

@[simp] theorem falters_available_ok (n : Nat) :
    falters (.available (.ok n) :: calls) = falters calls := by
  simp [falters]

variable {calls} in
theorem falters_available (h : isSettled calls) (r : Except IoFault Nat) :
    falters (.available r :: calls) = falters calls := by
  rw [falters]
  rintro _ _ _ _ _ - rfl
  cases h

end

/-- A stream that the connection held over its life faltered. -/
def Scene.faltered (s : Scene κ (Watch ω σ) (Watched σ)) : Bool :=
  s.records.any fun w => falters w.calls

theorem Faithful.watched [LocalStream σ] {P : σ → Bytes → Prop} (hP : Faithful P) :
    Faithful fun w : Watched σ => P w.stream where
  available {w pending} hw := by
    obtain ⟨u, havailable, hu⟩ := hP.available hw
    refine ⟨{ w with calls := .available (.ok pending.length) :: w.calls, stream := u }, ?_, hu⟩
    simp only [LocalStream.available, havailable]
  receive {w pending n} hw hn hne := by
    obtain ⟨piece, rest, u, hpiece, hsplit, hreceive, hu⟩ := hP.receive hw hn hne
    refine ⟨piece, rest, { w with calls := .receive n (.ok piece) :: w.calls, stream := u },
      hpiece, hsplit, ?_, hu⟩
    simp only [LocalStream.receive, hreceive]

theorem Works.watched {link : Link κ ω} {W : κ → Host ω → Prop} (hW : Works link W) :
    Works (watched (σ := σ) link) fun carrier host => W carrier ⟨host.world.world, host.log⟩ := by
  intro packet receiver carrier host hworks
  obtain ⟨carrier', host', hsent, hworks'⟩ := hW packet receiver carrier _ hworks
  exact ⟨carrier', ⟨{ host.world with world := host'.world }, host'.log⟩,
    by simp [Tcp.watched, hsent], hworks'⟩

namespace Connection

/-- The connection has its room for pieces, unless a stream faltered. -/
structure Roomy (size : Nat) (s : Scene κ (Watch ω σ) (Watched σ)) : Prop where
  room : s.conn.relaySize = if s.faltered then 0 else size
  settled : ∀ w, s.conn.stream = some w → isSettled w.calls

namespace Roomy

variable {size : Nat} {s t : Scene κ (Watch ω σ) (Watched σ)} {w v : Watched σ}

/-- The room depends on nothing but the records. -/
theorem congr (h : Roomy size s) (hsize : t.conn.relaySize = s.conn.relaySize)
    (hstream : t.conn.stream = s.conn.stream)
    (hclosed : t.host.world.closed = s.host.world.closed) : Roomy size t := by
  have hrecords : t.records = s.records := by rw [Scene.records, hstream, hclosed, Scene.records]
  refine ⟨?_, fun w hw => h.settled w (hstream.symm.trans hw)⟩
  rw [hsize, h.room, Scene.faltered, Scene.faltered, hrecords]

/-- A stream that does not falter at some calls leaves the room. -/
theorem hold (h : Roomy size (s.holding w)) (hsize : t.conn.relaySize = s.conn.relaySize)
    (hclosed : t.host.world.closed = s.host.world.closed)
    (hfalters : falters v.calls = falters w.calls) (hsettled : isSettled v.calls) :
    Roomy size (t.holding v) := by
  have hroom : s.conn.relaySize = if (s.holding w).faltered then 0 else size := h.room
  refine ⟨?_, fun u hu => ?_⟩
  · have hfaltered : (t.holding v).faltered = (s.holding w).faltered := by
      simp [Scene.faltered, Scene.records, Scene.holding, hfalters, hclosed]
    rw [hfaltered, ← hroom]
    exact hsize
  · obtain rfl : v = u := Option.some.inj hu
    exact hsettled

end Roomy

variable {link : Link κ (Watch ω σ)} {size : Nat}

/-- A reply leaves the room and all streams as they are. -/
theorem reply_leaves (hlink : IsBlindLink link) (flags : Flags) (data : Bytes)
    (s : Scene κ (Watch ω σ) (Watched σ)) :
    Ends (reply link flags data) s fun _ t =>
      t.conn.relaySize = s.conn.relaySize ∧ Untouched s t := by
  refine ((reply_conn link flags data s).and (reply_untouched hlink flags data s)).mono ?_
  rintro _ t ⟨⟨n, random, hconn⟩, huntouched⟩
  exact ⟨by rw [hconn], huntouched⟩

/-- Relaying keeps the room until the stream falters. -/
theorem relay_roomy [LocalStream σ] (hlink : IsBlindLink link) (w : Watched σ)
    (available total : Nat) (s : Scene κ (Watch ω σ) (Watched σ)) (h : Roomy size (s.holding w)) :
    Roomy size ((relay link w available total s).2.2.holding
      (relay link w available total s).2.1) := by
  fun_induction Connection.relay link w available total s with
  | case1 w total s => exact h
  | case2 w available total s _ fault w' hreceive =>
    obtain ⟨hcalls, -⟩ := Watched.of_receive hreceive
    exact h.hold rfl rfl (by simp [hcalls]) (by simp [hcalls, isSettled])
  | case3 w available total s _ w' hreceive =>
    obtain ⟨hcalls, -⟩ := Watched.of_receive hreceive
    exact h.hold rfl rfl (by simp [hcalls]) (by simp [hcalls, isSettled])
  | case4 w available total s _ byte bytes w' hreceive fault w'' havailable =>
    -- The one exit that loses the room, so the stream has to be one that faltered.
    obtain ⟨hcalls, -⟩ := Watched.of_receive hreceive
    obtain ⟨hcalls', -⟩ := Watched.of_available havailable
    refine ⟨?_, fun v hv => ?_⟩
    · have hfaltered : falters w''.calls := by rw [hcalls', hcalls]; rfl
      simp [Scene.faltered, Scene.records, Scene.holding, hfaltered]
    · obtain rfl : w'' = v := Option.some.inj hv
      rw [hcalls']
      rfl
  | case5 w available total s _ byte bytes w' hreceive more w'' havailable e t hreply =>
    obtain ⟨hcalls, -⟩ := Watched.of_receive hreceive
    obtain ⟨hcalls', -⟩ := Watched.of_available havailable
    obtain ⟨hsize, huntouched⟩ := (reply_leaves hlink _ _ s).of_error hreply
    exact h.hold hsize huntouched.closed (by simp [hcalls', hcalls]) (by simp [hcalls', isSettled])
  | case6 w available total s _ byte bytes w' hreceive more w'' havailable t hreply ih =>
    obtain ⟨hcalls, -⟩ := Watched.of_receive hreceive
    obtain ⟨hcalls', -⟩ := Watched.of_available havailable
    obtain ⟨hsize, huntouched⟩ := (reply_leaves hlink _ _ s).of_ok hreply
    have hnext := h.hold hsize huntouched.closed (v := w'') (by simp [hcalls', hcalls])
      (by simp [hcalls', isSettled])
    exact ih hnext

/-- A connection that holds a stream has the room that it has when the stream is put there. -/
theorem Roomy.holding {s : Scene κ (Watch ω σ) (Watched σ)} {w : Watched σ} (h : Roomy size s)
    (hw : s.conn.stream = some w) : Roomy size (s.holding w) := h.congr rfl hw.symm rfl

theorem drain_roomy [LocalStream σ] (hlink : IsBlindLink link)
    (s : Scene κ (Watch ω σ) (Watched σ)) :
    Ends (drain link) s fun _ t => Roomy size s → Roomy size t := by
  have hasked : ∀ w r w', s.conn.stream = some w → LocalStream.available w = (r, w') →
      Roomy size s → Roomy size (s.holding w') := by
    intro w r w' hw havailable h
    obtain ⟨hcalls, -⟩ := Watched.of_available havailable
    refine (h.holding hw).hold rfl rfl ?_ ?_
    · rw [hcalls, falters_available (h.settled w hw)]
    · rw [hcalls]
      rfl
  refine ends_drain (fun _ => id) (fun w fault w' hw havailable => hasked w _ w' hw havailable)
    fun w n w' r w'' t hw havailable hrelay h => ?_
  have hroomy := relay_roomy hlink w' n 0 s (hasked w _ w' hw havailable h)
  rwa [hrelay] at hroomy

theorem deliver_roomy [LocalStream σ] (data : Bytes) (s : Scene κ (Watch ω σ) (Watched σ)) :
    Ends (deliver data) s fun _ t => Roomy size s → Roomy size t := by
  refine ends_deliver (fun _ => id) fun w r w' hw hsend h => ?_
  obtain ⟨hcalls, -⟩ := Watched.of_send hsend
  refine (h.holding hw).hold rfl rfl ?_ ?_
  · rw [hcalls, falters_send]
  · rw [hcalls]
    rfl

theorem roomy_exchanged [LocalStream σ] (size : Nat) (hlink : IsBlindLink link) (data : Bytes) :
    Exchanged (σ := Watched σ) link data fun s t => Roomy size s → Roomy size t where
  refl _ := id
  trans h h' := h' ∘ h
  drain := drain_roomy hlink
  deliver := deliver_roomy data

/-! ## Steps -/

variable [Platform ω σ] {packet : Ipv4.Packet} {s t : Scene κ (Watch ω σ) (Watched σ)}
  {r : Except TcpError Disposition}

theorem Completed.roomy {segment : Segment} (h : Completed segment s r t) (hs : Roomy size s) :
    Roomy size t := by
  cases h with
  | refused => exact hs
  | unopened _ hnoted _ hconnect =>
    obtain ⟨-, hclosed⟩ := Watch.of_connect_error hconnect
    exact hs.congr rfl rfl (by rw [hclosed, hnoted.world_eq])
  | resumed _ hnoted _ => exact hs.congr rfl rfl (by rw [hnoted.world_eq])
  | @opened _ _ host'' stream _ hnoted hnone hconnect hnoted' =>
    obtain ⟨hcalls, -, -, -, hclosed⟩ := Watch.of_connect_ok hconnect
    rw [hnoted.world_eq, ← hnoted'.world_eq] at hclosed
    refine ⟨?_, fun w hw => ?_⟩
    · have hfaltered :
          s.faltered = (stream :: host''.world.closed).any fun w => falters w.calls := by
        simp [Scene.faltered, Scene.records, hnone, hcalls, hclosed, falters]
      have hroom := hs.room
      rw [hfaltered] at hroom
      exact hroom
    · obtain rfl := Option.some.inj hw
      rw [hcalls]
      rfl

theorem Handled.roomy
    (h : Handled link (fun s t => Roomy size s → Roomy size t) packet s r t)
    (hlink : IsBlindLink link) (hs : Roomy size s) : Roomy size t := by
  cases h with
  | unreadable => exact hs.congr rfl rfl rfl
  | closed => exact hs
  | listening _ _ h =>
    cases h with
    | refused => exact hs
    | unanswered _ hreply =>
      obtain ⟨hsize, huntouched⟩ := (reply_leaves hlink _ _ _).of_error hreply
      exact hs.congr hsize huntouched.stream huntouched.closed
    | answered _ hreply =>
      obtain ⟨hsize, huntouched⟩ := (reply_leaves hlink _ _ _).of_ok hreply
      exact hs.congr hsize huntouched.stream huntouched.closed
  | answered _ _ h => exact h.roomy hs
  | established _ _ h =>
    cases h with
    | ignored hnoted => exact hs.congr rfl rfl (by rw [hnoted.world_eq])
    | reset hnoted => exact hs.congr rfl rfl (by rw [hnoted.world_eq])
    | empty => exact hs.congr rfl rfl rfl
    | counted _ hnoted hR => exact hR (hs.congr rfl rfl (by rw [hnoted.world_eq]))
  | ending => exact hs.congr rfl rfl rfl

/-- A connection that is closed keeps its room, and its stream stays on record. -/
theorem Roomy.close {c : Connection (Watched σ)} {host : Host (Watch ω σ)}
    {result : Except IoFault Unit} (hs : Roomy size s)
    (hclose : s.conn.close s.host = (result, c, host)) :
    Roomy size { s with conn := c, host } := by
  obtain ⟨-, hclosed, rfl⟩ := close_records hclose
  refine ⟨?_, nofun⟩
  have hfaltered : s.faltered = host.world.closed.any fun w => falters w.calls := by
    simp [Scene.faltered, Scene.records, hclosed, Bool.or_comm]
  have hroom := hs.room
  rw [hfaltered] at hroom
  exact hroom

theorem accept_roomy (hlink : IsBlindLink link) (packet : Ipv4.Packet) (now : Nat)
    (hs : Roomy size s) : Ends (accept link packet now) s fun _ t => Roomy size t :=
  (accept_exchanges (roomy_exchanged size hlink _) now s).mono fun _ _ h =>
    h.roomy hlink (hs.congr rfl rfl rfl)

theorem start_roomy (hlink : IsBlindLink link) (packet : Ipv4.Packet) (now : Nat)
    (hs : Roomy size s) : Ends (start link packet now) s fun _ t => Roomy size t := by
  have hR := roomy_exchanged size hlink (carried packet)
  by_cases hclosed : s.conn.state = .closed
  · refine (start_exchanges hR now hclosed).mono fun r t h => ?_
    cases h with
    | handled _ h =>
      have hroomy := h.roomy hlink (hs.congr rfl rfl rfl)
      exact hroomy.congr rfl rfl rfl
    | aborted _ h hclose hnoted =>
      have hroomy := (h.roomy hlink (hs.congr rfl rfl rfl)).close hclose
      exact hroomy.congr rfl rfl (congrArg Watch.closed hnoted.world_eq)
  · unfold Ends start
    rw [if_pos hclosed]
    exact hs

theorem pump_roomy (hlink : IsBlindLink link) (hs : Roomy size s) :
    Ends (pump link) s fun _ t => Roomy size t :=
  (pump_drains (roomy_exchanged size hlink []).toDrained s).mono fun _ _ h => h.1 hs

/-! ## Runs -/

/-- What can happen to a connection over its life. -/
inductive Moment (κ ω σ : Type) where
  /-- It is started with a packet. -/
  | start (packet : Ipv4.Packet) (now : Nat)
  /-- It accepts a packet. -/
  | accept (packet : Ipv4.Packet) (now : Nat)
  /-- It is pumped. -/
  | pump
  /-- It is closed. -/
  | close
  /-- Its stream, its link and its host go on without it. -/
  | drift (stream : σ → σ) (carrier : κ → κ) (host : Host ω → Host ω)

namespace Moment

/-- What a moment makes of a scene on a watched platform, whether or not the connection fails. -/
def run (link : Link κ ω) (s : Scene κ (Watch ω σ) (Watched σ)) :
    Moment κ ω σ → Scene κ (Watch ω σ) (Watched σ)
  | start packet now => afterwards (Connection.start (watched link) packet now) s
  | accept packet now => afterwards (Connection.accept (watched link) packet now) s
  | pump => afterwards (Connection.pump (watched link)) s
  | close =>
    let (_, conn, host) := s.conn.close s.host
    { s with conn, host }
  | drift stream carrier host =>
    let inner := host ⟨s.host.world.world, s.host.log⟩
    { conn :=
        { s.conn with stream := s.conn.stream.map fun w => { w with stream := stream w.stream } }
      carrier := carrier s.carrier
      host := ⟨{ s.host.world with world := inner.world }, inner.log⟩ }

/-- What some moments make of a scene in turn. -/
def runAll (link : Link κ ω) (moments : List (Moment κ ω σ))
    (s : Scene κ (Watch ω σ) (Watched σ)) : Scene κ (Watch ω σ) (Watched σ) :=
  moments.foldl (run link) s

theorem run_roomy (link : Link κ ω) (m : Moment κ ω σ) (hs : Roomy size s) :
    Roomy size (m.run link s) := by
  have hlink := watched_isBlind (σ := σ) link
  cases m with
  | start packet now => exact (start_roomy hlink packet now hs).afterwards
  | accept packet now => exact (accept_roomy hlink packet now hs).afterwards
  | pump => exact (pump_roomy hlink hs).afterwards
  | close => exact hs.close rfl
  | drift stream carrier host =>
    have hroom := hs.room
    cases hw : s.conn.stream with
    | none =>
      refine ⟨?_, by simp [run, hw]⟩
      simpa [run, Scene.faltered, Scene.records, hw] using hroom
    | some w =>
      have hsettled := hs.settled w hw
      refine ⟨?_, by simpa [run, hw] using hsettled⟩
      simpa [run, Scene.faltered, Scene.records, hw] using hroom

theorem runAll_roomy (link : Link κ ω) (moments : List (Moment κ ω σ)) (hs : Roomy size s) :
    Roomy size (runAll link moments s) := by
  induction moments generalizing s with
  | nil => exact hs
  | cons m rest ih => exact ih (m.run_roomy link hs)

end Moment

/-! ## The room of a connection -/

/-- What is said about the relaying of a connection that was made for pieces of a given size. -/
structure RelayRoom (link : Link κ ω) (relaySize : Nat)
    (s : Scene κ (Watch ω σ) (Watched σ)) : Prop where
  /-- There is room for a piece, unless a stream faltered. -/
  room : s.conn.relaySize = if s.faltered then 0 else max relaySize 1
  /-- With room, a pump of an established connection hands over all that a faithful stream has
  pending, if the link works and the pieces fit into packets. -/
  relays : s.faltered = false → s.conn.state = .established →
    ∀ {P : σ → Bytes → Prop} {W : κ → Host ω → Prop} {w : Watched σ} {pending : Bytes},
      Faithful P → Works link W → s.conn.stream = some w → P w.stream pending →
      W s.carrier ⟨s.host.world.world, s.host.log⟩ →
      min (max relaySize 1) pending.length ≤ 65495 →
      Ends (Connection.pump (recorded (watched link))) ⟨s.conn, ⟨[], s.carrier⟩, s.host⟩ fun r t =>
        r = .ok (decide (0 < pending.length)) ∧ carriedAll t.carrier.handed = pending
  /-- Without room it hands over nothing. -/
  starves : s.faltered →
    Ends (Connection.pump (recorded (watched link))) ⟨s.conn, ⟨[], s.carrier⟩, s.host⟩ fun _ t =>
      t.carrier.handed = []

theorem Roomy.relayRoom (link : Link κ ω) {relaySize : Nat} (h : Roomy (max relaySize 1) s) :
    RelayRoom link relaySize s := by
  refine ⟨h.room, fun hfaltered hstate P W w pending hP hW hw hpending hworks hfits => ?relays,
    fun hfaltered => ?starves⟩
  case relays =>
    have hsize : s.conn.relaySize = max relaySize 1 := by simpa [hfaltered] using h.room
    rw [← hsize] at hfits
    have hroom : 0 < s.conn.relaySize := by
      rw [hsize]
      exact Nat.lt_of_lt_of_le Nat.zero_lt_one (Nat.le_max_right _ _)
    exact pump_relays (s := ⟨s.conn, ⟨[], s.carrier⟩, s.host⟩) hP.watched (Works.watched hW) hstate
      hw hpending hroom hfits hworks
  case starves =>
    have hsize : s.conn.relaySize = 0 := by simpa [hfaltered] using h.room
    exact (pump_starves (s := ⟨s.conn, ⟨[], s.carrier⟩, s.host⟩) hsize).mono fun _ t ht =>
      congrArg Recorded.handed ht.1

/-- **Relay room.** Over every life of a connection, only a stream that falters takes its room. -/
theorem relay_room (link : Link κ ω) (key : Flow.Key) (gateway : Endpoint) (relaySize : Nat)
    (random : Generator) (now : Nat) (carrier : κ) (world : ω) (log : List Notice)
    (moments : List (Moment κ ω σ)) :
    RelayRoom link relaySize (Moment.runAll link moments
      ⟨fresh key gateway relaySize random now, carrier, ⟨{ world }, log⟩⟩) := by
  refine (Moment.runAll_roomy link moments ⟨rfl, fun w hw => ?_⟩).relayRoom link
  cases hw

/-- A flow is opened, and its stream has twenty bytes. The stream fails once when it is asked what
comes after the first piece, and works again after that. -/
def sampleLife : List (Moment (Recorded Unit) Simulation.World Simulation.App) :=
  [.start (sampleSegment (.ofOctets 55 55 55 55) Flags.syn []) 0,
    .accept (sampleSegment (.ofOctets 55 55 55 55) Flags.ack []) 0,
    .drift (·.edit (.push (List.replicate 20 7))) id id,
    .drift (·.edit (.availableFault (some "busy") 1)) id id,
    .pump,
    .drift (·.edit (.availableFault none 0)) id id,
    .pump]

/-- A connection for pieces of eight bytes, at the end of that life. -/
def sampleSurvivor : Scene (Recorded Unit) (Watch Simulation.World Simulation.App)
    (Watched Simulation.App) :=
  Moment.runAll (recorded sampleLink) sampleLife
    ⟨fresh ⟨.ofOctets 10 0 0 5, 443⟩ (.v4 ⟨.ofOctets 203 0 113 1, 4500⟩) 8 ⟨1, 0⟩ 0, ⟨[], ()⟩,
      ⟨{ world := {} }, []⟩⟩

/-- The connection is established and its stream has bytes pending, but there is no room for them.
Only the answer to the opening segment was handed over. -/
theorem room_lost_by_probe :
    sampleSurvivor.conn.state = .established ∧ sampleSurvivor.conn.relaySize = 0
      ∧ sampleSurvivor.conn.stream.map (·.stream.pendingLength) = some 12
      ∧ sampleSurvivor.carrier.handed.length = 1 := by
  decide +kernel

end Connection

end Ipsec.Tcp
