import Ipsec.Proofs.Tcp.Draining
import Ipsec.Proofs.Tunnel.Parked
import Ipsec.Proofs.Tunnel.Records
import Ipsec.Proofs.Tunnel.Sweeping

/-!
# What a tick reports

A pump tick says whether it did anything. It reports a keep-alive probe that fell due, a live
connection that was ended, and bytes that were relayed from the stream of a live connection
(`tick_reports`). A tick that reports nothing did no more for the live connections than to ask their
streams what they have, and sent nothing for them. What it does for parked connections is not
reported: a tick can relay from a parked connection, send what it relays, and report nothing
(`parked_work_unreported`).

A pump of one connection reports right whether bytes were received from its stream
(`pump_receives`). A visit of a live flow reports right whether it served the flow, and the flows of
a sweep are visited apart from each other, so that the reports of the visits add up.
-/

namespace Ipsec

open LocalStream (Drawn)

variable {κ ω σ : Type}

/-- The bytes received from the stream. -/
def Watched.received (w : Watched σ) : Bytes := w.pieces.flatten

namespace Watched

variable [LocalStream σ] {w w' : Watched σ}

theorem received_of_available {r : Except IoFault Nat} (h : LocalStream.available w = (r, w')) :
    w'.received = w.received := by
  rw [received, pieces_of_available h, received]

theorem received_of_receive {n : Nat} {r : Except IoFault Bytes}
    (h : LocalStream.receive n w = (r, w')) :
    w'.received = w.received ++ r.toOption.toList.flatten := by
  rw [received, pieces_of_receive h, List.flatten_append, received]

end Watched

namespace Tcp

namespace Connection

/-- The bytes received from the stream that the connection holds. -/
def received (c : Connection (Watched σ)) : Bytes := (c.stream.map Watched.received).getD []

/-- The stream of a connection was asked what it has, and gave nothing. -/
structure Asked [LocalStream σ] (c c' : Connection (Watched σ)) : Prop where
  conn : c' = { c with stream := c'.stream }
  stream : Option.Rel Drawn c.stream c'.stream
  received : c'.received = c.received

theorem Asked.refl [LocalStream σ] (c : Connection (Watched σ)) : c.Asked c := by
  refine ⟨rfl, ?_, rfl⟩
  cases c.stream with
  | none => exact .none
  | some w => exact .some (.refl w)

theorem Asked.trans [LocalStream σ] {c c' c'' : Connection (Watched σ)} (h : c.Asked c')
    (h' : c'.Asked c'') : c.Asked c'' := by
  refine ⟨?_, ?_, h'.received.trans h.received⟩
  · have hconn := h'.conn
    rw [h.conn] at hconn
    exact hconn
  · have hstream := h.stream
    have hstream' := h'.stream
    revert hstream hstream'
    generalize c.stream = v, c'.stream = w, c''.stream = w'
    rintro (hdrawn | _) (hdrawn' | _)
    · exact .some (hdrawn.trans hdrawn')
    · exact .none

/-! ## Pumps -/

variable [LocalStream σ] {link : Link κ ω}

/-- Relaying counts the bytes that it receives. If there are none, nothing else happens. -/
theorem relay_receives (link : Link κ ω) (w : Watched σ) (available total : Nat)
    (s : Scene κ ω (Watched σ)) :
    ∃ bytes, (relay link w available total s).2.1.received = w.received ++ bytes ∧
      ∀ n, (relay link w available total s).1 = .ok n →
        n = total + bytes.length ∧ (bytes = [] → (relay link w available total s).2.2 = s) := by
  fun_induction Connection.relay link w available total s with
  | case1 w total s =>
    refine ⟨[], (List.append_nil _).symm, fun n hn => ?_⟩
    exact ⟨(Except.ok.inj hn).symm, fun _ => rfl⟩
  | case2 w available total s _ fault w' hreceive =>
    exact ⟨[], Watched.received_of_receive hreceive, fun _ hok => by cases hok⟩
  | case3 w available total s _ w' hreceive =>
    refine ⟨[], Watched.received_of_receive hreceive, fun n hn => ?_⟩
    exact ⟨(Except.ok.inj hn).symm, fun _ => rfl⟩
  | case4 w available total s _ byte bytes w' hreceive fault w'' havailable =>
    refine ⟨byte :: bytes, ?_, fun _ hok => by cases hok⟩
    simp [Watched.received_of_available havailable, Watched.received_of_receive hreceive,
      Except.toOption]
  | case5 w available total s _ byte bytes w' hreceive more w'' havailable e t hreply =>
    refine ⟨byte :: bytes, ?_, fun _ hok => by cases hok⟩
    simp [Watched.received_of_available havailable, Watched.received_of_receive hreceive,
      Except.toOption]
  | case6 w available total s _ byte bytes w' hreceive more w'' havailable t hreply ih =>
    obtain ⟨rest, hreceived, hok⟩ := ih
    refine ⟨byte :: bytes ++ rest, ?_, fun n hn => ⟨?_, fun hnone => ?_⟩⟩
    · simp [hreceived, Watched.received_of_available havailable,
        Watched.received_of_receive hreceive, Except.toOption]
    · rw [(hok n hn).1, List.length_append, List.length_cons]
      omega
    · simp at hnone

/-- From `s` to `t` a connection only asked its stream what it has. -/
structure OnlyAsked (s t : Scene κ ω (Watched σ)) : Prop where
  carrier : t.carrier = s.carrier
  host : t.host = s.host
  conn : s.conn.Asked t.conn

/-- A drain counts the bytes that it receives. -/
theorem drain_receives (link : Link κ ω) (s : Scene κ ω (Watched σ)) :
    Ends (drain link) s fun r t => ∃ bytes, t.conn.received = s.conn.received ++ bytes ∧
      ∀ n, r = .ok n → n = bytes.length ∧ (bytes = [] → OnlyAsked s t) := by
  have hdrawn : Ends (drain link) s fun _ t => Option.Rel Drawn s.conn.stream t.conn.stream :=
    drain_drawn s
  have hreceives : Ends (drain link) s fun r t =>
      ∃ bytes, t.conn.received = s.conn.received ++ bytes ∧ ∀ n, r = .ok n → n = bytes.length ∧
        (bytes = [] → t.carrier = s.carrier ∧ t.host = s.host
          ∧ t.conn = { s.conn with stream := t.conn.stream }) := by
    refine ends_drain (fun hnone => ?none) (fun w fault w' hw hfault => ?fault)
      fun w n w' r v t hw havailable hrelay => ?relay
    case none =>
      refine ⟨[], (List.append_nil _).symm, fun n hn => ?_⟩
      exact ⟨(Except.ok.inj hn).symm, fun _ => ⟨rfl, rfl, rfl⟩⟩
    case fault =>
      refine ⟨[], ?_, fun _ hok => by cases hok⟩
      simp [received, Scene.holding, hw, Watched.received_of_available hfault]
    case relay =>
      obtain ⟨bytes, hreceived, hok⟩ := relay_receives link w' n 0 s
      rw [hrelay] at hreceived hok
      refine ⟨bytes, ?_, fun m hm => ?_⟩
      · simp [received, Scene.holding, hw, hreceived, Watched.received_of_available havailable]
      · obtain ⟨hcount, hsame⟩ := hok m hm
        rw [Nat.zero_add] at hcount
        refine ⟨hcount, fun hbytes => ?_⟩
        obtain rfl : t = s := hsame hbytes
        exact ⟨rfl, rfl, rfl⟩
  refine (hdrawn.and hreceives).mono fun r t h => ?_
  obtain ⟨hstream, bytes, hreceived, hok⟩ := h
  refine ⟨bytes, hreceived, fun n hn => ⟨(hok n hn).1, fun hbytes => ?_⟩⟩
  obtain ⟨hcarrier, hhost, hconn⟩ := (hok n hn).2 hbytes
  rw [hbytes, List.append_nil] at hreceived
  exact ⟨hcarrier, hhost, hconn, hstream, hreceived⟩

/-- A pump reports whether bytes were received. If there were none, the stream was only asked. -/
theorem pump_receives (link : Link κ ω) (s : Scene κ ω (Watched σ)) :
    Ends (pump link) s fun r t => ∃ bytes, t.conn.received = s.conn.received ++ bytes ∧
      ∀ relayed, r = .ok relayed →
        (relayed = true ↔ bytes ≠ []) ∧ (relayed = false → OnlyAsked s t) := by
  unfold pump
  simp only [ends_bind, ends_get, ends_ite, ends_pure]
  refine ⟨fun _ => ?established, fun _ => ?other⟩
  case established =>
    refine (drain_receives link s).mono fun r t h => ?_
    obtain ⟨bytes, hreceived, hok⟩ := h
    cases r with
    | error e => exact ⟨bytes, hreceived, fun _ hok => by cases hok⟩
    | ok n =>
      obtain ⟨rfl, hasked⟩ := hok n rfl
      refine ⟨bytes, hreceived, fun relayed hrelayed => ?_⟩
      obtain rfl := Except.ok.inj hrelayed
      rw [decide_eq_true_eq, decide_eq_false_iff_not, List.length_pos_iff]
      exact ⟨Iff.rfl, fun hnone => hasked (Decidable.not_not.1 hnone)⟩
  case other =>
    refine ⟨[], (List.append_nil _).symm, fun relayed hrelayed => ?_⟩
    obtain rfl := Except.ok.inj hrelayed
    exact ⟨by simp, fun _ => ⟨rfl, rfl, .refl _⟩⟩

end Connection

end Tcp

namespace Tunnel

open Tcp.Connection (Asked pump_receives)

variable [Platform ω σ] {now : Nat} {key : Flow.Key} {s t u : Scene (Watch ω σ) (Watched σ)}

/-! ## Visits -/

/-- Something was done for a live connection: it was ended, or bytes were relayed from its
stream. -/
def Served (before after : Option (Tcp.Connection (Watched σ))) : Prop :=
  ∃ c, before = some c ∧ (after = none ∨ ∃ c' bytes, after = some c' ∧ bytes ≠ []
    ∧ c'.received = c.received ++ bytes)

/-- From `s` to `t` the streams of live connections were asked what they have, and nothing else
happened. -/
structure Idled (s t : Scene (Watch ω σ) (Watched σ)) : Prop where
  host : t.host = s.host
  channel : t.tunnel.channel = s.tunnel.channel
  profile : t.tunnel.profile = s.tunnel.profile
  lastProbe : t.tunnel.lastProbe = s.tunnel.lastProbe
  live : ∀ key, Option.Rel Asked (s.live? key) (t.live? key)
  parked : t.tunnel.sessions.parked = s.tunnel.sessions.parked

theorem Idled.refl (s : Scene (Watch ω σ) (Watched σ)) : Idled s s := by
  refine ⟨rfl, rfl, rfl, rfl, fun key => ?_, rfl⟩
  cases s.live? key with
  | none => exact .none
  | some c => exact .some (.refl c)

theorem Idled.trans (h : Idled s t) (h' : Idled t u) : Idled s u := by
  refine ⟨h'.host.trans h.host, h'.channel.trans h.channel, h'.profile.trans h.profile,
    h'.lastProbe.trans h.lastProbe, fun key => ?_, h'.parked.trans h.parked⟩
  have hlive := h.live key
  have hlive' := h'.live key
  revert hlive hlive'
  generalize s.live? key = c, t.live? key = c', u.live? key = c''
  rintro (hasked | _) (hasked' | _)
  · exact .some (hasked.trans hasked')
  · exact .none

/-- A visit of a live flow reports whether it served the flow. If it did not, it only asked. -/
theorem visitLive_reports (now : Nat) (key : Flow.Key) (s : Scene (Watch ω σ) (Watched σ)) :
    ((s.visitLive now key).1 = true ↔ Served (s.live? key) ((s.visitLive now key).2.live? key)) ∧
      ((s.visitLive now key).1 = false → Idled s (s.visitLive now key).2) := by
  unfold Scene.visitLive
  cases hconn : s.live? key with
  | none =>
    refine ⟨⟨nofun, ?_⟩, fun _ => .refl s⟩
    rintro ⟨c, hc, -⟩
    cases hc
  | some conn =>
    simp only
    split
    · refine ⟨⟨fun _ => ⟨conn, rfl, .inl (by simp)⟩, fun _ => rfl⟩, nofun⟩
    · obtain ⟨r, u, hstep, bytes, hreceived, hok⟩ := Scene.runStep_ends (s := s)
        (pump_receives s.tunnel.profile.send ⟨conn, s.tunnel.channel, s.host⟩)
      simp only [hstep]
      cases r with
      | error e => exact ⟨⟨fun _ => ⟨conn, rfl, .inl (by simp)⟩, fun _ => rfl⟩, nofun⟩
      | ok relayed =>
        obtain ⟨hrelayed, hasked⟩ := hok relayed rfl
        refine ⟨?served, fun hidle => ?idled⟩
        case served =>
          rw [hrelayed, Scene.live?_setLive, if_pos rfl]
          refine ⟨fun hbytes => ⟨conn, rfl, .inr ⟨u.conn, bytes, rfl, hbytes, hreceived⟩⟩, ?_⟩
          rintro ⟨c, hc, hended | ⟨c', more, hc', hmore, hreceived'⟩⟩
          · cases hended
          · cases hc
            cases hc'
            rw [hreceived] at hreceived'
            rwa [List.append_cancel_left hreceived']
        case idled =>
          obtain ⟨hcarrier, hhost, hconn'⟩ := hasked hidle
          refine ⟨hhost, hcarrier, rfl, rfl, fun j => ?_, rfl⟩
          rw [Scene.live?_setLive]
          split
          · next hj =>
            rw [hj, hconn]
            exact .some hconn'
          · exact (Idled.refl s).live j

/-! ## Sweeps -/

/-- A live sweep reports whether it served any of its flows. If it did not, it only asked. -/
theorem sweepLive_reports (now : Nat) {keys : List Flow.Key} (hkeys : keys.Nodup)
    (s : Scene (Watch ω σ) (Watched σ)) :
    ((s.sweepLive now keys).1 = true ↔
        ∃ key ∈ keys, Served (s.live? key) ((s.sweepLive now keys).2.live? key)) ∧
      ((s.sweepLive now keys).1 = false → Idled s (s.sweepLive now keys).2) := by
  induction keys generalizing s with
  | nil => exact ⟨by simp [Scene.sweepLive], fun _ => .refl s⟩
  | cons key rest ih =>
    obtain ⟨hkey, hrest⟩ := List.nodup_cons.1 hkeys
    obtain ⟨hvisit, hidle⟩ := visitLive_reports now key s
    obtain ⟨hsweep, hidle'⟩ := ih hrest (s.visitLive now key).2
    have hvisited := (s.visitLive now key).2.sweepLive_spares now hkey
    have hapart := apart_visitLive now key s
    rw [sweepLive_cons]
    refine ⟨?_, fun hfalse => ?_⟩
    · have hrest : ∀ j ∈ rest, (s.visitLive now key).2.live? j = s.live? j := fun j hj =>
        hapart.live j (ne_of_mem_of_not_mem hj hkey)
      rw [Bool.or_eq_true, hvisit, hsweep]
      simp only [List.mem_cons, exists_eq_or_imp, hvisited.live]
      exact or_congr Iff.rfl (exists_congr fun j => and_congr_right fun hj => by rw [hrest j hj])
    · rw [Bool.or_eq_false_iff] at hfalse
      exact (hidle hfalse.1).trans (hidle' hfalse.2)

/-! ## Ticks -/

/-- What is said about the report of a tick. -/
structure Reports (rota : Rota) (now : Nat) (s : Scene (Watch ω σ) (Watched σ))
    (tick : Bool × Scene (Watch ω σ) (Watched σ)) : Prop where
  /-- The tick reports a probe that fell due and live connections that it served, and no more. -/
  acted : tick.1 = true ↔
    s.probeDue now = true ∨ ∃ key, Served (s.live? key) (tick.2.live? key)
  /-- If it reports nothing, it was idle until it came to the parked flows. -/
  idle : tick.1 = false → ∃ u, Idled s u ∧
    tick.2 = u.sweepParked (rota.parked u.tunnel.sessions.parked.keys)
  /-- If there are no parked flows either, it was idle. -/
  unparked : tick.1 = false → (∀ key, s.parked? key = none) → Idled s tick.2

/-- **What a tick reports.** It reports all that it does but for parked flows. -/
theorem tick_reports {rota : Rota} (hrota : rota.IsFair) (now : Nat)
    (s : Scene (Watch ω σ) (Watched σ)) : Reports rota now s (s.pumpBy rota now) := by
  obtain ⟨hnodup, hmem⟩ := hrota.visits (s.probe now).2
  obtain ⟨hswept, hidle⟩ := sweepLive_reports now hnodup (s.probe now).2
  have hprobe : (s.probe now).1 = s.probeDue now := by
    unfold Scene.probe
    split
    · next hdue => exact hdue.symm
    · next hdue => exact (Bool.eq_false_iff.2 hdue).symm
  have hflag : (s.pumpBy rota now).1 = (s.probeDue now || ((s.probe now).2.sweepLive now
      (rota.live (s.probe now).2.tunnel.sessions.live.keys)).1) := by
    rw [← hprobe]
    rfl
  have hquiet : (s.pumpBy rota now).1 = false → ∃ u, Idled s u ∧
      (s.pumpBy rota now).2 = u.sweepParked (rota.parked u.tunnel.sessions.parked.keys) := by
    intro hfalse
    rw [hflag, Bool.or_eq_false_iff] at hfalse
    obtain ⟨hundue, hunserved⟩ := hfalse
    have hidle := hidle hunserved
    rw [Scene.probe_of_not_due hundue] at hidle
    refine ⟨_, hidle, ?_⟩
    unfold Scene.pumpBy
    rw [Scene.probe_of_not_due hundue]
  refine ⟨?acted, hquiet, fun hfalse hnone => ?unparked⟩
  case acted =>
    have hlive : ∀ key, (s.pumpBy rota now).2.live? key =
        ((s.probe now).2.sweepLive now
          (rota.live (s.probe now).2.tunnel.sessions.live.keys)).2.live? key := fun key =>
      Scene.live?_sweepParked _ key _
    rw [hflag, Bool.or_eq_true, hswept]
    refine or_congr Iff.rfl (exists_congr fun key => ?_)
    rw [hlive, hmem, ((spared_background key).probe now s).live]
    refine and_iff_right_of_imp fun hserved => ?_
    obtain ⟨c, hc, -⟩ := hserved
    simp [hc]
  case unparked =>
    obtain ⟨u, hidled, htick⟩ := hquiet hfalse
    have hempty : u.tunnel.sessions.parked.keys = [] := by
      refine List.eq_nil_iff_forall_not_mem.2 fun key => ?_
      rw [hidled.parked]
      exact (Assoc.get?_eq_none_iff _ key).1 (hnone key)
    have hnobody : rota.parked [] = [] := List.perm_nil.1 (hrota.parked [])
    rw [htick, hempty, hnobody]
    exact hidled

/-- A tunnel whose flow was opened and parked, and has three bytes for the peer since. -/
def sampleHeld : Scene (Watch Simulation.World Simulation.App) (Watched Simulation.App) :=
  Moment.runAll
    [.operation (sampleDispatch Tcp.Flags.syn), .operation (sampleDispatch Tcp.Flags.ack),
      .operation (.release sampleKey),
      .drift (fun _ w => w) (fun _ w => { w with stream := w.stream.edit (.push [1, 2, 3]) }) id]
    ⟨fresh sampleProfile 1 sampleVectors 0, ⟨{ world := {} }, []⟩⟩

theorem tick_reports_of_held :
    Rota.IsFair {} ∧ Reports {} 0 sampleHeld (sampleHeld.pumpBy {} 0) :=
  ⟨Rota.isFair_default, tick_reports Rota.isFair_default 0 sampleHeld⟩

/-- A tick relays the bytes and sends a datagram with them, and reports nothing. -/
theorem parked_work_unreported :
    (sampleHeld.pumpBy {} 0).1 = false ∧
      (sampleHeld.parked? sampleKey).map (·.received) = some [] ∧
      ((sampleHeld.pumpBy {} 0).2.parked? sampleKey).map (·.received) = some [1, 2, 3] ∧
      sampleHeld.host.world.world.sent.length = 1 ∧
      (sampleHeld.pumpBy {} 0).2.host.world.world.sent.length = 2 := by
  decide +kernel

end Tunnel

end Ipsec
