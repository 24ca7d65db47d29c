import Ipsec.Proofs.Tcp.Feeding
import Ipsec.Proofs.Tunnel.Order
import Ipsec.Proofs.Tunnel.Records
import Ipsec.Proofs.Tunnel.Settling

/-!
# The live sweep

A pump tick goes through the live flows in some order. The visit of one flow has no effect on the
others, so what becomes of a flow is decided when the tick comes to it (`Scene.upTo`): it stays if
it is neither idle nor closed and its turn to be pumped goes well, and else it is ended
(`tick_judges`).
-/

namespace Ipsec.Tunnel

variable {ω σ : Type}

section

variable [Platform ω σ] {s t u : Scene ω σ} {now : Nat} {key : Flow.Key} {rota : Rota}

/-! ## Flows that are not visited -/

/-- From `s` to `t` nothing is done to a flow, and the profile stays. -/
structure Spared (key : Flow.Key) (s t : Scene ω σ) : Prop where
  profile : t.tunnel.profile = s.tunnel.profile
  live : t.live? key = s.live? key
  parked : t.parked? key = s.parked? key

theorem spared_background (key : Flow.Key) : Background (Spared (ω := ω) (σ := σ) key) where
  refl _ := ⟨rfl, rfl, rfl⟩
  trans h h' :=
    ⟨h'.profile.trans h.profile, h'.live.trans h.live, h'.parked.trans h.parked⟩
  note _ _ _ := ⟨rfl, rfl, rfl⟩
  drawIdentification _ := ⟨rfl, rfl, rfl⟩
  send _ _ _ := ⟨rfl, rfl, rfl⟩
  setLastProbe _ _ := ⟨rfl, rfl, rfl⟩
  transmitProbe _ _ := ⟨rfl, rfl, rfl⟩

/-- A live sweep spares the flows that it does not visit. -/
theorem Scene.sweepLive_spares (now : Nat) {keys : List Flow.Key} (hkey : key ∉ keys)
    (s : Scene ω σ) : Spared key s (s.sweepLive now keys).2 := by
  rw [sweepLive_snd]
  induction keys generalizing s with
  | nil => exact ⟨rfl, rfl, rfl⟩
  | cons j rest ih =>
    have hj := List.ne_of_not_mem_cons hkey
    have hapart := apart_visitLive now j s
    have hvisit : Spared key s (s.visitLive now j).2 :=
      ⟨hapart.profile, hapart.live key hj, hapart.parked key hj⟩
    exact (spared_background key).trans hvisit (ih (List.not_mem_of_not_mem_cons hkey) _)

/-- A parked sweep leaves live flows alone. -/
theorem Scene.live?_sweepParked (keys : List Flow.Key) (key : Flow.Key) (s : Scene ω σ) :
    (s.sweepParked keys).live? key = s.live? key := by
  unfold sweepParked
  induction keys generalizing s with
  | nil => rfl
  | cons j rest ih => exact (ih (s.visitParked j)).trans (live?_visitParked j key s)

omit [Platform ω σ] in
/-- In fair orders a live sweep visits the live flows, each of them once. -/
theorem Rota.IsFair.visits {rota : Rota} (hrota : rota.IsFair) (s : Scene ω σ) :
    (rota.live s.tunnel.sessions.live.keys).Nodup ∧
      ∀ {key}, key ∈ rota.live s.tunnel.sessions.live.keys ↔ s.live? key ≠ none := by
  have hperm := hrota.live s.tunnel.sessions.live.keys
  refine ⟨hperm.nodup_iff.2 s.tunnel.sessions.live.nodup, fun {key} => ?_⟩
  rw [hperm.mem_iff, Ne, Scene.live?, Assoc.get?_eq_none_iff, Decidable.not_not]

/-! ## One flow in a tick -/

/-- The scene in which a tick comes to a live flow. -/
def Scene.upTo (rota : Rota) (now : Nat) (key : Flow.Key) (s : Scene ω σ) : Scene ω σ :=
  let s := (s.probe now).2
  (s.sweepLive now ((rota.live s.tunnel.sessions.live.keys).takeWhile (· ≠ key))).2

/-- What comes of a connection that is pumped when a tick comes to its flow. -/
def Scene.turn (rota : Rota) (now : Nat) (key : Flow.Key) (conn : Tcp.Connection σ)
    (s : Scene ω σ) : Except TcpError Bool × Tcp.Connection σ × Scene ω σ :=
  let s := s.upTo rota now key
  s.runStep (Tcp.Connection.pump s.tunnel.profile.send) conn

/-- A tick spares a flow until it comes to it. -/
theorem Scene.upTo_spares (rota : Rota) (now : Nat) (key : Flow.Key) (s : Scene ω σ) :
    Spared key s (s.upTo rota now key) := by
  have hbefore : ∀ keys : List Flow.Key, key ∉ keys.takeWhile (· ≠ key) := fun keys hmem => by
    simpa using List.all_eq_true.1 List.all_takeWhile key hmem
  exact (spared_background key).trans ((spared_background key).probe now s)
    ((s.probe now).2.sweepLive_spares now (hbefore _))

/-- A tick comes to each live flow, and after that not again before the parked flows. -/
theorem Rota.IsFair.tick_visits (hrota : rota.IsFair) (now : Nat) (hlive : s.live? key ≠ none) :
    ∃ rest parked, key ∉ rest ∧ (s.pumpBy rota now).2 =
      (((s.upTo rota now key).visitLive now key).2.sweepLive now rest).2.sweepParked parked := by
  have hprobe := (spared_background key).probe now s
  obtain ⟨hnodup, hmem⟩ := hrota.visits (s.probe now).2
  have hkey : key ∈ rota.live (s.probe now).2.tunnel.sessions.live.keys := by
    rwa [hmem, hprobe.live]
  obtain ⟨front, rest, horder, hfront⟩ := List.eq_append_cons_of_mem hkey
  have hupTo : s.upTo rota now key = ((s.probe now).2.sweepLive now front).2 := by
    have htake : (front ++ key :: rest).takeWhile (· ≠ key) = front := by
      rw [List.takeWhile_append_of_pos, List.takeWhile_cons_of_neg, List.append_nil]
      · simp
      · intro j hj
        simpa using ne_of_mem_of_not_mem hj hfront
    simp only [Scene.upTo, horder, htake]
  have hrest : key ∉ rest := by
    rw [horder] at hnodup
    exact (List.nodup_cons.1 (List.nodup_append.1 hnodup).2.1).1
  let swept := (((s.upTo rota now key).visitLive now key).2.sweepLive now rest).2
  have hswept : ((s.probe now).2.sweepLive now
      (rota.live (s.probe now).2.tunnel.sessions.live.keys)).2 = swept := by
    simp only [swept, horder, hupTo, Scene.sweepLive_snd, List.foldl_append, List.foldl_cons]
  refine ⟨rest, rota.parked swept.tunnel.sessions.parked.keys, hrest, ?_⟩
  simp only [Scene.pumpBy, hswept, swept]

/-- A tick keeps the live connection of a flow that was in contact at a given time: it is neither
idle nor closed, and pumping it goes well. -/
def Scene.Keeps (rota : Rota) (now last : Nat) (key : Flow.Key) (conn : Tcp.Connection σ)
    (s : Scene ω σ) : Prop :=
  now - last ≤ s.tunnel.profile.settings.tcpTimeout ∧ conn.state ≠ .closed ∧
    ∃ relayed, (s.turn rota now key conn).1 = .ok relayed

end

/-! ## Flows that are ended -/

section

variable [Platform ω σ] {s t : Scene (Watch ω σ) (Watched σ)} {key : Flow.Key} {rota : Rota}
  {conn d : Tcp.Connection (Watched σ)} {h h' g g' : Host (Watch ω σ)}

/-- Nothing that a tunnel does takes a closed stream off the record. -/
theorem closed_outward :
    Outward (ω := Watch ω σ) (σ := Watched σ) fun _ x y =>
      x.2.world.closed <+: y.2.world.closed where
  link p :=
    { refl := fun _ => List.prefix_refl _
      trans := List.IsPrefix.trans
      handOver := fun packet receiver channel host =>
        (p.send_isBlind packet receiver channel host).2 ▸ List.prefix_refl _
      note := fun _ _ _ _ => List.prefix_refl _
      connect := fun _ host near => by
        rcases hconnect : host.connect near with ⟨fault | w, host'⟩
        · exact (Watch.of_connect_error hconnect).2 ▸ List.prefix_refl _
        · exact (Watch.of_connect_ok hconnect).2.2.2.2 ▸ List.prefix_refl _
      close := fun _ _ _ => List.prefix_append _ _ }
  draw _ _ _ := List.prefix_refl _
  probe _ _ _ _ := List.prefix_refl _

/-- Between two hosts a connection was closed, in the form that it had come to, and its stream with
it. -/
structure Retired (conn d : Tcp.Connection (Watched σ)) (h h' : Host (Watch ω σ)) : Prop where
  continues : Continues conn d
  stream : ∀ w, conn.stream = some w → ∃ w', d.stream = some w' ∧ w'.tag = w.tag
  closed : ∃ (g g' : Host (Watch ω σ)) (result : Except IoFault Unit)
      (d' : Tcp.Connection (Watched σ)),
    d.close g = (result, d', g') ∧ d'.state = .closed ∧ d'.stream = none ∧
    h.world.closed <+: g.world.closed ∧
    g'.world.closed = g.world.closed ++ d.stream.toList ∧ g'.world.closed <+: h'.world.closed

theorem Retired.mono (hretired : Retired conn d h h') (hbefore : g.world.closed <+: h.world.closed)
    (hafter : h'.world.closed <+: g'.world.closed) : Retired conn d g g' := by
  obtain ⟨g₁, g₂, result, d', hclose, hstate, hnone, hfrom, hputs, hto⟩ := hretired.closed
  exact ⟨hretired.continues, hretired.stream, g₁, g₂, result, d', hclose, hstate, hnone,
    hbefore.trans hfrom, hputs, hto.trans hafter⟩

/-- A live connection is retired when its flow is ended. -/
theorem retired_terminate (hd : s.live? key = some d) (hcontinues : Continues conn d)
    (hstream : ∀ w, conn.stream = some w → ∃ w', d.stream = some w' ∧ w'.tag = w.tag) :
    Retired conn d s.host (s.terminate key).host := by
  rcases hclose : d.close s.host with ⟨result, d', g'⟩
  obtain ⟨-, hclosed, rfl⟩ := Tcp.Connection.close_records hclose
  refine ⟨hcontinues, hstream, s.host, g', result, _, hclose, rfl, rfl, List.prefix_refl _, hclosed,
    heldBy (s.parked? key), ?_⟩
  rw [(terminate_records key s).2, hd, hclosed]
  rfl

/-- What becomes of a live connection in a tick, if it was in contact at a given time. -/
structure Judged (rota : Rota) (now last : Nat) (key : Flow.Key)
    (conn : Tcp.Connection (Watched σ)) (s t : Scene (Watch ω σ) (Watched σ)) : Prop where
  kept : (t.live? key).isSome ↔ s.Keeps rota now last key conn
  /-- If its flow stays live, it is as pumping it has left it. -/
  same : ∀ c, t.live? key = some c → c = (s.turn rota now key conn).2.1 ∧ Continues conn c ∧
    c.lastContact = conn.lastContact
  /-- If not, there is nothing under its key any more, and it was closed. -/
  ended : t.live? key = none → t.parked? key = none ∧ ∃ d, Retired conn d s.host t.host

/-- A flow that is ended when a tick does not keep it. -/
theorem judged_terminate {u : Scene (Watch ω σ) (Watched σ)} {now last : Nat}
    (hends : ¬s.Keeps rota now last key conn) (hgrown : s.host.world.closed <+: u.host.world.closed)
    (hd : u.live? key = some d) (hcontinues : Continues conn d)
    (hstream : ∀ w, conn.stream = some w → ∃ w', d.stream = some w' ∧ w'.tag = w.tag) :
    Judged rota now last key conn s (u.terminate key) := by
  have hnone : (u.terminate key).live? key = none := by simp
  refine ⟨by simp [hnone, hends], fun c hc => ?_, fun _ => ⟨by simp, d, ?_⟩⟩
  · cases hnone.symm.trans hc
  · exact (retired_terminate hd hcontinues hstream).mono hgrown (List.prefix_refl _)

/-- The visit of a live flow, when a tick comes to it, decides what becomes of it. -/
theorem visit_judges (rota : Rota) (now : Nat) (hconn : s.live? key = some conn) :
    Judged rota now conn.lastContact key conn s ((s.upTo rota now key).visitLive now key).2 := by
  have hspared := s.upTo_spares rota now key
  have hgrown : s.host.world.closed <+: (s.upTo rota now key).host.world.closed := by
    have hprobe := (closed_outward.operated.probe now s).outside
    exact hprobe.trans (closed_outward.operated.sweepLive now _ (s.probe now).2).outside
  have hlive : (s.upTo rota now key).live? key = some conn := hspared.live.trans hconn
  have hgoes : (s.upTo rota now key).isOver now conn = false ↔
      now - conn.lastContact ≤ s.tunnel.profile.settings.tcpTimeout ∧ conn.state ≠ .closed := by
    simp [Scene.isOver, Tcp.Connection.idle, hspared.profile]
  unfold Scene.visitLive
  simp only [hlive]
  split
  · next hover =>
    refine judged_terminate (fun hkeeps => ?_) hgrown hlive (.refl conn) fun w hw => ⟨w, hw, rfl⟩
    rw [hgoes.2 ⟨hkeeps.1, hkeeps.2.1⟩] at hover
    cases hover
  · next hover =>
    obtain ⟨hidle, hopen⟩ := hgoes.1 (Bool.not_eq_true _ ▸ hover)
    let u := s.upTo rota now key
    obtain ⟨r, w, hstep, ⟨⟨hfeeds, hsteady⟩, hanchored⟩, huntimed⟩ := Scene.runStep_ends (s := u)
      ((((Tcp.Connection.pump_feeds u.tunnel.profile.send_isBlind ⟨conn, _, _⟩).and
        (Tcp.Connection.pump_behaves u.tunnel.profile.send_isQuiet _)).and
        (Tcp.Connection.pump_anchored _)).and (Tcp.Connection.pump_untimed _ _))
    have hturn : s.turn rota now key conn = (r, w.conn, u.resume w) := hstep
    have hcontinues : Continues conn w.conn := ⟨hanchored, hsteady.1.state, hsteady.1.stream⟩
    simp only [u] at hstep
    rw [hstep]
    cases r with
    | ok relayed =>
      have hkeeps : s.Keeps rota now conn.lastContact key conn :=
        ⟨hidle, hopen, relayed, by rw [hturn]⟩
      refine ⟨by simp [hkeeps], fun c hc => ?_, by simp⟩
      rw [Scene.live?_setLive, if_pos rfl] at hc
      cases hc
      exact ⟨by rw [hturn], hcontinues, huntimed.2⟩
    | error e =>
      have hends : ¬s.Keeps rota now conn.lastContact key conn := by
        rintro ⟨-, -, relayed, hok⟩
        rw [hturn] at hok
        cases hok
      refine judged_terminate hends ?_ (by simp) hcontinues fun v hv => hfeeds.kept hv
      rw [Scene.noteFailure_world]
      exact hfeeds.closed ▸ hgrown

/-- **What a tick does with a live flow.** It keeps the flow exactly if it is not idle, not closed,
and pumping it goes well. Otherwise it closes the connection and ends the flow. -/
theorem tick_judges (hrota : rota.IsFair) (now : Nat) (hconn : s.live? key = some conn) :
    Judged rota now conn.lastContact key conn s (s.pumpBy rota now).2 := by
  have hlive : s.live? key ≠ none := by simp [hconn]
  obtain ⟨rest, parked, hrest, htick⟩ := hrota.tick_visits now hlive
  have hjudged := visit_judges rota now hconn
  generalize ((s.upTo rota now key).visitLive now key).2 = u at hjudged htick
  have hspared := u.sweepLive_spares now hrest
  have hlive : (s.pumpBy rota now).2.live? key = u.live? key := by
    rw [htick, Scene.live?_sweepParked, hspared.live]
  have hgrows : u.host.world.closed <+: (s.pumpBy rota now).2.host.world.closed := by
    have hswept := (closed_outward.operated.toSwept.sweepLive now rest u).outside
    have hparked := (closed_outward.operated.toSwept.sweepParked parked
      (u.sweepLive now rest).2).outside
    rw [htick]
    exact hswept.trans hparked
  refine ⟨by rw [hlive]; exact hjudged.kept, fun c hc => hjudged.same c (hlive ▸ hc),
    fun hnone => ?_⟩
  obtain ⟨hgone, d, hretired⟩ := hjudged.ended (hlive ▸ hnone)
  refine ⟨?_, d, hretired.mono (List.prefix_refl _) hgrows⟩
  rw [htick]
  exact (Ticked.swept.sweepParked parked _).parked (hspared.parked.trans hgone)

end

end Ipsec.Tunnel
