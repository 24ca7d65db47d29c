import Ipsec.Proofs.Tcp.Watch
import Ipsec.Proofs.Tunnel.Outcomes

/-!
# The records of a watched tunnel

A tunnel on a watched platform can always account for the streams that it opened: each is held by a
connection, live or parked, or was closed (`OnRecord`). A flow that is ended, released or forgotten
takes no stream off the record. A connection that goes on may have its stream changed, but not its
number.
-/

namespace Ipsec.Tunnel

variable {ω σ : Type}

/-- A stream of a tunnel is on record: it is held by a connection, or was closed. -/
inductive OnRecord (s : Scene (Watch ω σ) (Watched σ)) (w : Watched σ) : Prop where
  /-- A live connection holds it. -/
  | live {key : Flow.Key} {c : Tcp.Connection (Watched σ)} (hc : s.live? key = some c)
      (hw : c.stream = some w)
  /-- A parked connection holds it. -/
  | parked {key : Flow.Key} {c : Tcp.Connection (Watched σ)} (hc : s.parked? key = some c)
      (hw : c.stream = some w)
  /-- It was closed. -/
  | closed (hw : w ∈ s.host.world.closed)

/-- The stream that a connection holds, if there is a connection and it holds one. -/
def heldBy (c : Option (Tcp.Connection (Watched σ))) : List (Watched σ) :=
  (c.bind (·.stream)).toList

theorem mem_heldBy {c : Option (Tcp.Connection (Watched σ))} {w : Watched σ} :
    w ∈ heldBy c ↔ ∃ d, c = some d ∧ d.stream = some w := by
  simp [heldBy, Option.bind_eq_some_iff]

/-! ## What is closed -/

section

variable [Platform ω σ]

theorem discard_records (c : Tcp.Connection (Watched σ)) (host : Host (Watch ω σ)) :
    (c.discard host).world.opened = host.world.opened
      ∧ (c.discard host).world.closed = host.world.closed ++ c.stream.toList := by
  rcases hclose : c.close host with ⟨result, c', host'⟩
  obtain ⟨hopened, hclosed, -⟩ := Tcp.Connection.close_records hclose
  rw [Tcp.Connection.discard, hclose]
  exact ⟨hopened, hclosed⟩

theorem closeRemoved_records (key : Flow.Key) (c : Option (Tcp.Connection (Watched σ)))
    (s : Scene (Watch ω σ) (Watched σ)) :
    (s.closeRemoved key c).host.world.opened = s.host.world.opened
      ∧ (s.closeRemoved key c).host.world.closed = s.host.world.closed ++ heldBy c := by
  unfold Scene.closeRemoved
  cases c with
  | none => simp [heldBy]
  | some c =>
    rcases hclose : c.close s.host with ⟨fault | ⟨⟩, c', host⟩
    all_goals
      obtain ⟨hopened, hclosed, -⟩ := Tcp.Connection.close_records hclose
      simp only [hclose]
      exact ⟨hopened, hclosed⟩

theorem terminate_records (key : Flow.Key) (s : Scene (Watch ω σ) (Watched σ)) :
    (s.terminate key).host.world.opened = s.host.world.opened
      ∧ (s.terminate key).host.world.closed =
        s.host.world.closed ++ heldBy (s.live? key) ++ heldBy (s.parked? key) := by
  unfold Scene.terminate
  obtain ⟨hopened, hclosed⟩ := closeRemoved_records key (s.live? key)
    (s.setSessions (s.tunnel.sessions.remove key).2)
  obtain ⟨hopened', hclosed'⟩ := closeRemoved_records key (s.parked? key)
    ((s.setSessions (s.tunnel.sessions.remove key).2).closeRemoved key (s.live? key))
  exact ⟨hopened'.trans hopened, hclosed'.trans (congrArg (· ++ _) hclosed)⟩

theorem release_records (key : Flow.Key) (s : Scene (Watch ω σ) (Watched σ)) :
    (s.release key).host.world.opened = s.host.world.opened
      ∧ (s.release key).host.world.closed =
        s.host.world.closed ++ if (s.live? key).isSome then heldBy (s.parked? key) else [] := by
  unfold Scene.release Flow.Table.park
  cases hlive : s.tunnel.sessions.live.get? key with
  | none => simp [Scene.live?, hlive]
  | some c =>
    cases hparked : s.parked? key with
    | none => simp [Scene.live?, hlive, heldBy, Scene.setSessions]
    | some displaced =>
      obtain ⟨hopened, hclosed⟩ := discard_records displaced s.host
      simp [Scene.live?, hlive, heldBy, Scene.setSessions, hopened, hclosed]

/-- A tunnel's own link does nothing to the records of streams. -/
theorem Profile.send_isBlind (p : Profile) : Tcp.IsBlindLink (ω := ω) (σ := σ) p.send := by
  intro packet receiver channel host
  have hends := p.send_ends packet receiver channel host
  generalize p.send packet receiver channel host = x at hends ⊢
  cases hends <;> exact ⟨rfl, rfl⟩

end

/-! ## What stays on record -/

namespace OnRecord

variable {s t : Scene (Watch ω σ) (Watched σ)} {w : Watched σ}

/-- The record depends on the connections and the closed streams only. -/
theorem congr (h : OnRecord s w) (hsessions : t.tunnel.sessions = s.tunnel.sessions)
    (hclosed : t.host.world.closed = s.host.world.closed) : OnRecord t w := by
  cases h with
  | live hc hw =>
    rw [Scene.live?, ← hsessions] at hc
    exact .live hc hw
  | parked hc hw =>
    rw [Scene.parked?, ← hsessions] at hc
    exact .parked hc hw
  | closed hw => exact .closed (hclosed ▸ hw)

section

variable {key : Flow.Key} {u : Tcp.Scene Esp.Channel (Watch ω σ) (Watched σ)}

/-- A connection that goes on live keeps its stream on record, changed or not. -/
theorem setLive (h : OnRecord s w)
    (hkept : ∀ {c}, s.live? key = some c → c.stream = some w →
      ∃ w', u.conn.stream = some w' ∧ w'.tag = w.tag)
    (hclosed : u.host.world.closed = s.host.world.closed) :
    ∃ w', OnRecord ((s.resume u).setLive key u.conn) w' ∧ w'.tag = w.tag := by
  cases h with
  | @live j c hc hw =>
    by_cases hj : j = key
    · obtain ⟨w', hw', htag⟩ := hkept (hj ▸ hc) hw
      have hc' : ((s.resume u).setLive key u.conn).live? key = some u.conn := by simp
      exact ⟨w', .live hc' hw', htag⟩
    · have hc' : ((s.resume u).setLive key u.conn).live? j = some c := by simpa [hj] using hc
      exact ⟨w, .live hc' hw, rfl⟩
  | parked hc hw => exact ⟨w, .parked hc hw, rfl⟩
  | closed hw => exact ⟨w, .closed (hclosed ▸ hw), rfl⟩

/-- A connection that goes on parked keeps its stream on record, or leaves it among those that were
closed. -/
theorem setParked {left : List (Watched σ)} (h : OnRecord s w)
    (hkept : ∀ {c}, s.parked? key = some c → c.stream = some w →
      ∃ w', (u.conn.stream = some w' ∨ w' ∈ left) ∧ w'.tag = w.tag)
    (hclosed : u.host.world.closed = s.host.world.closed ++ left) :
    ∃ w', OnRecord ((s.resume u).setParked key u.conn) w' ∧ w'.tag = w.tag := by
  have hstays : ∀ {w}, w ∈ s.host.world.closed ++ left →
      OnRecord ((s.resume u).setParked key u.conn) w := fun hw => .closed (hclosed ▸ hw)
  cases h with
  | live hc hw => exact ⟨w, .live hc hw, rfl⟩
  | @parked j c hc hw =>
    by_cases hj : j = key
    · obtain ⟨w', hw' | hw', htag⟩ := hkept (hj ▸ hc) hw
      · have hc' : ((s.resume u).setParked key u.conn).parked? key = some u.conn := by simp
        exact ⟨w', .parked hc' hw', htag⟩
      · exact ⟨w', hstays (List.mem_append_right _ hw'), htag⟩
    · have hc' : ((s.resume u).setParked key u.conn).parked? j = some c := by
        simpa [hj] using hc
      exact ⟨w, .parked hc' hw, rfl⟩
  | closed hw => exact ⟨w, hstays (List.mem_append_left left hw), rfl⟩

end

variable [Platform ω σ]

/-- A flow that is ended puts its streams on record. -/
theorem terminate (h : OnRecord s w) (key : Flow.Key) : OnRecord (s.terminate key) w := by
  obtain ⟨-, hclosed⟩ := terminate_records key s
  cases h with
  | @live j c hc hw =>
    by_cases hj : j = key
    · have hheld : w ∈ heldBy (s.live? key) := mem_heldBy.2 ⟨c, hj ▸ hc, hw⟩
      exact .closed (by simp [hclosed, hheld])
    · have hc' : (s.terminate key).live? j = some c := by simpa [hj] using hc
      exact .live hc' hw
  | @parked j c hc hw =>
    by_cases hj : j = key
    · have hheld : w ∈ heldBy (s.parked? key) := mem_heldBy.2 ⟨c, hj ▸ hc, hw⟩
      exact .closed (by simp [hclosed, hheld])
    · have hc' : (s.terminate key).parked? j = some c := by simpa [hj] using hc
      exact .parked hc' hw
  | closed hw => exact .closed (by simp [hclosed, hw])

/-- A connection that is parked keeps its stream, and one that it displaces is closed. -/
theorem release (h : OnRecord s w) (key : Flow.Key) : OnRecord (s.release key) w := by
  obtain ⟨-, hclosed⟩ := release_records key s
  cases h with
  | @live j c hc hw =>
    by_cases hj : j = key
    · subst hj
      have hc' : (s.release j).parked? j = some c := by simp [hc]
      exact .parked hc' hw
    · have hc' : (s.release key).live? j = some c := by simpa [hj] using hc
      exact .live hc' hw
  | @parked j c hc hw =>
    by_cases hj : j = key
    · subst hj
      cases hlive : s.live? j with
      | none =>
        have hc' : (s.release j).parked? j = some c := by simp [hlive, hc]
        exact .parked hc' hw
      | some l =>
        have hheld : w ∈ heldBy (s.parked? j) := mem_heldBy.2 ⟨c, hc, hw⟩
        exact .closed (by simp [hclosed, hlive, hheld])
    · have hc' : (s.release key).parked? j = some c := by simpa [hj] using hc
      exact .parked hc' hw
  | closed hw => exact .closed (by simp [hclosed, hw])

/-- A parked connection that is forgotten leaves its stream on record. -/
theorem forget (h : OnRecord s w) {key : Flow.Key} {c : Tcp.Connection (Watched σ)}
    (hc : s.parked? key = some c) :
    OnRecord (({ s with host := c.discard s.host } : Scene _ _).setSessions
      (s.tunnel.sessions.removeParked key).2) w := by
  obtain ⟨-, hclosed⟩ := discard_records c s.host
  cases h with
  | live hd hw => exact .live hd hw
  | @parked j d hd hw =>
    by_cases hj : j = key
    · subst hj
      cases hc.symm.trans hd
      refine .closed ?_
      rw [Scene.setSessions, hclosed]
      exact List.mem_append_right _ (Option.mem_toList.2 hw)
    · have hd' := (Scene.parked?_removeParked s key j (c.discard s.host)).trans (if_neg hj)
      exact .parked (hd'.trans hd) hw
  | closed hw =>
    refine .closed ?_
    rw [Scene.setSessions, hclosed]
    exact List.mem_append_left _ hw

end OnRecord

/-! ## Moments on a watched platform -/

/-- A change of the stream in a record. -/
def underWatch (f : Tcp.Connection σ → σ → σ) (c : Tcp.Connection (Watched σ)) (w : Watched σ) :
    Watched σ :=
  { w with stream := f { c with stream := c.stream.map (·.stream) } w.stream }

/-- The moment on a watched platform. No record is touched by what is not the tunnel. -/
def Moment.watched : Moment ω σ → Moment (Watch ω σ) (Watched σ)
  | operation op => .operation op
  | drift live parked world =>
    .drift (underWatch live) (underWatch parked) fun w => { w with world := world w.world }

section

variable [Platform ω σ] (live parked : Tcp.Connection σ → σ → σ) (world : ω → ω)

theorem Moment.live?_drift (s : Scene ω σ) (key : Flow.Key) :
    ((drift live parked world).run s).live? key = (s.live? key).map (drifted live) :=
  Assoc.get?_mapValues _ _ _

theorem Moment.parked?_drift (s : Scene ω σ) (key : Flow.Key) :
    ((drift live parked world).run s).parked? key = (s.parked? key).map (drifted parked) :=
  Assoc.get?_mapValues _ _ _

/-- A stream that goes on by itself stays on record. -/
theorem OnRecord.drift {s : Scene (Watch ω σ) (Watched σ)} {w : Watched σ} (h : OnRecord s w) :
    ∃ w', OnRecord ((Moment.drift live parked world).watched.run s) w' ∧ w'.tag = w.tag := by
  have hstream : ∀ {f} {c : Tcp.Connection (Watched σ)}, c.stream = some w →
      (drifted (underWatch f) c).stream = some (underWatch f c w) := by
    intro f c hw
    simp [drifted, hw]
  cases h with
  | @live j c hc hw =>
    have hc' : ((Moment.drift live parked world).watched.run s).live? j =
        some (drifted (underWatch live) c) := by
      rw [Moment.watched, Moment.live?_drift, hc, Option.map_some]
    exact ⟨_, .live hc' (hstream hw), rfl⟩
  | @parked j c hc hw =>
    have hc' : ((Moment.drift live parked world).watched.run s).parked? j =
        some (drifted (underWatch parked) c) := by
      rw [Moment.watched, Moment.parked?_drift, hc, Option.map_some]
    exact ⟨_, .parked hc' (hstream hw), rfl⟩
  | closed hw => exact ⟨w, .closed hw, rfl⟩

end

end Ipsec.Tunnel
