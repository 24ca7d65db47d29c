import Ipsec.Proofs.Flow.Conservation
import Ipsec.Proofs.Tunnel.Parked

/-!
# Ending flows

To end a flow is to take its connections, live and parked, out of the tables and to close each of
them. `Closings` says what closing connections one after the other asks of the host: every stream
that they hold is closed once, in some order, whether or not that succeeds (`Closings.world_eq`).
From one scene to another a tunnel `Sheds` connections if those that are gone from the tables are
the ones it closed. One flow that is ended does so (`terminate_sheds`), hence a list of flows does,
whichever of them are there and however often they are named (`terminateEach_sheds`). Two sweeps
that leave out no key leave nothing in the tables (`sessions_terminateAllBy`).
-/

namespace Ipsec

variable {ω σ : Type}

/-! ## Closing connections -/

/-- A connection is closed and holds no stream. -/
structure Tcp.Connection.Spent (c : Tcp.Connection σ) : Prop where
  state : c.state = .closed
  stream : c.stream = none

variable [Platform ω σ]

/-- The world after some streams were closed, one after the other. -/
def closeStreams (streams : List σ) (world : ω) : ω :=
  streams.foldl (fun world stream => (Platform.close stream world).2) world

theorem closeStreams_append (streams more : List σ) (world : ω) :
    closeStreams (streams ++ more) world = closeStreams more (closeStreams streams world) :=
  List.foldl_append

namespace Tcp.Connection

variable {c c' : Tcp.Connection σ} {h h' : Host ω} {result : Except IoFault Unit}

theorem spent_of_close (hclose : c.close h = (result, c', h')) : c'.Spent := by
  rw [conn_of_close hclose]
  exact ⟨rfl, rfl⟩

/-- Closing a connection closes the stream that it holds, and asks nothing else of the world. -/
theorem world_of_close (hclose : c.close h = (result, c', h')) :
    h'.world = closeStreams c.stream.toList h.world := by
  unfold close at hclose
  split at hclose
  · next hnone =>
    cases hclose
    rw [hnone]
    rfl
  · next stream hstream =>
    cases hclose
    rw [hstream]
    rfl

end Tcp.Connection

/-- From one host to another the connections of a list are closed, one after the other. What cannot
be closed is logged under the key of its flow, and the next one is closed all the same. -/
inductive Closings : List (Flow.Key × Tcp.Connection σ) → Host ω → Host ω → Prop where
  /-- There is none left. -/
  | done (h : Host ω) : Closings [] h h
  /-- The first one is closed. -/
  | closed {key : Flow.Key} {c c' : Tcp.Connection σ} {rest : List (Flow.Key × Tcp.Connection σ)}
      {h h' h'' : Host ω} (hclose : c.close h = (.ok (), c', h')) (hspent : c'.Spent)
      (hrest : Closings rest h' h'') : Closings ((key, c) :: rest) h h''
  /-- The stream of the first one cannot be closed. -/
  | failed {key : Flow.Key} {c c' : Tcp.Connection σ} {rest : List (Flow.Key × Tcp.Connection σ)}
      {h h' h'' : Host ω} {fault : IoFault} (hclose : c.close h = (.error fault, c', h'))
      (hspent : c'.Spent) (hrest : Closings rest (h'.note (.closeFailed key fault)) h'') :
      Closings ((key, c) :: rest) h h''

omit [Platform ω σ] in
/-- The streams that connections hold. -/
def heldStreams (l : List (Flow.Key × Tcp.Connection σ)) : List σ :=
  l.flatMap fun e => e.2.stream.toList

omit [Platform ω σ] in
theorem heldStreams_cons (key : Flow.Key) (c : Tcp.Connection σ)
    (rest : List (Flow.Key × Tcp.Connection σ)) :
    heldStreams ((key, c) :: rest) = c.stream.toList ++ heldStreams rest :=
  List.flatMap_cons

namespace Closings

variable {l l' : List (Flow.Key × Tcp.Connection σ)} {h h' h'' : Host ω}

theorem append (hl : Closings l h h') (hl' : Closings l' h' h'') : Closings (l ++ l') h h'' := by
  induction hl with
  | done => exact hl'
  | closed hclose hspent _ ih => exact .closed hclose hspent (ih hl')
  | failed hclose hspent _ ih => exact .failed hclose hspent (ih hl')

/-- Every stream that the connections hold is closed once, and nothing else is asked of the
world. -/
theorem world_eq (hl : Closings l h h') : h'.world = closeStreams (heldStreams l) h.world := by
  induction hl with
  | done => rfl
  | closed hclose _ _ ih =>
    rw [heldStreams_cons, closeStreams_append, ← Tcp.Connection.world_of_close hclose]
    exact ih
  | failed hclose _ _ ih =>
    rw [heldStreams_cons, closeStreams_append, ← Tcp.Connection.world_of_close hclose]
    exact ih

end Closings

/-! ## Ending a flow -/

namespace Tunnel

open Flow.Table (keyed)

omit [Platform ω σ] in
/-- All connections of a tunnel, with the keys of their flows. -/
def connections (t : Tunnel σ) : List (Flow.Key × Tcp.Connection σ) :=
  t.sessions.live.entries ++ t.sessions.parked.entries

namespace Scene

omit [Platform ω σ] in
/-- The connections of a flow, the live one first. -/
def connectionsOf (key : Flow.Key) (s : Scene ω σ) : List (Flow.Key × Tcp.Connection σ) :=
  keyed key (s.live? key) ++ keyed key (s.parked? key)

theorem closeRemoved_closings (key : Flow.Key) (c : Option (Tcp.Connection σ)) (s : Scene ω σ) :
    Closings (keyed key c) s.host (s.closeRemoved key c).host := by
  unfold closeRemoved
  cases c with
  | none => exact .done _
  | some c =>
    rcases hclose : c.close s.host with ⟨fault | ⟨⟩, c', host⟩
    · simp only [hclose]
      exact .failed hclose (Tcp.Connection.spent_of_close hclose) (.done _)
    · simp only [hclose]
      exact .closed hclose (Tcp.Connection.spent_of_close hclose) (.done _)

end Scene

variable {key : Flow.Key} {s t u : Scene ω σ} {gone gone' : List (Flow.Key × Tcp.Connection σ)}

/-- From `s` to `t` a tunnel closes some connections. They are the ones that are gone from its
tables, and nothing else in the tunnel changes. -/
structure Sheds (gone : List (Flow.Key × Tcp.Connection σ)) (s t : Scene ω σ) : Prop where
  closings : Closings gone s.host t.host
  tables : s.tunnel.connections.Perm (gone ++ t.tunnel.connections)
  tunnel : t.tunnel = { s.tunnel with sessions := t.tunnel.sessions }

theorem Sheds.refl (s : Scene ω σ) : Sheds [] s s := ⟨.done _, .refl _, rfl⟩

theorem Sheds.trans (h : Sheds gone s t) (h' : Sheds gone' t u) : Sheds (gone ++ gone') s u where
  closings := h.closings.append h'.closings
  tables := by
    rw [List.append_assoc]
    exact h.tables.trans (h'.tables.append_left gone)
  tunnel := by rw [h'.tunnel, h.tunnel]

namespace Scene

/-- Ending a flow closes its connections. -/
theorem terminate_sheds (key : Flow.Key) (s : Scene ω σ) :
    Sheds (s.connectionsOf key) s (s.terminate key) where
  closings := by
    have hlive := closeRemoved_closings key (s.live? key)
      (s.setSessions (s.tunnel.sessions.remove key).2)
    exact hlive.append (closeRemoved_closings key (s.parked? key) _)
  tables := by
    have hbalance := Flow.Table.Operation.balance s.tunnel.sessions (.remove key)
    simp only [Flow.Table.Operation.dropped, Flow.Table.Operation.inserted,
      List.append_nil] at hbalance
    rw [connections, connections, terminate_tunnel]
    exact hbalance.symm.trans List.perm_append_comm
  tunnel := by rw [terminate_tunnel]

/-- To end a flow that has no connection does nothing. -/
theorem terminate_of_none (hlive : s.live? key = none) (hparked : s.parked? key = none) :
    s.terminate key = s := by
  have hsessions : (s.tunnel.sessions.remove key).2 = s.tunnel.sessions := by
    rw [Flow.Table.remove, Assoc.erase_of_get? hlive, Assoc.erase_of_get? hparked]
  have hfound : (s.tunnel.sessions.remove key).1 = (none, none) := Prod.ext hlive hparked
  unfold terminate
  rw [← Prod.eta (s.tunnel.sessions.remove key), hfound, hsessions]
  rfl

end Scene

/-- From `s` to `t` a flow is ended. -/
structure Ended (key : Flow.Key) (s t : Scene ω σ) : Prop where
  /-- It has no live connection any more. -/
  live : t.live? key = none
  /-- Nor a parked one. -/
  parked : t.parked? key = none
  /-- The connections of the other flows stay. -/
  others : ∀ j, j ≠ key → t.live? j = s.live? j ∧ t.parked? j = s.parked? j
  /-- Its connections are closed, and nothing else in the tunnel changes. -/
  sheds : Sheds (s.connectionsOf key) s t
  /-- Their streams are closed once, and nothing else is asked of the world. -/
  world : t.host.world = closeStreams (heldStreams (s.connectionsOf key)) s.host.world
  /-- To end it again does nothing. -/
  again : t.terminate key = t

theorem Scene.terminate_ends (key : Flow.Key) (s : Scene ω σ) :
    Ended key s (s.terminate key) where
  live := by simp
  parked := by simp
  others j hj := by simp [hj]
  sheds := s.terminate_sheds key
  world := (s.terminate_sheds key).closings.world_eq
  again := terminate_of_none (by simp) (by simp)

namespace Scene

/-! ## Ending all flows -/

theorem terminateEach_sheds (keys : List Flow.Key) (s : Scene ω σ) :
    ∃ gone, Sheds gone s (s.terminateEach keys) := by
  induction keys generalizing s with
  | nil => exact ⟨[], .refl s⟩
  | cons key rest ih =>
    obtain ⟨gone, hgone⟩ := ih (s.terminate key)
    exact ⟨_, (s.terminate_sheds key).trans hgone⟩

@[simp] theorem live?_terminateEach (keys : List Flow.Key) (s : Scene ω σ) :
    (s.terminateEach keys).live? key = if key ∈ keys then none else s.live? key := by
  unfold terminateEach
  induction keys generalizing s with
  | nil => simp
  | cons j rest ih =>
    rw [List.foldl_cons, ih, live?_terminate]
    by_cases hj : key = j <;> simp [hj]

/-- The second sweep finds the keys that the first one left, so nothing stays in the tables. -/
theorem sessions_terminateAllBy {rota : Rota} (hrota : rota.IsFair) (s : Scene ω σ) :
    (s.terminateAllBy rota).tunnel.sessions = ∅ := by
  have hlive : ∀ key, (s.terminateAllBy rota).live? key = none := by
    intro key
    rw [terminateAllBy, live?_terminateEach, live?_terminateEach]
    by_cases hkey : key ∈ s.tunnel.sessions.live.keys
    · simp [(hrota.live _).mem_iff.2 hkey]
    · simp [live?, (Assoc.get?_eq_none_iff _ key).2 hkey]
  have hparked : ∀ key, (s.terminateAllBy rota).parked? key = none := by
    intro key
    rw [terminateAllBy, parked?_terminateEach]
    generalize s.terminateEach (rota.live s.tunnel.sessions.live.keys) = t
    by_cases hkey : key ∈ t.tunnel.sessions.parked.keys
    · simp [(hrota.parked _).mem_iff.2 hkey]
    · simp [parked?, (Assoc.get?_eq_none_iff _ key).2 hkey]
  have hempty := Assoc.eq_empty hlive
  have hempty' := Assoc.eq_empty hparked
  generalize (s.terminateAllBy rota).tunnel.sessions = sessions at hempty hempty'
  cases sessions
  cases hempty
  cases hempty'
  rfl

/-- Ending all flows closes all connections, and empties the tables. -/
theorem terminateAllBy_sheds {rota : Rota} (hrota : rota.IsFair) (s : Scene ω σ) :
    ∃ gone, gone.Perm s.tunnel.connections ∧ Sheds gone s (s.terminateAllBy rota) := by
  obtain ⟨first, hfirst⟩ := s.terminateEach_sheds (rota.live s.tunnel.sessions.live.keys)
  let t := s.terminateEach (rota.live s.tunnel.sessions.live.keys)
  obtain ⟨rest, hrest⟩ := t.terminateEach_sheds (rota.parked t.tunnel.sessions.parked.keys)
  have hsheds : Sheds (first ++ rest) s (s.terminateAllBy rota) := hfirst.trans hrest
  have hnone : (s.terminateAllBy rota).tunnel.connections = [] := by
    rw [connections, sessions_terminateAllBy hrota]
    rfl
  have htables := hsheds.tables
  rw [hnone, List.append_nil] at htables
  exact ⟨first ++ rest, htables.symm, hsheds⟩

end Scene

end Tunnel

end Ipsec
