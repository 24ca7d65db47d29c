import Ipsec.Proofs.Flow.Assoc
import Ipsec.Proofs.Tcp.Custody
import Ipsec.Proofs.Tunnel.Operation

/-!
# Custody of the streams of a tunnel

The streams of a tunnel are held by the connections of its table, live and parked. An operation
takes a connection out of its place, runs a step of it, and puts it back, or closes what it took
out. In between, the account balances with the stream of that connection and those of all others,
so every operation keeps the account balanced, whatever is held by other tunnels
(`stable_balanced`).
-/

namespace Ipsec

variable {ω σ : Type}

/-! ## What tables hold -/

namespace Flow.Table

/-- The tags of the streams that the connections of one place hold. -/
def heldIn (m : Assoc Key (Tcp.Connection (Tagged σ))) : List Nat :=
  m.values.flatMap Tcp.Connection.held

/-- The tag of the stream that a connection holds, if there is a connection. -/
def heldBy (c : Option (Tcp.Connection (Tagged σ))) : List Nat :=
  c.toList.flatMap Tcp.Connection.held

/-- A place for a connection in a table. -/
inductive Slot where
  /-- The live one of a flow. -/
  | live (key : Key)
  /-- The parked one of a flow. -/
  | parked (key : Key)

/-- The connection in a slot, if there is one. -/
def at? (t : Table Key (Tcp.Connection (Tagged σ))) : Slot → Option (Tcp.Connection (Tagged σ))
  | .live key => t.live.get? key
  | .parked key => t.parked.get? key

/-- The tags of the streams that the connections of a table hold. -/
def held (t : Table Key (Tcp.Connection (Tagged σ))) : List Nat :=
  heldIn t.live ++ heldIn t.parked

@[simp] theorem heldBy_some (c : Tcp.Connection (Tagged σ)) : heldBy (some c) = c.held := by
  simp [heldBy]

variable (m : Assoc Key (Tcp.Connection (Tagged σ))) (key : Key)
  (conn : Tcp.Connection (Tagged σ)) (t : Table Key (Tcp.Connection (Tagged σ)))

theorem heldIn_perm : (heldIn m).Perm (heldBy (m.get? key) ++ heldIn (m.erase key)) := by
  have h := (m.values_perm key).flatMap_right Tcp.Connection.held
  rwa [List.flatMap_append] at h

theorem heldIn_insert_perm :
    (heldIn (m.insert key conn)).Perm (conn.held ++ heldIn (m.erase key)) := by
  have h := (m.values_insert_perm key conn).flatMap_right Tcp.Connection.held
  rwa [List.flatMap_cons] at h

/-- What the connections other than the live one under a key hold. -/
def heldBesideLive : List Nat := heldIn (t.live.erase key) ++ heldIn t.parked

/-- What the connections other than the parked one under a key hold. -/
def heldBesideParked : List Nat := heldIn t.live ++ heldIn (t.parked.erase key)

theorem held_perm_live : t.held.Perm (heldBy (t.live.get? key) ++ t.heldBesideLive key) := by
  have h := (heldIn_perm t.live key).append_right (heldIn t.parked)
  rwa [List.append_assoc] at h

theorem held_perm_parked : t.held.Perm (heldBy (t.parked.get? key) ++ t.heldBesideParked key) := by
  have h := (heldIn_perm t.parked key).append_left (heldIn t.live)
  refine h.trans ?_
  rw [← List.append_assoc, heldBesideParked, ← List.append_assoc]
  exact List.perm_append_comm.append_right _

theorem held_setLive_perm : (t.setLive key conn).held.Perm (conn.held ++ t.heldBesideLive key) := by
  have h := (heldIn_insert_perm t.live key conn).append_right (heldIn t.parked)
  rwa [List.append_assoc] at h

theorem held_setParked_perm :
    (t.setParked key conn).held.Perm (conn.held ++ t.heldBesideParked key) := by
  have h := (heldIn_insert_perm t.parked key conn).append_left (heldIn t.live)
  refine h.trans ?_
  rw [← List.append_assoc, heldBesideParked, ← List.append_assoc]
  exact List.perm_append_comm.append_right _

/-- Removing a key takes away what the live and the parked connection under it hold. -/
theorem held_remove_perm :
    t.held.Perm
      (heldBy (t.live.get? key) ++ (heldBy (t.parked.get? key) ++ (t.remove key).2.held)) := by
  refine (t.held_perm_live key).trans (List.Perm.append_left _ ?_)
  exact held_perm_parked key ⟨t.live.erase key, t.parked⟩

/-- Parking takes away what the connection holds that was parked before. -/
theorem held_park_perm (hlive : t.live.get? key = some conn) :
    t.held.Perm (heldBy (t.parked.get? key) ++ (t.park key).2.held) := by
  have hrest := held_perm_parked key ⟨t.live.erase key, t.parked⟩
  have hpark : (t.park key).2 = setParked ⟨t.live.erase key, t.parked⟩ key conn := by
    simp [park, hlive, setParked]
  have hafter := held_setParked_perm key conn ⟨t.live.erase key, t.parked⟩
  have htaken := t.held_perm_live key
  rw [hlive, heldBy_some] at htaken
  rw [hpark]
  refine htaken.trans ((hrest.append_left conn.held).trans ?_)
  exact (List.perm_append_comm_assoc _ _ _).trans (hafter.symm.append_left _)

/-! ### Who holds a stream -/

variable {m key conn t} {slot slot' : Slot} {tag : Nat} {c d : Tcp.Connection (Tagged σ)}

theorem mem_heldIn :
    tag ∈ heldIn m ↔ ∃ key conn, m.get? key = some conn ∧ tag ∈ conn.held := by
  simp only [heldIn, Assoc.values, List.mem_flatMap, List.mem_map, Prod.exists, exists_eq_right,
    Assoc.get?_eq_some_iff]
  constructor
  · rintro ⟨conn, ⟨key, hmem⟩, htag⟩
    exact ⟨key, conn, hmem, htag⟩
  · rintro ⟨key, conn, hmem, htag⟩
    exact ⟨conn, ⟨key, hmem⟩, htag⟩

theorem mem_held : tag ∈ t.held ↔ ∃ slot conn, t.at? slot = some conn ∧ tag ∈ conn.held := by
  rw [held, List.mem_append, mem_heldIn, mem_heldIn]
  constructor
  · rintro (⟨key, conn, h⟩ | ⟨key, conn, h⟩)
    · exact ⟨.live key, conn, h⟩
    · exact ⟨.parked key, conn, h⟩
  · rintro ⟨key | key, conn, h⟩
    · exact .inl ⟨key, conn, h⟩
    · exact .inr ⟨key, conn, h⟩

/-- If no tag is listed twice, a stream is held under one key only. -/
theorem key_unique {j k : Key} (h : (heldIn m).Nodup) (hc : m.get? j = some c)
    (hd : m.get? k = some d) (htag : tag ∈ c.held) (htag' : tag ∈ d.held) : j = k := by
  refine Decidable.byContradiction fun hne => ?_
  have hsplit := (heldIn_perm m j).nodup_iff.1 h
  rw [hc, heldBy_some] at hsplit
  have hrest : tag ∈ heldIn (m.erase j) := by
    refine mem_heldIn.2 ⟨k, d, ?_, htag'⟩
    rw [Assoc.get?_erase, if_neg (Ne.symm hne), hd]
  exact (List.nodup_append.1 hsplit).2.2 tag htag tag hrest rfl

/-- If no tag is listed twice, a stream is held in one slot only. -/
theorem slot_unique (h : t.held.Nodup) (hc : t.at? slot = some c) (hd : t.at? slot' = some d)
    (htag : tag ∈ c.held) (htag' : tag ∈ d.held) : slot = slot' := by
  obtain ⟨hlive, hparked, hdisjoint⟩ := List.nodup_append.1 h
  cases slot with
  | live j =>
    cases slot' with
    | live k => rw [key_unique hlive hc hd htag htag']
    | parked k =>
      exact absurd rfl (hdisjoint tag (mem_heldIn.2 ⟨j, c, hc, htag⟩) tag
        (mem_heldIn.2 ⟨k, d, hd, htag'⟩))
  | parked j =>
    cases slot' with
    | live k =>
      exact absurd rfl (hdisjoint tag (mem_heldIn.2 ⟨k, d, hd, htag'⟩) tag
        (mem_heldIn.2 ⟨j, c, hc, htag⟩))
    | parked k => rw [key_unique hparked hc hd htag htag']

end Flow.Table

/-! ## Scenes -/

namespace Tunnel

open Tcp (Ends)
open Flow.Table (heldIn heldBy heldBy_some)

/-- The account balances with the streams of the tunnel and those held elsewhere. -/
def Scene.Balanced (others : List Nat) (s : Scene (Ledger ω) (Tagged σ)) : Prop :=
  s.host.world.Balances (s.tunnel.sessions.held ++ others)

variable {others : List Nat} {s : Scene (Ledger ω) (Tagged σ)} {key : Flow.Key}
  {conn : Tcp.Connection (Tagged σ)}

/-! ### Connections out of their place -/

namespace Scene.Balanced

theorem noteFailure (hs : s.Balanced others) (key : Flow.Key) (e : TcpError) :
    (s.noteFailure key e).Balanced others := by
  unfold Scene.noteFailure
  split
  · exact hs
  · split <;> exact hs

/-- A live connection that is taken out of its place leaves the account balanced with what the
others hold. -/
theorem takeLive (hs : s.Balanced others) (hconn : s.live? key = some conn)
    (channel : Esp.Channel) :
    Tcp.Scene.Balanced (s.tunnel.sessions.heldBesideLive key ++ others)
      ⟨conn, channel, s.host⟩ := by
  have hlive : s.tunnel.sessions.live.get? key = some conn := hconn
  have htable := (s.tunnel.sessions.held_perm_live key).append_right others
  rw [hlive, heldBy_some, List.append_assoc] at htable
  exact hs.perm htable.symm

/-- A connection that is put into a live place balances the account again. -/
theorem setLive {host : Host (Ledger ω)} (channel : Esp.Channel)
    (h : host.world.Balances (conn.held ++ (s.tunnel.sessions.heldBesideLive key ++ others))) :
    ((({ s with host } : Scene _ _).setChannel channel).setLive key conn).Balanced others := by
  have htable := (s.tunnel.sessions.held_setLive_perm key conn).append_right others
  rw [List.append_assoc] at htable
  exact h.perm htable

theorem takeParked (hs : s.Balanced others) (hconn : s.parked? key = some conn)
    (channel : Esp.Channel) :
    Tcp.Scene.Balanced (s.tunnel.sessions.heldBesideParked key ++ others)
      ⟨conn, channel, s.host⟩ := by
  have hparked : s.tunnel.sessions.parked.get? key = some conn := hconn
  have htable := (s.tunnel.sessions.held_perm_parked key).append_right others
  rw [hparked, heldBy_some, List.append_assoc] at htable
  exact hs.perm htable.symm

theorem setParked {host : Host (Ledger ω)} (channel : Esp.Channel)
    (h : host.world.Balances (conn.held ++ (s.tunnel.sessions.heldBesideParked key ++ others))) :
    ((({ s with host } : Scene _ _).setChannel channel).setParked key conn).Balanced others := by
  have htable := (s.tunnel.sessions.held_setParked_perm key conn).append_right others
  rw [List.append_assoc] at htable
  exact h.perm htable

end Scene.Balanced

/-! ### Operations -/

variable [Platform ω σ]

/-- A tunnel's own link neither opens nor closes streams. -/
theorem Profile.send_isFrugal (p : Profile) : Tcp.IsFrugalLink (ω := ω) p.send := by
  intro packet receiver channel host
  have hends := p.send_ends packet receiver channel host
  generalize p.send packet receiver channel host = x at hends ⊢
  cases hends <;> exact ⟨rfl, rfl⟩

theorem Scene.closeRemoved_balances {held : List Nat} {c : Option (Tcp.Connection (Tagged σ))}
    (h : s.host.world.Balances (heldBy c ++ held)) :
    (s.closeRemoved key c).host.world.Balances held := by
  unfold closeRemoved
  cases c with
  | none => exact h
  | some c =>
    rw [heldBy_some] at h
    rcases hclose : c.close s.host with ⟨fault | ⟨⟩, c', host⟩
    · simp only [hclose]
      exact (Tcp.Connection.close_balances hclose h).2
    · simp only [hclose]
      exact (Tcp.Connection.close_balances hclose h).2

namespace Scene.Balanced

theorem terminate (hs : s.Balanced others) (key : Flow.Key) :
    (s.terminate key).Balanced others := by
  have htable := (s.tunnel.sessions.held_remove_perm key).append_right others
  rw [List.append_assoc, List.append_assoc] at htable
  have hlive := hs.perm htable.symm
  unfold Balanced
  rw [terminate_tunnel]
  exact closeRemoved_balances (closeRemoved_balances (s := s.setSessions _) hlive)

theorem terminateEach (hs : s.Balanced others) (keys : List Flow.Key) :
    (s.terminateEach keys).Balanced others := by
  unfold Scene.terminateEach
  induction keys generalizing s with
  | nil => exact hs
  | cons key rest ih => exact ih (hs.terminate key)

theorem terminateAllBy (hs : s.Balanced others) (rota : Rota) :
    (s.terminateAllBy rota).Balanced others :=
  (hs.terminateEach _).terminateEach _

theorem release (hs : s.Balanced others) (key : Flow.Key) : (s.release key).Balanced others := by
  cases hlive : s.tunnel.sessions.live.get? key with
  | none =>
    have hpark : s.tunnel.sessions.park key = (false, s.tunnel.sessions) := by
      simp [Flow.Table.park, hlive]
    simpa [Scene.release, hpark] using hs
  | some conn =>
    have htable := (s.tunnel.sessions.held_park_perm key conn hlive).append_right others
    rw [List.append_assoc] at htable
    have hafter := hs.perm htable.symm
    have hpark : s.tunnel.sessions.park key = (true, (s.tunnel.sessions.park key).2) := by
      simp [Flow.Table.park, hlive]
    unfold Scene.release
    rw [hpark]
    simp only [if_true]
    cases hparked : s.tunnel.sessions.parked.get? key with
    | none =>
      rw [hparked] at hafter
      simp only [parked?, hparked]
      exact hafter
    | some displaced =>
      rw [hparked, heldBy_some] at hafter
      simp only [parked?, hparked]
      exact (Tcp.Connection.close_balances rfl hafter).2

theorem continueFlow (hs : s.Balanced others) (packet : Ipv4.Packet) (sender : Endpoint)
    (now : Nat) (hconn : s.live? key = some conn) :
    (s.continueFlow key conn packet sender now).Balanced others := by
  unfold Scene.continueFlow
  split
  · exact hs
  · obtain ⟨r, t, hstep, hbalanced⟩ := Scene.runStep_ends (s := s)
      (Tcp.Connection.accept_balanced s.tunnel.profile.send_isFrugal packet now
        (hs.takeLive hconn s.tunnel.channel))
    have hback := setLive t.carrier hbalanced
    simp only [hstep]
    rcases r with e | proceed | endSession
    · exact (hback.noteFailure key e).terminate key
    · exact hback
    · exact hback.terminate key

theorem startFlow (hs : s.Balanced others) (packet : Ipv4.Packet) (sender : Endpoint) (now : Nat)
    (hnone : s.live? key = none) : (s.startFlow key packet sender now).Balanced others := by
  have hlive : s.tunnel.sessions.live.get? key = none := hnone
  have htable := (s.tunnel.sessions.held_perm_live key).append_right others
  rw [hlive] at htable
  have hbeside := hs.perm htable.symm
  unfold Scene.startFlow
  rcases s.tunnel.channel.draw with ⟨seed, channel⟩
  let conn : Tcp.Connection (Tagged σ) :=
    .fresh key sender s.tunnel.profile.settings.relaySize ⟨seed, 0⟩ now
  have hfresh : Tcp.Scene.Balanced (s.tunnel.sessions.heldBesideLive key ++ others)
      ⟨conn, channel, s.host⟩ := hbeside
  obtain ⟨r, t, hstep, hbalanced⟩ := Scene.runStep_ends (s := s.setChannel channel)
    (Tcp.Connection.start_balanced s.tunnel.profile.send_isFrugal packet now rfl hfresh)
  simp only [conn] at hstep
  simp only [hstep]
  rcases hclose : t.conn.close t.host with ⟨result, conn', host⟩
  have hclosed := (Tcp.Connection.close_balances hclose hbalanced).2.perm htable
  rcases r with e | proceed | endSession
  · have hdiscarded : Balanced others
        { (s.setChannel channel).setChannel t.carrier with host := t.conn.discard t.host } := by
      simp only [Tcp.Connection.discard, hclose]
      exact hclosed
    exact hdiscarded.noteFailure key e
  · exact setLive (s := s.setChannel channel) t.carrier hbalanced
  · simp only [Scene.setChannel, hclose]
    cases result <;> exact hclosed

theorem visitLive (hs : s.Balanced others) (now : Nat) (key : Flow.Key) :
    (s.visitLive now key).2.Balanced others := by
  unfold Scene.visitLive
  split
  · exact hs
  · next conn hconn =>
    split
    · exact hs.terminate key
    · obtain ⟨r, t, hstep, hbalanced⟩ := Scene.runStep_ends (s := s)
        (Tcp.Connection.pump_balanced s.tunnel.profile.send_isFrugal
          (hs.takeLive hconn s.tunnel.channel))
      have hback := setLive t.carrier hbalanced
      simp only [hstep]
      cases r with
      | ok relayed => exact hback
      | error e => exact (hback.noteFailure key e).terminate key

theorem visitParked (hs : s.Balanced others) (key : Flow.Key) :
    (s.visitParked key).Balanced others := by
  unfold Scene.visitParked
  split
  · exact hs
  · next conn hconn =>
    split
    · have htaken := hs.takeParked hconn s.tunnel.channel
      exact (Tcp.Connection.close_balances rfl htaken).2
    · obtain ⟨r, t, hstep, hbalanced⟩ := Scene.runStep_ends (s := s)
        (Tcp.Connection.pump_balanced s.tunnel.profile.send_isFrugal
          (hs.takeParked hconn s.tunnel.channel))
      simp only [hstep]
      cases r with
      | ok relayed => exact setParked t.carrier hbalanced
      | error e =>
        rcases hclose : t.conn.close (t.host.note (.parkedFailed key e)) with ⟨result, conn', host⟩
        obtain ⟨hnothing, hclosed⟩ := Tcp.Connection.close_balances hclose hbalanced
        rw [← List.nil_append (_ ++ others), ← hnothing] at hclosed
        simp only [Scene.note, Scene.setChannel, hclose]
        exact setParked t.carrier hclosed

/-- A connection that is closed behind the tunnel's back holds nothing from then on. -/
theorem closeLive (hs : s.Balanced others) (key : Flow.Key) :
    (s.closeLive key).2.Balanced others := by
  unfold Scene.closeLive
  split
  · exact hs
  · next conn hconn =>
    rcases hclose : conn.close s.host with ⟨result, conn', host⟩
    obtain ⟨hnothing, hclosed⟩ := Tcp.Connection.close_balances hclose
      (hs.takeLive hconn s.tunnel.channel)
    rw [← List.nil_append (_ ++ others), ← hnothing] at hclosed
    exact setLive s.tunnel.channel hclosed

theorem closeParked (hs : s.Balanced others) (key : Flow.Key) :
    (s.closeParked key).2.Balanced others := by
  unfold Scene.closeParked
  split
  · exact hs
  · next conn hconn =>
    rcases hclose : conn.close s.host with ⟨result, conn', host⟩
    obtain ⟨hnothing, hclosed⟩ := Tcp.Connection.close_balances hclose
      (hs.takeParked hconn s.tunnel.channel)
    rw [← List.nil_append (_ ++ others), ← hnothing] at hclosed
    exact setParked s.tunnel.channel hclosed

end Scene.Balanced

/-- Every operation of a tunnel keeps the account balanced, whatever is held elsewhere. -/
theorem stable_balanced (others : List Nat) :
    Stable (Scene.Balanced (ω := ω) (σ := σ) others) where
  note _ _ hs := hs
  setChannel _ hs := hs
  setLastProbe _ hs := hs
  transmit _ _ hs := hs
  terminate key hs := hs.terminate key
  release key hs := hs.release key
  continueFlow packet sender now _ _ hconn hs := hs.continueFlow packet sender now hconn
  startFlow packet sender now _ _ hnone hs := hs.startFlow packet sender now hnone
  visitLive now key hs := hs.visitLive now key
  visitParked key hs := hs.visitParked key

/-! ### Streams that go on by themselves -/

/-- A change of the stream under a tag. -/
def underTag (f : Tcp.Connection (Tagged σ) → σ → σ) (c : Tcp.Connection (Tagged σ))
    (s : Tagged σ) : Tagged σ := { s with stream := f c s.stream }

theorem heldIn_drifted (f : Tcp.Connection (Tagged σ) → σ → σ)
    (m : Assoc Flow.Key (Tcp.Connection (Tagged σ))) :
    heldIn (m.mapValues (drifted (underTag f))) = heldIn m := by
  have hheld : ∀ c : Tcp.Connection (Tagged σ), (drifted (underTag f) c).held = c.held := by
    intro c
    simp [Tcp.Connection.held, drifted, underTag, Function.comp_def]
  simp [heldIn, Assoc.values, Assoc.mapValues, List.flatMap_map, hheld]

/-- Streams and their world may go on by themselves between operations. -/
theorem Scene.Balanced.drift (hs : s.Balanced others)
    (live parked : Tcp.Connection (Tagged σ) → σ → σ) (world : ω → ω) :
    ((Moment.drift (underTag live) (underTag parked) fun l => { l with world := world l.world }).run
      s).Balanced others := by
  unfold Balanced Flow.Table.held Moment.run
  simp only [setSessions, heldIn_drifted]
  exact hs

end Tunnel

end Ipsec
