import Ipsec.Proofs.Tunnel.Alike
import Ipsec.Proofs.Tunnel.Creation

/-!
# Runs with colliding segments

A packet is a stray (`Scene.isStray`) if its segment collides with an established flow of the
tunnel. To act on it leaves the tunnel as it was, but for a time of contact and the log
(`dispatch_of_stray`). So if strays are put into a run at any points (`Disturbed`), all goes on as
without them: by induction on the run, the scenes stay alike. Only a flow that a stray keeps from
being idle for too long could tell, and a condition on the ticks of the run rules that out.
-/

namespace Ipsec.Tunnel

open Tcp (Segment Flags)
open Tcp.Connection (accept accept_of_collides dateless)

variable {ω σ : Type}

/-! ## Strays -/

/-- The packet has a segment that collides with an established flow. -/
def Scene.isStray (packet : Ipv4.Packet) (s : Scene ω σ) : Bool :=
  packet.flow?.any fun key => (s.live? key).any fun conn =>
    conn.state = .established &&
      (Segment.ofBytes? packet.payload).any fun segment => segment.collides conn.remote.port

theorem Scene.isStray_iff {packet : Ipv4.Packet} {s : Scene ω σ} :
    s.isStray packet ↔ ∃ key conn segment, packet.flow? = some key ∧ s.live? key = some conn ∧
      conn.state = .established ∧ Segment.ofBytes? packet.payload = some segment ∧
      segment.collides conn.remote.port := by
  simp only [isStray, Option.any_eq_true, Bool.and_eq_true, decide_eq_true_eq]
  constructor
  · rintro ⟨key, hflow, conn, hconn, hstate, segment, hread, hcollides⟩
    exact ⟨key, conn, segment, hflow, hconn, hstate, hread, hcollides⟩
  · rintro ⟨key, conn, segment, hflow, hconn, hstate, hread, hcollides⟩
    exact ⟨key, hflow, conn, hconn, hstate, segment, hread, hcollides⟩

/-- To write back a live connection that was only in contact changes no more than that. -/
theorem Alike.contacted {s : Scene ω σ} {key : Flow.Key} {conn : Tcp.Connection σ}
    (hconn : s.live? key = some conn) (now : Nat) (notice : Notice) :
    Alike s ((s.note notice).setLive key { conn with lastContact := now }) := by
  have hlive : (s.tunnel.sessions.live.mapValues dateless).get? key = some conn.dateless := by
    rw [Assoc.get?_mapValues]
    exact congrArg _ hconn
  have hsame : (s.tunnel.sessions.setLive key { conn with lastContact := now }).mapValues dateless =
      s.tunnel.sessions.mapValues dateless := by
    rw [Flow.Table.mapValues_setLive]
    exact congrArg (Flow.Table.mk · _) (Assoc.insert_get? hlive)
  exact ⟨rfl, rfl, rfl, hsame.symm, rfl⟩

/-- Acting on a stray, from whatever sender, leaves the scene alike. -/
theorem dispatch_of_stray [Platform ω σ] {packet : Ipv4.Packet} {s : Scene ω σ}
    (h : s.isStray packet) (sender : Endpoint) (now : Nat) :
    Alike s (s.dispatch packet sender now) := by
  obtain ⟨key, conn, segment, hflow, hconn, hstate, hread, hcollides⟩ := Scene.isStray_iff.1 h
  rw [Scene.dispatch_of_flow hflow, hconn]
  simp only [Option.elim, Scene.continueFlow]
  split
  · exact ⟨rfl, rfl, rfl, rfl, rfl⟩
  · have haccept : accept s.tunnel.profile.send packet now ⟨conn, s.tunnel.channel, s.host⟩ = _ :=
      accept_of_collides _ now hstate hread hcollides
    simp only [Scene.runStep, haccept]
    exact .contacted hconn now _

/-! ## Disturbed runs -/

/-- The second run is the first one with strays put into it. The runs start in two scenes. Where a
tick comes, the same flows are idle for too long in both. -/
inductive Disturbed [Platform ω σ] :
    Scene ω σ → Scene ω σ → List (Incident ω σ) → List (Incident ω σ) → Prop where
  /-- The runs end. -/
  | ended {s t : Scene ω σ} : Disturbed s t [] []
  /-- An incident of both runs. -/
  | shared {s t : Scene ω σ} {i : Incident ω σ} {run run' : List (Incident ω σ)}
      (hi : i.TreatsAlike s t) (h : Disturbed (i.run s) (i.run t) run run') :
      Disturbed s t (i :: run) (i :: run')
  /-- A stray comes in the second run. -/
  | inserted {s t : Scene ω σ} {packet : Ipv4.Packet} {sender : Endpoint} {now : Nat}
      {run run' : List (Incident ω σ)} (hstray : t.isStray packet)
      (h : Disturbed s (t.dispatch packet sender now) run run') :
      Disturbed s t run (.access (.operation (.dispatch packet sender now)) :: run')

/-- From scenes that are alike, a disturbed run ends alike. -/
theorem Disturbed.alike [Platform ω σ] {s t : Scene ω σ} {run run' : List (Incident ω σ)}
    (h : Disturbed s t run run') (halike : Alike s t) :
    Alike (Incident.runAll run s) (Incident.runAll run' t) := by
  induction h with
  | ended => exact halike
  | shared hi _ ih => exact ih (halike.incident _ hi)
  | inserted hstray _ ih => exact ih (halike.trans (dispatch_of_stray hstray _ _))

/-- Segments that collide with an established flow are ignored. -/
structure IgnoresCollisions (ω σ : Type) [Platform ω σ] : Prop where
  /-- A connection that is established notes the contact and logs the segment. All else in it, the
  state of its link and the world stay as they are. -/
  accept : ∀ {κ : Type} (link : Tcp.Link κ ω) {packet : Ipv4.Packet} {segment : Segment}
    (now : Nat) {s : Tcp.Scene κ ω σ}, s.conn.state = .established →
    Segment.ofBytes? packet.payload = some segment → segment.collides s.conn.remote.port →
    accept link packet now s = .ok .proceed (s.contacted now (segment.collision s.conn.remote))
  /-- Putting such segments into a run of a tunnel makes no difference but in the times of contact
  and the log: what was sent and what the streams were given is the same, and so are the flows. -/
  runs : ∀ {s : Scene ω σ} {run run' : List (Incident ω σ)}, Disturbed s s run run' →
    Alike (Incident.runAll run s) (Incident.runAll run' s)

/-- **Colliding segments can not touch an established flow.** -/
theorem collisions_ignored [Platform ω σ] : IgnoresCollisions ω σ where
  accept link _ _ now _ hstate hread hcollides := accept_of_collides link now hstate hread hcollides
  runs h := h.alike (.refl _)

/-- A flow that is opened, established and pumped. -/
def sampleRun : List (Incident Simulation.World Simulation.App) :=
  [.access (.operation (sampleDispatch Flags.syn)),
    .access (.operation (sampleDispatch Flags.ack)),
    .access (.operation (.pump {} 7))]

/-- The same with a reset and an opening segment in one, before the flow is pumped. -/
def sampleDisturbed : List (Incident Simulation.World Simulation.App) :=
  [.access (.operation (sampleDispatch Flags.syn)),
    .access (.operation (sampleDispatch Flags.ack)),
    .access (.operation (sampleDispatch (Flags.syn ||| Flags.rst))),
    .access (.operation (.pump {} 7))]

/-- The segment in between makes no difference. -/
theorem collisions_ignored_in_run :
    Disturbed sampleLinked sampleLinked sampleRun sampleDisturbed ∧
      Alike (Incident.runAll sampleRun sampleLinked)
        (Incident.runAll sampleDisturbed sampleLinked) := by
  have hrun : Disturbed sampleLinked sampleLinked sampleRun sampleDisturbed := by
    refine .shared trivial (.shared trivial (.inserted (by decide +kernel) (.shared ?_ .ended)))
    exact .of_le (by decide +kernel) (by decide +kernel)
  exact ⟨hrun, collisions_ignored.runs hrun⟩

end Ipsec.Tunnel
