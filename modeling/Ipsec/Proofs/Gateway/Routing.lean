import Ipsec.Proofs.Gateway.Settling
import Ipsec.Proofs.Tunnel.Channel
import Ipsec.Proofs.Tunnel.Outside
import Ipsec.Proofs.Tunnel.Wire

/-!
# Routing isolates tunnels

A datagram is for the tunnel that is registered under the index it starts with (`Scene.owner?`), if
there is one. Handling it is to let this tunnel handle it, to echo it, or to do nothing
(`Scene.handleDatagram_ends`), so no other tunnel takes part. Registered tunnels stand under their
own index in every reachable gateway (`Aligned.of_reachable`), because no access changes the profile
of a tunnel. `routing_isolates` puts this together, with what the tunnel sends.
-/

namespace Ipsec

variable {ω σ : Type}

/-! ## What never changes -/

namespace Tunnel

variable [Platform ω σ]

/-- No operation changes the profile of a tunnel. -/
theorem Operation.run_profile (op : Operation) (s : Scene ω σ) :
    (op.run s).tunnel.profile = s.tunnel.profile := by
  have hK : Sending fun _ _ => True :=
    ⟨fun _ => trivial, fun _ _ => trivial, fun _ => trivial, fun _ _ _ _ => trivial⟩
  exact (hK.operated.run (fun s packet => hK.wrap packet s)
    (fun _ _ => ⟨rfl, trivial⟩) op s).profile

/-- No access does. -/
theorem Access.run_profile (access : Access) (s : Scene ω σ) :
    (access.run s).tunnel.profile = s.tunnel.profile := by
  have hended : ∀ (keys : List Flow.Key) (s : Scene ω σ),
      (s.terminateEach keys).tunnel.profile = s.tunnel.profile := by
    intro keys
    induction keys with
    | nil => exact fun _ => rfl
    | cons key rest ih => exact fun s => (ih _).trans (s.terminate_profile key)
  cases access with
  | operation op => exact op.run_profile s
  | endAll rota => exact (hended _ _).trans (hended _ _)
  | closeLive key =>
    simp only [run, Scene.closeLive]
    split <;> rfl
  | closeParked key =>
    simp only [run, Scene.closeParked]
    split <;> rfl

/-! ## What a tunnel says -/

/-- From `x` to `y` a tunnel sent nothing but datagrams of its association. -/
def Says (p : Profile) (x y : Esp.Channel × Host (Wire ω)) : Prop :=
  ∃ more, y.2.world.sent = x.2.world.sent ++ more
    ∧ ∀ e ∈ more, ∃ iv packet sequence, e.1 = p.association.datagram iv packet sequence

omit [Platform ω σ] in
theorem Says.nothing {p : Profile} {x y : Esp.Channel × Host (Wire ω)}
    (h : y.2.world.sent = x.2.world.sent) : Says p x y :=
  ⟨[], by simpa using h, nofun⟩

/-- While it acts on a packet a tunnel sends nothing but datagrams of its association. -/
theorem uttering_said : Uttering (ω := Wire ω) (σ := σ) Says where
  link p :=
    { refl := fun _ => .nothing rfl
      trans := by
        rintro x y z ⟨first, h, hfirst⟩ ⟨rest, h', hrest⟩
        refine ⟨first ++ rest, by rw [h', h, List.append_assoc], fun e he => ?_⟩
        exact (List.mem_append.1 he).elim (hfirst e) (hrest e)
      handOver := fun packet receiver channel host => by
        have hends := p.send_ends packet receiver channel host
        generalize p.send packet receiver channel host = x at hends ⊢
        cases hends with
        | unwrapped => exact .nothing rfl
        | transmitted hwrap =>
          obtain ⟨-, -, iv, rfl⟩ := Profile.wrap_ok hwrap
          refine ⟨_, rfl, fun e he => ?_⟩
          obtain rfl := List.mem_singleton.1 he
          exact ⟨iv, packet, _, rfl⟩
        | dropped => exact .nothing rfl
      note := fun _ _ _ _ => .nothing rfl
      connect := fun _ _ _ => .nothing rfl
      close := fun _ _ _ => .nothing rfl }
  draw _ _ _ := .nothing rfl

theorem Scene.handleDatagram_said (data : Bytes) (sender : Endpoint) (now : Nat)
    (s : Scene (Wire ω) σ) : Leads Says s (s.handleDatagram data sender now).2 := by
  have hopened : Leads Says s (s.decapsulate data).2 := ⟨rfl, .nothing rfl⟩
  exact uttering_said.acting.trans hopened (uttering_said.acting.acted data sender now s)

/-- A tunnel reports a wrong index only if the datagram bears another one than its own. -/
theorem Scene.foreign_of_mismatch {data : Bytes} {sender : Endpoint} {now : Nat} {s : Scene ω σ}
    {expected actual : UInt32}
    (h : (s.handleDatagram data sender now).1 = .error (.spiMismatch expected actual)) :
    ∃ d, Esp.Datagram.ofBytes Esp.Suite.tagLength data = .ok d ∧ d.spi ≠ s.tunnel.spiIn := by
  have hmismatch : (s.decapsulate data).1 = .error (.spiMismatch expected actual) := by
    unfold handleDatagram at h
    split at h
    · next hresult =>
      obtain rfl := Except.error.inj h
      exact congrArg Prod.fst hresult
    · cases h
  exact (s.tunnel.profile.association.decapsulate_ends
    s.tunnel.profile.settings.captureTraffic data s.tunnel.channel).foreign_of_mismatch hmismatch

end Tunnel

namespace Gateway

open Esp (Datagram)

/-! ## The tunnel that a datagram is for -/

/-- The index that a datagram starts with. Short datagrams have none, and those that four zeros mark
as key exchange. -/
def index? : Bytes → Option UInt32
  | a :: b :: c :: d :: _ :: _ :: _ :: _ :: _ =>
    if word32 a b c d = 0 then none else some (word32 a b c d)
  | _ => none

theorem index?_eq_some_iff {data : Bytes} {spi : UInt32} :
    index? data = some spi ↔ 8 ≤ data.length ∧ data.take 4 = bytes32 spi ∧ spi ≠ 0 := by
  unfold index?
  split
  · next a b c d e f g h rest =>
    have htake : (a :: b :: c :: d :: e :: f :: g :: h :: rest).take 4 = bytes32 spi ↔
        spi = word32 a b c d := by
      rw [← bytes32_eq_iff]
      exact eq_comm
    have hlength : 8 ≤ (a :: b :: c :: d :: e :: f :: g :: h :: rest).length := by simp
    rw [htake]
    constructor
    · intro h
      split at h
      · cases h
      · next hne =>
        obtain rfl := Option.some.inj h
        exact ⟨hlength, rfl, hne⟩
    · rintro ⟨-, rfl, hne⟩
      rw [if_neg hne]
  · next hshort =>
    simp only [reduceCtorEq, false_iff]
    rintro ⟨hlength, -⟩
    match data with
    | a :: b :: c :: d :: e :: f :: g :: h :: rest => exact hshort a b c d e f g h rest rfl
    | [] | [_] | [_, _] | [_, _, _] | [_, _, _, _] | [_, _, _, _, _] | [_, _, _, _, _, _]
    | [_, _, _, _, _, _, _] => simp at hlength

/-- A datagram bears the index that it starts with. -/
theorem spi_of_index {data : Bytes} {spi : UInt32} {n : Nat} {d : Datagram}
    (h : index? data = some spi) (hframe : Datagram.ofBytes n data = .ok d) : d.spi = spi := by
  obtain ⟨-, htake, -⟩ := index?_eq_some_iff.1 h
  unfold Datagram.ofBytes at hframe
  split at hframe
  · split at hframe
    · cases hframe
    · cases hframe
      exact (bytes32_eq_iff.1 htake.symm).symm
  · cases hframe

/-- The datagram is a keep-alive probe: one to three bytes, with all bits of the first one set. -/
def isProbe (data : Bytes) : Bool := data.head? == some 0xff && data.length < 4

namespace Scene

/-- The place of the tunnel that a datagram is for. -/
def owner? (data : Bytes) (s : Scene ω σ) : Option Nat := (index? data).bind s.route?

variable [Platform ω σ]

/-- How handling a datagram ends. -/
inductive Handled (data : Bytes) (sender : Endpoint) (now : Nat) (s : Scene ω σ) :
    Except EspError Unit × Scene ω σ → Prop where
  /-- It is ignored, or too short. -/
  | idle {result : Except EspError Unit} (howner : s.owner? data = none)
      (hprobe : isProbe data = false)
      (hresult : result = .ok () ∨ result = .error (.truncated data.length)) :
      Handled data sender now s (result, s)
  /-- It goes back. -/
  | echoed (howner : s.owner? data = none) (hprobe : isProbe data = true) :
      Handled data sender now s (s.transmit data sender)
  /-- The tunnel that it is for handles it. -/
  | routed {place : Nat} (howner : s.owner? data = some place) (hprobe : isProbe data = false) :
      Handled data sender now s
        (((s.onTunnel place fun t => t.handleDatagram data sender now).1.getD (.ok ())),
          (s.onTunnel place fun t => t.handleDatagram data sender now).2)

theorem handleDatagram_ends (data : Bytes) (sender : Endpoint) (now : Nat) (s : Scene ω σ) :
    Handled data sender now s (s.handleDatagram data sender now) := by
  unfold handleDatagram
  split
  · next rest =>
    have hindex : index? (0 :: 0 :: 0 :: 0 :: rest) = none := by
      refine Option.eq_none_iff_forall_ne_some.2 fun spi h => ?_
      obtain ⟨-, htake, hne⟩ := index?_eq_some_iff.1 h
      exact hne (bytes32_eq_iff.1 htake.symm)
    exact .idle (by rw [owner?, hindex]; rfl) (by simp [isProbe]) (.inl rfl)
  · next a b c d e f g h rest hmarked =>
    have hindex :
        index? (a :: b :: c :: d :: e :: f :: g :: h :: rest) = some (word32 a b c d) := by
      refine index?_eq_some_iff.2 ⟨by simp, (bytes32_word32 a b c d).symm, fun hzero => ?_⟩
      have hbytes : [0, 0, 0, 0] = [a, b, c, d] := bytes32_eq_iff.2 hzero.symm
      simp only [List.cons.injEq, and_true] at hbytes
      obtain ⟨rfl, rfl, rfl, rfl⟩ := hbytes
      exact hmarked rfl rfl rfl rfl
    have hprobe : isProbe (a :: b :: c :: d :: e :: f :: g :: h :: rest) = false := by
      simp [isProbe]
    unfold handleIndexed
    split
    · next hroute => exact .idle (by rw [owner?, hindex]; exact hroute) hprobe (.inl rfl)
    · next place hroute => exact .routed (by rw [owner?, hindex]; exact hroute) hprobe
  · next first rest hmarked hindexed =>
    have howner : s.owner? (first :: rest) = none := by
      unfold owner? index?
      split
      · next h =>
        cases h
        exact (hindexed _ _ _ _ _ _ _ _ rfl).elim
      · rfl
    have hprobe : isProbe (first :: rest) = true ↔ first = 0xff ∧ rest.length < 3 := by
      have hlength : rest.length + 1 < 4 ↔ rest.length < 3 := by omega
      simp only [isProbe, List.head?_cons, List.length_cons, Bool.and_eq_true, beq_iff_eq,
        Option.some.injEq, decide_eq_true_eq, hlength]
    split
    · next h => exact .echoed howner (hprobe.2 h)
    · next h => exact .idle howner (Bool.eq_false_iff.2 fun hp => h (hprobe.1 hp)) (.inr rfl)
  · exact .idle rfl rfl (.inr rfl)

/-- Only the tunnel that it is for takes part in handling a datagram. -/
theorem tunnels_handleDatagram (data : Bytes) (sender : Endpoint) (now : Nat) (s : Scene ω σ)
    {place : Nat} (h : s.owner? data ≠ some place) :
    (s.handleDatagram data sender now).2.gateway.tunnels[place]? =
      s.gateway.tunnels[place]? := by
  have hends := s.handleDatagram_ends data sender now
  generalize s.handleDatagram data sender now = outcome at hends ⊢
  cases hends with
  | idle => rfl
  | echoed =>
    unfold transmit
    split <;> rfl
  | @routed owner howner =>
    have hne : place ≠ owner := by
      rintro rfl
      exact h howner
    exact (tunnels_onTunnel owner place s).trans (if_neg hne)

/-- Handling a datagram registers nothing, and takes nothing off the register. -/
theorem routes_handleDatagram (data : Bytes) (sender : Endpoint) (now : Nat) (s : Scene ω σ) :
    (s.handleDatagram data sender now).2.gateway.routes = s.gateway.routes := by
  have hends := s.handleDatagram_ends data sender now
  generalize s.handleDatagram data sender now = outcome at hends ⊢
  cases hends with
  | idle => rfl
  | echoed =>
    unfold transmit
    split <;> rfl
  | routed => exact routes_onTunnel _ _ s

end Scene

/-! ## Registered tunnels -/

/-- Every registered tunnel stands under its own index. -/
def Aligned (s : Scene ω σ) : Prop :=
  ∀ spi place, s.route? spi = some place →
    ∃ tunnel, s.gateway.tunnels[place]? = some tunnel ∧ tunnel.spiIn = spi

namespace Aligned

variable {s : Scene ω σ}

/-- What keeps the profile of one tunnel keeps every index. -/
theorem onTunnel {α : Type} (hs : Aligned s) (place : Nat)
    {action : Tunnel.Scene ω σ → α × Tunnel.Scene ω σ}
    (haction : ∀ t, (action t).2.tunnel.profile = t.tunnel.profile) :
    Aligned (s.onTunnel place action).2 := by
  intro spi other hroute
  rw [Scene.route?, Scene.routes_onTunnel] at hroute
  obtain ⟨tunnel, htunnel, hspi⟩ := hs spi other hroute
  rw [Scene.tunnels_onTunnel]
  split
  · next hsame =>
    refine ⟨_, by rw [← hsame, htunnel]; rfl, ?_⟩
    rw [Tunnel.spiIn, haction]
    exact hspi
  · exact ⟨tunnel, htunnel, hspi⟩

theorem setUp (hs : Aligned s) (profile : Tunnel.Profile) (seed : UInt64)
    (vectors : Nat → Option Aes.Block) (now : Nat) :
    Aligned (s.setUp profile seed vectors now) := by
  intro spi place hroute
  obtain ⟨tunnel, htunnel, hspi⟩ := hs spi place hroute
  refine ⟨tunnel, ?_, hspi⟩
  exact (List.getElem?_append_left (List.getElem?_eq_some_iff.1 htunnel).1).trans htunnel

theorem add (hs : Aligned s) (place : Nat) : Aligned (s.add place).2 := by
  unfold Scene.add
  split
  · exact hs
  · next tunnel htunnel =>
    intro spi other hroute
    simp only [Scene.route?, Scene.note, Assoc.get?_insert] at hroute
    split at hroute
    · next hspi =>
      cases hroute
      exact ⟨tunnel, htunnel, hspi.symm⟩
    · exact hs spi other hroute

theorem removeBy [Platform ω σ] (hs : Aligned s) (rota : Tunnel.Rota) (spi : UInt32) :
    Aligned (s.removeBy rota spi).2 := by
  unfold Scene.removeBy
  split
  · exact hs
  · next place _ =>
    let off : Scene ω σ :=
      { s with gateway := { s.gateway with routes := s.gateway.routes.erase spi } }
    have hoff : Aligned off := fun other place hroute => hs other place (Assoc.get?_of_erase hroute)
    have hended : Aligned (off.onTunnel place fun t => ((), t.terminateAllBy rota)).2 :=
      hoff.onTunnel place fun t => (Tunnel.Access.endAll rota).run_profile t
    exact hended

theorem stable [Platform ω σ] : Stable (Aligned (ω := ω) (σ := σ)) where
  note _ hs := hs
  transmit _ _ hs := hs
  setUp profile seed vectors now hs := hs.setUp profile seed vectors now
  add place hs := hs.add place
  remove rota spi hs := hs.removeBy rota spi
  tunnel place op hs := hs.onTunnel place op.run_profile
  closeLive place key hs := hs.onTunnel place fun t => (Tunnel.Access.closeLive key).run_profile t
  closeParked place key hs :=
    hs.onTunnel place fun t => (Tunnel.Access.closeParked key).run_profile t

/-- In a reachable gateway every registered tunnel stands under its own index. -/
theorem of_reachable [Platform ω σ] (hs : Reachable s) : Aligned s := by
  induction hs with
  | start => exact nofun
  | operation op _ ih => exact stable.run op ih
  | drift place live parked world _ ih => exact ih.onTunnel place fun _ => rfl

end Aligned

section

variable [Platform ω σ]

/-- Where tunnels stand under their own index, none gets a datagram with another one. -/
theorem Aligned.not_mismatch {s : Scene ω σ} (hs : Aligned s) (data : Bytes) (sender : Endpoint)
    (now : Nat) (expected actual : UInt32) :
    (s.handleDatagram data sender now).1 ≠ .error (.spiMismatch expected actual) := by
  have hends := s.handleDatagram_ends data sender now
  generalize s.handleDatagram data sender now = outcome at hends ⊢
  cases hends with
  | idle _ _ hresult => rcases hresult with rfl | rfl <;> exact nofun
  | echoed =>
    unfold Scene.transmit
    split <;> exact nofun
  | @routed place howner =>
    obtain ⟨spi, hindex, hroute⟩ := Option.bind_eq_some_iff.1 howner
    obtain ⟨tunnel, htunnel, rfl⟩ := hs spi place hroute
    intro hmismatch
    simp only [Scene.onTunnel, htunnel, Option.getD_some] at hmismatch
    obtain ⟨d, hframe, hforeign⟩ := Tunnel.Scene.foreign_of_mismatch hmismatch
    exact hforeign (spi_of_index hindex hframe)

/-- From `s` to `t` a datagram was handled, and no tunnel took part but the one that it is for. -/
structure Isolated (data : Bytes) (sender : Endpoint) (now : Nat) (s t : Scene (Wire ω) σ) :
    Prop where
  /-- The same tunnels are registered. -/
  routes : t.gateway.routes = s.gateway.routes
  /-- The other tunnels are as they were. -/
  others : ∀ place, s.owner? data ≠ some place →
    t.gateway.tunnels[place]? = s.gateway.tunnels[place]?
  /-- Without such a tunnel nothing is sent but a probe, back to where it came from. -/
  unowned : s.owner? data = none →
    t.host.world.sent = s.host.world.sent ++ if isProbe data then [(data, sender)] else []
  /-- The tunnel does what it does without the others, and sends nothing but its own datagrams. -/
  owned : ∀ place tunnel, s.owner? data = some place → s.gateway.tunnels[place]? = some tunnel →
    t.host =
        ((⟨tunnel, s.host⟩ : Tunnel.Scene (Wire ω) σ).handleDatagram data sender now).2.host ∧
      ∃ more, t.host.world.sent = s.host.world.sent ++ more ∧
        ∀ e ∈ more, ∃ iv packet sequence,
          e.1 = tunnel.profile.association.datagram iv packet sequence

theorem handleDatagram_isolated (data : Bytes) (sender : Endpoint) (now : Nat)
    (s : Scene (Wire ω) σ) : Isolated data sender now s (s.handleDatagram data sender now).2 := by
  have hroutes := s.routes_handleDatagram data sender now
  have hothers : ∀ place, s.owner? data ≠ some place →
      (s.handleDatagram data sender now).2.gateway.tunnels[place]? = s.gateway.tunnels[place]? :=
    fun _ => s.tunnels_handleDatagram data sender now
  have hends := s.handleDatagram_ends data sender now
  generalize s.handleDatagram data sender now = outcome at hends hroutes hothers ⊢
  refine ⟨hroutes, hothers, fun hnone => ?_, fun place tunnel howner htunnel => ?_⟩
  · cases hends with
    | idle _ hprobe => simp [hprobe]
    | echoed _ hprobe =>
      rw [if_pos hprobe]
      unfold Scene.transmit
      split
      all_goals
        next hsent => exact (congrArg (·.2.world.sent) hsent).symm
    | routed howner => exact absurd (hnone.symm.trans howner) nofun
  · cases hends with
    | idle hnone => exact absurd (hnone.symm.trans howner) nofun
    | echoed hnone => exact absurd (hnone.symm.trans howner) nofun
    | @routed owner howner' =>
      obtain rfl : owner = place := Option.some.inj (howner'.symm.trans howner)
      obtain ⟨-, more, hsent, hmore⟩ :=
        (⟨tunnel, s.host⟩ : Tunnel.Scene (Wire ω) σ).handleDatagram_said data sender now
      have hhost : (s.onTunnel owner fun t => t.handleDatagram data sender now).2.host =
          ((⟨tunnel, s.host⟩ : Tunnel.Scene (Wire ω) σ).handleDatagram data sender now).2.host := by
        simp only [Scene.onTunnel, htunnel]
      exact ⟨hhost, more, by rw [hhost]; exact hsent, hmore⟩

/-- **Tunnels are isolated.** In a reachable gateway every registered tunnel stands under its own
index, so no datagram that arrives is reported to bear a wrong one. To handle a datagram takes no
tunnel but the one that is registered under the index it starts with. -/
theorem routing_isolates {s : Scene (Wire ω) σ} (hs : Reachable s) :
    Aligned s ∧ ∀ data sender now,
      (∀ expected actual,
        (s.handleDatagram data sender now).1 ≠ .error (.spiMismatch expected actual)) ∧
      Isolated data sender now s (s.handleDatagram data sender now).2 := by
  have haligned := Aligned.of_reachable hs
  exact ⟨haligned, fun data sender now =>
    ⟨haligned.not_mismatch data sender now, handleDatagram_isolated data sender now s⟩⟩

end

/-! ## A replaced tunnel -/

/-- A tunnel is registered in place of another one with the same index. -/
def sampleReplaced : Scene (Wire Simulation.World) Simulation.App :=
  [.setUp Tunnel.sampleProfile 1 Tunnel.sampleVectors 0,
    .setUp Tunnel.sampleProfile 2 Tunnel.sampleVectors 0, .add 0, .add 1].foldl
    Operation.run ⟨{}, ⟨⟨{}, []⟩, []⟩⟩

theorem reachable_sampleReplaced : Reachable sampleReplaced := (Reachable.start _).operations _

/-- Nothing that arrives changes the tunnel that was replaced. -/
theorem routing_isolates_replaced :
    Reachable sampleReplaced ∧
      sampleReplaced.route? Tunnel.sampleProfile.association.spiIn = some 1 ∧
      ∀ data sender now,
        (sampleReplaced.handleDatagram data sender now).2.gateway.tunnels[0]? =
          sampleReplaced.gateway.tunnels[0]? := by
  refine ⟨reachable_sampleReplaced, by decide, fun data sender now => ?_⟩
  refine ((routing_isolates reachable_sampleReplaced).2 data sender now).2.others 0 fun howner => ?_
  obtain ⟨spi, -, hroute⟩ := Option.bind_eq_some_iff.1 howner
  have hmem := (Assoc.get?_eq_some_iff _ _ _).1 hroute
  have hentries : sampleReplaced.gateway.routes.entries =
      [(Tunnel.sampleProfile.association.spiIn, 1)] := by decide
  rw [hentries, List.mem_singleton] at hmem
  cases hmem

end Gateway

end Ipsec
