import Ipsec.Proofs.Tcp.Lifecycle
import Ipsec.Proofs.Tunnel.Isolation
import Ipsec.Proofs.Tunnel.Sweeping

/-!
# The last contact of a flow

A live connection was last in contact when the last packet of its flow came in through its gateway:
the packet that opened the flow, or a later one, whatever the connection made of it (`LastContact`).
Packets through other gateways do not count, and neither does what the tunnel sends. Over a run the
live connections keep track of this time (`Dated`): most incidents are no contact at all (`Unmet`),
and one that brings a packet is a contact of one flow at most.

With the sweep of live flows this says which of them a tick keeps, after every run
(`tick_keeps_flows_in_contact`).
-/

namespace Ipsec

variable {κ ω σ : Type}

/-! ## Connections -/

namespace Tcp.Connection

variable [Platform ω σ] {link : Link κ ω} {packet : Ipv4.Packet} {s t : Scene κ ω σ}
  {r : Except TcpError Disposition}

/-- A connection that does not listen does not begin to, whatever packet it handles. -/
theorem Handled.untimed
    (h : Handled link (fun s t => t.conn.state = s.conn.state
      ∧ t.conn.lastContact = s.conn.lastContact) packet s r t)
    (hstate : s.conn.state ≠ .listen) :
    t.conn.lastContact = s.conn.lastContact ∧ t.conn.state ≠ .listen := by
  cases h with
  | unreadable => exact ⟨rfl, hstate⟩
  | closed => exact ⟨rfl, hstate⟩
  | listening _ hlisten => exact absurd hlisten hstate
  | answered _ _ h => cases h <;> exact ⟨rfl, by simp [hstate]⟩
  | established _ _ h =>
    cases h with
    | ignored => exact ⟨rfl, hstate⟩
    | reset => exact ⟨rfl, by simp⟩
    | empty => exact ⟨rfl, hstate⟩
    | counted _ _ hR => exact ⟨hR.2, fun hlisten => hstate (hR.1.symm.trans hlisten)⟩
  | ending => exact ⟨rfl, hstate⟩

/-- To accept a packet is a contact. -/
theorem accept_dates (packet : Ipv4.Packet) (now : Nat) (hstate : s.conn.state ≠ .listen) :
    Ends (accept link packet now) s fun _ t =>
      t.conn.lastContact = now ∧ t.conn.state ≠ .listen :=
  (accept_ends (untimed_relayed link) packet now s).mono fun _ _ h => h.untimed hstate

/-- To be started is a contact. -/
theorem start_dates (packet : Ipv4.Packet) (now : Nat) (hclosed : s.conn.state = .closed) :
    Ends (start link packet now) s fun r t => ∀ d, r = .ok d →
      t.conn.lastContact = now ∧ t.conn.state ≠ .listen := by
  refine (start_ends (relayed_true link) packet now hclosed).mono fun r t h d hd => ?_
  cases h with
  | aborted => cases hd
  | handled _ h =>
    cases h with
    | listening _ _ h =>
      cases h with
      | answered => exact ⟨rfl, by simp⟩
    | answered _ hstate => cases hstate
    | established _ hstate => cases hstate
    | ending _ hstate => simp [listening] at hstate

end Tcp.Connection

namespace Tunnel

open Tcp.Connection (Anchored Opens)

/-! ## Incidents -/

/-- What happens to a tunnel: it is accessed, or its streams and its world go on without it. -/
inductive Incident (ω σ : Type) where
  /-- It is accessed, also from outside. -/
  | access (access : Access)
  /-- The streams of the live and of the parked connections change, and the world does. -/
  | drift (live parked : Tcp.Connection σ → σ → σ) (world : ω → ω)

/-- What an incident makes of a scene. -/
def Incident.run [Platform ω σ] (s : Scene ω σ) : Incident ω σ → Scene ω σ
  | access a => a.run s
  | drift live parked world => (Moment.drift live parked world).run s

/-- What some incidents make of a scene in turn. -/
def Incident.runAll [Platform ω σ] (incidents : List (Incident ω σ)) (s : Scene ω σ) :
    Scene ω σ :=
  incidents.foldl run s

/-! ## Contacts -/

/-- A packet that came in, with the time. -/
structure Contact extends Arrival where
  /-- The time. -/
  time : Nat

/-- A packet of a flow came in through a gateway. -/
def Contact.isOf (key : Flow.Key) (gateway : IpAddress) (c : Contact) : Bool :=
  c.packet.flow? = some key ∧ c.sender.address = gateway

/-- When the last packet of a flow came in through a gateway. -/
def lastSeen (key : Flow.Key) (gateway : IpAddress) (contacts : List Contact) : Option Nat :=
  (contacts.filter (·.isOf key gateway)).getLast?.map (·.time)

/-- The time of an operation that acts on what comes in. -/
def Operation.time : Operation → Nat
  | handleDatagram _ _ now => now
  | dispatch _ _ now => now
  | _ => 0

/-- The packets that come in with an operation, at most one. -/
def Operation.contacts (s : Scene ω σ) (op : Operation) : List Contact :=
  (op.arrivals s).map (⟨·, op.time⟩)

/-- The packets that come in with an incident, at most one. -/
def Incident.contacts (s : Scene ω σ) : Incident ω σ → List Contact
  | access (.operation op) => op.contacts s
  | _ => []

/-- The packets that come in with some incidents in turn. -/
def Incident.contactsAll [Platform ω σ] : List (Incident ω σ) → Scene ω σ → List Contact
  | [], _ => []
  | i :: rest, s => i.contacts s ++ contactsAll rest (i.run s)

/-- A flow was last in contact at a time: a packet opened it, and the time is that of the last
packet of the flow since then, the first one included, that came in through its gateway. -/
def LastContact (contacts : List Contact) (key : Flow.Key) (conn : Tcp.Connection σ) (last : Nat) :
    Prop :=
  ∃ before opening after, contacts = before ++ opening :: after ∧
    Opens opening.packet conn.remote conn.near ∧ opening.isOf key conn.gateway.address ∧
    lastSeen key conn.gateway.address (opening :: after) = some last

namespace LastContact

variable {key : Flow.Key} {contacts : List Contact} {c : Contact} {conn conn' : Tcp.Connection σ}
  {last : Nat}

theorem opened (contacts : List Contact) (hopens : Opens c.packet conn.remote conn.near)
    (hof : c.isOf key conn.gateway.address) : LastContact (contacts ++ [c]) key conn c.time :=
  ⟨contacts, c, [], rfl, hopens, hof, by simp [lastSeen, hof]⟩

theorem anchored (h : LastContact contacts key conn last) (hanchored : Anchored conn conn') :
    LastContact contacts key conn' last := by
  unfold LastContact
  rw [hanchored.remote, hanchored.near, hanchored.gateway]
  exact h

/-- A packet of the flow that comes in through its gateway is a contact. -/
theorem renewed (h : LastContact contacts key conn last) (hof : c.isOf key conn.gateway.address) :
    LastContact (contacts ++ [c]) key conn c.time := by
  obtain ⟨before, opening, after, rfl, hopens, hopening, -⟩ := h
  refine ⟨before, opening, after ++ [c], by simp, hopens, hopening, ?_⟩
  rw [← List.cons_append]
  simp [lastSeen, hof]

/-- Any other packet is not. -/
theorem skipped (h : LastContact contacts key conn last)
    (hnot : c.isOf key conn.gateway.address = false) :
    LastContact (contacts ++ [c]) key conn last := by
  obtain ⟨before, opening, after, rfl, hopens, hopening, hlast⟩ := h
  refine ⟨before, opening, after ++ [c], by simp, hopens, hopening, ?_⟩
  rw [← List.cons_append, ← hlast]
  simp [lastSeen, hnot]

end LastContact

/-! ## What is no contact -/

/-- A connection of a flow knows when it was last in contact. One that listens would still wait for
the packet that opens the flow. -/
structure Remembers (contacts : List Contact) (key : Flow.Key) (conn : Tcp.Connection σ) :
    Prop where
  state : conn.state ≠ .listen
  contact : LastContact contacts key conn conn.lastContact

/-- The live connections of a tunnel know when they were last in contact. -/
def Dated (contacts : List Contact) (s : Scene ω σ) : Prop :=
  ∀ key conn, s.live? key = some conn → Remembers contacts key conn

/-- A connection goes on without a contact, and does not begin to listen. -/
structure Ages (c c' : Tcp.Connection σ) : Prop extends Anchored c c' where
  lastContact : c'.lastContact = c.lastContact
  state : c.state ≠ .listen → c'.state ≠ .listen

/-- From `s` to `t` no live connection was in contact, and none went live. -/
def Unmet (s t : Scene ω σ) : Prop :=
  ∀ key c', t.live? key = some c' → ∃ c, s.live? key = some c ∧ Ages c c'

theorem Ages.refl (c : Tcp.Connection σ) : Ages c c := ⟨.refl c, rfl, id⟩

/-- What brings no packet is no contact. -/
theorem Dated.idle {contacts : List Contact} {s t : Scene ω σ} (h : Dated contacts s)
    (hunmet : Unmet s t) : Dated (contacts ++ []) t := by
  rw [List.append_nil]
  intro key c' hc'
  obtain ⟨c, hc, hages⟩ := hunmet key c' hc'
  obtain ⟨hstate, hcontact⟩ := h key c hc
  rw [← hages.lastContact] at hcontact
  exact ⟨hages.state hstate, hcontact.anchored hages.toAnchored⟩

namespace Unmet

variable {s t u : Scene ω σ} {key : Flow.Key}

/-- It depends on the live connections only, and it does not matter if some go. -/
theorem of_live (h : ∀ key, t.live? key = none ∨ t.live? key = s.live? key) : Unmet s t := by
  intro key c' hc'
  rcases h key with hnone | hsame
  · cases hnone.symm.trans hc'
  · exact ⟨c', hsame.symm.trans hc', .refl c'⟩

theorem of_sessions (h : t.tunnel.sessions = s.tunnel.sessions) : Unmet s t :=
  of_live fun key => .inr (congrArg (·.live.get? key) h)

theorem trans (h : Unmet s t) (h' : Unmet t u) : Unmet s u := by
  intro key c'' hc''
  obtain ⟨c', hc', hages'⟩ := h' key c'' hc''
  obtain ⟨c, hc, hages⟩ := h key c' hc'
  exact ⟨c, hc, hages.toAnchored.trans hages'.toAnchored,
    hages'.lastContact.trans hages.lastContact, hages'.state ∘ hages.state⟩

/-- A live connection that ages may be put in its place. -/
theorem setLive {c c' : Tcp.Connection σ} (hs : ∀ j, t.live? j = s.live? j)
    (hc : s.live? key = some c) (hages : Ages c c') : Unmet s (t.setLive key c') := by
  intro j d hd
  rw [Scene.live?_setLive] at hd
  split at hd
  · next hj =>
    cases hd
    exact ⟨c, hj ▸ hc, hages⟩
  · exact ⟨d, hs j ▸ hd, .refl d⟩

variable [Platform ω σ]

theorem terminate (key : Flow.Key) (s : Scene ω σ) : Unmet s (s.terminate key) :=
  of_live fun j => by
    rw [Scene.live?_terminate]
    split
    · exact .inl rfl
    · exact .inr rfl

theorem release (key : Flow.Key) (s : Scene ω σ) : Unmet s (s.release key) :=
  of_live fun j => by
    rw [Scene.live?_release]
    split
    · exact .inl rfl
    · exact .inr rfl

theorem terminateEach (keys : List Flow.Key) (s : Scene ω σ) : Unmet s (s.terminateEach keys) := by
  unfold Scene.terminateEach
  induction keys generalizing s with
  | nil => exact of_sessions rfl
  | cons key rest ih => exact (terminate key s).trans (ih _)

theorem closeLive (key : Flow.Key) (s : Scene ω σ) : Unmet s (s.closeLive key).2 := by
  unfold Scene.closeLive
  split
  · exact of_sessions rfl
  · next conn hconn =>
    rcases hclose : conn.close s.host with ⟨result, conn', host⟩
    refine setLive (fun _ => rfl) hconn ?_
    rw [Tcp.Connection.conn_of_close hclose]
    exact ⟨⟨rfl, rfl, rfl, rfl⟩, rfl, fun _ => by simp⟩

theorem closeParked (key : Flow.Key) (s : Scene ω σ) : Unmet s (s.closeParked key).2 := by
  unfold Scene.closeParked
  split
  · exact of_sessions rfl
  · exact of_live fun _ => .inr rfl

theorem visitLive (now : Nat) (key : Flow.Key) (s : Scene ω σ) :
    Unmet s (s.visitLive now key).2 := by
  have hends := Scene.visitLive_ends (s := s) key now fun conn _ =>
    (Tcp.Connection.pump_untimed s.tunnel.profile.send ⟨conn, s.tunnel.channel, s.host⟩).and
      (Tcp.Connection.pump_anchored _)
  generalize (s.visitLive now key).2 = t at hends ⊢
  cases hends with
  | absent => exact of_sessions rfl
  | finished => exact terminate key s
  | pumped hconn hQ =>
    obtain ⟨⟨hstate, hcontact⟩, hanchored⟩ := hQ
    exact setLive (fun _ => rfl) hconn ⟨hanchored, hcontact, fun h => hstate ▸ h⟩
  | failed =>
    refine of_live fun j => ?_
    by_cases hj : j = key
    · exact .inl (by simp [hj])
    · exact .inr (by simp [hj])

theorem swept : Swept (ω := ω) (σ := σ) Unmet where
  refl _ := of_sessions rfl
  trans := trans
  note _ _ _ := of_sessions rfl
  drawIdentification _ := of_sessions rfl
  send _ _ _ := of_sessions rfl
  setLastProbe _ _ := of_sessions rfl
  transmitProbe _ _ := of_sessions rfl
  visitLive s now key := visitLive now key s
  visitParked s key := of_live fun j => .inr (live?_visitParked key j s)

end Unmet

/-! ## Inbound packets -/

section

variable [Platform ω σ] {s : Scene ω σ} {contacts : List Contact} {key : Flow.Key}
  {packet : Ipv4.Packet}

/-- A packet that belongs to a flow goes to its live connection, or starts one. -/
theorem Scene.dispatch_of_flow (hflow : packet.flow? = some key) (sender : Endpoint) (now : Nat)
    (s : Scene ω σ) :
    s.dispatch packet sender now =
      (s.live? key).elim (s.startFlow key packet sender now)
        fun conn => s.continueFlow key conn packet sender now := by
  obtain ⟨htcp, hkey, hvalid⟩ := Ipv4.Packet.flow?_eq_some.1 hflow
  have hother : packet.protocol ≠ Protocol.icmp := by
    rw [htcp]
    decide
  simp only [dispatch, if_neg hother, if_pos htcp, handleSegment, hkey, if_pos hvalid]
  cases s.live? key <;> rfl

theorem Dated.continueFlow (h : Dated contacts s) {conn c' : Tcp.Connection σ}
    (hconn : s.live? key = some conn) (hflow : packet.flow? = some key) (sender : Endpoint)
    (now : Nat) (hc' : (s.continueFlow key conn packet sender now).live? key = some c') :
    Remembers (contacts ++ [⟨⟨packet, sender⟩, now⟩]) key c' := by
  obtain ⟨hstate, hlast⟩ := h key conn hconn
  have hends := Scene.continueFlow_ends (s := s) key sender
    ((Tcp.Connection.accept_dates (s := ⟨conn, s.tunnel.channel, s.host⟩) packet now hstate).and
      (Tcp.Connection.accept_anchored packet now hstate))
  generalize s.continueFlow key conn packet sender now = t at hends hc'
  cases hends with
  | crossed hgateway =>
    obtain rfl : conn = c' := Option.some.inj (hconn.symm.trans hc')
    have hnot : Contact.isOf key conn.gateway.address ⟨⟨packet, sender⟩, now⟩ = false := by
      simp [Contact.isOf, Ne.symm hgateway]
    exact ⟨hstate, hlast.skipped hnot⟩
  | @proceeded u hgateway hQ =>
    obtain ⟨⟨hcontact, hopen⟩, hanchored⟩ := hQ
    obtain rfl : u.conn = c' := by simpa using hc'
    have hof : Contact.isOf key conn.gateway.address ⟨⟨packet, sender⟩, now⟩ := by
      simp [Contact.isOf, hflow, hgateway]
    exact ⟨hopen, hcontact ▸ (hlast.renewed hof).anchored hanchored⟩
  | ended => simp at hc'
  | failed => simp at hc'

theorem remembers_startFlow (contacts : List Contact) {c' : Tcp.Connection σ}
    (hnone : s.live? key = none) (hflow : packet.flow? = some key) (sender : Endpoint) (now : Nat)
    (hc' : (s.startFlow key packet sender now).live? key = some c') :
    Remembers (contacts ++ [⟨⟨packet, sender⟩, now⟩]) key c' := by
  have hends : Scene.Begun
      (fun r u => ∀ d, r = .ok d →
        (u.conn.lastContact = now ∧ u.conn.state ≠ .listen) ∧
          u.conn.gateway = sender ∧ Opens packet u.conn.remote u.conn.near)
      key s (s.startFlow key packet sender now) := by
    refine Scene.startFlow_ends key fun random => ?_
    refine ((Tcp.Connection.start_dates packet now rfl).and
      (Tcp.Connection.start_endpoints packet now rfl)).mono fun r u h d hd => ?_
    exact ⟨h.1 d hd, (h.2 d hd).2⟩
  generalize s.startFlow key packet sender now = t at hends hc'
  cases hends with
  | @opened u hQ =>
    obtain ⟨⟨hcontact, hopen⟩, hgateway, hopens⟩ := hQ _ rfl
    obtain rfl : u.conn = c' := by simpa using hc'
    have hof : Contact.isOf key u.conn.gateway.address ⟨⟨packet, sender⟩, now⟩ := by
      simp [Contact.isOf, hflow, hgateway]
    exact ⟨hopen, hcontact ▸ .opened contacts hopens hof⟩
  | ended => cases hnone.symm.trans hc'
  | refused => simp [hnone] at hc'

theorem Dated.dispatch (h : Dated contacts s) (packet : Ipv4.Packet) (sender : Endpoint)
    (now : Nat) :
    Dated (contacts ++ [⟨⟨packet, sender⟩, now⟩]) (s.dispatch packet sender now) := by
  intro j c' hc'
  by_cases hflow : packet.flow? = some j
  · rw [Scene.dispatch_of_flow hflow] at hc'
    cases hlive : s.live? j with
    | some conn =>
      simp only [hlive] at hc'
      exact h.continueFlow hlive hflow sender now hc'
    | none =>
      simp only [hlive] at hc'
      exact remembers_startFlow contacts hlive hflow sender now hc'
  · have hnot : Contact.isOf j c'.gateway.address ⟨⟨packet, sender⟩, now⟩ = false := by
      simp [Contact.isOf, hflow]
    have hkept := h j c' ((Scene.dispatch_spares hflow sender now s).1 ▸ hc')
    exact ⟨hkept.state, hkept.contact.skipped hnot⟩

/-! ## Runs -/

theorem Dated.handleDatagram (h : Dated contacts s) (data : Bytes) (sender : Endpoint)
    (now : Nat) :
    Dated (contacts ++ ((s.decapsulate data).1.toOption.toList.map (⟨·, sender⟩)).map (⟨·, now⟩))
      (s.handleDatagram data sender now).2 := by
  have htaken : Dated (contacts ++ []) (s.decapsulate data).2 := h.idle (.of_sessions rfl)
  unfold Scene.handleDatagram
  rcases hresult : s.decapsulate data with ⟨e | packet, t⟩
  all_goals rw [hresult] at htaken
  · exact htaken
  · rw [List.append_nil] at htaken
    exact htaken.dispatch packet sender now

theorem Dated.operation (h : Dated contacts s) (op : Operation) :
    Dated (contacts ++ op.contacts s) (op.run s) := by
  cases op with
  | handleDatagram data sender now => exact h.handleDatagram data sender now
  | dispatch packet sender now => exact h.dispatch packet sender now
  | pump rota now => exact h.idle (Unmet.swept.pumpBy rota now s)
  | terminate key => exact h.idle (.terminate key s)
  | release key => exact h.idle (.release key s)
  | send packet receiver => exact h.idle (.of_sessions rfl)
  | ping source destination => exact h.idle (Unmet.swept.ping source destination s)
  | encapsulate packet => exact h.idle (.of_sessions rfl)
  | decapsulate data => exact h.idle (.of_sessions rfl)

theorem Dated.incident (h : Dated contacts s) (i : Incident ω σ) :
    Dated (contacts ++ i.contacts s) (i.run s) := by
  cases i with
  | access access =>
    cases access with
    | operation op => exact h.operation op
    | endAll rota => exact h.idle ((Unmet.terminateEach _ s).trans (.terminateEach _ _))
    | closeLive key => exact h.idle (.closeLive key s)
    | closeParked key => exact h.idle (.closeParked key s)
  | drift live parked world =>
    refine h.idle fun key c' hc' => ?_
    have hlive := Moment.live?_drift live parked world s key
    obtain ⟨c, hc, rfl⟩ := Option.map_eq_some_iff.1 (hlive.symm.trans hc')
    exact ⟨c, hc, ⟨rfl, rfl, rfl, rfl⟩, rfl, id⟩

theorem Dated.runAll (h : Dated contacts s) (incidents : List (Incident ω σ)) :
    Dated (contacts ++ Incident.contactsAll incidents s) (Incident.runAll incidents s) := by
  induction incidents generalizing contacts s with
  | nil =>
    rw [Incident.contactsAll, List.append_nil]
    exact h
  | cons i rest ih =>
    have hrest := ih (h.incident i)
    rwa [List.append_assoc] at hrest

end

/-! ## Ticks -/

/-- What a tick makes of the flows of a tunnel, after some contacts. -/
structure SweptFlows (contacts : List Contact) (rota : Rota) (now : Nat)
    (s t : Scene (Watch ω σ) (Watched σ)) [Platform ω σ] : Prop where
  /-- Each live flow was in contact some time, and this time decides whether the tick keeps it. -/
  live : ∀ {key conn}, s.live? key = some conn →
    ∃ last, LastContact contacts key conn last ∧ Judged rota now last key conn s t
  /-- No flow is added. -/
  added : ∀ key, (s.live? key = none → t.live? key = none) ∧
    (s.parked? key = none → t.parked? key = none)

/-- **A tick keeps the flows in contact.** After any run of a fresh tunnel, a tick keeps the live
flows whose last contact is not too long ago, that are not closed, and whose turn to be pumped goes
well. It ends the other live flows, and adds none. -/
theorem tick_keeps_flows_in_contact [Platform ω σ] {rota : Rota} (hrota : rota.IsFair)
    (profile : Profile) (seed : UInt64) (vectors : Nat → Option Aes.Block) (start : Nat)
    (host : Host (Watch ω σ)) (incidents : List (Incident (Watch ω σ) (Watched σ))) (now : Nat) :
    SweptFlows (Incident.contactsAll incidents ⟨fresh profile seed vectors start, host⟩) rota now
      (Incident.runAll incidents ⟨fresh profile seed vectors start, host⟩)
      ((Incident.runAll incidents ⟨fresh profile seed vectors start, host⟩).pumpBy rota now).2 := by
  have hfresh : Dated []
      (⟨fresh profile seed vectors start, host⟩ : Scene (Watch ω σ) (Watched σ)) :=
    fun _ _ hconn => absurd hconn.symm nofun
  have hdated := hfresh.runAll incidents
  rw [List.nil_append] at hdated
  generalize Incident.runAll incidents ⟨fresh profile seed vectors start, host⟩ = s at hdated ⊢
  refine ⟨fun {key conn} hconn => ?_, fun key => ?_⟩
  · exact ⟨conn.lastContact, (hdated key conn hconn).contact, tick_judges hrota now hconn⟩
  · have hticked : Ticked key s (s.pumpBy rota now).2 := Ticked.swept.pumpBy rota now s
    exact ⟨hticked.live, hticked.parked⟩

/-- A flow is opened. -/
def sampleOpening : List (Incident (Watch Simulation.World Simulation.App)
    (Watched Simulation.App)) :=
  [.access (.operation (sampleDispatch Tcp.Flags.syn))]

/-- A watched host on which nothing happened. -/
def sampleHost : Host (Watch Simulation.World Simulation.App) := ⟨{ world := {} }, []⟩

/-- After that the flow is live, and a tick goes by what is known of it. -/
theorem tick_keeps_opened_flow :
    let s : Scene (Watch Simulation.World Simulation.App) (Watched Simulation.App) :=
      ⟨fresh sampleProfile 1 sampleVectors 0, sampleHost⟩
    ((Incident.runAll sampleOpening s).live? sampleKey).isSome ∧ Rota.IsFair {} ∧
      SweptFlows (Incident.contactsAll sampleOpening s) {} 0 (Incident.runAll sampleOpening s)
        ((Incident.runAll sampleOpening s).pumpBy {} 0).2 := by
  refine ⟨by decide +kernel, Rota.isFair_default, ?_⟩
  exact tick_keeps_flows_in_contact Rota.isFair_default sampleProfile 1 sampleVectors 0 sampleHost
    sampleOpening 0

end Tunnel

end Ipsec
