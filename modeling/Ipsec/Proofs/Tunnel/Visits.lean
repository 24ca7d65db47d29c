import Mathlib.Logic.Function.Iterate
import Ipsec.Proofs.Flow.Assoc
import Ipsec.Proofs.Tcp.Turn
import Ipsec.Proofs.Tunnel.Operation

/-!
# Visits apart from the world

What a pump tick makes of a tunnel, and what it emits for each flow, does not depend on the world,
if its transport takes or refuses a packet whatever was sent before, and its random source works or
fails throughout. A `Draft` is a tunnel in the course of such a tick. A visit has an `Effect` on the
draft, which it works out from the connection of its flow alone. Visits of two flows commute
(`Draft.visit_comm`), so a tick comes to the same draft in whatever order it goes through the flows
(`Draft.tick_eq`).
-/

namespace Ipsec.Tunnel

open Tcp (Answer)
open Tcp.Connection (Anchored turn_emits)

variable {σ : Type}

/-- The connection is that of a flow in a table, live or parked. -/
def Has (t : Flow.Table Flow.Key (Tcp.Connection σ)) (key : Flow.Key) (conn : Tcp.Connection σ) :
    Prop :=
  t.live.get? key = some conn ∨ t.parked.get? key = some conn

/-! ## Effects -/

/-- What a tunnel gives to its transport in a tick. -/
inductive Emission where
  /-- A keep-alive probe. -/
  | probe
  /-- A packet that a connection of a flow handed over, for an endpoint. -/
  | segment (key : Flow.Key) (packet : Ipv4.Packet) (receiver : Endpoint)
deriving DecidableEq

/-- The flow that something is emitted for. -/
def Emission.flow? : Emission → Option Flow.Key
  | probe => none
  | segment key _ _ => some key

/-- What a visit of a flow does. -/
structure Effect (σ : Type) where
  /-- Whether it counts as work. -/
  acted : Bool
  /-- What it makes of the table of flows. -/
  table : Flow.Table Flow.Key (Tcp.Connection σ) → Flow.Table Flow.Key (Tcp.Connection σ)
  /-- The packets that the connection hands over. -/
  handed : List (Ipv4.Packet × Endpoint) := []

/-- The channel after a packet was wrapped, or could not be. -/
def Profile.advance (p : Profile) (channel : Esp.Channel) : Esp.Channel :=
  let (iv, c) := (channel.capture p.settings.captureTraffic).drawVector
  if iv.isSome then { c with lastOutbound := c.lastOutbound + 1 } else c

theorem Profile.vectors_advance (p : Profile) (channel : Esp.Channel) :
    (p.advance channel).vectors = channel.vectors.next.2 := by
  rw [← channel.vectors_capture p.settings.captureTraffic]
  unfold advance Esp.Channel.drawVector
  generalize channel.capture p.settings.captureTraffic = c
  rcases c.vectors.next with ⟨_ | iv, vectors⟩ <;> rfl

theorem Profile.steady_advance (p : Profile) {works : Bool} {channel : Esp.Channel}
    (h : channel.vectors.Steady works) (n : Nat) :
    (p.advance^[n] channel).vectors.Steady works := by
  induction n generalizing channel with
  | zero => exact h
  | succ n ih =>
    have hnext := h.next
    rw [← p.vectors_advance] at hnext
    exact ih hnext

/-- What comes to the transport of the packets that a connection hands over, if the random source
works. -/
def Profile.emissions (works : Bool) (p : Profile) (key : Flow.Key)
    (handed : List (Ipv4.Packet × Endpoint)) : List Emission :=
  if works && p.hasTransport then handed.map fun x => .segment key x.1 x.2 else []

theorem Profile.emissions_nil (works : Bool) (p : Profile) (key : Flow.Key) :
    p.emissions works key [] = [] := by
  unfold emissions
  split <;> rfl

/-- The way in which a sweep visits flows. -/
structure Visitor (σ : Type) where
  /-- The connection of a flow that is visited. -/
  find : Flow.Table Flow.Key (Tcp.Connection σ) → Flow.Key → Option (Tcp.Connection σ)
  /-- What the visit does. -/
  effect : Profile → Flow.Key → Tcp.Connection σ → Effect σ

section

variable [LocalStream σ]

/-- The live sweep. -/
def liveVisitor (answer : Profile → Answer) (now : Nat) : Visitor σ where
  find t key := t.live.get? key
  effect p key conn :=
    let ended : Flow.Table Flow.Key (Tcp.Connection σ) → _ := fun t => (t.remove key).2
    if p.settings.tcpTimeout < conn.idle now || conn.state = .closed then ⟨true, ended, []⟩
    else
      let turn := conn.turn (answer p)
      match turn.result with
      | some relayed => ⟨relayed, (·.setLive key turn.conn), turn.handed⟩
      | none => ⟨true, ended, turn.handed⟩

/-- The parked sweep. -/
def parkedVisitor (answer : Profile → Answer) : Visitor σ where
  find t key := t.parked.get? key
  effect p key conn :=
    if conn.state = .closed then ⟨false, fun t => (t.removeParked key).2, []⟩
    else
      let turn := conn.turn (answer p)
      match turn.result with
      | some _ => ⟨false, (·.setParked key turn.conn), turn.handed⟩
      | none =>
        let closed := { turn.conn with state := .closed, stream := none }
        ⟨false, (·.setParked key closed), turn.handed⟩

end

/-- The visits of two flows have nothing to do with each other: one leaves what the other finds as
it was, and both come to the same table in either order. -/
structure Visitor.Separate (v : Visitor σ) : Prop where
  find : ∀ {j k} {t p conn}, j ≠ k → v.find ((v.effect p k conn).table t) j = v.find t j
  table : ∀ {j k} {t p conn other}, j ≠ k → v.find t j = some conn → v.find t k = some other →
    (v.effect p j conn).table ((v.effect p k other).table t) =
      (v.effect p k other).table ((v.effect p j conn).table t)

/-- A visit either puts what became of the connection into the table, or takes flows out of it. -/
def Visitor.Acts (v : Visitor σ)
    (put : Flow.Key → Tcp.Connection σ → Flow.Table Flow.Key (Tcp.Connection σ) →
      Flow.Table Flow.Key (Tcp.Connection σ))
    (take : Flow.Key → Flow.Table Flow.Key (Tcp.Connection σ) →
      Flow.Table Flow.Key (Tcp.Connection σ)) : Prop :=
  ∀ p key conn, (∃ c, Anchored conn c ∧ (v.effect p key conn).table = put key c)
    ∨ (v.effect p key conn).table = take key

/-- Visits are separate if to put and to take under different keys is. -/
theorem Visitor.Acts.separate {v : Visitor σ}
    {put : Flow.Key → Tcp.Connection σ → Flow.Table Flow.Key (Tcp.Connection σ) →
      Flow.Table Flow.Key (Tcp.Connection σ)}
    {take : Flow.Key → Flow.Table Flow.Key (Tcp.Connection σ) →
      Flow.Table Flow.Key (Tcp.Connection σ)} (hv : v.Acts put take)
    (hfind_put : ∀ {j k t c}, j ≠ k → v.find (put k c t) j = v.find t j)
    (hfind_take : ∀ {j k t}, j ≠ k → v.find (take k t) j = v.find t j)
    (hput : ∀ {j k t conn other} c c', j ≠ k → v.find t j = some conn → v.find t k = some other →
      put j c (put k c' t) = put k c' (put j c t))
    (hput_take : ∀ {j k t conn} c, j ≠ k → v.find t j = some conn →
      put j c (take k t) = take k (put j c t))
    (htake : ∀ j k t, take j (take k t) = take k (take j t)) : v.Separate where
  find {j k t p conn} hne := by
    rcases hv p k conn with ⟨c, -, h⟩ | h
    · rw [h, hfind_put hne]
    · rw [h, hfind_take hne]
  table {j k t p conn other} hne hj hk := by
    rcases hv p j conn with ⟨c, -, h⟩ | h <;> rcases hv p k other with ⟨c', -, h'⟩ | h'
    all_goals rw [h, h']
    · exact hput c c' hne hj hk
    · exact hput_take c hne hj
    · exact (hput_take c' hne.symm hk).symm
    · exact htake j k t

/-- A visit brings no connection into a tunnel. -/
def Visitor.Keeps (v : Visitor σ) : Prop :=
  ∀ {p key conn t j c'}, v.find t key = some conn → Has ((v.effect p key conn).table t) j c' →
    ∃ c, Has t j c ∧ Anchored c c'

section

variable [LocalStream σ] (answer : Profile → Answer)

theorem acts_liveVisitor (now : Nat) :
    (liveVisitor (σ := σ) answer now).Acts (fun key c t => t.setLive key c)
      fun key t => (t.remove key).2 := by
  intro p key conn
  simp only [liveVisitor]
  split
  · exact .inr rfl
  · split
    · exact .inl ⟨_, (turn_emits (answer p) conn).1, rfl⟩
    · exact .inr rfl

theorem acts_parkedVisitor :
    (parkedVisitor (σ := σ) answer).Acts (fun key c t => t.setParked key c)
      fun key t => (t.removeParked key).2 := by
  intro p key conn
  have hturn := (turn_emits (answer p) conn).1
  simp only [parkedVisitor]
  split
  · exact .inr rfl
  · split
    · exact .inl ⟨_, hturn, rfl⟩
    · refine .inl ⟨_, ?_, rfl⟩
      exact ⟨hturn.key, hturn.gateway, hturn.near, hturn.remote⟩

theorem separate_liveVisitor (now : Nat) : (liveVisitor (σ := σ) answer now).Separate := by
  refine (acts_liveVisitor answer now).separate (Assoc.get?_insert_of_ne _ _)
    (Assoc.get?_erase_of_ne _) (fun c c' hne hj hk => ?_) (fun c hne hj => ?_) fun j k t => ?_
  · exact congrArg (Flow.Table.mk · _) (Assoc.insert_comm hne hj hk c c').symm
  · exact congrArg (Flow.Table.mk · _) (Assoc.erase_insert_comm hne hj c).symm
  · exact congrArg₂ Flow.Table.mk (Assoc.erase_comm _ _ _) (Assoc.erase_comm _ _ _)

theorem separate_parkedVisitor : (parkedVisitor (σ := σ) answer).Separate := by
  refine (acts_parkedVisitor answer).separate (Assoc.get?_insert_of_ne _ _)
    (Assoc.get?_erase_of_ne _) (fun c c' hne hj hk => ?_) (fun c hne hj => ?_) fun j k t => ?_
  · exact congrArg (Flow.Table.mk _) (Assoc.insert_comm hne hj hk c c').symm
  · exact congrArg (Flow.Table.mk _) (Assoc.erase_insert_comm hne hj c).symm
  · exact congrArg (Flow.Table.mk _) (Assoc.erase_comm _ _ _)

theorem keeps_liveVisitor (now : Nat) : (liveVisitor (σ := σ) answer now).Keeps := by
  intro p key conn t j c' hconn hhas
  rcases acts_liveVisitor answer now p key conn with ⟨c, hanchored, h⟩ | h
  all_goals rw [h] at hhas
  · rcases hhas with hlive | hparked
    · have hlive : (t.live.insert key c).get? j = some c' := hlive
      rw [Assoc.get?_insert] at hlive
      split at hlive
      · next hj =>
        obtain rfl := Option.some.inj hlive
        exact ⟨conn, .inl (hj ▸ hconn), hanchored⟩
      · exact ⟨c', .inl hlive, .refl c'⟩
    · exact ⟨c', .inr hparked, .refl c'⟩
  · refine ⟨c', hhas.imp (fun hlive => ?_) fun hparked => ?_, .refl c'⟩
    · exact Assoc.get?_of_erase hlive
    · exact Assoc.get?_of_erase hparked

theorem keeps_parkedVisitor : (parkedVisitor (σ := σ) answer).Keeps := by
  intro p key conn t j c' hconn hhas
  rcases acts_parkedVisitor answer p key conn with ⟨c, hanchored, h⟩ | h
  all_goals rw [h] at hhas
  · rcases hhas with hlive | hparked
    · exact ⟨c', .inl hlive, .refl c'⟩
    · have hparked : (t.parked.insert key c).get? j = some c' := hparked
      rw [Assoc.get?_insert] at hparked
      split at hparked
      · next hj =>
        obtain rfl := Option.some.inj hparked
        exact ⟨conn, .inr (hj ▸ hconn), hanchored⟩
      · exact ⟨c', .inr hparked, .refl c'⟩
  · exact ⟨c', hhas.imp_right Assoc.get?_of_erase, .refl c'⟩

end

/-! ## Drafts -/

/-- A tunnel in the course of a tick, apart from the world. -/
structure Draft (σ : Type) where
  /-- The tunnel. -/
  tunnel : Tunnel σ
  /-- Whether there was work. -/
  acted : Bool := false
  /-- What was emitted for each flow, and for none. -/
  emitted : Option Flow.Key → List Emission := fun _ => []

namespace Draft

/-- What an effect on a flow makes of a draft, with a random source that works or fails. -/
def apply (works : Bool) (key : Flow.Key) (e : Effect σ) (d : Draft σ) : Draft σ where
  tunnel :=
    { d.tunnel with
      channel := d.tunnel.profile.advance^[e.handed.length] d.tunnel.channel
      sessions := e.table d.tunnel.sessions }
  acted := d.acted || e.acted
  emitted flow :=
    d.emitted flow ++ (d.tunnel.profile.emissions works key e.handed).filter (·.flow? = flow)

/-- What a visit of a flow makes of a draft. -/
def visit (works : Bool) (v : Visitor σ) (d : Draft σ) (key : Flow.Key) : Draft σ :=
  match v.find d.tunnel.sessions key with
  | none => d
  | some conn => d.apply works key (v.effect d.tunnel.profile key conn)

/-- A draft as it begins, with the probe that is sent if one is due. -/
def probe (now : Nat) (t : Tunnel σ) : Draft σ :=
  let sent : List Emission := if t.profile.hasTransport then [.probe] else []
  if t.profile.initiator && t.profile.settings.keepAliveInterval ≤ now - t.lastProbe then
    { tunnel := { t with lastProbe := now }
      acted := true
      emitted := fun flow => sent.filter (·.flow? = flow) }
  else { tunnel := t }

/-- A pump tick of a tunnel. Its random source works throughout if it does at the beginning. -/
def tick [LocalStream σ] (answer : Bool → Profile → Answer) (rota : Rota) (now : Nat)
    (t : Tunnel σ) : Draft σ :=
  let works := t.channel.vectors.isReady
  let live := visit works (liveVisitor (answer works) now)
  let parked := visit works (parkedVisitor (answer works))
  let d := probe now t
  let d := (rota.live d.tunnel.sessions.live.keys).foldl live d
  (rota.parked d.tunnel.sessions.parked.keys).foldl parked d

/-! ## Order -/

theorem filter_emissions_of_ne (works : Bool) (p : Profile) {key : Flow.Key}
    {flow : Option Flow.Key} (handed : List (Ipv4.Packet × Endpoint)) (h : flow ≠ some key) :
    (p.emissions works key handed).filter (·.flow? = flow) = [] := by
  unfold Profile.emissions
  split
  · refine List.filter_eq_nil_iff.2 fun e he => ?_
    obtain ⟨x, -, rfl⟩ := List.mem_map.1 he
    exact fun hsame => h (of_decide_eq_true hsame).symm
  · rfl

/-- Effects on two flows commute, if they do on the table. -/
theorem apply_comm (works : Bool) {j k : Flow.Key} (hne : j ≠ k) {e f : Effect σ} {d : Draft σ}
    (htable : e.table (f.table d.tunnel.sessions) = f.table (e.table d.tunnel.sessions)) :
    (d.apply works j e).apply works k f = (d.apply works k f).apply works j e := by
  have hchannel := (Function.Commute.iterate_iterate_self d.tunnel.profile.advance
    f.handed.length e.handed.length).eq d.tunnel.channel
  -- At most one of the two emits something for a given flow.
  have hemitted : ∀ flow,
      d.emitted flow ++ (d.tunnel.profile.emissions works j e.handed).filter (·.flow? = flow)
          ++ (d.tunnel.profile.emissions works k f.handed).filter (·.flow? = flow) =
        d.emitted flow ++ (d.tunnel.profile.emissions works k f.handed).filter (·.flow? = flow)
          ++ (d.tunnel.profile.emissions works j e.handed).filter (·.flow? = flow) := by
    intro flow
    by_cases hflow : flow = some j
    · rw [filter_emissions_of_ne works _ f.handed (by simpa [hflow] using hne), List.append_nil,
        List.append_nil]
    · rw [filter_emissions_of_ne works _ e.handed hflow, List.append_nil, List.append_nil]
  simp only [apply, hchannel, htable, hemitted, Bool.or_right_comm]

section

variable {works : Bool} {v : Visitor σ} {d : Draft σ} {key j k : Flow.Key}

theorem visit_of_none (h : v.find d.tunnel.sessions key = none) : d.visit works v key = d := by
  simp only [visit, h]

theorem visit_of_some {conn : Tcp.Connection σ} (h : v.find d.tunnel.sessions key = some conn) :
    d.visit works v key = d.apply works key (v.effect d.tunnel.profile key conn) := by
  simp only [visit, h]

variable (works d) in
theorem find_visit (hv : v.Separate) (hne : j ≠ k) :
    v.find (d.visit works v k).tunnel.sessions j = v.find d.tunnel.sessions j := by
  unfold visit
  split
  · rfl
  · exact hv.find hne

/-- Visits of two flows commute. -/
theorem visit_comm (hv : v.Separate) (d : Draft σ) (j k : Flow.Key) :
    (d.visit works v j).visit works v k = (d.visit works v k).visit works v j := by
  by_cases hne : j = k
  · rw [hne]
  · have hfindj := find_visit works d hv hne
    have hfindk := find_visit works d hv (Ne.symm hne)
    -- Neither visit changes what the other one finds, so both effects are those on `d`.
    rcases hj : v.find d.tunnel.sessions j with _ | conn
    · rw [visit_of_none hj, visit_of_none (hfindj.trans hj)]
    · rcases hk : v.find d.tunnel.sessions k with _ | other
      · rw [visit_of_none hk, visit_of_none (hfindk.trans hk)]
      · rw [visit_of_some (hfindk.trans hk), visit_of_some (hfindj.trans hj), visit_of_some hj,
          visit_of_some hk]
        exact apply_comm works hne (hv.table hne hj hk)

end

theorem sweep_eq {works : Bool} {v : Visitor σ} (hv : v.Separate) {keys keys' : List Flow.Key}
    (hperm : keys.Perm keys') (d : Draft σ) :
    keys.foldl (visit works v) d = keys'.foldl (visit works v) d :=
  hperm.foldl_eq' (fun j _ k _ d => visit_comm hv d j k) d

/-- A tick comes to the same in whatever order it goes through the flows. -/
theorem tick_eq [LocalStream σ] (answer : Bool → Profile → Answer) {rota rota' : Rota}
    (hrota : rota.IsFair) (hrota' : rota'.IsFair) (now : Nat) (t : Tunnel σ) :
    tick answer rota now t = tick answer rota' now t := by
  have hlive : ∀ keys, (rota.live keys).Perm (rota'.live keys) := fun keys =>
    (hrota.live keys).trans (hrota'.live keys).symm
  have hparked : ∀ keys, (rota.parked keys).Perm (rota'.parked keys) := fun keys =>
    (hrota.parked keys).trans (hrota'.parked keys).symm
  simp only [tick, sweep_eq (separate_liveVisitor (answer _) now) (hlive _)]
  exact sweep_eq (separate_parkedVisitor (answer _)) (hparked _) _

end Draft

/-! ## Connections in a tick -/

/-- From `t` to `t'` a tunnel keeps its profile, its random source works or fails on, and there is
no connection that was not there. -/
structure Descends (t t' : Tunnel σ) : Prop where
  profile : t'.profile = t.profile
  steady : ∀ {works}, t.channel.vectors.Steady works → t'.channel.vectors.Steady works
  has : ∀ {key c'}, Has t'.sessions key c' → ∃ c, Has t.sessions key c ∧ Anchored c c'

namespace Descends

variable {t t' t'' : Tunnel σ}

theorem refl (t : Tunnel σ) : Descends t t := ⟨rfl, id, fun {_ c} hc => ⟨c, hc, .refl c⟩⟩

theorem trans (h : Descends t t') (h' : Descends t' t'') : Descends t t'' := by
  refine ⟨h'.profile.trans h.profile, h'.steady ∘ h.steady, fun {key c''} hc'' => ?_⟩
  obtain ⟨c', hc', hanchored'⟩ := h'.has hc''
  obtain ⟨c, hc, hanchored⟩ := h.has hc'
  exact ⟨c, hc, hanchored.trans hanchored'⟩

end Descends

theorem Draft.descends_visit {v : Visitor σ} (hv : v.Keeps) (works : Bool) (d : Draft σ)
    (key : Flow.Key) : Descends d.tunnel (d.visit works v key).tunnel := by
  unfold visit
  split
  · exact .refl d.tunnel
  · next conn hconn =>
    exact ⟨rfl, fun hsteady => d.tunnel.profile.steady_advance hsteady _, hv hconn⟩

end Ipsec.Tunnel
