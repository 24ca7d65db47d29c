import Ipsec.Proofs.Gateway.Routing

/-!
# What is not accepted has no effect

A gateway accepts a datagram if the tunnel that it is for takes it apart (`Scene.accepts`). Every
check that can refuse it stands before the first effect: a refused datagram moves nothing but the
count of captured packets (`Opened.channel_of_error`), and leaves lines on the log. So a run of
refused datagrams leaves the gateway as it was, and sends nothing but the probes among them back to
where they came from (`refused_is_silent`). Datagrams without the tag of a tunnel are a case of this
(`Forged`).
-/

namespace Ipsec

variable {ω σ : Type}

/-! ## Tunnels -/

/-- A datagram that is refused moves at most the count of captured packets. -/
theorem Esp.Association.Opened.channel_of_error {a : Association} {capture : Bool} {data : Bytes}
    {c : Channel} {opening : Opening} (h : a.Opened capture data c opening) {e : EspError}
    (hresult : opening.result = .error e) :
    opening.channel = c ∨ opening.channel = c.capture capture := by
  cases h with
  | malformed => exact .inr rfl
  | accepted => cases hresult
  | _ => exact .inl rfl

namespace Tunnel

/-- The tunnel apart from its count of captured packets. -/
def uncaptured (t : Tunnel σ) : Tunnel σ := { t with channel := { t.channel with captured := 0 } }

/-- A datagram that the tunnel refuses moves nothing in it but the count of captured packets, and
nothing in the world. -/
theorem Scene.decapsulate_refused {data : Bytes} {s : Scene ω σ}
    (h : (s.decapsulate data).1.isOk = false) :
    (s.decapsulate data).2.tunnel.uncaptured = s.tunnel.uncaptured ∧
      (s.decapsulate data).2.host.world = s.host.world ∧
      s.host.log <+: (s.decapsulate data).2.host.log := by
  refine ⟨?_, rfl, List.prefix_append _ _⟩
  have hends := s.tunnel.profile.association.decapsulate_ends
    s.tunnel.profile.settings.captureTraffic data s.tunnel.channel
  rcases hresult : (s.decapsulate data).1 with e | packet
  · rcases hends.channel_of_error hresult with hchannel | hchannel
    all_goals simp only [decapsulate, setChannel, uncaptured, hchannel]
    unfold Esp.Channel.capture
    split <;> rfl
  · rw [hresult] at h
    cases h

/-- A datagram that cannot be taken apart is not acted on. -/
theorem Scene.handleDatagram_refused [Platform ω σ] {data : Bytes} {s : Scene ω σ}
    (h : (s.decapsulate data).1.isOk = false) (sender : Endpoint) (now : Nat) :
    (s.handleDatagram data sender now).2 = (s.decapsulate data).2 := by
  unfold handleDatagram
  split
  · next hresult => rw [hresult]
  · next hresult =>
    rw [hresult] at h
    cases h

end Tunnel

namespace Gateway

namespace Scene

/-- The gateway accepts a datagram: the tunnel that it is for takes it apart. -/
def accepts (data : Bytes) (s : Scene ω σ) : Bool :=
  match (s.owner? data).bind (s.gateway.tunnels[·]?) with
  | none => false
  | some tunnel => ((⟨tunnel, s.host⟩ : Tunnel.Scene ω σ).decapsulate data).1.isOk

end Scene

/-- From `s` to `t` the gateway stayed as it was, but for counts of captured packets, and only
logged notices. -/
structure Untouched (s t : Scene ω σ) : Prop where
  routes : t.gateway.routes = s.gateway.routes
  tunnels : t.gateway.tunnels.map Tunnel.uncaptured = s.gateway.tunnels.map Tunnel.uncaptured
  log : s.host.log <+: t.host.log

namespace Untouched

variable {s t u : Scene ω σ}

theorem refl (s : Scene ω σ) : Untouched s s := ⟨rfl, rfl, List.prefix_refl _⟩

theorem trans (h : Untouched s t) (h' : Untouched t u) : Untouched s u :=
  ⟨h'.routes.trans h.routes, h'.tunnels.trans h.tunnels, h.log.trans h'.log⟩

/-- An action of a tunnel that leaves it as it was, but for the count of captured packets. -/
theorem onTunnel {α : Type} {place : Nat} {tunnel : Tunnel σ}
    {action : Tunnel.Scene ω σ → α × Tunnel.Scene ω σ}
    (htunnel : s.gateway.tunnels[place]? = some tunnel)
    (hsame : (action ⟨tunnel, s.host⟩).2.tunnel.uncaptured = tunnel.uncaptured)
    (hlog : s.host.log <+: (action ⟨tunnel, s.host⟩).2.host.log) :
    Untouched s (s.onTunnel place action).2 := by
  obtain ⟨hplace, rfl⟩ := List.getElem?_eq_some_iff.1 htunnel
  refine ⟨Scene.routes_onTunnel place action s, ?_, ?_⟩
  · simp only [Scene.onTunnel, htunnel, List.map_set, hsame]
    rw [← List.getElem_map Tunnel.uncaptured (h := by rwa [List.length_map]), List.set_getElem_self]
  · simp only [Scene.onTunnel, htunnel]
    exact hlog

end Untouched

/-! ## Datagrams -/

variable [Platform ω σ]

/-- A refused datagram leaves the gateway untouched, and makes it send nothing but a probe back. -/
theorem handleDatagram_untouched {data : Bytes} {s : Scene ω σ} (h : s.accepts data = false)
    (sender : Endpoint) (now : Nat) :
    Untouched s (s.handleDatagram data sender now).2 ∧
      (s.handleDatagram data sender now).2.host.world =
        if isProbe data then (Platform.transmit data sender s.host.world).2 else s.host.world := by
  have hends := s.handleDatagram_ends data sender now
  generalize s.handleDatagram data sender now = outcome at hends ⊢
  cases hends with
  | idle _ hprobe => exact ⟨.refl s, by simp [hprobe]⟩
  | echoed _ hprobe =>
    rw [if_pos hprobe]
    unfold Scene.transmit
    split
    all_goals
      next hsent =>
        obtain rfl := congrArg Prod.snd hsent
        exact ⟨⟨rfl, rfl, List.prefix_refl _⟩, rfl⟩
  | @routed place howner hprobe =>
    rw [if_neg (by simp [hprobe])]
    cases htunnel : s.gateway.tunnels[place]? with
    | none =>
      simp only [Scene.onTunnel, htunnel]
      exact ⟨.refl s, trivial⟩
    | some tunnel =>
      have hrefused : ((⟨tunnel, s.host⟩ : Tunnel.Scene ω σ).decapsulate data).1.isOk = false := by
        simpa [Scene.accepts, howner, htunnel] using h
      obtain ⟨hsame, hworld, hlog⟩ := Tunnel.Scene.decapsulate_refused hrefused
      have haction := Tunnel.Scene.handleDatagram_refused hrefused sender now
      refine ⟨.onTunnel htunnel (by rw [haction]; exact hsame) (by rw [haction]; exact hlog), ?_⟩
      simp only [Scene.onTunnel, htunnel, haction]
      exact hworld

/-! ## Runs -/

/-- A datagram that arrives at the port. -/
structure Incoming where
  /-- The datagram. -/
  data : Bytes
  /-- Where it comes from. -/
  sender : Endpoint
  /-- When it arrives. -/
  now : Nat

/-- What the gateway makes of an incoming datagram. -/
def Incoming.run (s : Scene ω σ) (i : Incoming) : Scene ω σ :=
  (s.handleDatagram i.data i.sender i.now).2

/-- The gateway accepts none of some incoming datagrams, each when its turn comes. -/
def refusesAll : List Incoming → Scene ω σ → Bool
  | [], _ => true
  | i :: rest, s => !s.accepts i.data && refusesAll rest (i.run s)

/-- What is sent back for some incoming datagrams. -/
def echoes (incoming : List Incoming) : List (Bytes × Endpoint) :=
  (incoming.filter fun i => isProbe i.data).map fun i => (i.data, i.sender)

theorem echoes_cons (i : Incoming) (rest : List Incoming) :
    echoes (i :: rest) = (if isProbe i.data then [(i.data, i.sender)] else []) ++ echoes rest := by
  rw [echoes, List.filter_cons]
  split <;> rfl

theorem refused_untouched {incoming : List Incoming} {s : Scene ω σ}
    (h : refusesAll incoming s = true) :
    Untouched s (incoming.foldl Incoming.run s) ∧
      (incoming.foldl Incoming.run s).host.world =
        (echoes incoming).foldl (fun w e => (Platform.transmit e.1 e.2 w).2) s.host.world := by
  induction incoming generalizing s with
  | nil => exact ⟨.refl s, rfl⟩
  | cons i rest ih =>
    rw [refusesAll, Bool.and_eq_true, Bool.not_eq_true'] at h
    obtain ⟨hfirst, hworld⟩ := handleDatagram_untouched h.1 i.sender i.now
    obtain ⟨hrest, hworld'⟩ := ih h.2
    refine ⟨hfirst.trans hrest, hworld'.trans ?_⟩
    rw [Incoming.run, hworld, echoes_cons]
    split <;> rfl

/-! ## Forged datagrams -/

omit [Platform ω σ] in
/-- An accepted datagram bears the tag of the tunnel that it is for. -/
theorem Scene.verifyTag_of_accepts {data : Bytes} {s : Scene ω σ} (h : s.accepts data = true) :
    ∃ tunnel ∈ s.gateway.tunnels, tunnel.profile.association.inbound.verifyTag data = true := by
  unfold accepts at h
  split at h
  · cases h
  · next tunnel htunnel =>
    obtain ⟨place, -, htunnel⟩ := Option.bind_eq_some_iff.1 htunnel
    refine ⟨tunnel, List.mem_of_getElem? htunnel, ?_⟩
    rcases hresult : ((⟨tunnel, s.host⟩ : Tunnel.Scene ω σ).decapsulate data).1 with e | packet
    · rw [hresult] at h
      cases h
    · have hends := tunnel.profile.association.decapsulate_ends
        tunnel.profile.settings.captureTraffic data tunnel.channel
      obtain ⟨_, hauthentic, -⟩ := hends.nextInbound.1 packet hresult
      exact hauthentic.tag

omit [Platform ω σ] in
/-- The associations of untouched tunnels are the same. -/
theorem Untouched.mem_association {s t : Scene ω σ} (h : Untouched s t) {tunnel : Tunnel σ}
    (htunnel : tunnel ∈ t.gateway.tunnels) :
    ∃ tunnel' ∈ s.gateway.tunnels,
      tunnel'.profile.association = tunnel.profile.association := by
  have hmem := List.mem_map_of_mem (f := Tunnel.uncaptured) htunnel
  rw [h.tunnels] at hmem
  obtain ⟨tunnel', htunnel', hsame⟩ := List.mem_map.1 hmem
  exact ⟨tunnel', htunnel', congrArg (·.profile.association) hsame⟩

/-- Datagrams bear the tag of no tunnel. -/
def Forged (incoming : List Incoming) (s : Scene ω σ) : Prop :=
  ∀ i ∈ incoming, ∀ tunnel ∈ s.gateway.tunnels,
    tunnel.profile.association.inbound.verifyTag i.data = false

theorem Forged.refused {incoming : List Incoming} {s : Scene ω σ} (h : Forged incoming s) :
    refusesAll incoming s = true := by
  induction incoming generalizing s with
  | nil => rfl
  | cons i rest ih =>
    have hrefused : s.accepts i.data = false := by
      refine Bool.eq_false_iff.2 fun haccepts => ?_
      obtain ⟨tunnel, htunnel, htag⟩ := Scene.verifyTag_of_accepts haccepts
      exact absurd (htag.symm.trans (h i List.mem_cons_self tunnel htunnel)) nofun
    rw [refusesAll, hrefused, Bool.not_false, Bool.true_and]
    obtain ⟨huntouched, -⟩ := handleDatagram_untouched hrefused i.sender i.now
    refine ih fun j hj tunnel htunnel => ?_
    obtain ⟨tunnel', htunnel', hsame⟩ := huntouched.mem_association htunnel
    rw [← hsame]
    exact h j (List.mem_cons_of_mem i hj) tunnel' htunnel'

/-! ## Silence -/

theorem length_echoes_le (incoming : List Incoming) :
    ((echoes incoming).flatMap fun e => e.1).length ≤
      (incoming.flatMap fun i => i.data).length := by
  induction incoming with
  | nil => exact Nat.le_refl 0
  | cons i rest ih =>
    rw [echoes_cons, List.flatMap_append, List.length_append, List.flatMap_cons, List.length_append]
    refine Nat.add_le_add ?_ ih
    split <;> simp

/-- **What is refused has no effect.** When a gateway accepts none of the datagrams that arrive, as
when they bear the tag of no tunnel, it stays as it was, but for counts of captured packets and the
log. All it sends is the probes among them, each once, to where it came from; so it sends no more
bytes than arrived. -/
theorem refused_is_silent {incoming : List Incoming} {s : Scene (Wire ω) σ}
    (h : refusesAll incoming s = true ∨ Forged incoming s) :
    Untouched s (incoming.foldl Incoming.run s) ∧
      (incoming.foldl Incoming.run s).host.world =
        (echoes incoming).foldl (fun w e => (Platform.transmit e.1 e.2 w).2) s.host.world ∧
      (incoming.foldl Incoming.run s).host.world.sent = s.host.world.sent ++ echoes incoming ∧
      (∀ e ∈ echoes incoming, ∃ i ∈ incoming, e = (i.data, i.sender)) ∧
      ((echoes incoming).flatMap fun e => e.1).length ≤
        (incoming.flatMap fun i => i.data).length := by
  obtain ⟨huntouched, hworld⟩ := refused_untouched (h.elim id Forged.refused)
  refine ⟨huntouched, hworld, ?_, fun e he => ?_, ?_⟩
  · rw [hworld]
    generalize s.host.world = w
    induction echoes incoming generalizing w with
    | nil => exact (List.append_nil _).symm
    | cons e rest ih =>
      rw [List.foldl_cons, ih, List.append_cons]
      rfl
  · obtain ⟨i, hi, rfl⟩ := List.mem_map.1 he
    exact ⟨i, (List.mem_filter.1 hi).1, rfl⟩
  · exact length_echoes_le incoming

/-- Datagrams that no tunnel accepts: a probe, one that is too short, one of key exchange, one for
no tunnel, and two for a tunnel, with a number that is used and with a wrong tag. -/
def sampleStrays : List Incoming :=
  let spi := bytes32 Tunnel.sampleProfile.association.spiIn
  [[0xff, 1], [1, 2, 3, 4, 5], [0, 0, 0, 0, 1, 2, 3, 4], List.replicate 40 0xde,
    spi ++ List.replicate 20 0, spi ++ List.replicate 60 1].map
      fun data => ⟨data, Tunnel.sampleSender, 0⟩

/-- Of these datagrams only the probe has an effect: it goes back. -/
theorem refused_is_silent_of_strays :
    Reachable sampleReplaced ∧ refusesAll sampleStrays sampleReplaced = true ∧
      (sampleStrays.foldl Incoming.run sampleReplaced).host.world.sent =
        [([0xff, 1], Tunnel.sampleSender)] := by
  have hrefused : refusesAll sampleStrays sampleReplaced = true := by decide +kernel
  exact ⟨reachable_sampleReplaced, hrefused, (refused_is_silent (.inl hrefused)).2.2.1⟩

end Gateway

end Ipsec
