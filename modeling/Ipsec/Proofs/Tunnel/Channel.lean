import Ipsec.Proofs.Tunnel.Outcomes

/-!
# What operations do to a channel

Connections reach the channel of their tunnel only through its link, and a tunnel itself only draws
random values from it and wraps packets. A preorder on channels that these stay in (`Sending`) holds
between the channels before and after every operation that takes no datagram apart, and the profile
of the tunnel never changes (`Sending.operated`).
-/

namespace Ipsec

variable {κ ω σ : Type}

/-! ## Connections -/

namespace Tcp

/-- A preorder on the states of a link that the link stays in. -/
structure Carried (link : Link κ ω) (K : κ → κ → Prop) : Prop where
  refl : ∀ carrier, K carrier carrier
  trans : ∀ {c d e}, K c d → K d e → K c e
  /-- Handing a packet over stays in it. -/
  handOver : ∀ packet receiver carrier host, K carrier (link packet receiver carrier host).2.1

namespace Connection

variable {link : Link κ ω} {K : κ → κ → Prop}

theorem carried_relayed [LocalStream σ] (hK : Carried link K) :
    Relayed (σ := σ) link fun s t => K s.carrier t.carrier where
  refl s := hK.refl s.carrier
  trans := hK.trans
  reply flags data s := by
    refine ends_reply (fun _ _ _ => hK.refl _) fun packet _ _ => ?_
    refine ends_handOver fun _ _ _ h => ?_
    have hmove := hK.handOver packet s.conn.gateway s.carrier s.host
    rwa [congrArg (·.2.1) h] at hmove
  shrink _ := hK.refl _
  used _ _ _ _ _ := hK.refl _

theorem pump_carried [LocalStream σ] (hK : Carried link K) (s : Scene κ ω σ) :
    Ends (pump link) s fun _ t => K s.carrier t.carrier :=
  (pump_ends (carried_relayed hK) s).mono fun _ _ h => h.1

variable [Platform ω σ] {packet : Ipv4.Packet} {s t : Scene κ ω σ}
  {r : Except TcpError Disposition}

theorem Handled.carried (h : Handled link (fun s t => K s.carrier t.carrier) packet s r t)
    (hK : Carried link K) : K s.carrier t.carrier := by
  cases h with
  | unreadable => exact hK.refl _
  | closed => exact hK.refl _
  | listening _ _ h =>
    cases h with
    | refused => exact hK.refl _
    | unanswered _ hreply =>
      have hstay := ((carried_relayed (σ := σ) hK).reply _ _ _).of_error hreply
      exact hstay
    | answered _ hreply =>
      have hstay := ((carried_relayed (σ := σ) hK).reply _ _ _).of_ok hreply
      exact hstay
  | answered _ _ h => cases h <;> exact hK.refl _
  | established _ _ h =>
    cases h with
    | ignored => exact hK.refl _
    | reset => exact hK.refl _
    | empty => exact hK.refl _
    | counted _ _ hR => exact hR
  | ending => exact hK.refl _

theorem accept_carried (hK : Carried link K) (packet : Ipv4.Packet) (now : Nat)
    (s : Scene κ ω σ) : Ends (accept link packet now) s fun _ t => K s.carrier t.carrier :=
  (accept_ends (carried_relayed hK) packet now s).mono fun _ _ h => h.carried hK

theorem start_carried (hK : Carried link K) (packet : Ipv4.Packet) (now : Nat)
    (hclosed : s.conn.state = .closed) :
    Ends (start link packet now) s fun _ t => K s.carrier t.carrier := by
  refine (start_ends (carried_relayed hK) packet now hclosed).mono fun r t h => ?_
  cases h with
  | handled _ h => exact h.carried hK
  | aborted _ h => exact h.carried hK

end Connection

end Tcp

/-! ## Tunnels -/

namespace Tunnel

open Tcp.Connection (accept_carried start_carried pump_carried)

/-- A preorder on channels that drawing random values and wrapping packets stay in. -/
structure Sending (K : Esp.Channel → Esp.Channel → Prop) : Prop where
  refl : ∀ c, K c c
  trans : ∀ {c d e}, K c d → K d e → K c e
  /-- Drawing a random value. -/
  draw : ∀ c, K c c.draw.2
  /-- Wrapping a packet. -/
  encapsulate : ∀ (a : Esp.Association) capture packet c, K c (a.encapsulate capture packet c).2

/-- From `s` to `t` the profile stays, and the channel goes on within a preorder. -/
structure Goes (K : Esp.Channel → Esp.Channel → Prop) (s t : Scene ω σ) : Prop where
  profile : t.tunnel.profile = s.tunnel.profile
  channel : K s.tunnel.channel t.tunnel.channel

namespace Sending

variable {K : Esp.Channel → Esp.Channel → Prop} {s t : Scene ω σ} {key : Flow.Key}

theorem still (hK : Sending K) (h : t.tunnel.profile = s.tunnel.profile)
    (hchannel : t.tunnel.channel = s.tunnel.channel) : Goes K s t :=
  ⟨h, hchannel ▸ hK.refl _⟩

variable [Platform ω σ]

/-- The channel of a tunnel, as the state of its link. -/
theorem carried (hK : Sending K) (p : Profile) : Tcp.Carried (ω := ω) p.send K where
  refl := hK.refl
  trans := hK.trans
  handOver packet receiver channel host := by
    have hwrapped := hK.encapsulate p.association p.settings.captureTraffic packet channel
    have hends := p.send_ends packet receiver channel host
    generalize p.send packet receiver channel host = x at hends ⊢
    cases hends with
    | unwrapped hwrap =>
      rw [Profile.wrap] at hwrap
      rwa [hwrap] at hwrapped
    | transmitted hwrap =>
      rw [Profile.wrap] at hwrap
      rwa [hwrap] at hwrapped
    | dropped hwrap =>
      rw [Profile.wrap] at hwrap
      rwa [hwrap] at hwrapped

theorem visitLive (hK : Sending K) (now : Nat) (key : Flow.Key) (s : Scene ω σ) :
    Goes K s (s.visitLive now key).2 := by
  have h := Scene.visitLive_ends (s := s) key now fun conn _ =>
    pump_carried (hK.carried s.tunnel.profile) ⟨conn, s.tunnel.channel, s.host⟩
  generalize (s.visitLive now key).2 = t at h ⊢
  cases h with
  | absent => exact hK.still rfl rfl
  | finished => exact hK.still (by simp) (by simp)
  | pumped _ hQ => exact ⟨rfl, hQ⟩
  | failed _ hQ => exact ⟨by simp, by simpa using hQ⟩

theorem visitParked (hK : Sending K) (key : Flow.Key) (s : Scene ω σ) :
    Goes K s (s.visitParked key) := by
  have h := Scene.visitParked_ends (s := s) key fun conn _ =>
    pump_carried (hK.carried s.tunnel.profile) ⟨conn, s.tunnel.channel, s.host⟩
  generalize s.visitParked key = t at h ⊢
  cases h with
  | absent => exact hK.still rfl rfl
  | forgotten => exact hK.still rfl rfl
  | pumped _ _ hQ => exact ⟨rfl, hQ⟩
  | failed _ _ hQ => exact ⟨rfl, hQ⟩

theorem continueFlow (hK : Sending K) (key : Flow.Key) (conn : Tcp.Connection σ)
    (packet : Ipv4.Packet) (sender : Endpoint) (now : Nat) (s : Scene ω σ) :
    Goes K s (s.continueFlow key conn packet sender now) := by
  have h := Scene.continueFlow_ends key sender
    (accept_carried (hK.carried s.tunnel.profile) packet now ⟨conn, s.tunnel.channel, s.host⟩)
  generalize s.continueFlow key conn packet sender now = t at h ⊢
  cases h with
  | crossed => exact hK.still rfl rfl
  | proceeded _ hQ => exact ⟨rfl, hQ⟩
  | ended _ hQ => exact ⟨by simp, by simpa using hQ⟩
  | failed _ hQ => exact ⟨by simp, by simpa using hQ⟩

theorem startFlow (hK : Sending K) (key : Flow.Key) (packet : Ipv4.Packet) (sender : Endpoint)
    (now : Nat) (s : Scene ω σ) : Goes K s (s.startFlow key packet sender now) := by
  have h : Scene.Begun (fun _ u => K s.tunnel.channel.draw.2 u.carrier) key s
      (s.startFlow key packet sender now) :=
    Scene.startFlow_ends _ fun _ => start_carried (hK.carried s.tunnel.profile) packet now rfl
  have hdraw := hK.draw s.tunnel.channel
  generalize s.startFlow key packet sender now = t at h ⊢
  cases h with
  | opened hQ => exact ⟨rfl, hK.trans hdraw hQ⟩
  | ended hQ => exact ⟨rfl, hK.trans hdraw hQ⟩
  | refused hQ => exact ⟨by simp, by simpa using hK.trans hdraw hQ⟩

omit [Platform ω σ] in
theorem wrap (hK : Sending K) (packet : Ipv4.Packet) (s : Scene ω σ) :
    Goes K s (s.encapsulate packet).2 :=
  ⟨rfl, hK.encapsulate s.tunnel.profile.association
    s.tunnel.profile.settings.captureTraffic packet s.tunnel.channel⟩

/-- All operations that take no datagram apart keep the profile, and the channel within the
preorder. -/
theorem operated (hK : Sending K) : Operated (ω := ω) (σ := σ) (Goes K) where
  refl _ := hK.still rfl rfl
  trans h h' := ⟨h'.profile.trans h.profile, hK.trans h.channel h'.channel⟩
  note _ _ _ := hK.still rfl rfl
  drawIdentification s := ⟨rfl, hK.draw s.tunnel.channel⟩
  send s packet receiver :=
    ⟨rfl, (hK.carried s.tunnel.profile).handOver packet receiver s.tunnel.channel s.host⟩
  setLastProbe _ _ := hK.still rfl rfl
  transmitProbe _ _ := hK.still rfl rfl
  visitLive s now key := hK.visitLive now key s
  visitParked s key := hK.visitParked key s
  terminate _ _ := hK.still (by simp) (by simp)
  release _ _ := hK.still (by simp) (by simp)
  continueFlow packet sender now _ _ _ := hK.continueFlow _ _ packet sender now _
  startFlow packet sender now _ _ _ := hK.startFlow _ packet sender now _

end Sending

end Tunnel

end Ipsec
