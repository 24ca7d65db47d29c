import Ipsec.Proofs.Esp.Sealed
import Ipsec.Proofs.Tunnel.Operation

/-!
# Worlds that record what is sent

To send a packet is to wrap it and to give the datagram to the transport, if there is one
(`Profile.send_ends`). It is wrapped under the next number, if the random source does not fail
(`Profile.wrap_ok`, `Profile.wrap_error`). A `Wire` is a world that keeps a record of the datagrams
that its transport was given, whether or not they could be sent. Any platform can be put behind one,
and works on as before. What a tunnel sent over a run can then be read off the record.
-/

namespace Ipsec

variable {ω σ : Type}

/-! ## The record -/

/-- A world with the datagrams that its transport was given, the first one first. -/
structure Wire (ω : Type) where
  /-- The world. -/
  world : ω
  /-- The datagrams, with their receivers. -/
  sent : List (Bytes × Endpoint) := []

instance [Platform ω σ] : Platform (Wire ω) σ where
  toLocalStream := Platform.toLocalStream ω
  transmit data receiver w :=
    let (result, world) := Platform.transmit data receiver w.world
    (result, ⟨world, w.sent ++ [(data, receiver)]⟩)
  connect near w :=
    let (result, world) := Platform.connect near w.world
    (result, { w with world })
  close stream w :=
    let (result, world) := Platform.close stream w.world
    (result, { w with world })

/-- The datagrams that the transport was given, keep-alive probes apart. A probe is the one byte
`0xff`. -/
def Wire.datagrams (w : Wire ω) : List Bytes := (w.sent.map Prod.fst).filter (· ≠ [0xff])

namespace Tunnel

/-! ## Wrapping -/

namespace Profile

variable {p : Profile} {packet : Ipv4.Packet} {channel channel' : Esp.Channel}

/-- A wrapped packet gets the next number, and an initialisation vector. -/
theorem wrap_ok {datagram : Bytes} (h : p.wrap packet channel = (.ok datagram, channel')) :
    channel.vectors.isReady = true ∧ channel'.lastOutbound = channel.lastOutbound + 1 ∧
      ∃ iv, datagram = p.association.datagram iv packet (channel.lastOutbound + 1) := by
  have hends := p.association.encapsulate_ends p.settings.captureTraffic packet channel
  rw [← wrap, h] at hends
  cases hends with
  | numbered hiv => exact ⟨Option.isSome_of_eq_some hiv, rfl, _, rfl⟩

/-- A packet cannot be wrapped only if the random source fails. No number is used then. -/
theorem wrap_error {e : EspError} (h : p.wrap packet channel = (.error e, channel')) :
    channel.vectors.isReady = false ∧ channel'.lastOutbound = channel.lastOutbound ∧
      e = .encrypt "IV generation failed" := by
  have hends := p.association.encapsulate_ends p.settings.captureTraffic packet channel
  rw [← wrap, h] at hends
  cases hends with
  | failed hiv =>
    exact ⟨Option.isSome_eq_false_iff.2 (Option.isNone_iff_eq_none.2 hiv),
      Esp.Channel.lastOutbound_capture channel _, rfl⟩

/-- With a random source that is ready a packet is wrapped. -/
theorem exists_wrap (p : Profile) (packet : Ipv4.Packet)
    (hready : channel.vectors.isReady = true) :
    ∃ datagram channel', p.wrap packet channel = (.ok datagram, channel') := by
  rcases hwrap : p.wrap packet channel with ⟨e | datagram, channel'⟩
  · exact absurd hready (by simp [(wrap_error hwrap).1])
  · exact ⟨datagram, channel', rfl⟩

/-- A packet that is read back from its bytes is conveyed to the peer. -/
theorem conveys_wrap (hpacket : Ipv4.Packet.ofBytes packet.toBytes = .ok packet)
    {datagram : Bytes} (h : p.wrap packet channel = (.ok datagram, channel')) :
    p.association.Conveys (channel.lastOutbound + 1) packet datagram := by
  obtain ⟨-, -, iv, rfl⟩ := wrap_ok h
  exact p.association.conveys_datagram iv hpacket _

/-! ## Sending -/

section

variable [Platform ω σ] {receiver : Endpoint} {host host' : Host ω}

/-- To send a packet with success is to wrap it, and to transmit the datagram if there is a
transport. -/
theorem send_ok (h : p.send packet receiver channel host = (.ok (), channel', host')) :
    ∃ datagram, p.wrap packet channel = (.ok datagram, channel')
      ∧ (p.hasTransport = true →
        Platform.transmit datagram receiver host.world = (.ok (), host'.world))
      ∧ (p.hasTransport = false → host'.world = host.world) := by
  have hends := p.send_ends packet receiver channel host
  generalize p.send packet receiver channel host = x at h hends
  cases hends with
  | unwrapped => cases h
  | @transmitted datagram _ hwrap htransport =>
    rcases hsent : host.transmit datagram receiver with ⟨fault | ⟨⟩, host₁⟩
    all_goals rw [hsent] at h; cases h
    exact ⟨datagram, hwrap, fun _ => congrArg (fun x => (x.1, x.2.world)) hsent,
      fun hnone => absurd (htransport.symm.trans hnone) nofun⟩
  | dropped hwrap htransport =>
    cases h
    exact ⟨_, hwrap, fun hlinked => absurd (htransport.symm.trans hlinked) nofun, fun _ => rfl⟩

/-- Sending a packet fails if it cannot be wrapped, and else if the transport fails. -/
theorem send_error {e : EspError}
    (h : p.send packet receiver channel host = (.error e, channel', host')) :
    channel.vectors.isReady = false ∧ host'.world = host.world ∨
      p.hasTransport = true ∧ ∃ datagram fault, p.wrap packet channel = (.ok datagram, channel')
        ∧ Platform.transmit datagram receiver host.world = (.error fault, host'.world) := by
  have hends := p.send_ends packet receiver channel host
  generalize p.send packet receiver channel host = x at h hends
  cases hends with
  | unwrapped hwrap =>
    cases h
    exact .inl ⟨(wrap_error hwrap).1, rfl⟩
  | @transmitted datagram _ hwrap htransport =>
    rcases hsent : host.transmit datagram receiver with ⟨fault | ⟨⟩, host₁⟩
    all_goals rw [hsent] at h; cases h
    exact .inr ⟨htransport, datagram, fault, hwrap,
      congrArg (fun x => (x.1, x.2.world)) hsent⟩
  | dropped => cases h

end

end Profile

/-! ## Runs on a wire -/

namespace Moment

/-- The moment on a world behind a wire. What goes on by itself does not see the record. -/
def onWire : Moment ω σ → Moment (Wire ω) σ
  | operation op => operation op
  | drift live parked world => drift live parked fun w => { w with world := world w.world }

end Moment

end Tunnel

end Ipsec
