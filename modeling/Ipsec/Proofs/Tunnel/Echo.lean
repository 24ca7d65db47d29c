import Ipsec.Ip.Icmp
import Ipsec.Proofs.Ip.Outgoing
import Ipsec.Proofs.Tunnel.Parked
import Ipsec.Proofs.Tunnel.Wire

/-!
# Echo requests are answered

A message is an echo request if it has the type and the code of one and at least the length of a
header (`Icmp.IsRequest`), and nothing else is read as one (`Icmp.isRequest_of_ofBytes`). The answer
fits into a packet whenever the request came in one, because its header has no options, and
it is the request but for type and checksum (`Icmp.Echoes`). `echoes_answered` says what a tunnel
whose transport works does with control messages: a request is answered with one datagram, unless
the random source fails, and nothing is sent for any other message. No flow is touched in either
case.
-/

namespace Ipsec

namespace Icmp

/-! ## Requests and their answers -/

/-- The message is an echo request: a header at least, of type eight and code zero. -/
def IsRequest (message : Bytes) : Prop :=
  8 ≤ message.length ∧ message[0]? = some 8 ∧ message[1]? = some 0

/-- An echo request in parts. -/
theorem IsRequest.split {message : Bytes} (h : IsRequest message) :
    ∃ c0 c1 i0 i1 s0 s1 data, message = 8 :: 0 :: c0 :: c1 :: i0 :: i1 :: s0 :: s1 :: data := by
  obtain ⟨hlength, htype, hcode⟩ := h
  match message with
  | t :: c :: c0 :: c1 :: i0 :: i1 :: s0 :: s1 :: data =>
    cases htype
    cases hcode
    exact ⟨c0, c1, i0, i1, s0, s1, data, rfl⟩

/-- What is read as an echo request is one. -/
theorem isRequest_of_ofBytes {message : Bytes} {echo : Echo} {data : Bytes}
    (h : Message.ofBytes message = .ok (.echoRequest echo data)) : IsRequest message := by
  unfold Message.ofBytes at h
  split at h
  · next type code c0 c1 i0 i1 s0 s1 rest =>
    split at h
    · cases h
    · next hcode =>
      split at h
      · split at h <;> cases h
      · split at h
        · next htype =>
          obtain rfl := Decidable.not_not.1 hcode
          subst htype
          exact ⟨by simp, rfl, rfl⟩
        · split at h <;> cases h
  · cases h

/-- A reply answers an echo request: the addresses change places, and the message is the same, but
for the type and for the checksum, which is right. -/
structure Echoes (request reply : Ipv4.Packet) : Prop
    extends reply.Originates request.destination request.source Protocol.icmp where
  length : reply.payload.length = request.payload.length
  type : reply.payload[0]? = some 0
  others : ∀ i, i ≠ 0 → i ≠ 2 → i ≠ 3 → reply.payload[i]? = request.payload[i]?
  messageSum : Checksum.AddsUp reply.payload

/-- A message with its checksum in place adds up. -/
theorem addsUp_sealedEcho (type : UInt8) (echo : Echo) (data : Bytes) :
    Checksum.AddsUp (sealedEcho type echo data) := by
  have hbytes : ∀ w, echoBytes type w echo data =
      [type, 0] ++ bytes16 w ++ (bytes16 echo.identifier ++ (bytes16 echo.sequence ++ data)) := by
    intro w
    simp only [echoBytes, List.append_assoc]
  rw [sealedEcho, hbytes, hbytes]
  exact Checksum.addsUp_sealed (by simp) _

/-- An echo message with its checksum in parts. -/
theorem exists_sealedEcho (type i0 i1 s0 s1 : UInt8) (data : Bytes) :
    ∃ k0 k1, sealedEcho type ⟨word16 i0 i1, word16 s0 s1⟩ data =
      type :: 0 :: k0 :: k1 :: i0 :: i1 :: s0 :: s1 :: data := by
  unfold sealedEcho
  generalize Checksum.checksum _ = w
  refine ⟨UInt8.ofNat (w.toNat / 256), UInt8.ofNat w.toNat, ?_⟩
  simp only [echoBytes, bytes16_word16]
  rfl

/-- An echo request that came in a packet is read as one, and has an answer. -/
theorem exists_echoReply {bytes : Bytes} {request : Ipv4.Packet}
    (hread : Ipv4.Packet.ofBytes bytes = .ok request) (h : IsRequest request.payload) :
    ∃ echo data, Message.ofBytes request.payload = .ok (.echoRequest echo data) ∧
      ∀ identification, ∃ reply, echoReply request echo data identification = .ok reply ∧
        Echoes request reply := by
  obtain ⟨c0, c1, i0, i1, s0, s1, data, hpayload⟩ := h.split
  refine ⟨⟨word16 i0 i1, word16 s0 s1⟩, data, by rw [hpayload]; rfl, fun identification => ?_⟩
  obtain ⟨k0, k1, hsealed⟩ := exists_sealedEcho replyType i0 i1 s0 s1 data
  -- The answer is as long as the request, and its header is no longer.
  have hfits : (sealedEcho replyType ⟨word16 i0 i1, word16 s0 s1⟩ data).length ≤ 65515 := by
    have htotal := Ipv4.Packet.totalLength_of_ofBytes hread
    have hlimit := request.header.totalLength.toNat_lt
    rw [hpayload] at htotal
    rw [hsealed]
    simp only [Ipv4.Header.length, List.length_cons] at htotal ⊢
    omega
  obtain ⟨header, hheader⟩ : ∃ header, Ipv4.Header.outgoing request.destination request.source
      Protocol.icmp (sealedEcho replyType ⟨word16 i0 i1, word16 s0 s1⟩ data).length
      identification = .ok header := by
    unfold Ipv4.Header.outgoing
    rw [if_pos hfits]
    exact ⟨_, rfl⟩
  refine ⟨⟨header, sealedEcho replyType ⟨word16 i0 i1, word16 s0 s1⟩ data⟩, ?_,
    Ipv4.Packet.originates_of_outgoing hheader, ?_, ?_, ?_, addsUp_sealedEcho _ _ _⟩
  · unfold echoReply Ipv4.Packet.outgoing
    rw [hheader]
    rfl
  · rw [hsealed, hpayload]
    rfl
  · rw [hsealed]
    rfl
  · intro i h0 h2 h3
    rw [hsealed, hpayload]
    obtain _ | _ | _ | _ | i := i
    · exact absurd rfl h0
    · rfl
    · exact absurd rfl h2
    · exact absurd rfl h3
    · rfl

end Icmp

namespace Tunnel

variable {ω σ : Type} [Platform ω σ] {s : Scene ω σ} {packet : Ipv4.Packet} {sender : Endpoint}

/-! ## Control messages -/

/-- A packet is sent as one datagram, if there is a transport and it works, and the random source
does. -/
theorem Scene.send_works (hready : s.tunnel.channel.vectors.isReady = true)
    (htransport : s.tunnel.profile.hasTransport = true)
    (hpacket : Ipv4.Packet.ofBytes packet.toBytes = .ok packet)
    (hworks : ∀ datagram, (Platform.transmit datagram sender s.host.world).1 = .ok ()) :
    ∃ datagram t, s.send packet sender = (.ok (), t) ∧
      s.tunnel.profile.association.Conveys (s.tunnel.channel.lastOutbound + 1) packet datagram ∧
      Platform.transmit datagram sender s.host.world = (.ok (), t.host.world) ∧
      t.host.log = s.host.log := by
  obtain ⟨datagram, channel, hwrap⟩ := s.tunnel.profile.exists_wrap packet hready
  have hends := s.tunnel.profile.send_ends packet sender s.tunnel.channel s.host
  unfold send
  generalize s.tunnel.profile.send packet sender s.tunnel.channel s.host = x at hends ⊢
  cases hends with
  | unwrapped hfailed => exact absurd (hwrap.symm.trans hfailed) nofun
  | dropped _ hnone => exact absurd (htransport.symm.trans hnone) nofun
  | @transmitted datagram channel' hwrap =>
    have hsent : (s.host.transmit datagram sender).1 = .ok () := hworks datagram
    refine ⟨datagram, ({ s with host := (s.host.transmit datagram sender).2 }).setChannel channel',
      ?_, Profile.conveys_wrap hpacket hwrap, Prod.ext hsent rfl, rfl⟩
    simp only [hsent]
    rfl

/-- A packet is not sent if the random source fails. -/
theorem Scene.send_unready (s : Scene ω σ) (hready : s.tunnel.channel.vectors.isReady = false)
    (packet : Ipv4.Packet) (receiver : Endpoint) : (s.send packet receiver).2.host = s.host := by
  have hends := s.tunnel.profile.send_ends packet receiver s.tunnel.channel s.host
  unfold send
  generalize s.tunnel.profile.send packet receiver s.tunnel.channel s.host = x at hends ⊢
  cases hends with
  | unwrapped => rfl
  | transmitted hwrap => simp [(Profile.wrap_ok hwrap).1] at hready
  | dropped hwrap => simp [(Profile.wrap_ok hwrap).1] at hready

/-- From `s` to `t` an echo request was answered to its sender: one datagram was sent, which
conveys the answer, and the request was logged. -/
def AnswersEcho (packet : Ipv4.Packet) (sender : Endpoint) (s t : Scene ω σ) : Prop :=
  ∃ reply datagram, Icmp.Echoes packet reply ∧
    s.tunnel.profile.association.Conveys (s.tunnel.channel.lastOutbound + 1) reply datagram ∧
    Platform.transmit datagram sender s.host.world = (.ok (), t.host.world) ∧
    t.host.log = s.host.log ++ [.echoRequested packet.source sender]

/-- An echo request that came in a packet is answered, if the random source works. -/
theorem Scene.handleControl_request {bytes : Bytes} (hread : Ipv4.Packet.ofBytes bytes = .ok packet)
    (hready : s.tunnel.channel.vectors.isReady = true)
    (htransport : s.tunnel.profile.hasTransport = true)
    (hworks : ∀ datagram, (Platform.transmit datagram sender s.host.world).1 = .ok ())
    (hrequest : Icmp.IsRequest packet.payload) :
    AnswersEcho packet sender s (s.handleControl packet sender) := by
  obtain ⟨echo, data, hmessage, hanswer⟩ := Icmp.exists_echoReply hread hrequest
  let asked := (s.note (.echoRequested packet.source sender)).drawIdentification
  obtain ⟨reply, hreply, hechoes⟩ := hanswer asked.1
  obtain ⟨datagram, t, hsend, hconveys, htransmit, hlog⟩ :=
    asked.2.send_works hready htransport hechoes.ofBytes_toBytes hworks
  have hcontrol : s.handleControl packet sender = t := by
    unfold handleControl
    simp only [hmessage]
    have hdrawn : (s.note (.echoRequested packet.source sender)).drawIdentification = asked := rfl
    rw [hdrawn]
    simp only [hreply, hsend]
  rw [hcontrol]
  exact ⟨reply, datagram, hechoes, hconveys, htransmit, hlog⟩

/-- Nothing is sent for a control message while the random source fails. -/
theorem Scene.handleControl_unready (hready : s.tunnel.channel.vectors.isReady = false)
    (packet : Ipv4.Packet) (sender : Endpoint) :
    (s.handleControl packet sender).host.world = s.host.world := by
  unfold handleControl
  split
  · rfl
  · simp only
    split
    · rfl
    · next reply _ =>
      let asked := (s.note (.echoRequested packet.source sender)).drawIdentification.2
      have hsent := congrArg Host.world (asked.send_unready hready reply sender)
      split
      all_goals
        next h =>
          rw [h] at hsent
          exact hsent
  · rfl
  · rfl

/-- For a control message that is no echo request nothing is sent. -/
theorem Scene.handleControl_other (hother : ¬Icmp.IsRequest packet.payload) (sender : Endpoint)
    (s : Scene ω σ) : (s.handleControl packet sender).host.world = s.host.world := by
  unfold handleControl
  split
  · rfl
  · next hmessage => exact absurd (Icmp.isRequest_of_ofBytes hmessage) hother
  · rfl
  · rfl

/-- What is said about acting on a control message, from `s` to `t`. -/
structure EchoLaw (packet : Ipv4.Packet) (sender : Endpoint) (s t : Scene ω σ) : Prop where
  /-- No flow changes. -/
  sessions : t.tunnel.sessions = s.tunnel.sessions
  /-- A request is answered, if the random source has a value for it. -/
  request : s.tunnel.channel.vectors.isReady = true → Icmp.IsRequest packet.payload →
    AnswersEcho packet sender s t
  /-- Else nothing is sent. -/
  unready : s.tunnel.channel.vectors.isReady = false → t.host.world = s.host.world
  /-- For any other message nothing is sent. -/
  other : ¬Icmp.IsRequest packet.payload → t.host.world = s.host.world

/-- **Echo requests are answered.** A tunnel whose transport works answers every echo request that
can come in a packet, with one datagram to the sender, unless the random source fails. It sends
nothing for other control messages. -/
theorem echoes_answered {bytes : Bytes} (hread : Ipv4.Packet.ofBytes bytes = .ok packet)
    (hcontrol : packet.protocol = Protocol.icmp)
    (htransport : s.tunnel.profile.hasTransport = true)
    (hworks : ∀ datagram, (Platform.transmit datagram sender s.host.world).1 = .ok ())
    (now : Nat) : EchoLaw packet sender s (s.dispatch packet sender now) := by
  have hdispatch : s.dispatch packet sender now = s.handleControl packet sender := by
    unfold Scene.dispatch
    rw [if_pos hcontrol]
  rw [hdispatch]
  exact {
    sessions := sessions_background.handleControl packet sender s
    request := fun hready => Scene.handleControl_request hread hready htransport hworks
    unready := fun hready => Scene.handleControl_unready hready packet sender
    other := fun hother => Scene.handleControl_other hother sender s }

/-- A packet with options, and an echo request of odd length. -/
def samplePing : Ipv4.Packet where
  header :=
    { (default : Ipv4.Header) with
      totalLength := 35
      protocol := Protocol.icmp
      source := .ofOctets 10 0 0 5
      destination := .ofOctets 55 55 55 55
      options := ⟨[1, 1, 1, 1], by decide⟩ }
  payload := [8, 0, 0xff, 0xff, 0x12, 0x34, 0, 1, 7, 8, 9]

/-- It is answered. -/
theorem echo_answered_of_ping :
    let s : Scene Simulation.World Simulation.App :=
      ⟨fresh sampleProfile 1 sampleVectors 0, ⟨{}, []⟩⟩
    Ipv4.Packet.ofBytes samplePing.toBytes = .ok samplePing ∧
      samplePing.protocol = Protocol.icmp ∧ Icmp.IsRequest samplePing.payload ∧
      s.tunnel.channel.vectors.isReady = true ∧
      EchoLaw samplePing sampleSender s (s.dispatch samplePing sampleSender 0) := by
  have hread : Ipv4.Packet.ofBytes samplePing.toBytes = .ok samplePing := by rfl
  refine ⟨hread, rfl, ⟨by decide, rfl, rfl⟩, rfl, ?_⟩
  exact echoes_answered hread rfl rfl (fun _ => rfl) 0

end Tunnel

end Ipsec
