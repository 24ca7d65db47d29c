import Ipsec.Esp.Association
import Ipsec.Proofs.Esp.Protection
import Ipsec.Proofs.Ip.RoundTrip

/-!
# Datagrams of a matched peer

Two associations are `Matched` if one sends under the index that the other receives under, with
the same keys. A packet that the sender wraps under some number passes every check of the
receiver but that of the number. `decapsulate_datagram` says exactly what becomes of it: a number
below the next one is refused as used, and any other gives the packet back and moves the receiver
past the number.
-/

namespace Ipsec.Esp

open Ipsec.Aes (Block)

/-! ## Frames -/

namespace Datagram

/-- A datagram is read back from its bytes, in front of a tag of the right length. -/
theorem ofBytes_toBytes_append (d : Datagram) (tag : Bytes) :
    ofBytes tag.length (d.toBytes ++ tag) = .ok d := by
  have hlength : (d.payload ++ tag).length - tag.length = d.payload.length := by simp
  simp only [toBytes, bytes32, List.cons_append, List.nil_append, ofBytes, hlength]
  rw [if_neg (by simp)]
  simp only [word32_bytes32, List.take_left']

end Datagram

namespace Association

/-- The sender's outbound direction is the receiver's inbound one: the same index, the same
keys. -/
structure Matched (sender receiver : Association) : Prop where
  spi : sender.spiOut = receiver.spiIn
  keys : sender.outbound = receiver.inbound

/-! ## Wrapping -/

/-- The datagram that carries a packet under a given number. -/
def datagram (a : Association) (iv : Block) (packet : Ipv4.Packet) (sequence : UInt32) : Bytes :=
  a.outbound.appendTag
    (Datagram.mk a.spiOut sequence (a.outbound.encrypt iv packet.toBytes Protocol.ipv4)).toBytes

/-- How wrapping a packet ends. In either case the packet is captured. -/
inductive Wrapped (a : Association) (capture : Bool) (packet : Ipv4.Packet) (c : Channel) :
    Except EspError Bytes × Channel → Prop where
  /-- There is no initialisation vector, and no number is used. -/
  | failed (hiv : c.vectors.next.1 = none) :
      Wrapped a capture packet c
        (.error (.encrypt "IV generation failed"), (c.capture capture).drawVector.2)
  /-- The datagram bears the next number. -/
  | numbered {iv : Block} (hiv : c.vectors.next.1 = some iv) :
      Wrapped a capture packet c
        (.ok (a.datagram iv packet (c.lastOutbound + 1)),
          { (c.capture capture).drawVector.2 with lastOutbound := c.lastOutbound + 1 })

theorem encapsulate_ends (a : Association) (capture : Bool) (packet : Ipv4.Packet) (c : Channel) :
    a.Wrapped capture packet c (a.encapsulate capture packet c) := by
  have hdrawn : (c.capture capture).drawVector.1 = c.vectors.next.1 := by cases capture <;> rfl
  have hlast : (c.capture capture).drawVector.2.lastOutbound = c.lastOutbound := by
    cases capture <;> rfl
  unfold encapsulate
  cases hiv : c.vectors.next.1 with
  | none =>
    simp only [hdrawn, hiv, Suite.protect]
    exact .failed hiv
  | some iv =>
    simp only [hdrawn, hiv, Suite.protect, hlast]
    exact .numbered hiv

/-- Wrapping leaves the number that is expected of the peer. -/
theorem nextInbound_encapsulate (a : Association) (capture : Bool) (packet : Ipv4.Packet)
    (c : Channel) : (a.encapsulate capture packet c).2.nextInbound = c.nextInbound := by
  have hends := a.encapsulate_ends capture packet c
  generalize a.encapsulate capture packet c = x at hends ⊢
  cases hends <;> exact Channel.nextInbound_capture c capture

/-- Wrapping takes one initialisation vector. -/
theorem vectors_encapsulate (a : Association) (capture : Bool) (packet : Ipv4.Packet)
    (c : Channel) : (a.encapsulate capture packet c).2.vectors = c.vectors.next.2 := by
  have hends := a.encapsulate_ends capture packet c
  generalize a.encapsulate capture packet c = x at hends ⊢
  cases hends <;> exact congrArg (·.next.2) (Channel.vectors_capture c capture)

theorem captured_encapsulate (a : Association) (capture : Bool) (packet : Ipv4.Packet)
    (c : Channel) :
    (a.encapsulate capture packet c).2.captured = c.captured + if capture then 1 else 0 := by
  have hends := a.encapsulate_ends capture packet c
  generalize a.encapsulate capture packet c = x at hends ⊢
  cases hends <;> exact Channel.captured_capture c capture

/-- The length of a datagram is that of its packet, whatever number the packet is wrapped with. -/
theorem length_datagram (a : Association) (iv iv' : Block) (packet : Ipv4.Packet)
    (sequence sequence' : UInt32) :
    (a.datagram iv packet sequence).length = (a.datagram iv' packet sequence').length := by
  simp [datagram, Suite.appendTag, Datagram.toBytes, bytes32, Suite.encrypt]

theorem ofBytes_datagram (a : Association) (iv : Block) (packet : Ipv4.Packet)
    (sequence : UInt32) :
    Datagram.ofBytes Suite.tagLength (a.datagram iv packet sequence) =
      .ok ⟨a.spiOut, sequence, a.outbound.encrypt iv packet.toBytes Protocol.ipv4⟩ := by
  rw [datagram, Suite.appendTag]
  generalize hd : Datagram.mk a.spiOut sequence
    (a.outbound.encrypt iv packet.toBytes Protocol.ipv4) = d
  simpa using d.ofBytes_toBytes_append (a.outbound.tag d.toBytes)

/-! ## Taking apart -/

/-- A matched sender's datagram has the right tag. -/
theorem verifyTag_datagram {sender receiver : Association} (h : sender.Matched receiver)
    (iv : Block) (packet : Ipv4.Packet) (sequence : UInt32) :
    receiver.inbound.verifyTag (sender.datagram iv packet sequence) = true := by
  rw [datagram, ← h.keys, Suite.verifyTag_appendTag]

/-- What becomes of a matched sender's datagram depends on its number alone. -/
theorem decapsulate_datagram {sender receiver : Association} (h : sender.Matched receiver)
    (capture : Bool) (iv : Block) {data : Bytes} {packet : Ipv4.Packet}
    (hp : Ipv4.Packet.ofBytes data = .ok packet) (sequence : UInt32) (c : Channel) :
    receiver.decapsulate capture (sender.datagram iv packet sequence) c =
      if sequence.toNat < c.nextInbound then
        ⟨.error (.staleSequence c.nextInbound sequence), c, []⟩
      else
        ⟨.ok packet, { c.capture capture with nextInbound := sequence.toNat + 1 },
          receiver.sequenceNotices sequence⟩ := by
  have hverify := verifyTag_datagram h iv packet sequence
  have hplain : receiver.inbound.decrypt (sender.outbound.encrypt iv packet.toBytes Protocol.ipv4)
      = .ok (packet.toBytes, Protocol.ipv4) := by
    rw [← h.keys, Suite.decrypt_encrypt]
  rw [decapsulate, ofBytes_datagram]
  simp only [h.spi, hverify, hplain, Ipv4.Packet.ofBytes_toBytes hp, ne_eq, not_true_eq_false,
    if_false]

/-- A matched sender's datagram with a number that is not used is opened, and the packet inside is
read. -/
theorem decapsulate_datagram_recent {sender receiver : Association} (h : sender.Matched receiver)
    (capture : Bool) (iv : Block) (packet : Ipv4.Packet) {sequence : UInt32} {c : Channel}
    (hrecent : c.nextInbound ≤ sequence.toNat) :
    (receiver.decapsulate capture (sender.datagram iv packet sequence) c).result =
      Ipv4.Packet.ofBytes packet.toBytes := by
  rw [decapsulate, ofBytes_datagram]
  simp only [h.spi, h.keys, verifyTag_datagram h, Suite.decrypt_encrypt, ne_eq, not_true_eq_false,
    if_false, if_neg (Nat.not_lt.2 hrecent)]
  cases Ipv4.Packet.ofBytes packet.toBytes <;> rfl

/-- A datagram of the association bears a number, and conveys a packet to every matched receiver
that is not past the number. -/
structure Conveys (a : Association) (sequence : UInt32) (packet : Ipv4.Packet) (data : Bytes) :
    Prop where
  wrapped : ∃ iv, data = a.datagram iv packet sequence
  opened : ∀ (receiver : Association) capture (c : Channel), a.Matched receiver →
    c.nextInbound ≤ sequence.toNat → (receiver.decapsulate capture data c).result = .ok packet

/-- A packet that is read back from its bytes is conveyed. -/
theorem conveys_datagram (a : Association) (iv : Block) {packet : Ipv4.Packet}
    (hpacket : Ipv4.Packet.ofBytes packet.toBytes = .ok packet) (sequence : UInt32) :
    a.Conveys sequence packet (a.datagram iv packet sequence) where
  wrapped := ⟨iv, rfl⟩
  opened _ capture _ hmatched hrecent :=
    (decapsulate_datagram_recent hmatched capture iv packet hrecent).trans hpacket

end Association

end Ipsec.Esp
