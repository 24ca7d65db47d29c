import Ipsec.Esp.Datagram
import Ipsec.Esp.Suite
import Ipsec.Ip.Packet
import Ipsec.Ip.Protocol
import Ipsec.Notice
import Ipsec.Random

/-!
# Security associations

An `Association` is what key exchange agreed on: an index and a suite for each direction. Its
`Channel` is what traffic moves: the sequence numbers, the count of captured packets and the random
sources. `Association.encapsulate` wraps a packet as a datagram, if the system gives it an
initialisation vector, and `Association.decapsulate` takes a datagram apart, through a fixed row of
checks.
-/

namespace Ipsec.Esp

open Ipsec.Aes (Block)

/-- The agreed parameters of both directions. -/
structure Association where
  /-- The index of datagrams that arrive. -/
  spiIn : UInt32
  /-- The index of datagrams that leave. -/
  spiOut : UInt32
  /-- The suite of datagrams that arrive. -/
  inbound : Suite
  /-- The suite of datagrams that leave. -/
  outbound : Suite
deriving DecidableEq, Repr

/-- What traffic through an association changes. -/
structure Channel where
  /-- The least sequence number that is still accepted. After the last number it is past every
  32-bit word. -/
  nextInbound : Nat := 1
  /-- The sequence number that was used last. -/
  lastOutbound : UInt32 := 0
  /-- How many packets were captured. -/
  captured : Nat := 0
  /-- The random values of the tunnel. -/
  random : Generator
  /-- The source of its initialisation vectors. Without one there are none. -/
  vectors : RandomSource Block := ⟨fun _ => none, 0⟩

namespace Channel

/-- Counts a packet if packets are captured. -/
def capture (enabled : Bool) (c : Channel) : Channel :=
  if enabled then { c with captured := c.captured + 1 } else c

@[simp] theorem nextInbound_capture (c : Channel) (enabled : Bool) :
    (c.capture enabled).nextInbound = c.nextInbound := by
  cases enabled <;> rfl

@[simp] theorem lastOutbound_capture (c : Channel) (enabled : Bool) :
    (c.capture enabled).lastOutbound = c.lastOutbound := by
  cases enabled <;> rfl

@[simp] theorem vectors_capture (c : Channel) (enabled : Bool) :
    (c.capture enabled).vectors = c.vectors := by
  cases enabled <;> rfl

theorem captured_capture (c : Channel) (enabled : Bool) :
    (c.capture enabled).captured = c.captured + if enabled then 1 else 0 := by
  cases enabled <;> rfl

/-- Draws a random value. -/
def draw (c : Channel) : UInt64 × Channel :=
  let (value, random) := c.random.next
  (value, { c with random })

/-- Draws two random values for a block. -/
def drawBlock (c : Channel) : Block × Channel :=
  let (high, c) := c.draw
  let (low, c) := c.draw
  let column (w : UInt64) : Aes.Column :=
    ⟨(w >>> 24).toUInt8, (w >>> 16).toUInt8, (w >>> 8).toUInt8, w.toUInt8⟩
  (⟨column (high >>> 32), column high, column (low >>> 32), column low⟩, c)

/-- Draws an initialisation vector, which may fail. -/
def drawVector (c : Channel) : Option Block × Channel :=
  let (iv, vectors) := c.vectors.next
  (iv, { c with vectors })

end Channel

/-- The outcome of taking a datagram apart. -/
structure Opening where
  /-- The packet inside, or the first check that failed. -/
  result : Except EspError Ipv4.Packet
  /-- The channel afterwards. -/
  channel : Channel
  /-- What is to be logged. -/
  notices : List Notice := []

namespace Association

/-- The association as the peer sees it. -/
def swapped (a : Association) : Association := ⟨a.spiOut, a.spiIn, a.outbound, a.inbound⟩

/-- Wraps a packet as a datagram with the next sequence number, which starts again at zero after
the last word. The packet is captured before it is encrypted, whether or not that succeeds. -/
def encapsulate (a : Association) (capture : Bool) (packet : Ipv4.Packet) (c : Channel) :
    Except EspError Bytes × Channel :=
  let (iv, c) := (c.capture capture).drawVector
  match a.outbound.protect iv packet.toBytes Protocol.ipv4 with
  | .error e => (.error e, c)
  | .ok payload =>
    let c := { c with lastOutbound := c.lastOutbound + 1 }
    (.ok (a.outbound.appendTag (Datagram.mk a.spiOut c.lastOutbound payload).toBytes), c)

/-- The notices about a datagram whose tag is wrong. -/
def tagNotices (a : Association) (data : Bytes) : List Notice :=
  if a.outbound.verifyTag data then [.reversedKeys a.spiIn] else []

/-- The notices about an accepted sequence number. -/
def sequenceNotices (a : Association) (sequence : UInt32) : List Notice :=
  if sequence = 0xffffffff then [.sequenceExhausted a.spiIn] else []

/-- Takes a datagram apart. The length, the index, the sequence number, the tag, the encryption,
the declared protocol and the packet are checked in this order. Only an accepted datagram moves
the sequence number; what could be decrypted as a packet is captured before it is read. -/
def decapsulate (a : Association) (capture : Bool) (data : Bytes) (c : Channel) : Opening :=
  match Datagram.ofBytes Suite.tagLength data with
  | .error e => ⟨.error e, c, []⟩
  | .ok d =>
    if d.spi ≠ a.spiIn then ⟨.error (.spiMismatch a.spiIn d.spi), c, []⟩
    else if d.sequence.toNat < c.nextInbound then
      ⟨.error (.staleSequence c.nextInbound d.sequence), c, []⟩
    else if ¬a.inbound.verifyTag data then ⟨.error .checksumFailure, c, a.tagNotices data⟩
    else match a.inbound.decrypt d.payload with
      | .error e => ⟨.error e, c, []⟩
      | .ok (plain, protocol) =>
        if protocol ≠ Protocol.ipv4 then ⟨.error (.unsupportedPayload protocol), c, []⟩
        else
          let c := c.capture capture
          match Ipv4.Packet.ofBytes plain with
          | .error e => ⟨.error e, c, []⟩
          | .ok packet =>
            ⟨.ok packet, { c with nextInbound := d.sequence.toNat + 1 },
              a.sequenceNotices d.sequence⟩

end Association

end Ipsec.Esp
