import Ipsec.Platform

/-!
# The loopback interface

Flows are relayed to an application on the same machine, over streams of its loopback interface. A
`Loopback.Stream` holds what either end has sent and the other has not yet read. The interface may
be down; then nothing can be reached over it.
-/

namespace Ipsec.Loopback

/-- Whether the loopback interface carries traffic. -/
inductive Interface where
  /-- It does. -/
  | up
  /-- It does not. -/
  | down
deriving DecidableEq, Repr

/-- A stream between a flow and the application. -/
structure Stream where
  /-- What the application sent and the flow has not received yet. -/
  inbound : Bytes := []
  /-- What the flow sent and the application has not read yet. -/
  outbound : Bytes := []
  /-- The application closed its end in order. -/
  ended : Bool := false
  /-- The application reset the stream, and the flow has not noticed yet. -/
  resetPending : Bool := false
  /-- The stream can no longer be written. -/
  broken : Bool := false
  /-- The flow closed its end. -/
  closed : Bool := false
deriving DecidableEq, Repr

/-- Opens a stream to the application's port. -/
def connect (interface : Interface) (listening : Bool) : Except IoFault Stream :=
  match interface with
  | .down => .error .networkUnreachable
  | .up => if listening then .ok {} else .error .connectionRefused

/-- The largest datagram that fits a packet. -/
def maxDatagram : Nat := 65507

/-- Sends a datagram to a socket on the same machine, which receives it whole. -/
def sendDatagram (interface : Interface) (data : Bytes) : Except IoFault Bytes :=
  match interface with
  | .down => .error .networkUnreachable
  | .up => if data.length ≤ maxDatagram then .ok data else .error .messageTooLong

namespace Stream

/-- The most that one look at the stream can see. -/
def probeSize : Nat := 65536

/-- The stream once the flow has noticed that it was reset. -/
def noticed (s : Stream) : Stream := { s with ended := true, resetPending := false, broken := true }

/-- Whether the next read finds the stream reset: what arrived before the reset is read first. -/
def isReset (s : Stream) : Bool := s.resetPending && s.inbound.isEmpty

/-- How many bytes the flow can receive at once. -/
def available (s : Stream) : Except IoFault Nat × Stream :=
  if s.closed then (.ok 0, s)
  else if s.isReset then (.error .connectionReset, s.noticed)
  else (.ok (min s.inbound.length probeSize), s)

/-- Receives at most `n` bytes. -/
def receive (n : Nat) (s : Stream) : Except IoFault Bytes × Stream :=
  if s.closed then (.error .streamClosed, s)
  else if s.isReset then (.error .connectionReset, s.noticed)
  else (.ok (s.inbound.take n), { s with inbound := s.inbound.drop n })

/-- Sends bytes to the application. The first bytes that reach a closed end break the stream. -/
def send (data : Bytes) (s : Stream) : Except IoFault Nat × Stream :=
  if s.closed then (.error .streamClosed, s)
  else if data = [] then (.ok 0, s)
  else if s.resetPending then (.error .connectionReset, s.noticed)
  else if s.broken then (.error .brokenPipe, s)
  else if s.ended then (.ok data.length, { s with broken := true })
  else (.ok data.length, { s with outbound := s.outbound ++ data })

/-- Closes the flow's end. Closing again does nothing. -/
def close (s : Stream) : Except IoFault Unit × Stream := (.ok (), { s with closed := true })

/-- The application sends bytes. -/
def applicationWrite (data : Bytes) (s : Stream) : Stream :=
  { s with inbound := s.inbound ++ data }

/-- The application reads `n` bytes or to the end of the stream. Gives whether it came to the
end. -/
def applicationRead (n : Nat) (s : Stream) : (Bytes × Bool) × Stream :=
  ((s.outbound.take n, s.closed && s.outbound.length < n),
    { s with outbound := s.outbound.drop n })

/-- The application closes its end: in order if it has read everything, otherwise by a reset. -/
def applicationClose (s : Stream) : Stream :=
  if s.outbound = [] then { s with ended := true } else { s with resetPending := true }

instance : LocalStream Stream where
  available := available
  receive := receive
  send := send
  backlog s := s.inbound.length
  length_receive_le := by
    intro n s s' bytes h
    unfold receive at h
    split at h
    · simp at h
    · split at h
      · simp at h
      · simp only [Prod.mk.injEq, Except.ok.injEq] at h
        rw [← h.1]
        exact List.length_take_le n s.inbound
  backlog_receive_lt := by
    intro n s s' byte bytes h
    unfold receive at h
    split at h
    · simp at h
    · split at h
      · simp at h
      · simp only [Prod.mk.injEq, Except.ok.injEq] at h
        have hl := congrArg List.length h.1
        rw [← h.2]
        simp only [List.length_take, List.length_cons, List.length_drop] at hl ⊢
        omega
  backlog_available_le := by
    intro s
    unfold available
    split
    · exact Nat.le_refl _
    · split
      · exact Nat.le_refl _
      · exact Nat.le_refl _

end Stream

end Ipsec.Loopback
