import Ipsec.Notice

/-!
# The platform

Tunnels reach the world through two interfaces. `LocalStream σ` is a byte stream to a local
application, `Platform ω σ` sends datagrams, opens such streams and closes them. Both are state
machines that may fail at any call. A `Host` is a platform in some state, with what was logged.

A stream belongs to whoever holds its value: `Platform.connect` gives one out and `Platform.close`
takes it back. Its `backlog` bounds what can still be received from it, so that a reader who goes
on while there is data comes to an end.
-/

namespace Ipsec

/-- A byte stream to a local application. -/
class LocalStream (σ : Type) where
  /-- How many bytes can be received at once. -/
  available : σ → Except IoFault Nat × σ
  /-- Receives at most the given number of bytes; no bytes mean that there are none now. -/
  receive : Nat → σ → Except IoFault Bytes × σ
  /-- Sends bytes, and gives how many were taken. -/
  send : Bytes → σ → Except IoFault Nat × σ
  /-- A bound on the bytes that can be received before more arrive. -/
  backlog : σ → Nat
  /-- A call receives no more than it asked for. -/
  length_receive_le {n : Nat} {s s' : σ} {bytes : Bytes} :
    receive n s = (.ok bytes, s') → bytes.length ≤ n
  /-- What is received leaves the backlog. -/
  backlog_receive_lt {n : Nat} {s s' : σ} {byte : UInt8} {bytes : Bytes} :
    receive n s = (.ok (byte :: bytes), s') → backlog s' < backlog s
  /-- To ask what is available adds nothing to the backlog. -/
  backlog_available_le (s : σ) : backlog (available s).2 ≤ backlog s

/-- The world around a gateway: a datagram transport and a source of local streams. -/
class Platform (ω : Type) (σ : outParam Type) extends LocalStream σ where
  /-- Sends a datagram. -/
  transmit : Bytes → Endpoint → ω → Except IoFault Unit × ω
  /-- Opens a stream for a flow to the given endpoint. -/
  connect : Ipv4Endpoint → ω → Except IoFault σ × ω
  /-- Closes a stream. It is gone afterwards, whether or not closing succeeds. -/
  close : σ → ω → Except IoFault Unit × ω

/-- A platform in some state, and what was logged on it. -/
structure Host (ω : Type) where
  /-- The state of the platform. -/
  world : ω
  /-- The notices, oldest first. -/
  log : List Notice := []

namespace Host

variable {ω σ : Type}

/-- Logs a notice. -/
def note (notice : Notice) (h : Host ω) : Host ω := { h with log := h.log ++ [notice] }

/-- Logs a list of notices. -/
def noteAll (notices : List Notice) (h : Host ω) : Host ω := { h with log := h.log ++ notices }

/-- Sends a datagram. -/
def transmit [Platform ω σ] (data : Bytes) (receiver : Endpoint) (h : Host ω) :
    Except IoFault Unit × Host ω :=
  let (result, world) := Platform.transmit data receiver h.world
  (result, { h with world })

/-- Opens a stream for a flow to the given endpoint. -/
def connect [Platform ω σ] (near : Ipv4Endpoint) (h : Host ω) : Except IoFault σ × Host ω :=
  let (result, world) := Platform.connect near h.world
  (result, { h with world })

/-- Closes a stream. -/
def close [Platform ω σ] (stream : σ) (h : Host ω) : Except IoFault Unit × Host ω :=
  let (result, world) := Platform.close stream h.world
  (result, { h with world })

end Host

end Ipsec
