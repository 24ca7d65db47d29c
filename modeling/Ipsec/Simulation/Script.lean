import Ipsec.Simulation.Observation

/-!
# Parts of scripts

Steps that change the world, and packets whose acknowledgement number depends on the connection
they are meant for.
-/

namespace Ipsec.Simulation

/-- A step that changes the world and not the tunnels. -/
inductive WorldStep where
  /-- Time passes, in microseconds. -/
  | advance (time : Nat)
  /-- Sets or lifts the fault of sending. -/
  | sendFault (text : Option String)
  /-- Sets or lifts the fault of connecting. -/
  | connectFault (text : Option String)
  /-- Changes an application. -/
  | editApp (id : Nat) (edits : List AppEdit)

/-- The bytes of a packet. -/
structure PacketScript where
  /-- The bytes, as far as they are given. -/
  bytes : Bytes
  /-- The acknowledgement number, counted from the local sequence number of the connection that
  the packet is meant for. -/
  acknowledge : Option Int := none

namespace PacketScript

/-- Replaces four bytes of a byte string. Nothing happens if they do not all lie inside. -/
def overwrite (start : Nat) (word : UInt32) (bytes : Bytes) : Bytes :=
  if start + 4 ≤ bytes.length then bytes.take start ++ bytes32 word ++ bytes.drop (start + 4)
  else bytes

/-- Where the acknowledgement number of a packet stands. -/
def acknowledgementStart (bytes : Bytes) : Nat :=
  (bytes.headD 0).toNat % 16 * 4 + 8

/-- The bytes, for a connection with the given local sequence number. -/
def resolve (p : PacketScript) (sequence : UInt32) : Bytes :=
  match p.acknowledge with
  | none => p.bytes
  | some offset =>
    let word := UInt32.ofNat ((sequence.toNat + offset) % 4294967296).toNat
    overwrite (acknowledgementStart p.bytes) word p.bytes

end PacketScript

end Ipsec.Simulation
