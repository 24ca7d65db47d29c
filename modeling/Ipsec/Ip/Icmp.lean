import Ipsec.Ip.Packet
import Ipsec.Ip.Protocol

/-!
# Control messages

`Message.ofBytes` reads the control message that a packet carries, as far as it takes part in an
echo. `echoReply` answers an echo request and `echoRequest` makes one.
-/

namespace Ipsec.Icmp

/-- What tells one echo from another. -/
structure Echo where
  /-- The identifier of the sender. -/
  identifier : UInt16
  /-- The number of the echo. -/
  sequence : UInt16
deriving DecidableEq, Repr

/-- A control message. -/
inductive Message where
  /-- Asks for an echo of `data`. -/
  | echoRequest (echo : Echo) (data : Bytes)
  /-- Echoes `data`. -/
  | echoReply (echo : Echo) (data : Bytes)
  /-- Any other message, with the bytes after its header. -/
  | other (data : Bytes)
deriving DecidableEq, Repr

/-- The bytes after the header. -/
def Message.data : Message → Bytes
  | .echoRequest _ data | .echoReply _ data | .other data => data

/-- The type of an echo request. -/
def requestType : UInt8 := 8

/-- The type of an echo reply. -/
def replyType : UInt8 := 0

/-- Whether a message of this type carries time stamps, which make its header twenty bytes long. -/
def hasTimestamps (type : UInt8) : Bool := type == 13 || type == 14

/-- Reads a message. Echoes and time stamps are known by their type and the code zero. -/
def Message.ofBytes : Bytes → Except EspError Message
  | type :: code :: _ :: _ :: i0 :: i1 :: s0 :: s1 :: data =>
    if code ≠ 0 then .ok (.other data)
    else if hasTimestamps type then
      if data.length = 12 then .ok (.other []) else .error (.malformed "ICMP header")
    else if type = requestType then .ok (.echoRequest ⟨word16 i0 i1, word16 s0 s1⟩ data)
    else if type = replyType then .ok (.echoReply ⟨word16 i0 i1, word16 s0 s1⟩ data)
    else .ok (.other data)
  | _ => .error (.malformed "ICMP header")

/-- The bytes of an echo message with a given checksum. -/
def echoBytes (type : UInt8) (checksum : UInt16) (echo : Echo) (data : Bytes) : Bytes :=
  [type, 0] ++ bytes16 checksum ++ bytes16 echo.identifier ++ bytes16 echo.sequence ++ data

/-- The bytes of an echo message with the right checksum. -/
def sealedEcho (type : UInt8) (echo : Echo) (data : Bytes) : Bytes :=
  echoBytes type (Checksum.checksum (echoBytes type 0 echo data)) echo data

/-- The answer to an echo request: the addresses change places, and the echo and its data come
back. -/
def echoReply (request : Ipv4.Packet) (echo : Echo) (data : Bytes) (identification : UInt16) :
    Except EspError Ipv4.Packet :=
  Ipv4.Packet.outgoing request.destination request.source Protocol.icmp
    (sealedEcho replyType echo data) identification

/-- An echo request without data, with the identifier and the number zero. -/
def echoRequest (source destination : Ipv4Address) (identification : UInt16) :
    Except EspError Ipv4.Packet :=
  Ipv4.Packet.outgoing source destination Protocol.icmp
    (sealedEcho requestType ⟨0, 0⟩ []) identification

end Ipsec.Icmp
