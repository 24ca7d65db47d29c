import Ipsec.Tcp.State
import Ipsec.Text.Numeral

/-!
# Errors

`IoFault` is a failure of the host's network. `EspError` is a failure to read, write or route
tunnel traffic, and `TcpError` one inside an emulated flow. Each has one function that words it.
-/

namespace Ipsec

/-! ## Faults of the host -/

/-- Why a call to the host's network failed. -/
inductive IoFault where
  /-- There is no route to the peer. -/
  | networkUnreachable
  /-- Nothing listens at the peer's port. -/
  | connectionRefused
  /-- The peer reset the stream. -/
  | connectionReset
  /-- The stream can no longer be written. -/
  | brokenPipe
  /-- The datagram is larger than the network carries. -/
  | messageTooLong
  /-- The stream was closed on this side. -/
  | streamClosed
  /-- Any other fault, in the host's words. -/
  | other (text : String)
deriving DecidableEq, Repr

/-- The wording of a fault. -/
def IoFault.message : IoFault → String
  | .networkUnreachable => "Network is unreachable (os error 101)"
  | .connectionRefused => "Connection refused (os error 111)"
  | .connectionReset => "Connection reset by peer (os error 104)"
  | .brokenPipe => "Broken pipe (os error 32)"
  | .messageTooLong => "Message too long (os error 90)"
  | .streamClosed => "stream closed"
  | .other text => text

/-! ## Tunnel errors -/

/-- Why tunnel traffic could not be read, written or routed. -/
inductive EspError where
  /-- The datagram has too few bytes. -/
  | truncated (length : Nat)
  /-- The datagram belongs to another association. -/
  | spiMismatch (expected actual : UInt32)
  /-- The sequence number was used before. -/
  | staleSequence (expected : Nat) (actual : UInt32)
  /-- The integrity tag is wrong. -/
  | checksumFailure
  /-- The payload could not be encrypted. -/
  | encrypt (reason : String)
  /-- The payload could not be decrypted. -/
  | decrypt (reason : String)
  /-- The payload is no packet of version 4. -/
  | unsupportedPayload (protocol : UInt8)
  /-- A part of the packet cannot be read or built. -/
  | malformed (part : String)
  /-- The key material cannot be used. -/
  | invalidKey (reason : String)
  /-- The host failed to send. -/
  | transport (fault : IoFault)
deriving DecidableEq, Repr

namespace EspError

/-- The wording of the error. -/
def message : EspError → String
  | .truncated length => s!"ESP packet truncated: {length} bytes"
  | .spiMismatch expected actual =>
    "SPI mismatch: expected " ++ Text.hex 8 expected.toNat ++ ", got " ++ Text.hex 8 actual.toNat
  | .staleSequence expected actual =>
    s!"stale ESP sequence: expected at least {expected}, got {actual.toNat}"
  | .checksumFailure => "ESP integrity check failed"
  | .encrypt reason => "ESP encryption failed: " ++ reason
  | .decrypt reason => "ESP decryption failed: " ++ reason
  | .unsupportedPayload protocol =>
    s!"ESP delivered unsupported payload type {protocol.toNat}"
  | .malformed part => "malformed " ++ part
  | .invalidKey reason => "invalid key material: " ++ reason
  | .transport fault => "transport error: " ++ fault.message

/-- Whether the datagram did not come from the peer, or came out of order. -/
def isIntegrity : EspError → Bool
  | .spiMismatch .. | .staleSequence .. | .checksumFailure => true
  | _ => false

end EspError

/-! ## Flow errors -/

/-- Why an emulated flow could not go on. -/
inductive TcpError where
  /-- The state does not accept these flags. -/
  | unexpectedFlags (state : Tcp.State) (flags : Tcp.Flags)
  /-- Traffic reached a closed connection. -/
  | closedConnection
  /-- The connection is in the wrong state for the request. -/
  | invalidState (expected actual : Tcp.State)
  /-- The segment cannot be read. -/
  | malformed
  /-- The local stream failed. -/
  | io (fault : IoFault)
  /-- The reply could not be sent. -/
  | tunnel (error : EspError)
deriving DecidableEq, Repr

namespace TcpError

/-- The wording of the error. -/
def message : TcpError → String
  | .unexpectedFlags state flags =>
    "invalid flags 0x" ++ Text.hex 2 flags.toNat ++ " in state " ++ state.name
  | .closedConnection => "tried to communicate with a closed connection"
  | .invalidState expected actual =>
    "invalid state: expected " ++ expected.name ++ ", got " ++ actual.name
  | .malformed => "TCP payload did not parse"
  | .io fault => "local connection error: " ++ fault.message
  | .tunnel error => "failed to send reply: " ++ error.message

/-- Whether the error aborts a connection before its handshake is complete. -/
def isFatal : TcpError → Bool
  | .unexpectedFlags .. | .malformed | .closedConnection => true
  | _ => false

/-- Whether the error shows a fault in the bookkeeping of flows, whatever the peer sent. -/
def isInvariantViolation : TcpError → Bool
  | .closedConnection | .invalidState .. => true
  | _ => false

end TcpError

end Ipsec
