/-!
# States and flags of a TCP connection
-/

namespace Ipsec.Tcp

/-- The states of a connection. -/
inductive State where
  /-- There is no connection. -/
  | closed
  /-- Waiting for an opening segment. -/
  | listen
  /-- An opening segment was answered. -/
  | synReceived
  /-- The handshake is complete. -/
  | established
  /-- This side ended the connection. -/
  | finWait1
  /-- The end was acknowledged. -/
  | finWait2
  /-- The other side ended the connection. -/
  | closeWait
  /-- Both sides ended the connection at once. -/
  | closing
  /-- Waiting for the last acknowledgement. -/
  | lastAck
  /-- Waiting until stray segments are gone. -/
  | timeWait
  /-- An opening segment was sent. -/
  | synSent
deriving DecidableEq, Repr

/-- The name of a state in messages. -/
def State.name : State → String
  | .closed => "Closed"
  | .listen => "Listen"
  | .synReceived => "SynReceived"
  | .established => "Established"
  | .finWait1 => "FinWait1"
  | .finWait2 => "FinWait2"
  | .closeWait => "CloseWait"
  | .closing => "Closing"
  | .lastAck => "LastAck"
  | .timeWait => "TimeWait"
  | .synSent => "SynSent"

/-- The flags of a segment, one bit each. -/
abbrev Flags := UInt8

namespace Flags

/-- No flag. -/
def none : Flags := 0x00

/-- The sender has no more data. -/
def fin : Flags := 0x01

/-- Opens a connection. -/
def syn : Flags := 0x02

/-- Resets a connection. -/
def rst : Flags := 0x04

/-- The data is to be handed on at once. -/
def psh : Flags := 0x08

/-- The acknowledgement number counts. -/
def ack : Flags := 0x10

/-- Whether `flags` includes every flag of `wanted`. -/
def has (flags wanted : Flags) : Bool := flags &&& wanted == wanted

end Flags

end Ipsec.Tcp
