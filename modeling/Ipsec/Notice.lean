import Ipsec.Flow.Key

/-!
# Notices

What tunnels report about their work, as values. `Notice.level` and `Notice.text` give the level
and the wording under which a notice is logged.
-/

namespace Ipsec

/-- How much a notice matters. -/
inductive Level where
  /-- Normal work. -/
  | info
  /-- Something unusual that the tunnel copes with. -/
  | warn
  /-- Something that should not happen. -/
  | error
deriving DecidableEq, Repr

/-- The name of the level. -/
def Level.name : Level → String
  | .info => "info"
  | .warn => "warn"
  | .error => "error"

/-- A report of a tunnel, a flow or a gateway. -/
inductive Notice where
  /-- The payload of a packet holds no segment. -/
  | segmentUnreadable
  /-- The segment that completes a handshake has a wrong sequence number. -/
  | openingSequence (expected actual : UInt32)
  /-- The segment that completes a handshake has a wrong acknowledgement number. -/
  | openingAcknowledgement (expected actual : UInt32)
  /-- A handshake is complete. -/
  | established (remote near : Ipv4Endpoint)
  /-- A segment for the flow comes from another port than the flow. -/
  | foreignPort (port : UInt16) (remote : Ipv4Endpoint)
  /-- An opening segment reached a flow that is established. -/
  | unexpectedOpening (remote : Ipv4Endpoint) (flags : Tcp.Flags)
  /-- The remote side reset the flow. -/
  | remoteReset (remote : Ipv4Endpoint) (flags : Tcp.Flags)
  /-- A segment has a wrong sequence number. -/
  | sequence (expected actual : UInt32)
  /-- A segment has a wrong acknowledgement number. -/
  | acknowledgement (expected actual : UInt32)
  /-- A segment reached a flow that is being ended. -/
  | immediateEnd (state : Tcp.State)
  /-- A flow that could not be started failed to close its stream. -/
  | abortedCloseFailed (fault : IoFault)
  /-- A datagram carries the tag of the wrong direction. -/
  | reversedKeys (spi : UInt32)
  /-- The last sequence number was used. -/
  | sequenceExhausted (spi : UInt32)
  /-- A control message could not be read or answered. -/
  | controlFailed (error : EspError)
  /-- A user datagram was ignored. -/
  | userDatagram (sender : Endpoint)
  /-- A packet of another tunnel protocol was ignored. -/
  | nestedTunnel (protocol : UInt8)
  /-- A packet of an unknown protocol was ignored. -/
  | unsupportedProtocol (protocol : UInt8)
  /-- An echo request is answered. -/
  | echoRequested (source : Ipv4Address) (sender : Endpoint)
  /-- An echo reply arrived. -/
  | echoReplied (source : Ipv4Address) (sender : Endpoint)
  /-- A packet that should hold a segment does not. -/
  | requestUnreadable
  /-- A segment names no flow. -/
  | requestInvalid
  /-- A segment for a flow came through another gateway than the flow. -/
  | crossedConnection (expected actual : IpAddress)
  /-- A flow that ended at once failed to close its stream. -/
  | releaseFailed (key : Flow.Key) (fault : IoFault)
  /-- The bookkeeping of flows is wrong. -/
  | tableFault (key : Flow.Key) (error : TcpError)
  /-- A flow failed. -/
  | flowFailed (key : Flow.Key) (error : TcpError)
  /-- A flow failed to close its stream. -/
  | closeFailed (key : Flow.Key) (fault : IoFault)
  /-- A parked flow failed. -/
  | parkedFailed (key : Flow.Key) (error : TcpError)
  /-- A keep-alive probe could not be sent. -/
  | keepAliveFailed (receiver : Endpoint) (fault : IoFault)
  /-- An echo request is sent. -/
  | pinging (source destination : Ipv4Address)
  /-- There is no transport to send by. -/
  | noTransport (receiver : Endpoint)
  /-- A tunnel was added to the gateway. -/
  | tunnelUp (spiIn spiOut : UInt32) (gateway : Ipv4Address)
  /-- A tunnel was removed from the gateway. -/
  | tunnelDown (spiIn : UInt32)
  /-- A datagram was dropped. -/
  | dropped (sender : Endpoint) (error : EspError)
deriving DecidableEq, Repr

namespace Notice

/-- The level of a notice. -/
def level : Notice → Level
  | .established .. | .remoteReset .. | .immediateEnd .. | .userDatagram .. | .echoRequested ..
  | .echoReplied .. | .requestUnreadable | .requestInvalid | .pinging .. | .tunnelUp ..
  | .tunnelDown .. => .info
  | .reversedKeys .. | .controlFailed .. | .nestedTunnel .. | .tableFault .. | .closeFailed .. =>
    .error
  | _ => .warn

/-- Words for a number that is not the one expected. -/
def mismatch (expected actual : UInt32) : String :=
  s!"expected {expected.toNat}, got {actual.toNat}"

/-- Flags in messages. -/
def flagText (flags : Tcp.Flags) : String := "(flags=0x" ++ Text.hex 2 flags.toNat ++ ")"

/-- The wording of a notice, with tunnel endpoints named by `name`. -/
def textBy (name : Endpoint → String) : Notice → String
  | .segmentUnreadable => TcpError.malformed.message
  | .openingSequence expected actual =>
    "Initial SYNC: request out of sequence: " ++ mismatch expected actual
  | .openingAcknowledgement expected actual =>
    "Initial SYNC: acknowledgement out of sequence: " ++ mismatch expected actual
  | .established remote near =>
    "TCP connection established: " ++ remote.text ++ " -> " ++ near.text
  | .foreignPort port remote =>
    s!"Segment from port {port.toNat} collides with flow {remote.text}. Ignored"
  | .unexpectedOpening remote flags =>
    "Unexpected SYN on established flow " ++ remote.text ++ " " ++ flagText flags ++ ". Ignored"
  | .remoteReset remote flags => "Remote reset " ++ remote.text ++ " " ++ flagText flags
  | .sequence expected actual =>
    "Established request out of sequence: " ++ mismatch expected actual
  | .acknowledgement expected actual =>
    "Established acknowledgement out of sequence: " ++ mismatch expected actual
  | .immediateEnd state => "Immediate end of session from state " ++ state.name
  | .abortedCloseFailed fault => "Failed to release aborted TCP session: " ++ fault.message
  | .reversedKeys spi =>
    "ESP checksum for SPI " ++ Text.hex 8 spi.toNat
      ++ " verifies with the outbound key. Crypto settings are reversed"
  | .sequenceExhausted spi =>
    "Inbound sequence space of SPI " ++ Text.hex 8 spi.toNat
      ++ " exhausted. The SA must be rekeyed"
  | .controlFailed error => "Error in ICMP path: " ++ error.message
  | .userDatagram sender => "UDP packet tunnelled in from " ++ name sender ++ ". Not responding"
  | .nestedTunnel protocol =>
    s!"Another VPN-like protocol ({protocol.toNat}) was tunnelled through this link."
      ++ " This is likely a misconfiguration"
  | .unsupportedProtocol protocol => s!"Unsupported protocol delivered ({protocol.toNat})"
  | .echoRequested source sender =>
    "Ping from " ++ source.text ++ " via " ++ name sender ++ ". Replying"
  | .echoReplied source sender =>
    "ICMP ping reply from " ++ source.text ++ " via " ++ name sender
  | .requestUnreadable => "Invalid TCP/IP request: segment did not parse"
  | .requestInvalid => "Invalid TCP/IP request: address or port not recognised"
  | .crossedConnection expected actual =>
    "Crossed connection in TCP? Expected gateway " ++ expected.text ++ ", got " ++ actual.text
      ++ ". Not replying"
  | .releaseFailed key fault =>
    "Failed to release TCP session " ++ key.text ++ ": " ++ fault.message
  | .tableFault key error => "Session table fault for " ++ key.text ++ ": " ++ error.message
  | .flowFailed key error => "TCP session " ++ key.text ++ " failed: " ++ error.message
  | .closeFailed key fault => "Failed to close TCP session " ++ key.text ++ ": " ++ fault.message
  | .parkedFailed key error => "Parked TCP session " ++ key.text ++ " failed: " ++ error.message
  | .keepAliveFailed receiver fault =>
    "Keep-alive to " ++ name receiver ++ " failed: " ++ fault.message
  | .pinging source destination => "Sending ping " ++ source.text ++ " -> " ++ destination.text
  | .noTransport receiver =>
    "Can't send to " ++ name receiver ++ ", this child SA has no transport"
  | .tunnelUp spiIn spiOut gateway =>
    "Child SA up: in=" ++ Text.hex 8 spiIn.toNat ++ " out=" ++ Text.hex 8 spiOut.toNat
      ++ " gateway=" ++ gateway.text
  | .tunnelDown spiIn => "Child SA down: in=" ++ Text.hex 8 spiIn.toNat
  | .dropped sender error => "Dropped datagram from " ++ name sender ++ ": " ++ error.message

/-- The wording of a notice. -/
def text (notice : Notice) : String := notice.textBy Endpoint.text

end Notice

end Ipsec
