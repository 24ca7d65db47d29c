/-!
# Settings

What every tunnel of a gateway can be tuned by, with the defaults. Times are in microseconds.
-/

namespace Ipsec

/-- The settings of a tunnel. -/
structure Settings where
  /-- The time between two keep-alive probes of an initiator. -/
  keepAliveInterval : Nat := 10000000
  /-- A flow without inbound traffic for longer than this is ended. -/
  tcpTimeout : Nat := 60000000
  /-- The port at which peers expect tunnel datagrams. -/
  natTraversalPort : UInt16 := 4500
  /-- The local port of the application that flows are relayed to. -/
  applicationPort : UInt16 := 5223
  /-- The largest piece that one reply segment relays; the default leaves room for the headers
  of a tunnel packet. -/
  relaySize : Nat := 1360
  /-- The time between two pump ticks that found nothing to do. -/
  pumpInterval : Nat := 50000
  /-- Whether packets that cross the tunnel are counted. -/
  captureTraffic : Bool := false
deriving DecidableEq, Repr

end Ipsec
