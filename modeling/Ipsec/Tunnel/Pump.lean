import Ipsec.Tunnel.Basic

/-!
# Timed work of a tunnel

A pump tick sends a keep-alive probe if one is due, and sweeps the flows. The live sweep ends
flows that are idle or closed and relays what the streams of the others have ready. The parked
sweep relays too, and forgets flows that are closed. A sweep goes over the keys that the table has
when it begins, in the order of a `Rota`.
-/

namespace Ipsec.Tunnel.Scene

variable {ω σ : Type} [Platform ω σ]

/-- The datagram that keeps the way to the peer open. -/
def keepAliveProbe : Bytes := [0xff]

/-- Sends a keep-alive probe. -/
def sendProbe (s : Scene ω σ) : Scene ω σ :=
  let receiver := s.tunnel.profile.gatewayEndpoint
  if s.tunnel.profile.hasTransport then
    match s.host.transmit keepAliveProbe receiver with
    | (.ok (), host) => { s with host }
    | (.error fault, host) => { s with host := host.note (.keepAliveFailed receiver fault) }
  else s

/-- Whether a keep-alive probe is due. -/
def probeDue (now : Nat) (s : Scene ω σ) : Bool :=
  s.tunnel.profile.initiator
    && s.tunnel.profile.settings.keepAliveInterval ≤ now - s.tunnel.lastProbe

/-- Sends a keep-alive probe if one is due. The next one is due an interval later, whether or not
sending succeeds. Gives whether one was due. -/
def probe (now : Nat) (s : Scene ω σ) : Bool × Scene ω σ :=
  if s.probeDue now then
    (true, sendProbe { s with tunnel := { s.tunnel with lastProbe := now } })
  else (false, s)

/-- Whether a live flow is to be ended: it had no inbound segment for too long, or is closed. -/
def isOver (now : Nat) (conn : Tcp.Connection σ) (s : Scene ω σ) : Bool :=
  s.tunnel.profile.settings.tcpTimeout < conn.idle now || conn.state = .closed

/-- Visits a live flow. Gives whether anything was done. -/
def visitLive (now : Nat) (key : Flow.Key) (s : Scene ω σ) : Bool × Scene ω σ :=
  match s.live? key with
  | none => (false, s)
  | some conn =>
    if s.isOver now conn then (true, s.terminate key)
    else
      match s.runStep (Tcp.Connection.pump s.tunnel.profile.send) conn with
      | (.ok relayed, conn, s) => (relayed, s.setLive key conn)
      | (.error e, conn, s) => (true, ((s.setLive key conn).noteFailure key e).terminate key)

/-- Visits live flows in turn. Gives whether anything was done. -/
def sweepLive (now : Nat) (keys : List Flow.Key) (s : Scene ω σ) : Bool × Scene ω σ :=
  keys.foldl
    (fun (acted, s) key =>
      let (did, s) := s.visitLive now key
      (acted || did, s))
    (false, s)

/-- Visits a parked flow. One that fails is closed, and forgotten when it is visited next. -/
def visitParked (key : Flow.Key) (s : Scene ω σ) : Scene ω σ :=
  match s.parked? key with
  | none => s
  | some conn =>
    if conn.state = .closed then
      ({ s with host := conn.discard s.host }).setSessions (s.tunnel.sessions.removeParked key).2
    else
      match s.runStep (Tcp.Connection.pump s.tunnel.profile.send) conn with
      | (.ok _, conn, s) => s.setParked key conn
      | (.error e, conn, s) =>
        let s := s.note (.parkedFailed key e)
        let (_, conn, host) := conn.close s.host
        ({ s with host }).setParked key conn

/-- Visits parked flows in turn. -/
def sweepParked (keys : List Flow.Key) (s : Scene ω σ) : Scene ω σ :=
  keys.foldl (fun s key => s.visitParked key) s

/-- One pump tick, with the flows in given orders. Gives whether anything was done; what happens to
parked flows does not count. -/
def pumpBy (rota : Rota) (now : Nat) (s : Scene ω σ) : Bool × Scene ω σ :=
  let (probed, s) := s.probe now
  let (relayed, s) := s.sweepLive now (rota.live s.tunnel.sessions.live.keys)
  (probed || relayed, s.sweepParked (rota.parked s.tunnel.sessions.parked.keys))

/-- One pump tick. -/
def pump (now : Nat) (s : Scene ω σ) : Bool × Scene ω σ := s.pumpBy {} now

end Ipsec.Tunnel.Scene
