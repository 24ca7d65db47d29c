import Ipsec.Platform

/-!
# A scripted world

A `World` is a platform whose every move is given beforehand. Sending and connecting fail when
they are told to, and the application behind a stream is an `App`, which has data pending and
faults in store. Edits to an `App` are values, so that scripts are data.
-/

namespace Ipsec.Simulation

/-- The application behind one stream. -/
structure App where
  /-- The stream's place in the order in which streams were opened. -/
  id : Nat
  /-- The endpoint that the stream was opened for. -/
  target : Ipv4Endpoint
  /-- The pieces that can be received, in order. -/
  pending : List Bytes := []
  /-- What was sent to the application since it was last looked at. -/
  got : Bytes := []
  /-- The fault of asking what is available, and how many calls succeed before it. -/
  availableFault : Option (String × Nat) := none
  /-- How many bytes are reported as available beyond those pending. -/
  availableExtra : Nat := 0
  /-- The fault of receiving. -/
  receiveFault : Option String := none
  /-- The fault of sending. -/
  sendFault : Option String := none
  /-- The fault of closing. -/
  closeFault : Option String := none
  /-- How often the stream was closed. -/
  closes : Nat := 0
deriving DecidableEq, Repr

/-- A change to an application. -/
inductive AppEdit where
  /-- Adds a piece to receive. -/
  | push (piece : Bytes)
  /-- Sets or lifts the fault of asking what is available, after some calls that succeed. -/
  | availableFault (text : Option String) (after : Nat)
  /-- Sets how much more is reported as available. -/
  | availableExtra (n : Nat)
  /-- Sets or lifts the fault of receiving. -/
  | receiveFault (text : Option String)
  /-- Sets or lifts the fault of sending. -/
  | sendFault (text : Option String)
  /-- Sets or lifts the fault of closing. -/
  | closeFault (text : Option String)
deriving DecidableEq, Repr

namespace App

/-- Applies a change. -/
def edit (a : App) : AppEdit → App
  | .push piece => { a with pending := a.pending ++ [piece] }
  | .availableFault text after => { a with availableFault := text.map fun t => (t, after) }
  | .availableExtra n => { a with availableExtra := n }
  | .receiveFault text => { a with receiveFault := text }
  | .sendFault text => { a with sendFault := text }
  | .closeFault text => { a with closeFault := text }

/-- The number of bytes that can be received. -/
def pendingLength (a : App) : Nat := a.pending.flatten.length

/-- The number of bytes that the application reports, a word of 64 bits. -/
def reportedLength (a : App) : Nat :=
  (a.pendingLength + a.availableExtra) % 18446744073709551616

/-- How many bytes the application reports as available. -/
def available (a : App) : Except IoFault Nat × App :=
  match a.availableFault with
  | some (text, 0) => (.error (.other text), a)
  | some (text, calls + 1) =>
    (.ok a.reportedLength, { a with availableFault := some (text, calls) })
  | none => (.ok a.reportedLength, a)

/-- Receives from the first piece. What is left of it stays in front. -/
def receive (n : Nat) (a : App) : Except IoFault Bytes × App :=
  match a.receiveFault with
  | some text => (.error (.other text), a)
  | none =>
    match a.pending with
    | [] => (.ok [], a)
    | piece :: more =>
      let rest := piece.drop n
      (.ok (piece.take n), { a with pending := if rest = [] then more else rest :: more })

/-- Sends bytes to the application. -/
def send (data : Bytes) (a : App) : Except IoFault Nat × App :=
  match a.sendFault with
  | some text => (.error (.other text), a)
  | none => (.ok data.length, { a with got := a.got ++ data })

/-- Closes the stream. -/
def close (a : App) : Except IoFault Unit × App :=
  (match a.closeFault with
    | some text => .error (.other text)
    | none => .ok (),
    { a with closes := a.closes + 1 })

instance : LocalStream App where
  available := available
  receive := receive
  send := send
  backlog := pendingLength
  length_receive_le := by
    intro n a a' bytes h
    unfold receive at h
    split at h
    · simp at h
    · split at h
      · simp only [Prod.mk.injEq, Except.ok.injEq] at h
        rw [← h.1]
        exact Nat.zero_le n
      · simp only [Prod.mk.injEq, Except.ok.injEq] at h
        rw [← h.1]
        exact List.length_take_le n _
  backlog_receive_lt := by
    intro n a a' byte bytes h
    unfold receive at h
    split at h
    · simp at h
    · split at h
      · simp at h
      · next piece more hp =>
        simp only [Prod.mk.injEq, Except.ok.injEq] at h
        have hl := congrArg List.length h.1
        simp only [List.length_take, List.length_cons] at hl
        rw [← h.2]
        simp only [pendingLength, hp]
        split <;> simp only [List.flatten_cons, List.length_append, List.length_drop] <;> omega
  backlog_available_le := by
    intro a
    unfold available
    split <;> exact Nat.le_refl _

end App

/-- A platform that follows a script. -/
structure World where
  /-- The fault of sending. -/
  sendFault : Option String := none
  /-- The length of the longest datagram that can be sent, if there is a limit. -/
  maxDatagram : Option Nat := none
  /-- The fault of connecting. -/
  connectFault : Option String := none
  /-- The datagrams sent since they were last looked at, with their receivers, oldest first. -/
  sent : List (Bytes × Endpoint) := []
  /-- How many streams were opened. -/
  opened : Nat := 0
  /-- The applications whose streams were closed. -/
  closed : List App := []
deriving DecidableEq, Repr

namespace World

/-- Whether a datagram is longer than can be sent. -/
def isTooLong (data : Bytes) (w : World) : Bool :=
  match w.maxDatagram with
  | some limit => limit < data.length
  | none => false

/-- Records a datagram. -/
def transmit (data : Bytes) (receiver : Endpoint) (w : World) : Except IoFault Unit × World :=
  match w.sendFault with
  | some text => (.error (.other text), w)
  | none =>
    if w.isTooLong data then (.error .messageTooLong, w)
    else (.ok (), { w with sent := w.sent ++ [(data, receiver)] })

/-- Opens a stream to a new application. -/
def connect (target : Ipv4Endpoint) (w : World) : Except IoFault App × World :=
  match w.connectFault with
  | some text => (.error (.other text), w)
  | none => (.ok { id := w.opened, target }, { w with opened := w.opened + 1 })

/-- Closes a stream and keeps the application behind it. -/
def close (a : App) (w : World) : Except IoFault Unit × World :=
  let (result, a) := a.close
  (result, { w with closed := w.closed ++ [a] })

instance : Platform World App where
  transmit := transmit
  connect := connect
  close := close

end World

end Ipsec.Simulation
