import Ipsec.Proofs.Tcp.Outcomes

/-!
# The endpoints of a connection

The segment that opens a flow fixes its endpoints (`start_endpoints`). No later step of the
connection moves them, nor the gateway that the flow came through (`accept_anchored`,
`pump_anchored`).
-/

namespace Ipsec.Tcp

variable {κ ω σ : Type}

namespace Connection

/-- Two states of a connection have the same key, gateway and endpoints. -/
structure Anchored (c c' : Connection σ) : Prop where
  key : c'.key = c.key
  gateway : c'.gateway = c.gateway
  near : c'.near = c.near
  remote : c'.remote = c.remote

namespace Anchored

variable {c c' c'' : Connection σ}

theorem refl (c : Connection σ) : Anchored c c := ⟨rfl, rfl, rfl, rfl⟩

theorem trans (h : Anchored c c') (h' : Anchored c' c'') : Anchored c c'' :=
  ⟨h'.key.trans h.key, h'.gateway.trans h.gateway, h'.near.trans h.near,
    h'.remote.trans h.remote⟩

end Anchored

variable {link : Link κ ω}

theorem reply_anchored (flags : Flags) (data : Bytes) (s : Scene κ ω σ) :
    Ends (reply link flags data) s fun _ t => Anchored s.conn t.conn := by
  refine (reply_conn link flags data s).mono fun _ t h => ?_
  obtain ⟨n, random, hconn⟩ := h
  rw [hconn]
  exact ⟨rfl, rfl, rfl, rfl⟩

theorem anchored_relayed [LocalStream σ] :
    Relayed link fun s t : Scene κ ω σ => Anchored s.conn t.conn where
  refl s := .refl s.conn
  trans := .trans
  reply := reply_anchored
  shrink _ := ⟨rfl, rfl, rfl, rfl⟩
  used _ _ _ _ _ := ⟨rfl, rfl, rfl, rfl⟩

theorem pump_anchored [LocalStream σ] (s : Scene κ ω σ) :
    Ends (pump link) s fun _ t => Anchored s.conn t.conn :=
  (pump_ends anchored_relayed s).mono fun _ _ h => h.1

variable [Platform ω σ] {packet : Ipv4.Packet} {s t : Scene κ ω σ}
  {r : Except TcpError Disposition}

/-- A connection that does not listen keeps its endpoints, whatever packet it takes. -/
theorem Handled.anchored
    (h : Handled link (fun s t => Anchored s.conn t.conn) packet s r t)
    (hstate : s.conn.state ≠ .listen) : Anchored s.conn t.conn := by
  cases h with
  | unreadable => exact .refl _
  | closed => exact .refl _
  | listening _ hlisten => exact absurd hlisten hstate
  | answered _ _ h => cases h <;> exact ⟨rfl, rfl, rfl, rfl⟩
  | established _ _ h =>
    cases h with
    | ignored => exact .refl _
    | reset => exact ⟨rfl, rfl, rfl, rfl⟩
    | empty => exact ⟨rfl, rfl, rfl, rfl⟩
    | counted _ _ hR => exact ⟨hR.key, hR.gateway, hR.near, hR.remote⟩
  | ending => exact .refl _

theorem accept_anchored (packet : Ipv4.Packet) (now : Nat) (hstate : s.conn.state ≠ .listen) :
    Ends (accept link packet now) s fun _ t => Anchored s.conn t.conn := by
  refine (accept_ends anchored_relayed packet now s).mono fun _ _ h => ?_
  have hanchored := h.anchored hstate
  exact ⟨hanchored.key, hanchored.gateway, hanchored.near, hanchored.remote⟩

/-- A packet opens a flow between two endpoints. -/
structure Opens (packet : Ipv4.Packet) (remote near : Ipv4Endpoint) : Prop where
  segment : ∃ segment, Segment.ofBytes? packet.payload = some segment
    ∧ segment.flags = Flags.syn ∧ segment.sourcePort = remote.port
    ∧ segment.destinationPort = near.port
  source : packet.source = remote.address
  destination : packet.destination = near.address

/-- A connection that was started has the endpoints of the packet that opened it. -/
theorem start_endpoints (packet : Ipv4.Packet) (now : Nat) (hclosed : s.conn.state = .closed) :
    Ends (start link packet now) s fun r t => ∀ d, r = .ok d →
      t.conn.key = s.conn.key ∧ t.conn.gateway = s.conn.gateway
        ∧ Opens packet t.conn.remote t.conn.near := by
  refine (start_ends anchored_relayed packet now hclosed).mono fun r t h d hd => ?_
  cases h with
  | aborted => cases hd
  | handled _ h =>
    cases h with
    | listening hread _ h =>
      cases h with
      | answered hflags hreply =>
        have hanchored := (reply_anchored _ _ _).of_ok hreply
        refine ⟨hanchored.key, hanchored.gateway, ⟨_, hread, hflags, ?_, ?_⟩, ?_, ?_⟩
        · exact (congrArg Ipv4Endpoint.port hanchored.remote).symm
        · exact (congrArg Ipv4Endpoint.port hanchored.near).symm
        · exact (congrArg Ipv4Endpoint.address hanchored.remote).symm
        · exact (congrArg Ipv4Endpoint.address hanchored.near).symm
    | answered _ hstate => cases hstate
    | established _ hstate => cases hstate
    | ending _ hstate => simp [listening] at hstate

end Connection

/-- A packet of a flow from one port to another. -/
def sampleSegment (destination : Ipv4Address) (flags : Flags) (data : Bytes) : Ipv4.Packet where
  header :=
    { (default : Ipv4.Header) with
      totalLength := UInt16.ofNat (40 + data.length)
      dontFragment := true
      timeToLive := 64
      protocol := Protocol.tcp
      source := .ofOctets 10 0 0 5
      destination }
  payload :=
    { sourcePort := 40000
      destinationPort := 443
      sequence := 100
      acknowledgement := 0
      flags
      window := 1024
      data : Segment }.toBytes

end Ipsec.Tcp
