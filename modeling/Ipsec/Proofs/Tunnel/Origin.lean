import Ipsec.Proofs.Tcp.Feeding
import Ipsec.Proofs.Tunnel.Parked
import Ipsec.Proofs.Tunnel.Records

/-!
# Where the bytes in a stream come from

The packet that opens a flow fixes its endpoints and its gateway. Whatever is sent to the stream of
the flow later on is the data of packets that came in after that one, from the same address and
port, through the same gateway, and to the same port (`streams_from_flows`). The address that a
packet goes to is not compared: a packet to another address can end up in the stream
(`stray_delivered`).

The proof follows the records of a watched platform. A connection belongs to a flow (`Belongs`) from
the moment it goes live, a stream that it leaves behind has the origin of the flow (`HasOrigin`),
and no stream that was opened goes off the record.
-/

namespace Ipsec.Tunnel

open Tcp (Ends Feeds)
open Tcp.Connection (Anchored Opens Takes carried)

variable {ω σ : Type}

/-! ## Arrivals -/

/-- A packet that came in, and the endpoint that it came from. -/
structure Arrival where
  /-- The packet. -/
  packet : Ipv4.Packet
  /-- The endpoint. -/
  sender : Endpoint

/-- The ports of the segment in the packet, if it holds one. -/
def Arrival.ports (a : Arrival) : Option (UInt16 × UInt16) :=
  (Tcp.Segment.ofBytes? a.packet.payload).map fun s => (s.sourcePort, s.destinationPort)

/-- An arrival goes on with the flow that another one opened: its segment comes from the same
address and port, through the same gateway, and goes to the same port. -/
structure Arrival.Follows (a opening : Arrival) : Prop where
  protocol : a.packet.protocol = Protocol.tcp
  source : a.packet.source = opening.packet.source
  ports : a.ports = opening.ports
  gateway : a.sender.address = opening.sender.address

/-- The packets that come in with an operation, at most one. -/
def Operation.arrivals (s : Scene ω σ) : Operation → List Arrival
  | handleDatagram data sender _ => (s.decapsulate data).1.toOption.toList.map (⟨·, sender⟩)
  | dispatch packet sender _ => [⟨packet, sender⟩]
  | _ => []

/-- The packets that come in at a moment, at most one. -/
def Moment.arrivals (s : Scene ω σ) : Moment ω σ → List Arrival
  | operation op => op.arrivals s
  | drift .. => []

/-- The packets that come in at some moments in turn. -/
def Moment.arrivalsAll [Platform ω σ] : List (Moment ω σ) → Scene ω σ → List Arrival
  | [], _ => []
  | m :: rest, s => m.arrivals s ++ arrivalsAll rest (m.run s)

/-! ## Flows -/

/-- What was sent to the stream of a connection, if it holds one. -/
def sentTo (c : Tcp.Connection (Watched σ)) : List Bytes := (c.stream.map Watched.sent).getD []

/-- All that was sent is the data of packets that came in after another one and follow it. -/
def Sourced (arrivals : List Arrival) (opening : Arrival) (sent : List Bytes) : Prop :=
  ∃ before after, arrivals = before ++ opening :: after ∧
    ∀ data ∈ sent, ∃ a ∈ after, a.Follows opening ∧ carried a.packet = data

/-- An arrival opened the flow of a connection. -/
structure Arrival.Begins (opening : Arrival) (key : Flow.Key) (c : Tcp.Connection (Watched σ)) :
    Prop where
  protocol : opening.packet.protocol = Protocol.tcp
  key : Flow.Key.ofPacket? opening.packet = some key
  opens : Opens opening.packet c.remote c.near
  gateway : c.gateway.address = opening.sender.address
  target : ∀ w, c.stream = some w → w.target = c.near

/-- The stream of a connection gets nothing but what the flow of the connection brings. -/
def Belongs (arrivals : List Arrival) (key : Flow.Key) (c : Tcp.Connection (Watched σ)) : Prop :=
  ∃ opening : Arrival, opening.Begins key c ∧ Sourced arrivals opening (sentTo c)

/-- A stream was opened for a flow, and got nothing but what the flow brought. -/
def HasOrigin (arrivals : List Arrival) (w : Watched σ) : Prop :=
  ∃ (opening : Arrival) (remote : Ipv4Endpoint), opening.packet.protocol = Protocol.tcp
    ∧ Opens opening.packet remote w.target ∧ Sourced arrivals opening w.sent

/-- The streams of a tunnel get nothing but what their flows bring. -/
structure Origins (arrivals : List Arrival) (s : Scene (Watch ω σ) (Watched σ)) : Prop where
  live : ∀ {key c}, s.live? key = some c → Belongs arrivals key c
  parked : ∀ {key c}, s.parked? key = some c → Belongs arrivals key c
  closed : ∀ {w}, w ∈ s.host.world.closed → HasOrigin arrivals w
  /-- All streams that were opened are on record. -/
  complete : ∀ tag < s.host.world.opened, ∃ w, OnRecord s w ∧ w.tag = tag

variable {arrivals : List Arrival} {key : Flow.Key}

/-! ## Sources -/

theorem Sourced.mono {opening : Arrival} {old new : List Bytes} (h : Sourced arrivals opening old)
    (hsent : ∀ data ∈ new, data ∈ old) : Sourced arrivals opening new := by
  obtain ⟨before, after, harrivals, hold⟩ := h
  exact ⟨before, after, harrivals, fun data hdata => hold data (hsent data hdata)⟩

theorem Sourced.append {opening : Arrival} {sent : List Bytes} (h : Sourced arrivals opening sent)
    (more : List Arrival) : Sourced (arrivals ++ more) opening sent := by
  obtain ⟨before, after, rfl, hsent⟩ := h
  refine ⟨before, after ++ more, by simp, fun data hdata => ?_⟩
  obtain ⟨a, ha, hfollows, hcarried⟩ := hsent data hdata
  exact ⟨a, List.mem_append_left more ha, hfollows, hcarried⟩

/-- The data of a packet that just came in and follows the opening one may be sent. -/
theorem Sourced.feed {opening a : Arrival} {old new : List Bytes} (h : Sourced arrivals opening old)
    (ha : a.Follows opening) (hnew : ∀ data ∈ new, data ∈ old ∨ data = carried a.packet) :
    Sourced (arrivals ++ [a]) opening new := by
  obtain ⟨before, after, rfl, hsent⟩ := h
  refine ⟨before, after ++ [a], by simp, fun data hdata => ?_⟩
  rcases hnew data hdata with hold | rfl
  · obtain ⟨b, hb, hfollows, hcarried⟩ := hsent data hold
    exact ⟨b, List.mem_append_left [a] hb, hfollows, hcarried⟩
  · exact ⟨a, List.mem_append_right after (List.mem_singleton_self a), ha, rfl⟩

theorem Belongs.append {c : Tcp.Connection (Watched σ)} (h : Belongs arrivals key c)
    (more : List Arrival) : Belongs (arrivals ++ more) key c := by
  obtain ⟨opening, hbegins, hsourced⟩ := h
  exact ⟨opening, hbegins, hsourced.append more⟩

/-- The stream of a connection has the origin of the connection. -/
theorem Belongs.hasOrigin {c : Tcp.Connection (Watched σ)} {w : Watched σ}
    (h : Belongs arrivals key c) (hw : c.stream = some w) : HasOrigin arrivals w := by
  obtain ⟨opening, hbegins, hsourced⟩ := h
  refine ⟨opening, c.remote, hbegins.protocol, ?_, ?_⟩
  · rw [hbegins.target w hw]
    exact hbegins.opens
  · have hsent : sentTo c = w.sent := by simp [sentTo, hw]
    rwa [hsent] at hsourced

/-- A connection that is closed still belongs to its flow. -/
theorem Belongs.closed {c : Tcp.Connection (Watched σ)} (h : Belongs arrivals key c) :
    Belongs (σ := σ) arrivals key { c with state := .closed, stream := none } := by
  obtain ⟨opening, hbegins, hsourced⟩ := h
  refine ⟨opening, ⟨hbegins.protocol, hbegins.key, hbegins.opens, hbegins.gateway, nofun⟩, ?_⟩
  exact hsourced.mono nofun

theorem sent_of_fed {v w : Option (Watched σ)} {data : List Bytes}
    (h : Option.Rel (Watched.Fed data) v w) :
    ∀ d ∈ (w.map Watched.sent).getD [], d ∈ (v.map Watched.sent).getD [] ∨ d ∈ data := by
  cases h with
  | none => exact fun _ => .inl
  | some h => exact fun _ => h.sent

/-! ## Connections that accept and relay -/

section

variable {κ : Type} {s t : Tcp.Scene κ (Watch ω σ) (Watched σ)}

theorem Arrival.Begins.anchored {opening : Arrival} (h : opening.Begins key s.conn)
    (hanchored : Anchored s.conn t.conn)
    (htarget : ∀ w, t.conn.stream = some w → w.target = s.conn.near) :
    opening.Begins key t.conn where
  protocol := h.protocol
  key := h.key
  opens := by
    rw [hanchored.remote, hanchored.near]
    exact h.opens
  gateway := by rw [hanchored.gateway, h.gateway]
  target w hw := by rw [hanchored.near, htarget w hw]

/-- A packet with the key of a flow, from the port and through the gateway of the flow, follows the
packet that opened it. -/
theorem Arrival.Begins.follows {opening a : Arrival} (h : opening.Begins key s.conn)
    (hprotocol : a.packet.protocol = Protocol.tcp)
    (hkey : Flow.Key.ofPacket? a.packet = some key)
    (hgateway : s.conn.gateway.address = a.sender.address)
    (hport : Tcp.Connection.ComesFrom a.packet s.conn.remote.port) : a.Follows opening := by
  obtain ⟨first, hfirst, -, hsource, -⟩ := h.opens.segment
  obtain ⟨segment, hsegment, hfrom⟩ := hport
  -- Equal keys give the address and the port it goes to, not the address it goes to.
  have hkeys := hkey.trans h.key.symm
  simp only [Flow.Key.ofPacket?, hfirst, hsegment, Option.map_some, Option.some.injEq,
    Flow.Key.mk.injEq] at hkeys
  refine ⟨hprotocol, hkeys.1, ?_, hgateway.symm.trans h.gateway⟩
  simp only [Arrival.ports, hfirst, hsegment, Option.map_some, hkeys.2, hfrom, hsource]

theorem target_of_fed {data : List Bytes} {near : Ipv4Endpoint}
    (h : Option.Rel (Watched.Fed data) s.conn.stream t.conn.stream)
    (hs : ∀ w, s.conn.stream = some w → w.target = near) :
    ∀ w, t.conn.stream = some w → w.target = near := by
  revert h hs
  generalize s.conn.stream = v, t.conn.stream = w
  rintro (h | _) hs w hw
  · cases hw
    exact h.target.trans (hs _ rfl)
  · cases hw

theorem Belongs.pumped (h : Belongs arrivals key s.conn) (hanchored : Anchored s.conn t.conn)
    (hfeeds : Feeds [] s t) : Belongs arrivals key t.conn := by
  obtain ⟨opening, hbegins, hsourced⟩ := h
  refine ⟨opening, hbegins.anchored hanchored (target_of_fed hfeeds.stream hbegins.target),
    hsourced.mono fun d hd => ?_⟩
  exact (sent_of_fed hfeeds.stream d hd).resolve_right List.not_mem_nil

theorem Belongs.accepted {a : Arrival} (h : Belongs arrivals key s.conn)
    (hprotocol : a.packet.protocol = Protocol.tcp)
    (hkey : Flow.Key.ofPacket? a.packet = some key)
    (hgateway : s.conn.gateway.address = a.sender.address)
    (hanchored : Anchored s.conn t.conn) (htakes : Takes a.packet s t) :
    Belongs (arrivals ++ [a]) key t.conn := by
  obtain ⟨opening, hbegins, hsourced⟩ := h
  cases htakes with
  | kept hfeeds =>
    have hbelongs : Belongs arrivals key s.conn := ⟨opening, hbegins, hsourced⟩
    exact (hbelongs.pumped hanchored hfeeds).append [a]
  | fed hfeeds hport =>
    have hfollows := hbegins.follows hprotocol hkey hgateway hport
    refine ⟨opening, hbegins.anchored hanchored (target_of_fed hfeeds.stream hbegins.target),
      hsourced.feed hfollows fun d hd => ?_⟩
    exact (sent_of_fed hfeeds.stream d hd).imp_right List.mem_singleton.1
  | opened hnone hw hcalls _ htarget =>
    refine ⟨opening, hbegins.anchored hanchored fun w' hw' => ?_, (hsourced.mono ?_).append [a]⟩
    · rw [hw] at hw'
      cases hw'
      exact htarget
    · simp [sentTo, hw, Watched.sent, hcalls]

end

/-! ## Records of a tunnel -/

namespace Origins

variable {s t : Scene (Watch ω σ) (Watched σ)}

theorem append (h : Origins arrivals s) (more : List Arrival) : Origins (arrivals ++ more) s where
  live hc := (h.live hc).append more
  parked hc := (h.parked hc).append more
  closed hw := by
    obtain ⟨opening, remote, hprotocol, hopens, hsourced⟩ := h.closed hw
    exact ⟨opening, remote, hprotocol, hopens, hsourced.append more⟩
  complete := h.complete

/-- The origins depend on the connections and the records only. -/
theorem congr (h : Origins arrivals s) (hsessions : t.tunnel.sessions = s.tunnel.sessions)
    (hopened : t.host.world.opened = s.host.world.opened)
    (hclosed : t.host.world.closed = s.host.world.closed) : Origins arrivals t := by
  refine ⟨fun {key c} hc => ?_, fun {key c} hc => ?_, fun {w} hw => ?_, fun tag htag => ?_⟩
  · rw [Scene.live?, hsessions] at hc
    exact h.live hc
  · rw [Scene.parked?, hsessions] at hc
    exact h.parked hc
  · exact h.closed (hclosed ▸ hw)
  · obtain ⟨w, hw, hwtag⟩ := h.complete tag (hopened ▸ htag)
    exact ⟨w, hw.congr hsessions hclosed, hwtag⟩

theorem noteFailure (h : Origins arrivals s) (key : Flow.Key) (e : TcpError) :
    Origins arrivals (s.noteFailure key e) := by
  unfold Scene.noteFailure
  split
  · exact h.congr rfl rfl rfl
  · split
    · exact h
    · exact h.congr rfl rfl rfl

theorem decapsulate (h : Origins arrivals s) (data : Bytes) :
    Origins arrivals (s.decapsulate data).2 := h.congr rfl rfl rfl

variable {u : Tcp.Scene Esp.Channel (Watch ω σ) (Watched σ)}

/-- A live connection goes on, or goes live, and keeps the stream that it holds. -/
theorem setLive (h : Origins arrivals s) (hbelongs : Belongs arrivals key u.conn)
    (hkept : ∀ {c w}, s.live? key = some c → c.stream = some w →
      ∃ w', u.conn.stream = some w' ∧ w'.tag = w.tag)
    (hnew : ∀ tag, s.host.world.opened ≤ tag → tag < u.host.world.opened →
      ∃ w', u.conn.stream = some w' ∧ w'.tag = tag)
    (hclosed : u.host.world.closed = s.host.world.closed) :
    Origins arrivals ((s.resume u).setLive key u.conn) := by
  refine ⟨fun {j c} hc => ?_, fun hc => h.parked hc, fun {w} hw => h.closed (hclosed ▸ hw),
    fun tag htag => ?_⟩
  · rw [Scene.live?_setLive] at hc
    split at hc
    · next hj =>
      cases hc
      exact hj ▸ hbelongs
    · exact h.live hc
  · -- The number is that of an earlier stream, or of one that the step opened.
    by_cases hold : tag < s.host.world.opened
    · obtain ⟨w, hw, hwtag⟩ := h.complete tag hold
      obtain ⟨w', hw', htag'⟩ := hw.setLive (fun hc hw => hkept hc hw) hclosed
      exact ⟨w', hw', htag'.trans hwtag⟩
    · obtain ⟨w', hw', htag'⟩ := hnew tag (Nat.le_of_not_lt hold) htag
      have hc : ((s.resume u).setLive key u.conn).live? key = some u.conn := by simp
      exact ⟨w', .live hc hw', htag'⟩

/-- A live connection that was pumped keeps its place. -/
theorem pumpedLive (h : Origins arrivals s) {c : Tcp.Connection (Watched σ)}
    (hc : s.live? key = some c)
    (hanchored : Anchored c u.conn) (hfeeds : Feeds [] ⟨c, s.tunnel.channel, s.host⟩ u) :
    Origins arrivals ((s.resume u).setLive key u.conn) := by
  refine h.setLive ((h.live hc).pumped hanchored hfeeds) (fun hd hw => ?_)
    (fun tag hold hnew => ?_) hfeeds.closed
  · cases hc.symm.trans hd
    exact hfeeds.kept hw
  · exact absurd (hfeeds.opened ▸ hnew) (Nat.not_lt_of_le hold)

/-- A parked connection goes on, and keeps the stream that it holds or leaves it on record. -/
theorem setParked (left : List (Watched σ)) (h : Origins arrivals s)
    (hbelongs : Belongs arrivals key u.conn)
    (hkept : ∀ {c w}, s.parked? key = some c → c.stream = some w →
      ∃ w', (u.conn.stream = some w' ∨ w' ∈ left) ∧ w'.tag = w.tag)
    (hleft : ∀ {w}, w ∈ left → HasOrigin arrivals w)
    (hopened : u.host.world.opened = s.host.world.opened)
    (hclosed : u.host.world.closed = s.host.world.closed ++ left) :
    Origins arrivals ((s.resume u).setParked key u.conn) := by
  refine ⟨fun hc => h.live hc, fun {j c} hc => ?_, fun {w} hw => ?_, fun tag htag => ?_⟩
  · rw [Scene.parked?_setParked] at hc
    split at hc
    · next hj =>
      cases hc
      exact hj ▸ hbelongs
    · exact h.parked hc
  · have hw : w ∈ s.host.world.closed ++ left := hclosed ▸ hw
    exact (List.mem_append.1 hw).elim h.closed hleft
  · obtain ⟨w, hw, hwtag⟩ := h.complete tag (hopened ▸ htag)
    obtain ⟨w', hw', htag'⟩ := hw.setParked (fun hc hw => hkept hc hw) hclosed
    exact ⟨w', hw', htag'.trans hwtag⟩

end Origins

section

variable [Platform ω σ] {s : Scene (Watch ω σ) (Watched σ)}

namespace Origins

theorem terminate (h : Origins arrivals s) (key : Flow.Key) :
    Origins arrivals (s.terminate key) := by
  obtain ⟨hopened, hclosed⟩ := terminate_records key s
  refine ⟨fun {j c} hc => ?_, fun {j c} hc => ?_, fun {w} hw => ?_, fun tag htag => ?_⟩
  · rw [Scene.live?_terminate] at hc
    split at hc
    · cases hc
    · exact h.live hc
  · rw [Scene.parked?_terminate] at hc
    split at hc
    · cases hc
    · exact h.parked hc
  · simp only [hclosed, List.mem_append, mem_heldBy] at hw
    rcases hw with (hw | ⟨c, hc, hw⟩) | ⟨c, hc, hw⟩
    · exact h.closed hw
    · exact (h.live hc).hasOrigin hw
    · exact (h.parked hc).hasOrigin hw
  · obtain ⟨w, hw, hwtag⟩ := h.complete tag (hopened ▸ htag)
    exact ⟨w, hw.terminate key, hwtag⟩

theorem release (h : Origins arrivals s) (key : Flow.Key) : Origins arrivals (s.release key) := by
  obtain ⟨hopened, hclosed⟩ := release_records key s
  refine ⟨fun {j c} hc => ?_, fun {j c} hc => ?_, fun {w} hw => ?_, fun tag htag => ?_⟩
  · rw [Scene.live?_release] at hc
    split at hc
    · cases hc
    · exact h.live hc
  · rw [Scene.parked?_release] at hc
    split at hc
    · next hj =>
      subst hj
      rcases Option.or_eq_some_iff.1 hc with hc | ⟨-, hc⟩
      · exact h.live hc
      · exact h.parked hc
    · exact h.parked hc
  · rw [hclosed] at hw
    rcases List.mem_append.1 hw with hw | hw
    · exact h.closed hw
    · split at hw
      · obtain ⟨c, hc, hw⟩ := mem_heldBy.1 hw
        exact (h.parked hc).hasOrigin hw
      · cases hw
  · obtain ⟨w, hw, hwtag⟩ := h.complete tag (hopened ▸ htag)
    exact ⟨w, hw.release key, hwtag⟩

/-- A parked connection that is forgotten leaves its stream on record. -/
theorem forget (h : Origins arrivals s) {c : Tcp.Connection (Watched σ)}
    (hc : s.parked? key = some c) :
    Origins arrivals (({ s with host := c.discard s.host } : Scene _ _).setSessions
      (s.tunnel.sessions.removeParked key).2) := by
  obtain ⟨hopened, hclosed⟩ := discard_records c s.host
  refine ⟨fun hc => h.live hc, fun {j d} hd => ?_, fun {w} hw => ?_, fun tag htag => ?_⟩
  · rw [Scene.parked?_removeParked] at hd
    split at hd
    · cases hd
    · exact h.parked hd
  · have hw : w ∈ s.host.world.closed ++ c.stream.toList := hclosed ▸ hw
    rcases List.mem_append.1 hw with hw | hw
    · exact h.closed hw
    · exact (h.parked hc).hasOrigin (Option.mem_toList.1 hw)
  · obtain ⟨w, hw, hwtag⟩ := h.complete tag (hopened ▸ htag)
    exact ⟨w, hw.forget hc, hwtag⟩

/-! ## Operations -/

theorem visitLive (h : Origins arrivals s) (now : Nat) (key : Flow.Key) :
    Origins arrivals (s.visitLive now key).2 := by
  have hends := Scene.visitLive_ends (s := s) key now fun c _ =>
    (Tcp.Connection.pump_anchored ⟨c, s.tunnel.channel, s.host⟩).and
      (Tcp.Connection.pump_feeds s.tunnel.profile.send_isBlind ⟨c, s.tunnel.channel, s.host⟩)
  generalize (s.visitLive now key).2 = t at hends ⊢
  cases hends with
  | absent => exact h
  | finished => exact h.terminate key
  | pumped hc hQ => exact h.pumpedLive hc hQ.1 hQ.2
  | failed hc hQ => exact ((h.pumpedLive hc hQ.1 hQ.2).noteFailure key _).terminate key

theorem visitParked (h : Origins arrivals s) (key : Flow.Key) :
    Origins arrivals (s.visitParked key) := by
  have hends := Scene.visitParked_ends (s := s) key fun c _ =>
    (Tcp.Connection.pump_anchored ⟨c, s.tunnel.channel, s.host⟩).and
      (Tcp.Connection.pump_feeds s.tunnel.profile.send_isBlind ⟨c, s.tunnel.channel, s.host⟩)
  generalize s.visitParked key = t at hends ⊢
  cases hends with
  | absent => exact h
  | forgotten hc => exact h.forget hc
  | pumped hc _ hQ =>
    obtain ⟨hanchored, hfeeds⟩ := hQ
    refine h.setParked [] ((h.parked hc).pumped hanchored hfeeds) (fun hd hw => ?_) nofun
      hfeeds.opened (by simpa using hfeeds.closed)
    cases hc.symm.trans hd
    obtain ⟨w', hw', htag⟩ := hfeeds.kept hw
    exact ⟨w', .inl hw', htag⟩
  | @failed c c' _ u _ host hc _ hQ hclose =>
    obtain ⟨hanchored, hfeeds⟩ := hQ
    obtain ⟨hopened, hclosed, rfl⟩ := Tcp.Connection.close_records hclose
    have hbelongs := (h.parked hc).pumped hanchored hfeeds
    refine h.setParked _ (u := ⟨_, u.carrier, host⟩) hbelongs.closed (fun hd hw => ?_)
      (fun hw => hbelongs.hasOrigin (Option.mem_toList.1 hw)) (hopened.trans hfeeds.opened) ?_
    · cases hc.symm.trans hd
      obtain ⟨w', hw', htag⟩ := hfeeds.kept hw
      exact ⟨w', .inr (Option.mem_toList.2 hw'), htag⟩
    · rw [hclosed, ← hfeeds.closed]
      rfl

theorem continueFlow (h : Origins arrivals s) {c : Tcp.Connection (Watched σ)}
    {packet : Ipv4.Packet} (sender : Endpoint) (now : Nat) (hc : s.live? key = some c)
    (hstate : c.state ≠ .listen) (hprotocol : packet.protocol = Protocol.tcp)
    (hkey : Flow.Key.ofPacket? packet = some key) :
    Origins (arrivals ++ [⟨packet, sender⟩]) (s.continueFlow key c packet sender now) := by
  have hends := Scene.continueFlow_ends (s := s) key sender
    ((Tcp.Connection.accept_anchored (s := ⟨c, s.tunnel.channel, s.host⟩) packet now hstate).and
      (Tcp.Connection.accept_takes s.tunnel.profile.send_isBlind packet now _))
  have hlive : ∀ {u}, c.gateway.address = sender.address →
      Anchored c u.conn ∧ Takes packet ⟨c, s.tunnel.channel, s.host⟩ u →
      Origins (arrivals ++ [⟨packet, sender⟩]) ((s.resume u).setLive key u.conn) := by
    intro u hgateway hQ
    obtain ⟨hanchored, htakes⟩ := hQ
    have hbelongs := (h.live hc).accepted (s := ⟨c, s.tunnel.channel, s.host⟩)
      (a := ⟨packet, sender⟩) hprotocol hkey hgateway hanchored htakes
    refine (h.append _).setLive hbelongs (fun hd hw => ?_) (fun tag => htakes.holds_new)
      htakes.closed_eq
    cases hc.symm.trans hd
    exact htakes.holds hw
  generalize s.continueFlow key c packet sender now = t at hends ⊢
  cases hends with
  | crossed => exact (h.append _).congr rfl rfl rfl
  | proceeded hgateway hQ => exact hlive hgateway hQ
  | ended hgateway hQ => exact (hlive hgateway hQ).terminate key
  | failed hgateway hQ => exact ((hlive hgateway hQ).noteFailure key _).terminate key

theorem startFlow (h : Origins arrivals s) {packet : Ipv4.Packet} (sender : Endpoint) (now : Nat)
    (hnone : s.live? key = none) (hprotocol : packet.protocol = Protocol.tcp)
    (hkey : Flow.Key.ofPacket? packet = some key) :
    Origins (arrivals ++ [⟨packet, sender⟩]) (s.startFlow key packet sender now) := by
  have hends : Scene.Begun (fun r u => u.conn.stream = none
        ∧ u.host.world.opened = s.host.world.opened ∧ u.host.world.closed = s.host.world.closed
        ∧ ∀ d, r = .ok d → u.conn.gateway = sender ∧ Opens packet u.conn.remote u.conn.near)
      key s (s.startFlow key packet sender now) := by
    refine Scene.startFlow_ends key fun random => ?_
    refine ((Tcp.Connection.start_endpoints packet now rfl).and
      (Tcp.Connection.start_untouched s.tunnel.profile.send_isBlind packet now rfl rfl)).mono ?_
    intro r u h
    obtain ⟨hendpoints, hstream, hopened, hclosed⟩ := h
    exact ⟨hstream, hopened, hclosed, fun d hd => (hendpoints d hd).2⟩
  generalize s.startFlow key packet sender now = t at hends ⊢
  cases hends with
  | @opened u hQ =>
    obtain ⟨hbare, hopened, hclosed, hstarted⟩ := hQ
    obtain ⟨hgateway, hopens⟩ := hstarted _ rfl
    have hbelongs : Belongs (arrivals ++ [⟨packet, sender⟩]) key u.conn := by
      refine ⟨⟨packet, sender⟩, ⟨hprotocol, hkey, hopens, congrArg _ hgateway, ?_⟩,
        arrivals, [], rfl, ?_⟩
      · rw [hbare]
        exact nofun
      · rw [sentTo, hbare]
        exact nofun
    refine (h.append _).setLive hbelongs (fun hd _ => ?_) (fun tag hold hnew => ?_) hclosed
    · cases hnone.symm.trans hd
    · exact absurd (hopened ▸ hnew) (Nat.not_lt_of_le hold)
  | @ended u _ _ _ _ hQ hclose hnoted =>
    obtain ⟨hbare, hopened, hclosed, -⟩ := hQ
    obtain ⟨hopened', hclosed', -⟩ := Tcp.Connection.close_records hclose
    rw [hbare, Option.toList_none, List.append_nil] at hclosed'
    refine (h.append _).congr rfl ?_ ?_
    · rw [← hopened, ← hopened', hnoted.world_eq]
    · rw [← hclosed, ← hclosed', hnoted.world_eq]
  | @refused e u hQ =>
    obtain ⟨hbare, hopened, hclosed, -⟩ := hQ
    rw [Tcp.Connection.discard_of_none hbare]
    have hstays : Origins (arrivals ++ [⟨packet, sender⟩]) { s.resume u with host := u.host } :=
      (h.append _).congr rfl hopened hclosed
    exact hstays.noteFailure key e

end Origins

/-- A pump tick sends nothing to any stream, and neither do the parts of operations that touch no
flow. -/
theorem swept_origins (arrivals : List Arrival) :
    Swept (ω := Watch ω σ) fun s t => Origins arrivals s → Origins arrivals t where
  refl _ := id
  trans h h' := h' ∘ h
  note _ _ _ h := h.congr rfl rfl rfl
  drawIdentification _ h := h.congr rfl rfl rfl
  send s packet receiver h := by
    obtain ⟨hopened, hclosed⟩ :=
      s.tunnel.profile.send_isBlind packet receiver s.tunnel.channel s.host
    exact h.congr rfl hopened hclosed
  setLastProbe _ _ h := h.congr rfl rfl rfl
  transmitProbe _ _ h := h.congr rfl rfl rfl
  visitLive s now key h := h.visitLive now key
  visitParked s key h := h.visitParked key

namespace Origins

theorem dispatch (h : Origins arrivals s) (hsound : Sound s.tunnel.sessions)
    (packet : Ipv4.Packet) (sender : Endpoint) (now : Nat) :
    Origins (arrivals ++ [⟨packet, sender⟩]) (s.dispatch packet sender now) := by
  have hends := s.dispatch_ends packet sender now
  generalize s.dispatch packet sender now = t at hends ⊢
  cases hends with
  | control => exact (swept_origins _).handleControl packet sender s (h.append _)
  | noted => exact (h.append _).congr rfl rfl rfl
  | continued hprotocol hkey _ hc =>
    have hopen := (hsound.live hc).2
    exact h.continueFlow sender now hc (by rcases hopen with h | h <;> simp [h]) hprotocol hkey
  | started hprotocol hkey _ hnone => exact h.startFlow sender now hnone hprotocol hkey

theorem handleDatagram (h : Origins arrivals s) (hsound : Sound s.tunnel.sessions) (data : Bytes)
    (sender : Endpoint) (now : Nat) :
    Origins (arrivals ++ (s.decapsulate data).1.toOption.toList.map (⟨·, sender⟩))
      (s.handleDatagram data sender now).2 := by
  have htaken := h.decapsulate data
  have hsound' : Sound (s.decapsulate data).2.tunnel.sessions := hsound
  unfold Scene.handleDatagram
  rcases hresult : s.decapsulate data with ⟨e | packet, t⟩
  all_goals rw [hresult] at htaken hsound'
  · exact htaken.append []
  · exact htaken.dispatch hsound' packet sender now

/-- An operation brings what comes in with it. -/
theorem operation (h : Origins arrivals s) (hsound : Sound s.tunnel.sessions) (op : Operation) :
    Origins (arrivals ++ op.arrivals s) (op.run s) := by
  have hswept := swept_origins (ω := ω) (σ := σ) arrivals
  cases op with
  | handleDatagram data sender now => exact h.handleDatagram hsound data sender now
  | dispatch packet sender now => exact h.dispatch hsound packet sender now
  | pump rota now => exact (hswept.pumpBy rota now s h).append []
  | terminate key => exact (h.terminate key).append []
  | release key => exact (h.release key).append []
  | send packet receiver => exact (hswept.send s packet receiver h).append []
  | ping source destination => exact (hswept.ping source destination s h).append []
  | encapsulate packet => exact (h.append []).congr rfl rfl rfl
  | decapsulate data => exact (h.decapsulate data).append []

end Origins

/-! ## Runs -/

theorem Belongs.drifted {c : Tcp.Connection (Watched σ)} (h : Belongs arrivals key c)
    (f : Tcp.Connection σ → σ → σ) : Belongs arrivals key (drifted (underWatch f) c) := by
  obtain ⟨opening, hbegins, hsourced⟩ := h
  have hsent : sentTo (Tunnel.drifted (underWatch f) c) = sentTo c := by
    rw [sentTo, Tunnel.drifted, Option.map_map]
    rfl
  refine ⟨opening, ⟨hbegins.protocol, hbegins.key, hbegins.opens, hbegins.gateway, fun w hw => ?_⟩,
    hsent ▸ hsourced⟩
  obtain ⟨v, hv, rfl⟩ := Option.map_eq_some_iff.1 hw
  exact hbegins.target v hv

theorem Origins.drift (h : Origins arrivals s) (live parked : Tcp.Connection σ → σ → σ)
    (world : ω → ω) : Origins arrivals ((Moment.drift live parked world).watched.run s) := by
  refine ⟨fun {j c} hc => ?_, fun {j c} hc => ?_, fun hw => h.closed hw, fun tag htag => ?_⟩
  · rw [Moment.watched, Moment.live?_drift] at hc
    obtain ⟨d, hd, rfl⟩ := Option.map_eq_some_iff.1 hc
    exact (h.live hd).drifted live
  · rw [Moment.watched, Moment.parked?_drift] at hc
    obtain ⟨d, hd, rfl⟩ := Option.map_eq_some_iff.1 hc
    exact (h.parked hd).drifted parked
  · obtain ⟨w, hw, hwtag⟩ := h.complete tag htag
    obtain ⟨w', hw', htag'⟩ := hw.drift live parked world
    exact ⟨w', hw', htag'.trans hwtag⟩

/-- A moment brings what comes in at it. -/
theorem Origins.moment (h : Origins arrivals s) (hsound : Sound s.tunnel.sessions)
    (m : Moment ω σ) : Origins (arrivals ++ m.watched.arrivals s) (m.watched.run s) := by
  cases m with
  | operation op => exact h.operation hsound op
  | drift live parked world => exact (h.drift live parked world).append []

theorem Origins.runAll {host : Host (Watch ω σ)} (h : Origins arrivals s)
    (hs : Upright host s) (moments : List (Moment ω σ)) :
    Origins (arrivals ++ Moment.arrivalsAll (moments.map Moment.watched) s)
      (Moment.runAll (moments.map Moment.watched) s) := by
  induction moments generalizing arrivals s with
  | nil =>
    rw [List.map_nil, Moment.arrivalsAll, List.append_nil]
    exact h
  | cons m rest ih =>
    have hrest := ih (h.moment hs.sound m) (hs.runAll [m.watched])
    rwa [List.append_assoc] at hrest

/-- **The origin of what is sent.** Over every run of a fresh tunnel, its streams get nothing but
what their flows bring. -/
theorem streams_from_flows (profile : Profile) (seed : UInt64)
    (vectors : Nat → Option Aes.Block) (now : Nat) (world : ω) (log : List Notice)
    (moments : List (Moment ω σ)) :
    Origins
      (Moment.arrivalsAll (moments.map Moment.watched)
        ⟨fresh profile seed vectors now, ⟨{ world }, log⟩⟩)
      (Moment.runAll (moments.map Moment.watched)
        ⟨fresh profile seed vectors now, ⟨{ world }, log⟩⟩) := by
  have hfresh : Origins (σ := σ) [] ⟨fresh profile seed vectors now, ⟨{ world }, log⟩⟩ :=
    ⟨nofun, nofun, nofun, nofun⟩
  exact hfresh.runAll ⟨.empty, .refl _⟩ moments

end

/-! ## A packet to another address -/

/-- Data for another address. -/
def strayData : Bytes := [1, 2, 3]

/-- A flow is opened, and then data comes in from the same address and port, but for another
address. -/
def strayMoments : List (Moment Simulation.World Simulation.App) :=
  [sampleDispatch Tcp.Flags.syn, sampleDispatch Tcp.Flags.ack,
    .dispatch
      (Tcp.sampleSegment (.ofOctets 55 55 55 56) (Tcp.Flags.ack ||| Tcp.Flags.psh) strayData)
      sampleSender 0].map .operation

/-- A watched tunnel without a transport, on a host on which nothing fails. -/
def strayScene : Scene (Watch Simulation.World Simulation.App) (Watched Simulation.App) :=
  ⟨fresh { sampleProfile with hasTransport := false } 1 sampleVectors 0, ⟨{ world := {} }, []⟩⟩

/-- Data for one address is sent to the stream that was opened for another one. No packet to the
address of the stream carries it. -/
theorem stray_delivered :
    ((Moment.runAll (strayMoments.map Moment.watched) strayScene).live? sampleKey).bind
        (fun c => c.stream.map fun w => (w.target, w.sent)) =
        some (⟨.ofOctets 55 55 55 55, 443⟩, [strayData])
      ∧ ∀ a ∈ Moment.arrivalsAll (strayMoments.map Moment.watched) strayScene,
        carried a.packet = strayData → a.packet.destination ≠ .ofOctets 55 55 55 55 := by
  constructor <;> decide +kernel

end Ipsec.Tunnel
