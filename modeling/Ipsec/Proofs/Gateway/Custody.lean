import Ipsec.Proofs.Gateway.Operation
import Ipsec.Proofs.Tunnel.Custody

/-!
# Custody of the streams of a gateway

A gateway and its tunnels neither lose a stream nor close one twice. The account of the world
balances with the streams that all tunnels hold: an operation of one tunnel keeps it balanced,
whatever the others hold, so every operation of the gateway does (`stable_balanced`). After any
run, whatever fails on the way, each stream that was opened is held by one connection and was never
closed, or is held by none and was closed once (`streams_in_custody`).
-/

namespace Ipsec.Gateway

variable {ω σ α : Type}

/-! ## What tunnels hold -/

/-- One element of a list is taken out of what all its elements stand for. -/
theorem flatMap_perm_eraseIdx {β : Type} (f : α → List β) {l : List α} {i : Nat} {a : α}
    (h : l[i]? = some a) : (l.flatMap f).Perm (f a ++ (l.eraseIdx i).flatMap f) := by
  induction l generalizing i with
  | nil => cases h
  | cons b rest ih =>
    cases i with
    | zero =>
      cases h
      exact .refl _
    | succ i =>
      rw [List.flatMap_cons, List.eraseIdx_cons_succ, List.flatMap_cons]
      exact ((ih h).append_left (f b)).trans (List.perm_append_comm_assoc _ _ _)

/-- The tags of the streams that the connections of a tunnel hold. -/
def tunnelHeld (t : Tunnel (Tagged σ)) : List Nat := t.sessions.held

/-- The tags of the streams that the connections of all tunnels hold. -/
def Scene.held (s : Scene ω (Tagged σ)) : List Nat := s.gateway.tunnels.flatMap tunnelHeld

/-- The account balances with the streams of all tunnels. -/
def Scene.Balanced (s : Scene (Ledger ω) (Tagged σ)) : Prop := s.host.world.Balances s.held

/-! ## Operations -/

namespace Scene.Balanced

variable {s : Scene (Ledger ω) (Tagged σ)}

/-- An action that keeps the account of a tunnel balanced, whatever is held elsewhere, keeps that of
the gateway balanced. -/
theorem onTunnel (hs : s.Balanced) (place : Nat)
    {action : Tunnel.Scene (Ledger ω) (Tagged σ) → α × Tunnel.Scene (Ledger ω) (Tagged σ)}
    (haction : ∀ others t, Tunnel.Scene.Balanced others t →
      Tunnel.Scene.Balanced others (action t).2) :
    (s.onTunnel place action).2.Balanced := by
  unfold Scene.onTunnel
  split
  · exact hs
  · next tunnel htunnel =>
    have htaken := hs.perm (flatMap_perm_eraseIdx tunnelHeld htunnel).symm
    have hacted := haction _ ⟨tunnel, s.host⟩ htaken
    have hset : (s.gateway.tunnels.set place (action ⟨tunnel, s.host⟩).2.tunnel)[place]?
        = some (action ⟨tunnel, s.host⟩).2.tunnel := by
      rw [List.getElem?_set_self (List.getElem?_eq_some_iff.1 htunnel).1]
    have hback := flatMap_perm_eraseIdx tunnelHeld hset
    rw [List.eraseIdx_set_eq] at hback
    exact hacted.perm hback

theorem setUp (hs : s.Balanced) (profile : Tunnel.Profile) (seed : UInt64)
    (vectors : Nat → Option Aes.Block) (now : Nat) :
    (s.setUp profile seed vectors now).Balanced := by
  have hheld : (s.setUp profile seed vectors now).held = s.held := by
    simp only [Scene.held, Scene.setUp, List.flatMap_append]
    exact List.append_nil _
  unfold Balanced
  rw [hheld]
  exact hs

theorem add (hs : s.Balanced) (place : Nat) : (s.add place).2.Balanced := by
  unfold Scene.add
  split <;> exact hs

theorem removeBy [Platform ω σ] (hs : s.Balanced) (rota : Tunnel.Rota) (spi : UInt32) :
    (s.removeBy rota spi).2.Balanced := by
  unfold Scene.removeBy
  split
  · exact hs
  · next place _ =>
    let off : Scene (Ledger ω) (Tagged σ) :=
      { s with gateway := { s.gateway with routes := s.gateway.routes.erase spi } }
    have hoff : off.Balanced := hs
    have hended : (off.onTunnel place fun t => ((), t.terminateAllBy rota)).2.Balanced :=
      hoff.onTunnel place fun _ _ ht => ht.terminateAllBy rota
    exact hended

end Scene.Balanced

/-- Every operation of a gateway keeps the account balanced. -/
theorem stable_balanced [Platform ω σ] : Stable (Scene.Balanced (ω := ω) (σ := σ)) where
  note _ hs := hs
  transmit _ _ hs := hs
  setUp profile seed vectors now hs := hs.setUp profile seed vectors now
  add place hs := hs.add place
  remove rota spi hs := hs.removeBy rota spi
  tunnel place op hs := hs.onTunnel place fun others _ ht =>
    (Tunnel.stable_balanced others).run op ht
  closeLive place key hs := hs.onTunnel place fun _ _ ht => ht.closeLive key
  closeParked place key hs := hs.onTunnel place fun _ _ ht => ht.closeParked key

/-! ## Runs -/

/-- What happens to a gateway whose world keeps account: an operation, or the streams of one of its
tunnels and the world go on without it. -/
inductive Moment (ω σ : Type) where
  /-- The gateway is asked for something. -/
  | operation (op : Operation)
  /-- The streams of a tunnel's live and parked connections change, and the world does. -/
  | drift (place : Nat) (live parked : Tcp.Connection (Tagged σ) → σ → σ) (world : ω → ω)

namespace Moment

variable [Platform ω σ]

/-- What a moment makes of a scene. -/
def run (s : Scene (Ledger ω) (Tagged σ)) : Moment ω σ → Scene (Ledger ω) (Tagged σ)
  | operation op => op.run s
  | drift place live parked world =>
    (s.onTunnel place fun t =>
      ((), (Tunnel.Moment.drift (Tunnel.underTag live) (Tunnel.underTag parked)
        fun l => { l with world := world l.world }).run t)).2

/-- What some moments make of a scene in turn. -/
def runAll (moments : List (Moment ω σ)) (s : Scene (Ledger ω) (Tagged σ)) :
    Scene (Ledger ω) (Tagged σ) := moments.foldl run s

end Moment

theorem Scene.Balanced.runAll [Platform ω σ] {s : Scene (Ledger ω) (Tagged σ)} (hs : s.Balanced)
    (moments : List (Moment ω σ)) : (Moment.runAll moments s).Balanced := by
  induction moments generalizing s with
  | nil => exact hs
  | cons moment rest ih =>
    refine ih ?_
    cases moment with
    | operation op => exact stable_balanced.run op hs
    | drift place live parked world =>
      exact hs.onTunnel place fun _ _ ht => ht.drift live parked world

/-! ## Custody -/

/-- A place for a connection in the tables of a gateway's tunnels. -/
structure Spot where
  /-- The place of the tunnel. -/
  place : Nat
  /-- The slot of its table. -/
  slot : Flow.Table.Slot

/-- The connection in a spot holds the stream that was opened under a number. -/
def Scene.Holds (s : Scene ω (Tagged σ)) (spot : Spot) (tag : Nat) : Prop :=
  ∃ tunnel conn, s.gateway.tunnels[spot.place]? = some tunnel
    ∧ tunnel.sessions.at? spot.slot = some conn ∧ conn.stream.map Tagged.tag = some tag

/-- Streams are neither lost nor closed twice. -/
structure Custody (s : Scene (Ledger ω) (Tagged σ)) : Prop where
  /-- A stream that was opened is held in one spot and was never closed, or is held in none and was
  closed once. -/
  opened : ∀ tag < s.host.world.opened,
    (∃ spot, s.Holds spot tag ∧ ∀ other, s.Holds other tag → other = spot)
        ∧ s.host.world.closed.count tag = 0
      ∨ (∀ spot, ¬ s.Holds spot tag) ∧ s.host.world.closed.count tag = 1
  /-- No other stream is held or was closed. -/
  unopened : ∀ tag, s.host.world.opened ≤ tag →
    (∀ spot, ¬ s.Holds spot tag) ∧ s.host.world.closed.count tag = 0

/-- If nothing is listed twice, it is listed for one element only. -/
theorem index_unique {β : Type} {f : α → List β} {l : List α} {i j : Nat} {a b : α} {x : β}
    (h : (l.flatMap f).Nodup) (ha : l[i]? = some a) (hb : l[j]? = some b) (hx : x ∈ f a)
    (hx' : x ∈ f b) : i = j := by
  refine Decidable.byContradiction fun hne => ?_
  have hsplit := (flatMap_perm_eraseIdx f ha).nodup_iff.1 h
  have hb' : b ∈ l.eraseIdx i := List.mem_eraseIdx_iff_getElem?.2 ⟨j, Ne.symm hne, hb⟩
  exact (List.nodup_append.1 hsplit).2.2 x hx x (List.mem_flatMap.2 ⟨b, hb', hx'⟩) rfl

namespace Scene

variable {s : Scene ω (Tagged σ)} {spot other : Spot} {tag : Nat}

theorem mem_held : tag ∈ s.held ↔ ∃ spot, s.Holds spot tag := by
  simp only [held, tunnelHeld, List.mem_flatMap, Flow.Table.mem_held, Tcp.Connection.held,
    Option.mem_toList]
  constructor
  · rintro ⟨tunnel, hmem, slot, conn, hconn, htag⟩
    obtain ⟨place, hplace⟩ := List.mem_iff_getElem?.1 hmem
    exact ⟨⟨place, slot⟩, tunnel, conn, hplace, hconn, htag⟩
  · rintro ⟨⟨place, slot⟩, tunnel, conn, hplace, hconn, htag⟩
    exact ⟨tunnel, List.mem_of_getElem? hplace, slot, conn, hconn, htag⟩

theorem spot_unique (h : s.held.Nodup) (hspot : s.Holds spot tag) (hother : s.Holds other tag) :
    other = spot := by
  obtain ⟨place, slot⟩ := spot
  obtain ⟨place', slot'⟩ := other
  obtain ⟨t, c, ht, hc, htag⟩ := hspot
  obtain ⟨t', d, ht', hd, htag'⟩ := hother
  have hc' : tag ∈ c.held := Option.mem_toList.2 htag
  have hd' : tag ∈ d.held := Option.mem_toList.2 htag'
  obtain rfl : place' = place := index_unique h ht' ht
    (Flow.Table.mem_held.2 ⟨slot', d, hd, hd'⟩) (Flow.Table.mem_held.2 ⟨slot, c, hc, hc'⟩)
  obtain rfl : t' = t := Option.some.inj (ht'.symm.trans ht)
  have hone := (flatMap_perm_eraseIdx tunnelHeld ht).nodup_iff.1 h
  obtain rfl : slot' = slot :=
    Flow.Table.slot_unique (List.nodup_append.1 hone).1 hd hc hd' hc'
  rfl

end Scene

/-- If the account balances, all streams are in custody. -/
theorem Scene.Balanced.custody {s : Scene (Ledger ω) (Tagged σ)} (hs : s.Balanced) :
    Custody s := by
  have hnodup : s.held.Nodup :=
    (List.nodup_append.1 (hs.nodup_iff.2 List.nodup_range)).1
  have hcount : ∀ tag, s.held.count tag + s.host.world.closed.count tag
      = if tag < s.host.world.opened then 1 else 0 := by
    intro tag
    rw [← List.count_append, hs.count_eq, List.count_range]
  have hnowhere : ∀ {tag}, s.held.count tag = 0 → ∀ spot, ¬ s.Holds spot tag := by
    intro tag h spot hspot
    exact List.count_eq_zero.1 h (mem_held.2 ⟨spot, hspot⟩)
  refine ⟨fun tag htag => ?_, fun tag htag => ?_⟩
  · have hone := hcount tag
    rw [if_pos htag] at hone
    rcases Nat.eq_zero_or_pos (s.held.count tag) with hheld | hheld
    · exact .inr ⟨hnowhere hheld, by omega⟩
    · obtain ⟨spot, hspot⟩ := mem_held.1 (List.count_pos_iff.1 hheld)
      exact .inl ⟨⟨spot, hspot, fun other => spot_unique hnodup hspot⟩, by omega⟩
  · have hnone := hcount tag
    rw [if_neg (Nat.not_lt.2 htag)] at hnone
    exact ⟨hnowhere (by omega), by omega⟩

/-- **Streams are neither lost nor closed twice.** After any run of a gateway that begins with no
tunnels, in a world that opened no streams yet, all streams are in custody. -/
theorem streams_in_custody [Platform ω σ] (world : ω) (log : List Notice)
    (moments : List (Moment ω σ)) :
    Custody (Moment.runAll moments ⟨{}, ⟨{ world }, log⟩⟩) := by
  have hstart : Scene.Balanced (⟨{}, ⟨{ world }, log⟩⟩ : Scene (Ledger ω) (Tagged σ)) := .refl _
  exact (hstart.runAll moments).custody

end Ipsec.Gateway
