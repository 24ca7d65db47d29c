import Ipsec.Flow.Assoc

/-!
# Session tables

A `Table` holds values under keys in two places. Live values take part in new traffic. Parked ones
are only kept until they are done. The same key may be live and parked at once, with two values.
-/

namespace Ipsec.Flow

/-- Live and parked values. -/
structure Table (κ ν : Type) where
  /-- The live values. -/
  live : Assoc κ ν := ∅
  /-- The parked values. -/
  parked : Assoc κ ν := ∅

namespace Table

variable {κ ν : Type} [DecidableEq κ]

instance : EmptyCollection (Table κ ν) := ⟨⟨∅, ∅⟩⟩

instance : Inhabited (Table κ ν) := ⟨∅⟩

/-- Puts a live value under a key. -/
def setLive (t : Table κ ν) (k : κ) (v : ν) : Table κ ν := { t with live := t.live.insert k v }

/-- Puts a parked value under a key. -/
def setParked (t : Table κ ν) (k : κ) (v : ν) : Table κ ν :=
  { t with parked := t.parked.insert k v }

/-- Puts a live value under a key. Gives the one that it displaces. -/
def insertLive (t : Table κ ν) (k : κ) (v : ν) : Option ν × Table κ ν :=
  (t.live.get? k, t.setLive k v)

/-- Moves the live value under a key to the parked ones, in place of the one that is parked under
the key. Gives whether there was a live value. -/
def park (t : Table κ ν) (k : κ) : Bool × Table κ ν :=
  match t.live.get? k with
  | none => (false, t)
  | some v => (true, ⟨t.live.erase k, t.parked.insert k v⟩)

/-- Takes the parked value under a key away, and gives it. -/
def removeParked (t : Table κ ν) (k : κ) : Option ν × Table κ ν :=
  (t.parked.get? k, { t with parked := t.parked.erase k })

/-- Takes both values under a key away, and gives them, the live one first. -/
def remove (t : Table κ ν) (k : κ) : (Option ν × Option ν) × Table κ ν :=
  ((t.live.get? k, t.parked.get? k), ⟨t.live.erase k, t.parked.erase k⟩)

end Table

end Ipsec.Flow
