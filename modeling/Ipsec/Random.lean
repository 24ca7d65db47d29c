/-!
# Random values

A `Generator` is a seed and the number of values drawn from it. The value at a position is a
bit mixer applied to a point of an arithmetic progression from the seed, so generators with
different seeds give unrelated sequences and a sequence can be replayed from its seed. A
`RandomSource` is one that the system provides. What its calls give is not known beforehand, and a
call may fail.
-/

namespace Ipsec

/-- A seeded sequence of 64-bit values and the position reached in it. -/
structure Generator where
  /-- The seed of the sequence. -/
  seed : UInt64
  /-- How many values were drawn. -/
  drawn : Nat := 0
deriving DecidableEq, Repr

namespace Generator

/-- Spreads every bit of a word over the whole word. -/
def mix (z : UInt64) : UInt64 :=
  let z := (z ^^^ (z >>> 30)) * 0xBF58476D1CE4E5B9
  let z := (z ^^^ (z >>> 27)) * 0x94D049BB133111EB
  z ^^^ (z >>> 31)

/-- The next value, and the generator after it. -/
def next (g : Generator) : UInt64 × Generator :=
  (mix (g.seed + UInt64.ofNat (g.drawn + 1) * 0x9E3779B97F4A7C15), { g with drawn := g.drawn + 1 })

/-- A number from `low` up to and without `high`. -/
def range (low high : Nat) (g : Generator) : Nat × Generator :=
  (low + g.next.1.toNat % (high - low), g.next.2)

/-- A number drawn from a range lies in it. -/
theorem range_mem {low high : Nat} (h : low < high) (g : Generator) :
    low ≤ (g.range low high).1 ∧ (g.range low high).1 < high := by
  have := Nat.mod_lt g.next.1.toNat (Nat.sub_pos_of_lt h)
  simp only [range]
  omega

end Generator

/-- A random source of the system, as one user sees it. -/
structure RandomSource (α : Type) where
  /-- What each call gives, if it does not fail. -/
  gives : Nat → Option α
  /-- How many calls were made. -/
  calls : Nat := 0

namespace RandomSource

variable {α : Type}

/-- What the next call gives, if it does not fail, and the source after it. -/
def next (s : RandomSource α) : Option α × RandomSource α :=
  (s.gives s.calls, { s with calls := s.calls + 1 })

/-- Whether the next call succeeds. -/
def isReady (s : RandomSource α) : Bool := (s.gives s.calls).isSome

/-- From here on every call succeeds, or every call fails. -/
def Steady (s : RandomSource α) (works : Bool) : Prop :=
  ∀ n, (s.gives (s.calls + n)).isSome = works

theorem Steady.isReady {s : RandomSource α} {works : Bool} (h : s.Steady works) :
    s.isReady = works :=
  h 0

theorem Steady.next {s : RandomSource α} {works : Bool} (h : s.Steady works) :
    s.next.2.Steady works := by
  intro n
  have hlater := h (1 + n)
  rwa [← Nat.add_assoc] at hlater

/-- How many calls failed. -/
def failures (s : RandomSource α) : Nat :=
  (List.range s.calls).countP fun i => (s.gives i).isNone

theorem failures_next (s : RandomSource α) :
    s.next.2.failures = s.failures + if s.isReady then 0 else 1 := by
  have hcall : (if (s.gives s.calls).isNone = true then 1 else 0) = if s.isReady then 0 else 1 := by
    unfold isReady
    cases s.gives s.calls <;> rfl
  simp only [failures, next, List.range_succ, List.countP_append, List.countP_singleton, hcall]

end RandomSource

end Ipsec
