import Mathlib.Data.List.Induction
import Mathlib.Data.List.Nodup
import Mathlib.Data.List.Pairwise
import Ipsec.Flow.Key
import Ipsec.Proofs.Flow.Assoc

/-!
# What becomes of the values of a session table

An `Account` follows a table through a run of operations, and keeps what the operations gave back
to their callers and what they dropped. Each operation takes what it moves from one of these places
to another (`Operation.balance`). Hence the entries put in are at all times those of the two tables
together with those returned and those dropped (`account_balance`). If no value is put in twice,
each is thus at one place, and still under the key it was put in with (`values_conserved`).

Only `park` drops a value: the one that is parked under the key of the value it moves. `insertLive`
gives the value that it displaces to its caller, but `park` gives that value to no one
(`parked_value_lost`).
-/

namespace Ipsec.Flow.Table

variable {κ ν : Type} [DecidableEq κ]

/-! ## Operations -/

/-- A change of a table. -/
inductive Operation (κ ν : Type) where
  /-- Puts a live value under a key. -/
  | insertLive (k : κ) (v : ν)
  /-- Parks the live value under a key. -/
  | park (k : κ)
  /-- Takes the parked value under a key away. -/
  | removeParked (k : κ)
  /-- Takes both values under a key away. -/
  | remove (k : κ)

/-- A value that there may be, with its key. -/
def keyed (k : κ) (v? : Option ν) : List (κ × ν) := (v?.map (k, ·)).toList

omit [DecidableEq κ] in
theorem mem_keyed {k j : κ} {v : ν} {v? : Option ν} :
    (j, v) ∈ keyed k v? ↔ j = k ∧ v? = some v := by
  cases v? <;> simp [keyed, eq_comm]

namespace Operation

/-- The table after an operation. -/
def run (t : Table κ ν) : Operation κ ν → Table κ ν
  | insertLive k v => (t.insertLive k v).2
  | park k => (t.park k).2
  | removeParked k => (t.removeParked k).2
  | remove k => (t.remove k).2

/-- What an operation puts in. -/
def inserted : Operation κ ν → List (κ × ν)
  | insertLive k v => [(k, v)]
  | _ => []

/-- What an operation gives to its caller, under the key that the caller named. -/
def returned (t : Table κ ν) : Operation κ ν → List (κ × ν)
  | insertLive k v => keyed k (t.insertLive k v).1
  | park _ => []
  | removeParked k => keyed k (t.removeParked k).1
  | remove k => keyed k (t.remove k).1.1 ++ keyed k (t.remove k).1.2

/-- What an operation drops: the value that is parked under a key when another is parked there. -/
def dropped (t : Table κ ν) : Operation κ ν → List (κ × ν)
  | park k => if (t.park k).1 then keyed k (t.parked.get? k) else []
  | _ => []

end Operation

/-! ## Balance -/

/-- A table with what became of the values that are no longer in it. -/
structure Account (κ ν : Type) where
  /-- The table. -/
  table : Table κ ν := ∅
  /-- The entries that callers got back. -/
  returned : List (κ × ν) := []
  /-- The entries that were dropped. -/
  dropped : List (κ × ν) := []

/-- Where a value can be. -/
inductive Place where
  /-- In the table, live. -/
  | live
  /-- In the table, parked. -/
  | parked
  /-- With a caller. -/
  | returned
  /-- Nowhere any more. -/
  | dropped

/-- The places. -/
def places : List Place := [.live, .parked, .returned, .dropped]

theorem mem_places (p : Place) : p ∈ places := by
  cases p <;> simp [places]

namespace Account

/-- The account after an operation. -/
def step (a : Account κ ν) (o : Operation κ ν) : Account κ ν where
  table := o.run a.table
  returned := a.returned ++ o.returned a.table
  dropped := a.dropped ++ o.dropped a.table

/-- The entries at a place. -/
def entries (a : Account κ ν) : Place → List (κ × ν)
  | .live => a.table.live.entries
  | .parked => a.table.parked.entries
  | .returned => a.returned
  | .dropped => a.dropped

/-- The entries at all places. -/
def all (a : Account κ ν) : List (κ × ν) := places.flatMap a.entries

end Account

/-- The account of a run that starts with an empty table. -/
def account (operations : List (Operation κ ν)) : Account κ ν := operations.foldl Account.step {}

/-- What the operations of a run put in. -/
def inserted (operations : List (Operation κ ν)) : List (κ × ν) :=
  operations.flatMap Operation.inserted

theorem account_concat (operations : List (Operation κ ν)) (o : Operation κ ν) :
    account (operations ++ [o]) = (account operations).step o := by
  simp [account]

/-- What an operation finds in the table and what it puts in is afterwards in the table, with the
caller, or dropped. -/
theorem Operation.balance (t : Table κ ν) (o : Operation κ ν) :
    ((o.run t).live.entries ++ (o.run t).parked.entries ++ (o.returned t ++ o.dropped t)).Perm
      (t.live.entries ++ t.parked.entries ++ o.inserted) := by
  classical
  rw [List.perm_iff_count]
  intro e
  cases o with
  | insertLive k v =>
    have hbefore := (t.live.entries_perm k).count_eq e
    have hafter := (t.live.entries_insert_perm k v).count_eq e
    simp only [run, returned, dropped, Operation.inserted, Table.insertLive, setLive, keyed,
      List.count_append, List.count_cons, List.count_nil] at *
    omega
  | park k =>
    cases hlive : t.live.get? k with
    | none => simp [run, returned, dropped, Operation.inserted, Table.park, hlive]
    | some v =>
      have hbefore := (t.live.entries_perm k).count_eq e
      have hparked := (t.parked.entries_perm k).count_eq e
      have hafter := (t.parked.entries_insert_perm k v).count_eq e
      simp only [run, returned, dropped, Operation.inserted, Table.park, hlive, keyed, if_true,
        Option.map_some, Option.toList_some, List.count_append, List.count_cons,
        List.count_nil] at *
      omega
  | removeParked k =>
    have hparked := (t.parked.entries_perm k).count_eq e
    simp only [run, returned, dropped, Operation.inserted, Table.removeParked, keyed,
      List.count_append, List.count_nil] at *
    omega
  | remove k =>
    have hlive := (t.live.entries_perm k).count_eq e
    have hparked := (t.parked.entries_perm k).count_eq e
    simp only [run, returned, dropped, Operation.inserted, Table.remove, keyed,
      List.count_append, List.count_nil] at *
    omega

/-- What was put in is, at every moment of a run, at the four places together. -/
theorem account_balance (operations : List (Operation κ ν)) :
    (account operations).all.Perm (inserted operations) := by
  classical
  induction operations using List.reverseRecOn with
  | nil => exact .refl _
  | append_singleton before o ih =>
    rw [List.perm_iff_count] at ih ⊢
    intro e
    have hbefore := ih e
    have hstep := (o.balance (account before).table).count_eq e
    simp only [account_concat, inserted, Account.all, places, Account.entries, Account.step,
      List.flatMap_append, List.flatMap_cons, List.flatMap_nil, List.count_append,
      List.count_nil] at *
    omega

/-! ## Places -/

omit [DecidableEq κ] in
/-- If no value is at the places together twice, each is at one of them, once and under one key. -/
theorem Account.unique_of_nodup {a : Account κ ν} (h : (a.all.map Prod.snd).Nodup) {p q : Place}
    {j k : κ} {v : ν} (hp : (j, v) ∈ a.entries p) (hq : (k, v) ∈ a.entries q) : p = q ∧ j = k := by
  have mem_all {p : Place} {e : κ × ν} (he : e ∈ a.entries p) : e ∈ a.all :=
    List.mem_flatMap.2 ⟨p, mem_places p, he⟩
  obtain rfl : j = k := congrArg Prod.fst (List.inj_on_of_nodup_map h (mem_all hp) (mem_all hq) rfl)
  refine ⟨?_, rfl⟩
  by_contra hne
  have : Std.Symm (Function.onFun List.Disjoint a.entries) := ⟨fun _ _ h e hp hq => h hq hp⟩
  have hdisjoint := (List.nodup_flatMap.1 h.of_map).2
  exact hdisjoint.forall (mem_places p) (mem_places q) hne hp hq

theorem Operation.mem_dropped {t : Table κ ν} {o : Operation κ ν} {k : κ} {v : ν} :
    (k, v) ∈ o.dropped t ↔
      o = park k ∧ (t.live.get? k).isSome ∧ t.parked.get? k = some v := by
  cases o with
  | park j =>
    cases hlive : t.live.get? j with
    | none =>
      simp only [dropped, Table.park, hlive, Bool.false_eq_true, if_false, List.not_mem_nil,
        park.injEq, false_iff]
      rintro ⟨rfl, hsome, -⟩
      rw [hlive] at hsome
      cases hsome
    | some w =>
      simp only [dropped, Table.park, hlive, if_true, mem_keyed, park.injEq]
      constructor
      · rintro ⟨rfl, hparked⟩
        exact ⟨rfl, by rw [hlive]; rfl, hparked⟩
      · rintro ⟨rfl, -, hparked⟩
        exact ⟨rfl, hparked⟩
  | _ => simp [dropped]

theorem dropped_foldl (after : List (Operation κ ν)) (a : Account κ ν) :
    a.dropped ⊆ (after.foldl Account.step a).dropped := by
  induction after generalizing a with
  | nil => exact List.Subset.refl _
  | cons o rest ih => exact List.Subset.trans (List.subset_append_left _ _) (ih (a.step o))

/-- A value was dropped if and only if at some moment of the run another was parked under its key
while it was parked there. -/
theorem mem_dropped_iff (operations : List (Operation κ ν)) (k : κ) (v : ν) :
    (k, v) ∈ (account operations).dropped ↔
      ∃ before after, operations = before ++ .park k :: after ∧
        ((account before).table.live.get? k).isSome ∧
        (account before).table.parked.get? k = some v := by
  constructor
  · induction operations using List.reverseRecOn with
    | nil => intro h; cases h
    | append_singleton first o ih =>
      intro h
      rw [account_concat, Account.step, List.mem_append] at h
      rcases h with h | h
      · obtain ⟨before, after, rfl, hparked⟩ := ih h
        exact ⟨before, after ++ [o], by simp, hparked⟩
      · obtain ⟨rfl, hparked⟩ := Operation.mem_dropped.1 h
        exact ⟨first, [], rfl, hparked⟩
  · rintro ⟨before, after, rfl, h⟩
    have hstep : (k, v) ∈ ((account before).step (.park k)).dropped :=
      List.mem_append_right _ (Operation.mem_dropped.2 ⟨rfl, h⟩)
    rw [account, List.foldl_append]
    exact dropped_foldl after _ hstep

/-- In a run that puts no value in twice, every value that was put in is at every moment at one
place, once and under its own key, and nothing else is there. What is found under a key, and the
keys, agree with that. A value is dropped only when another is parked under its key while it is
parked there. -/
theorem values_conserved (operations : List (Operation κ ν))
    (distinct : ((inserted operations).map Prod.snd).Nodup) :
    let a := account operations
    (∀ k v, (k, v) ∈ inserted operations →
      ∃ p, (k, v) ∈ a.entries p ∧ ∀ q j, (j, v) ∈ a.entries q → q = p ∧ j = k) ∧
    (∀ p, ((a.entries p).map Prod.snd).Nodup ∧ a.entries p ⊆ inserted operations) ∧
    (∀ k v, a.table.live.get? k = some v ↔ (k, v) ∈ a.entries .live) ∧
    (∀ k v, a.table.parked.get? k = some v ↔ (k, v) ∈ a.entries .parked) ∧
    a.table.live.keys = (a.entries .live).map Prod.fst ∧ a.table.live.keys.Nodup ∧
    a.table.parked.keys = (a.entries .parked).map Prod.fst ∧ a.table.parked.keys.Nodup ∧
    (∀ k v, (k, v) ∈ a.entries .dropped ↔
      ∃ before after, operations = before ++ .park k :: after ∧
        ((account before).table.live.get? k).isSome ∧
        (account before).table.parked.get? k = some v) := by
  intro a
  have hbalance := account_balance operations
  have hnodup : (a.all.map Prod.snd).Nodup := (hbalance.map Prod.snd).nodup_iff.2 distinct
  refine ⟨fun k v h => ?_, fun p => ⟨?_, ?_⟩, a.table.live.get?_eq_some_iff,
    a.table.parked.get?_eq_some_iff, rfl, a.table.live.nodup, rfl, a.table.parked.nodup,
    mem_dropped_iff operations⟩
  · obtain ⟨p, -, hp⟩ := List.mem_flatMap.1 (hbalance.symm.subset h)
    exact ⟨p, hp, fun q j hq => Account.unique_of_nodup hnodup hq hp⟩
  · rw [Account.all, List.map_flatMap] at hnodup
    exact (List.nodup_flatMap.1 hnodup).1 p (mem_places p)
  · exact fun e he => hbalance.subset (List.mem_flatMap.2 ⟨p, mem_places p, he⟩)

/-- A run in which a key is used again while its first value is still parked. -/
def reuse : List (Operation Key String) :=
  [.insertLive ⟨⟨0x0a000005⟩, 443⟩ "a", .park ⟨⟨0x0a000005⟩, 443⟩,
    .insertLive ⟨⟨0x0a000005⟩, 443⟩ "b", .park ⟨⟨0x0a000005⟩, 443⟩]

theorem values_conserved_of_reuse :
    ((inserted reuse).map Prod.snd).Nodup ∧
      ∃ p, (⟨⟨0x0a000005⟩, 443⟩, "a") ∈ (account reuse).entries p :=
  ⟨by decide, ((values_conserved reuse (by decide)).1 _ "a" (by decide)).imp fun _ h => h.1⟩

/-- The value that was parked first is in neither table, and no caller got it. -/
theorem parked_value_lost :
    ((inserted reuse).map Prod.snd).Nodup ∧
      (⟨⟨0x0a000005⟩, 443⟩, "a") ∈ inserted reuse ∧
      (account reuse).table.live.values = [] ∧
      (account reuse).table.parked.values = ["b"] ∧
      (account reuse).returned = [] := by
  decide

end Ipsec.Flow.Table
