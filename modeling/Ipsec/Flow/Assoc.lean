/-!
# Association lists

`Assoc κ ν` holds at most one value under each key. Its view is `Assoc.get?`. A new key goes to
the end, and writing to a key that is there moves nothing.
-/

namespace Ipsec

/-- A finite map as a list of entries, at most one for each key. -/
structure Assoc (κ ν : Type) where
  /-- The entries, in the order in which their keys came. -/
  entries : List (κ × ν) := []
  /-- No key stands twice. -/
  nodup : (entries.map Prod.fst).Nodup := by simp

namespace Assoc

variable {κ ν : Type} [DecidableEq κ]

instance : EmptyCollection (Assoc κ ν) := ⟨⟨[], by simp⟩⟩

instance : Inhabited (Assoc κ ν) := ⟨∅⟩

/-- The value under a key. -/
def get? (m : Assoc κ ν) (k : κ) : Option ν :=
  (m.entries.find? fun e => e.1 = k).map Prod.snd

/-- The keys, in the order in which they came. -/
def keys (m : Assoc κ ν) : List κ := m.entries.map Prod.fst

/-- The values, in the order of their keys. -/
def values (m : Assoc κ ν) : List ν := m.entries.map Prod.snd

/-- The number of keys. -/
def size (m : Assoc κ ν) : Nat := m.entries.length

theorem find?_eq_none_iff {l : List (κ × ν)} {k : κ} :
    (l.find? fun e => e.1 = k) = none ↔ k ∉ l.map Prod.fst := by
  rw [List.find?_eq_none]
  constructor
  · intro h hk
    obtain ⟨e, he, rfl⟩ := List.mem_map.1 hk
    simpa using h e he
  · intro h e he
    simpa using fun hk => h (List.mem_map.2 ⟨e, he, hk⟩)

/-- Puts a value under a key, in place of the one that was there. -/
def insert (m : Assoc κ ν) (k : κ) (v : ν) : Assoc κ ν :=
  if h : k ∈ m.entries.map Prod.fst then
    { entries := m.entries.map fun e => if e.1 = k then (k, v) else e
      nodup := by
        have : (m.entries.map fun e => if e.1 = k then (k, v) else e).map Prod.fst
            = m.entries.map Prod.fst := by
          rw [List.map_map]
          exact List.map_congr_left fun e _ => by
            by_cases he : e.1 = k <;> simp [he]
        rw [this]
        exact m.nodup }
  else
    { entries := m.entries ++ [(k, v)]
      nodup := by
        rw [List.map_append, List.nodup_append]
        refine ⟨m.nodup, by simp, ?_⟩
        rintro a ha b hb rfl
        simp only [List.map_cons, List.map_nil, List.mem_singleton] at hb
        exact h (hb ▸ ha) }

/-- Takes a key and its value away. -/
def erase (m : Assoc κ ν) (k : κ) : Assoc κ ν where
  entries := m.entries.filter fun e => e.1 ≠ k
  nodup := (List.filter_sublist.map Prod.fst).nodup m.nodup

/-- Applies a function to every value. -/
def mapValues (f : ν → ν) (m : Assoc κ ν) : Assoc κ ν where
  entries := m.entries.map fun e => (e.1, f e.2)
  nodup := by
    rw [List.map_map]
    exact m.nodup

theorem get?_eq_none_iff (m : Assoc κ ν) (k : κ) : m.get? k = none ↔ k ∉ m.keys := by
  rw [get?, Option.map_eq_none_iff, find?_eq_none_iff, keys]

@[simp] theorem get?_erase_self (m : Assoc κ ν) (k : κ) : (m.erase k).get? k = none := by
  simp [get?, erase]

theorem get?_erase_of_ne (m : Assoc κ ν) {j k : κ} (h : j ≠ k) :
    (m.erase k).get? j = m.get? j := by
  simp only [get?, erase, List.find?_filter]
  congr 2
  funext e
  by_cases he : e.1 = j
  · simp [he, h]
  · simp [he]

theorem find?_map_replace (l : List (κ × ν)) (k : κ) (v : ν) (h : k ∈ l.map Prod.fst) :
    ((l.map fun e => if e.1 = k then (k, v) else e).find? fun e => e.1 = k) = some (k, v) := by
  induction l with
  | nil => simp at h
  | cons e l ih =>
    by_cases he : e.1 = k
    · simp [he]
    · have hl : k ∈ l.map Prod.fst := by
        rw [List.map_cons, List.mem_cons] at h
        exact h.resolve_left fun hk => he hk.symm
      rw [List.map_cons, if_neg he, List.find?_cons_of_neg (by simpa using he)]
      exact ih hl

theorem find?_map_replace_of_ne (l : List (κ × ν)) {j k : κ} (v : ν) (h : j ≠ k) :
    ((l.map fun e => if e.1 = k then (k, v) else e).find? fun e => e.1 = j)
      = l.find? fun e => e.1 = j := by
  induction l with
  | nil => rfl
  | cons e l ih =>
    rw [List.map_cons]
    by_cases he : e.1 = k
    · rw [if_pos he, List.find?_cons_of_neg (by simpa using h.symm),
        List.find?_cons_of_neg (by rw [he]; simpa using h.symm), ih]
    · rw [if_neg he, List.find?_cons, List.find?_cons, ih]

@[simp] theorem get?_insert_self (m : Assoc κ ν) (k : κ) (v : ν) :
    (m.insert k v).get? k = some v := by
  unfold insert
  split
  · next h => simp [get?, find?_map_replace _ k v h]
  · next h => simp [get?, List.find?_append, find?_eq_none_iff.2 h]

theorem get?_insert_of_ne (m : Assoc κ ν) {j k : κ} (v : ν) (h : j ≠ k) :
    (m.insert k v).get? j = m.get? j := by
  unfold insert
  split
  · simp only [get?, find?_map_replace_of_ne _ v h]
  · simp [get?, List.find?_append, Ne.symm h]

end Assoc

end Ipsec
