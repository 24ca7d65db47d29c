import Ipsec.Flow.Table

/-!
# Lookup and contents of association lists

`get?_insert`, `get?_erase` and `get?_mapValues` say what a lookup finds after each change. Changes
under two keys that are there commute, the order of the entries included (`insert_comm`,
`erase_insert_comm`, `erase_comm`), and a change of every value commutes with a change under one key
(`mapValues_insert`, `mapValues_erase`). `entries_perm` takes one entry out of the list of all
entries, and `values_perm` its value, so that what is counted over a table can be followed through
changes under one key.
-/

namespace Ipsec.Assoc

variable {κ ν : Type} [DecidableEq κ]

/-! ## Lookup -/

theorem get?_erase (m : Assoc κ ν) (j k : κ) :
    (m.erase k).get? j = if j = k then none else m.get? j := by
  split
  · next h => rw [h, get?_erase_self]
  · next h => exact m.get?_erase_of_ne h

theorem get?_of_erase {m : Assoc κ ν} {j k : κ} {v : ν} (h : (m.erase k).get? j = some v) :
    m.get? j = some v := by
  rw [get?_erase] at h
  split at h
  · cases h
  · exact h

theorem get?_insert (m : Assoc κ ν) (j k : κ) (v : ν) :
    (m.insert k v).get? j = if j = k then some v else m.get? j := by
  split
  · next h => rw [h, get?_insert_self]
  · next h => exact m.get?_insert_of_ne v h

theorem get?_mapValues (f : ν → ν) (m : Assoc κ ν) (k : κ) :
    (m.mapValues f).get? k = (m.get? k).map f := by
  obtain ⟨entries, nodup⟩ := m
  simp only [get?, mapValues, List.find?_map, Option.map_map]
  rfl

theorem get?_eq_some_iff (m : Assoc κ ν) (k : κ) (v : ν) :
    m.get? k = some v ↔ (k, v) ∈ m.entries := by
  obtain ⟨entries, hnodup⟩ := m
  simp only [get?, Option.map_eq_some_iff]
  induction entries with
  | nil => simp
  | cons e rest ih =>
    rw [List.map_cons, List.nodup_cons] at hnodup
    have ih := ih hnodup.2
    rw [List.find?_cons, List.mem_cons]
    by_cases he : e.1 = k
    · have hrest : (k, v) ∉ rest := fun h => hnodup.1 (List.mem_map.2 ⟨(k, v), h, he.symm⟩)
      simp only [he, decide_true, Option.some.injEq, exists_eq_left', hrest, or_false]
      rw [Prod.ext_iff]
      simp [he, eq_comm]
    · have hne : (k, v) ≠ e := fun h => he (by rw [← h])
      simp only [he, decide_false, hne, false_or]
      exact ih

/-! ## Entries -/

omit [DecidableEq κ] in
theorem eq_of_entries {m n : Assoc κ ν} (h : m.entries = n.entries) : m = n := by
  cases m
  cases n
  cases h
  rfl

theorem eq_empty {m : Assoc κ ν} (h : ∀ k, m.get? k = none) : m = ∅ := by
  refine eq_of_entries (List.eq_nil_iff_forall_not_mem.2 fun e he => ?_)
  exact (m.get?_eq_none_iff e.1).1 (h e.1) (List.mem_map_of_mem he)

theorem entries_erase (m : Assoc κ ν) (k : κ) :
    (m.erase k).entries = m.entries.filter fun e => e.1 ≠ k := rfl

/-- To take away a key that is not there changes nothing. -/
theorem erase_of_get? {m : Assoc κ ν} {k : κ} (h : m.get? k = none) : m.erase k = m := by
  refine eq_of_entries ?_
  rw [entries_erase, List.filter_eq_self]
  intro e he
  refine decide_eq_true ?_
  rintro rfl
  exact (m.get?_eq_none_iff e.1).1 h (List.mem_map_of_mem he)

/-- To put a value under a key that is there moves nothing. -/
theorem entries_insert {m : Assoc κ ν} {k : κ} {w : ν} (h : m.get? k = some w) (v : ν) :
    (m.insert k v).entries = m.entries.map fun e => if e.1 = k then (k, v) else e := by
  have hmem : k ∈ m.entries.map Prod.fst :=
    List.mem_map.2 ⟨(k, w), (m.get?_eq_some_iff k w).1 h, rfl⟩
  unfold insert
  rw [dif_pos hmem]

/-- To put the value under a key that is there already changes nothing. -/
theorem insert_get? {m : Assoc κ ν} {k : κ} {v : ν} (h : m.get? k = some v) : m.insert k v = m := by
  refine eq_of_entries ((entries_insert h v).trans ?_)
  refine (List.map_congr_left fun e he => ?_).trans (List.map_id _)
  split
  · next hk =>
    have hv := (m.get?_eq_some_iff k e.2).2 (hk ▸ he)
    rw [← hk, Option.some.inj (h.symm.trans hv)]
    rfl
  · rfl

theorem filter_map_replace (l : List (κ × ν)) (k : κ) (v : ν) :
    (l.map fun e => if e.1 = k then (k, v) else e).filter (fun e => e.1 ≠ k) =
      l.filter fun e => e.1 ≠ k := by
  induction l with
  | nil => rfl
  | cons e rest ih =>
    rw [List.map_cons, List.filter_cons, List.filter_cons, ih]
    by_cases he : e.1 = k <;> simp [he]

/-- To take a key away takes away what was put under it. -/
theorem erase_insert (m : Assoc κ ν) (k : κ) (v : ν) : (m.insert k v).erase k = m.erase k := by
  apply eq_of_entries
  unfold insert
  split
  · simp only [erase, filter_map_replace]
  · simp [erase]

/-! ## Changes under two keys -/

section

variable {m : Assoc κ ν} {j k : κ} {v w : ν}

theorem erase_comm (m : Assoc κ ν) (j k : κ) : (m.erase j).erase k = (m.erase k).erase j := by
  apply eq_of_entries
  simp only [entries_erase, List.filter_filter, Bool.and_comm]

theorem insert_comm (hne : j ≠ k) (hj : m.get? j = some v) (hk : m.get? k = some w) (x y : ν) :
    (m.insert j x).insert k y = (m.insert k y).insert j x := by
  have hj' : (m.insert k y).get? j = some v := (m.get?_insert_of_ne y hne).trans hj
  have hk' : (m.insert j x).get? k = some w := (m.get?_insert_of_ne x hne.symm).trans hk
  apply eq_of_entries
  rw [entries_insert hk', entries_insert hj, entries_insert hj', entries_insert hk, List.map_map,
    List.map_map]
  refine List.map_congr_left fun e _ => ?_
  by_cases hej : e.1 = j
  · simp [hej, hne]
  · by_cases hek : e.1 = k
    · simp [hek, hne.symm]
    · simp [hej, hek]

theorem erase_insert_comm (hne : j ≠ k) (hj : m.get? j = some v) (x : ν) :
    (m.insert j x).erase k = (m.erase k).insert j x := by
  have hj' : (m.erase k).get? j = some v := (m.get?_erase_of_ne hne).trans hj
  apply eq_of_entries
  rw [entries_insert hj', entries_erase, entries_erase, entries_insert hj, List.filter_map]
  congr 1
  refine List.filter_congr fun e _ => ?_
  by_cases hej : e.1 = j <;> simp [hej]

end

/-! ## Changes of every value -/

section

variable (f : ν → ν) (m : Assoc κ ν) (k : κ)

omit [DecidableEq κ] in
theorem keys_mapValues : (m.mapValues f).keys = m.keys := by
  simp [keys, mapValues, Function.comp_def]

omit [DecidableEq κ] in
theorem mapValues_mapValues (g : ν → ν) :
    (m.mapValues f).mapValues g = m.mapValues (g ∘ f) := by
  apply eq_of_entries
  simp [mapValues]

theorem mapValues_erase : (m.erase k).mapValues f = (m.mapValues f).erase k := by
  apply eq_of_entries
  simp [mapValues, erase, List.filter_map, Function.comp_def]

theorem mapValues_insert (v : ν) :
    (m.insert k v).mapValues f = (m.mapValues f).insert k (f v) := by
  have hkeys : (m.mapValues f).entries.map Prod.fst = m.entries.map Prod.fst := keys_mapValues f m
  apply eq_of_entries
  unfold insert
  by_cases hk : k ∈ m.entries.map Prod.fst
  · rw [dif_pos hk, dif_pos (hkeys ▸ hk)]
    simp only [mapValues, List.map_map]
    refine List.map_congr_left fun e _ => ?_
    by_cases he : e.1 = k <;> simp [he]
  · rw [dif_neg hk, dif_neg (hkeys ▸ hk)]
    simp [mapValues]

end

/-! ## Contents -/

/-- The entries are the one under a key, if there is one, and those under the other keys. -/
theorem entries_perm (m : Assoc κ ν) (k : κ) :
    m.entries.Perm (((m.get? k).map (k, ·)).toList ++ (m.erase k).entries) := by
  obtain ⟨entries, hnodup⟩ := m
  simp only [get?, erase]
  induction entries with
  | nil => simp
  | cons e rest ih =>
    rw [List.map_cons, List.nodup_cons] at hnodup
    have ih := ih hnodup.2
    by_cases he : e.1 = k
    · subst he
      have hrest : rest.filter (fun e' => !decide (e'.1 = e.1)) = rest := by
        rw [List.filter_eq_self]
        intro e' he'
        have hmem := List.mem_map_of_mem (f := Prod.fst) he'
        simpa using fun h : e'.1 = e.1 => hnodup.1 (h ▸ hmem)
      simp [hrest]
    · simp only [List.find?_cons, List.filter_cons, he, decide_false, ne_eq,
        not_false_eq_true, decide_true, if_true]
      exact (ih.cons e).trans List.perm_middle.symm

/-- After a value is put under a key, the entries are that one and those under the other keys. -/
theorem entries_insert_perm (m : Assoc κ ν) (k : κ) (v : ν) :
    (m.insert k v).entries.Perm ((k, v) :: (m.erase k).entries) := by
  have h := (m.insert k v).entries_perm k
  rwa [get?_insert_self, erase_insert] at h

theorem values_perm (m : Assoc κ ν) (k : κ) :
    m.values.Perm ((m.get? k).toList ++ (m.erase k).values) := by
  have h := (m.entries_perm k).map Prod.snd
  rwa [List.map_append, ← Option.toList_map, Option.map_map, show Prod.snd ∘ (k, ·) = id from rfl,
    Option.map_id_fun, id_eq] at h

theorem values_insert_perm (m : Assoc κ ν) (k : κ) (v : ν) :
    (m.insert k v).values.Perm (v :: (m.erase k).values) :=
  (m.entries_insert_perm k v).map Prod.snd

end Ipsec.Assoc
