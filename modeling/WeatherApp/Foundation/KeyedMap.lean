import WeatherApp.Foundation.KeyedTable

/-!
# Finite maps

A finite map is a table of entries whose key is their first component: the hash map of a program,
whose entries can be counted and iterated over.

## Main definitions

* `KeyedMap κ α`: the maps from `κ` to `α`.
* `get`, `set`, `remove`, `retain`, `values`: the operations on them.

## Main results

* `get_set`, `get_remove`, `get_retain`: what an operation does to each key.
* `get_foldl_visit`: the rule for a loop that rewrites the values of the keys it visits.
-/

universe u v

/-- A finite map with keys in `κ` and values in `α`. -/
abbrev KeyedMap (κ : Type u) (α : Type v) := KeyedTable (Prod.fst : κ × α → κ)

namespace KeyedMap

variable {κ : Type u} {α : Type v} [DecidableEq κ]

/-- The value stored under a key. -/
def get (m : KeyedMap κ α) (k : κ) : Option α := (m.lookup k).map Prod.snd

/-- Store a value under a key, replacing the one that is there. -/
def set (m : KeyedMap κ α) (k : κ) (a : α) : KeyedMap κ α := m.upsert (k, a) fun _ => true

/-- Drop the entry of a key. -/
def remove (m : KeyedMap κ α) (k : κ) : KeyedMap κ α := m.deleteWhere fun entry => entry.1 = k

/-- Keep the entries whose key satisfies `p`. -/
def retain (m : KeyedMap κ α) (p : κ → Bool) : KeyedMap κ α :=
  m.deleteWhere fun entry => !p entry.1

/-- The stored values. -/
def values (m : KeyedMap κ α) : List α := m.rows.map Prod.snd

theorem get_eq_some_iff {m : KeyedMap κ α} {k : κ} {a : α} :
    m.get k = some a ↔ (k, a) ∈ m := by
  rw [get, Option.map_eq_some_iff]
  constructor
  · rintro ⟨entry, hentry, rfl⟩
    obtain ⟨hmem, rfl⟩ := KeyedTable.lookup_eq_some_iff.1 hentry
    exact hmem
  · intro hmem
    exact ⟨(k, a), KeyedTable.lookup_eq_some_iff.2 ⟨hmem, rfl⟩, rfl⟩

@[simp]
theorem get_empty (k : κ) : get (.empty : KeyedMap κ α) k = none := rfl

theorem get_set (m : KeyedMap κ α) (k k' : κ) (a : α) :
    (m.set k a).get k' = if k' = k then some a else m.get k' := by
  ext b
  rw [get_eq_some_iff, set, KeyedTable.mem_upsert_true, Prod.mk.injEq]
  split_ifs with h
  · simp [h, eq_comm]
  · simp [h, get_eq_some_iff]

@[simp]
theorem get_set_self (m : KeyedMap κ α) (k : κ) (a : α) : (m.set k a).get k = some a := by
  rw [get_set, if_pos rfl]

theorem get_set_of_ne {m : KeyedMap κ α} {k k' : κ} {a : α} (h : k' ≠ k) :
    (m.set k a).get k' = m.get k' := by
  rw [get_set, if_neg h]

theorem get_remove (m : KeyedMap κ α) (k k' : κ) :
    (m.remove k).get k' = if k' = k then none else m.get k' := by
  ext b
  rw [get_eq_some_iff, remove, KeyedTable.mem_deleteWhere]
  split_ifs with h
  · simp [h]
  · simp [h, get_eq_some_iff]

/-- Removing a key that is not there changes nothing. -/
theorem remove_of_get_none {m : KeyedMap κ α} {k : κ} (h : m.get k = none) : m.remove k = m := by
  refine KeyedTable.ext (List.filter_eq_self.2 fun entry hentry => ?_)
  have hne : entry.1 ≠ k := by
    rintro rfl
    rw [get_eq_some_iff.2 hentry] at h
    cases h
  simp [hne]

theorem get_of_get_remove {m : KeyedMap κ α} {k k' : κ} {a : α}
    (h : (m.remove k).get k' = some a) : m.get k' = some a := by
  rw [get_remove, Option.ite_none_left_eq_some] at h
  exact h.2

theorem isSome_get_set {m : KeyedMap κ α} {k k' : κ} {a : α} :
    ((m.set k a).get k').isSome ↔ k' = k ∨ (m.get k').isSome := by
  rw [get_set]
  split_ifs with h <;> simp [h]

theorem isSome_get_remove {m : KeyedMap κ α} {k k' : κ} :
    ((m.remove k).get k').isSome ↔ k' ≠ k ∧ (m.get k').isSome := by
  rw [get_remove]
  split_ifs with h <;> simp [h]

theorem get_retain (m : KeyedMap κ α) (p : κ → Bool) (k : κ) :
    (m.retain p).get k = if p k then m.get k else none := by
  ext b
  rw [get_eq_some_iff, retain, KeyedTable.mem_deleteWhere]
  split_ifs with h
  · simp [h, get_eq_some_iff]
  · simp [h]

theorem mem_values {m : KeyedMap κ α} {a : α} : a ∈ m.values ↔ ∃ k, m.get k = some a := by
  rw [values, List.mem_map]
  constructor
  · rintro ⟨entry, hentry, rfl⟩
    exact ⟨entry.1, get_eq_some_iff.2 hentry⟩
  · rintro ⟨k, hk⟩
    exact ⟨(k, a), get_eq_some_iff.1 hk, rfl⟩

/-! ### Counting -/

/-- The sum of a quantity over the stored values. -/
def total (f : α → ℕ) (m : KeyedMap κ α) : ℕ := (m.values.map f).sum

/-- The number of entries. -/
def size (m : KeyedMap κ α) : ℕ := m.rows.length

omit [DecidableEq κ] in
theorem size_eq_total (m : KeyedMap κ α) : m.size = m.total fun _ => 1 := by
  simp [size, total, values, Function.comp_def]

omit [DecidableEq κ] in
@[simp]
theorem total_empty (f : α → ℕ) : total f (.empty : KeyedMap κ α) = 0 := rfl

/-- A new key adds its value. -/
theorem total_set_of_get_none (f : α → ℕ) {m : KeyedMap κ α} {k : κ} (h : m.get k = none)
    (a : α) : (m.set k a).total f = m.total f + f a := by
  have hfresh : k ∉ m.rows.map Prod.fst := by
    intro hmem
    obtain ⟨entry, hentry, rfl⟩ := List.mem_map.1 hmem
    rw [get_eq_some_iff.2 hentry] at h
    cases h
  have hrows : (m.set k a).rows = m.rows ++ [(k, a)] := by
    rw [set, KeyedTable.upsert, dif_neg hfresh]
  simp [total, values, hrows]

/-- A removed key takes its value away. -/
theorem total_remove (f : α → ℕ) {m : KeyedMap κ α} {k : κ} {a : α} (h : m.get k = some a) :
    (m.remove k).total f + f a = m.total f := by
  have hentry : (m.rows.filter fun entry => decide (entry.1 = k)) = [(k, a)] :=
    KeyedTable.filter_key_eq (get_eq_some_iff.1 h)
  have hperm := (List.filter_append_perm (fun entry => decide (entry.1 = k)) m.rows).map
    fun entry => f entry.2
  have hsum := hperm.sum_eq
  rw [hentry, List.map_append, List.sum_append, List.map_singleton, List.sum_singleton] at hsum
  rw [total, total, values, values, List.map_map, List.map_map, add_comm]
  exact hsum

/-- A replaced value gives way to the new one. -/
theorem total_set_of_get_some (f : α → ℕ) {m : KeyedMap κ α} {k : κ} {a : α}
    (h : m.get k = some a) (b : α) : (m.set k b).total f + f a = m.total f + f b := by
  have hperm : (m.set k b).rows.Perm ((m.remove k).set k b).rows := by
    refine KeyedTable.perm_of_mem_iff fun entry => ?_
    rw [← Prod.mk.eta (p := entry), ← get_eq_some_iff, ← get_eq_some_iff, get_set, get_set,
      get_remove]
    split_ifs <;> rfl
  have htotal : (m.set k b).total f = ((m.remove k).set k b).total f :=
    ((hperm.map Prod.snd).map f).sum_eq
  rw [htotal, total_set_of_get_none f (by rw [get_remove, if_pos rfl]) b, ← total_remove f h]
  omega

theorem size_set_of_get_none {m : KeyedMap κ α} {k : κ} (h : m.get k = none) (a : α) :
    (m.set k a).size = m.size + 1 := by
  rw [size_eq_total, size_eq_total, total_set_of_get_none _ h]

theorem size_set_of_get_some {m : KeyedMap κ α} {k : κ} {a : α} (h : m.get k = some a) (b : α) :
    (m.set k b).size = m.size := by
  have htotal := total_set_of_get_some (fun _ => 1) h b
  rw [size_eq_total, size_eq_total]
  omega

theorem size_remove {m : KeyedMap κ α} {k : κ} {a : α} (h : m.get k = some a) :
    (m.remove k).size + 1 = m.size := by
  rw [size_eq_total, size_eq_total]
  exact total_remove (fun _ => 1) h

theorem size_remove_le (m : KeyedMap κ α) (k : κ) : (m.remove k).size ≤ m.size :=
  List.length_filter_le _ _

/-- One stored value is at most the sum. -/
theorem le_total (f : α → ℕ) {m : KeyedMap κ α} {k : κ} {a : α} (h : m.get k = some a) :
    f a ≤ m.total f := by
  rw [← total_remove f h]
  exact Nat.le_add_left _ _

/-- The sum of a quantity that is zero for each stored value. -/
theorem total_eq_zero {f : α → ℕ} {m : KeyedMap κ α} (h : ∀ k a, m.get k = some a → f a = 0) :
    m.total f = 0 := by
  refine List.sum_eq_zero fun n hn => ?_
  obtain ⟨a, ha, rfl⟩ := List.mem_map.1 hn
  obtain ⟨k, hk⟩ := mem_values.1 ha
  exact h k a hk

omit [DecidableEq κ] in
/-- The values with a property, counted. -/
theorem total_ite_eq_countP (p : α → Prop) [DecidablePred p] (m : KeyedMap κ α) :
    (m.total fun a => if p a then 1 else 0) = m.values.countP fun a => p a := by
  rw [total]
  induction m.values with
  | nil => rfl
  | cons a as ih =>
    rw [List.map_cons, List.sum_cons, ih, List.countP_cons, add_comm]
    simp

omit [DecidableEq κ] in
theorem eq_empty_of_rows_eq_nil {m : KeyedMap κ α} (h : m.rows = []) : m = .empty :=
  KeyedTable.ext h

section Loop

variable {ι : Type u} (key : ι → κ) (f : ι → Option α → Option α)

/-- One iteration of a loop over keys: write the value that `f` gives for the one stored under
the key of the item, if it gives one. -/
def visit (m : KeyedMap κ α) (i : ι) : KeyedMap κ α :=
  match f i (m.get (key i)) with
  | some a => m.set (key i) a
  | none => m

variable {key f}

/-- A loop changes the value of each key only in steps that `f` makes: what relates the values
before and after each of them relates those before and after the loop. -/
theorem get_foldl_visit {R : κ → Option α → Option α → Prop} (hrefl : ∀ k a, R k a a)
    (htrans : ∀ k a b c, R k a b → R k b c → R k a c) (is : List ι)
    (hstep : ∀ i ∈ is, ∀ a b, f i a = some b → R (key i) a (some b)) (m : KeyedMap κ α) (k : κ) :
    R k (m.get k) ((is.foldl (visit key f) m).get k) := by
  induction is generalizing m with
  | nil => exact hrefl k _
  | cons i is ih =>
    rw [List.foldl_cons]
    refine htrans k _ _ _ ?_ (ih (fun j hj => hstep j (List.mem_cons_of_mem _ hj)) _)
    rw [visit]
    split
    next a ha =>
      rw [get_set]
      split_ifs with hk
      · subst hk
        exact hstep i List.mem_cons_self _ a ha
      · exact hrefl k _
    next => exact hrefl k _

/-- A loop leaves the keys that it does not visit. -/
theorem get_foldl_visit_of_not_mem {is : List ι} {k : κ} (hk : k ∉ is.map key)
    (m : KeyedMap κ α) : (is.foldl (visit key f) m).get k = m.get k :=
  get_foldl_visit (R := fun k a b => k ∉ is.map key → b = a) (fun _ _ _ => rfl)
    (fun _ _ _ _ hab hbc hk => (hbc hk).trans (hab hk)) is
    (fun _ hi _ _ _ hk => absurd (List.mem_map_of_mem hi) hk) m k hk

/-- A loop that visits each key once writes what the visit of the key gives. -/
theorem get_foldl_visit_of_nodup {is : List ι} (hnodup : (is.map key).Nodup) {i : ι} (hi : i ∈ is)
    (m : KeyedMap κ α) :
    (is.foldl (visit key f) m).get (key i) = (f i (m.get (key i))).or (m.get (key i)) := by
  obtain ⟨before, after, rfl⟩ := List.append_of_mem hi
  rw [List.map_append, List.map_cons] at hnodup
  have hfresh := (List.nodup_cons.1 (List.nodup_middle.1 hnodup)).1
  rw [List.mem_append, not_or] at hfresh
  obtain ⟨hbefore, hafter⟩ := hfresh
  rw [List.foldl_append, List.foldl_cons, get_foldl_visit_of_not_mem hafter]
  rw [visit, get_foldl_visit_of_not_mem hbefore]
  cases f i (m.get (key i)) with
  | none => exact get_foldl_visit_of_not_mem hbefore m
  | some a => exact get_set_self _ _ _

/-- A loop whose visits leave a value under their keys leaves one under each key it visits. -/
theorem isSome_get_foldl_visit {is : List ι}
    (hwrites : ∀ i ∈ is, (f i none).isSome) {i : ι} (hi : i ∈ is) (m : KeyedMap κ α) :
    ((is.foldl (visit key f) m).get (key i)).isSome := by
  obtain ⟨before, after, rfl⟩ := List.append_of_mem hi
  rw [List.foldl_append, List.foldl_cons]
  generalize before.foldl (visit key f) m = m'
  have hvisited : ((visit key f m' i).get (key i)).isSome := by
    rw [visit]
    split
    next => rw [get_set_self, Option.isSome_some]
    next hnone =>
      cases hget : m'.get (key i) with
      | some a => rfl
      | none =>
        have hsome := hwrites i hi
        rw [hget] at hnone
        rw [hnone] at hsome
        cases hsome
  exact get_foldl_visit (R := fun _ a b => a.isSome → b.isSome) (fun _ _ h => h)
    (fun _ _ _ _ hab hbc h => hbc (hab h)) after (fun _ _ _ _ _ _ => rfl) _ _ hvisited

end Loop

end KeyedMap
