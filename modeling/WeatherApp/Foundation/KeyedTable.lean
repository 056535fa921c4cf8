import Mathlib.Data.List.Nodup
import Mathlib.Data.List.Sort
import Mathlib.Tactic

/-!
# Keyed tables

A relational table with a primary key. The rows form a list in an arbitrary storage order,
and the structure carries the proof that no two rows share a key, so that a table violating
its primary key cannot be built.

## Main definitions

* `KeyedTable key`: rows with pairwise distinct values of `key`.
* `insert`: fails on a key conflict. `insertAll` inserts a list of rows in order.
* `upsert`: inserts, or replaces the conflicting row when a guard on that row holds.
* `deleteWhere`: removes the rows that satisfy a predicate.
* `upsertMax`: inserts unless the row that holds the key has a greater measure.
* `select`, `selectFirst`: the rows that satisfy a predicate, in a given order.

## Main results

* `mem_insert`, `mem_upsert`, `mem_deleteWhere`: which rows a table holds after an operation.
* `insertAll_eq_some_iff`: a bulk insertion succeeds exactly when the new keys are fresh.
* `foldl_upsertMax_perm`: the order of guarded insertions does not matter.
* `perm_of_mem_iff`: a table is determined by its rows, up to storage order.
-/

universe u v

/-- Rows with a primary key, in an arbitrary storage order. -/
structure KeyedTable {ρ : Type u} {κ : Type v} (key : ρ → κ) where
  /-- The stored rows. -/
  rows : List ρ
  /-- No two rows share a key. -/
  nodup : (rows.map key).Nodup

namespace KeyedTable

variable {ρ : Type u} {κ : Type v} {key : ρ → κ}

instance : Membership ρ (KeyedTable key) := ⟨fun t r => r ∈ t.rows⟩

@[simp]
theorem mem_rows {t : KeyedTable key} {r : ρ} : r ∈ t.rows ↔ r ∈ t := Iff.rfl

@[ext]
theorem ext {t t' : KeyedTable key} (h : t.rows = t'.rows) : t = t' := by
  cases t
  cases t'
  simp_all

instance [DecidableEq ρ] : DecidableEq (KeyedTable key) := fun t t' =>
  decidable_of_iff (t.rows = t'.rows) ⟨ext, fun h => h ▸ rfl⟩

instance [DecidableEq ρ] (t : KeyedTable key) (r : ρ) : Decidable (r ∈ t) :=
  inferInstanceAs (Decidable (r ∈ t.rows))

/-- Two rows of a table with the same key are the same row. -/
theorem eq_of_key_eq {t : KeyedTable key} {r r' : ρ} (h : r ∈ t) (h' : r' ∈ t)
    (hkey : key r = key r') : r = r' :=
  List.inj_on_of_nodup_map t.nodup h h' hkey

theorem rows_nodup (t : KeyedTable key) : t.rows.Nodup := t.nodup.of_map

/-- Tables holding the same rows are equal up to storage order. -/
theorem perm_of_mem_iff {t t' : KeyedTable key} (h : ∀ r, r ∈ t ↔ r ∈ t') :
    t.rows.Perm t'.rows :=
  (List.perm_ext_iff_of_nodup t.rows_nodup t'.rows_nodup).2 h

/-- The table without rows. -/
def empty : KeyedTable key := ⟨[], List.nodup_nil⟩

@[simp]
theorem notMem_empty (r : ρ) : r ∉ (empty : KeyedTable key) := List.not_mem_nil

@[simp]
theorem rows_empty : (empty : KeyedTable key).rows = [] := rfl

/-- Delete the rows that satisfy `p`. -/
def deleteWhere (t : KeyedTable key) (p : ρ → Bool) : KeyedTable key :=
  ⟨t.rows.filter fun r => !p r, t.nodup.sublist (List.filter_sublist.map key)⟩

@[simp]
theorem mem_deleteWhere {t : KeyedTable key} {p : ρ → Bool} {r : ρ} :
    r ∈ t.deleteWhere p ↔ r ∈ t ∧ p r = false := by
  simp [deleteWhere, ← mem_rows]

@[simp]
theorem rows_deleteWhere (t : KeyedTable key) (p : ρ → Bool) :
    (t.deleteWhere p).rows = t.rows.filter fun r => !p r := rfl

section Select

variable (r : ρ → ρ → Prop) [DecidableRel r]

/-- `SELECT .. WHERE p ORDER BY r`. -/
def select (t : KeyedTable key) (p : ρ → Bool) : List ρ := (t.rows.filter p).insertionSort r

/-- `SELECT .. WHERE p ORDER BY r LIMIT 1`. -/
def selectFirst (t : KeyedTable key) (p : ρ → Bool) : Option ρ := (t.select r p).head?

variable {r} {t : KeyedTable key} {p : ρ → Bool} {x : ρ}

@[simp]
theorem mem_select : x ∈ t.select r p ↔ x ∈ t ∧ p x = true := by
  simp [select, ← mem_rows]

variable (r t) in
/-- Selecting every row reorders the rows. -/
theorem select_all_perm : (t.select r fun _ => true).Perm t.rows := by
  rw [select, List.filter_true]
  exact List.perm_insertionSort r _

omit [DecidableRel r] in
/-- Rows selected in the order of their keys are in strict order. -/
theorem pairwise_select_key [LinearOrder κ] {t : KeyedTable key} {p : ρ → Bool} :
    (t.select (fun a b => key a ≤ key b) p).Pairwise fun a b => key a < key b := by
  have : Std.Total fun a b : ρ => key a ≤ key b := ⟨fun a b => le_total (key a) (key b)⟩
  have : IsTrans ρ fun a b => key a ≤ key b := ⟨fun _ _ _ hab hbc => hab.trans hbc⟩
  have hsorted : (t.select (fun a b => key a ≤ key b) p).Pairwise fun a b => key a ≤ key b :=
    List.pairwise_insertionSort _ _
  have hnodup : ((t.select (fun a b => key a ≤ key b) p).map key).Nodup := by
    rw [select, ((List.perm_insertionSort _ _).map key).nodup_iff]
    exact t.nodup.sublist (List.filter_sublist.map key)
  exact (hsorted.and (List.pairwise_map.1 hnodup)).imp fun h => lt_of_le_of_ne h.1 h.2

theorem selectFirst_eq_none_iff : t.selectFirst r p = none ↔ ∀ y ∈ t, p y = false := by
  rw [selectFirst, List.head?_eq_none_iff, List.eq_nil_iff_forall_not_mem]
  simp

/-- A selected row that no other selected row precedes comes first. -/
theorem selectFirst_eq_some_of_least [Std.Total r] [IsTrans ρ r] (hx : x ∈ t) (hp : p x = true)
    (hleast : ∀ y ∈ t, p y = true → r y x → y = x) : t.selectFirst r p = some x := by
  have hsorted : (t.select r p).Pairwise r := List.pairwise_insertionSort r _
  have hmem : x ∈ t.select r p := mem_select.2 ⟨hx, hp⟩
  rw [selectFirst]
  cases hlist : t.select r p with
  | nil => simp [hlist] at hmem
  | cons y ys =>
    rw [hlist, List.pairwise_cons] at hsorted
    rw [List.head?_cons, Option.some.injEq]
    rcases List.mem_cons.1 (hlist ▸ hmem) with rfl | htail
    · rfl
    · have hy : y ∈ t.select r p := by
        rw [hlist]
        exact List.mem_cons_self
      obtain ⟨hyt, hyp⟩ := mem_select.1 hy
      exact hleast y hyt hyp (hsorted.1 x htail)

end Select

variable [DecidableEq κ]

/-- The row stored under a key. -/
def lookup (t : KeyedTable key) (k : κ) : Option ρ := t.rows.find? fun r => decide (key r = k)

theorem lookup_eq_some_iff {t : KeyedTable key} {k : κ} {r : ρ} :
    t.lookup k = some r ↔ r ∈ t ∧ key r = k := by
  constructor
  · intro h
    exact ⟨List.mem_of_find?_eq_some h, by simpa using List.find?_some h⟩
  · rintro ⟨hmem, rfl⟩
    cases hfind : t.lookup (key r) with
    | none => simpa using List.find?_eq_none.1 hfind r hmem
    | some r' =>
      have hkey : key r' = key r := by simpa using List.find?_some hfind
      rw [eq_of_key_eq (List.mem_of_find?_eq_some hfind) hmem hkey]

theorem lookup_eq_none_iff {t : KeyedTable key} {k : κ} :
    t.lookup k = none ↔ ∀ r ∈ t, key r ≠ k := by
  simp [lookup, List.find?_eq_none]

/-- The rows under the key of a stored row are that row. -/
theorem filter_key_eq {t : KeyedTable key} {r : ρ} (h : r ∈ t) :
    (t.rows.filter fun x => decide (key x = key r)) = [r] := by
  apply List.perm_singleton.1
  rw [List.perm_ext_iff_of_nodup (t.rows_nodup.filter _) (List.nodup_singleton r)]
  intro x
  rw [List.mem_filter, List.mem_singleton, decide_eq_true_iff]
  constructor
  · rintro ⟨hx, hkey⟩
    exact eq_of_key_eq hx h hkey
  · rintro rfl
    exact ⟨h, rfl⟩

omit [DecidableEq κ] in
/-- Appending a row with an untaken key keeps the primary key. -/
theorem nodup_append_of_fresh {t : KeyedTable key} {r : ρ} (h : key r ∉ t.rows.map key) :
    ((t.rows ++ [r]).map key).Nodup := by
  rw [List.map_append, List.map_singleton, List.nodup_append]
  refine ⟨t.nodup, List.nodup_singleton _, ?_⟩
  intro a ha b hb hab
  rw [List.mem_singleton] at hb
  exact h (by rwa [← hb, ← hab])

/-- Insert a row; `none` if its key is taken. -/
def insert (t : KeyedTable key) (r : ρ) : Option (KeyedTable key) :=
  if h : key r ∈ t.rows.map key then none
  else some ⟨t.rows ++ [r], nodup_append_of_fresh h⟩

theorem insert_eq_some_iff {t t' : KeyedTable key} {r : ρ} :
    t.insert r = some t' ↔ t'.rows = t.rows ++ [r] := by
  unfold insert
  split
  next h =>
    constructor
    · intro hnone
      cases hnone
    · intro hrows
      have hnodup := t'.nodup
      rw [hrows, List.map_append, List.map_singleton, List.nodup_append] at hnodup
      exact absurd rfl (hnodup.2.2 _ h _ (List.mem_singleton.2 rfl))
  next h =>
    rw [Option.some.injEq, KeyedTable.ext_iff]
    exact eq_comm

theorem mem_insert {t t' : KeyedTable key} {r x : ρ} (h : t.insert r = some t') :
    x ∈ t' ↔ x ∈ t ∨ x = r := by
  rw [← mem_rows, insert_eq_some_iff.1 h]
  simp

/-- Insert rows in order; `none` as soon as a key is taken. -/
def insertAll (t : KeyedTable key) : List ρ → Option (KeyedTable key)
  | [] => some t
  | r :: rs => (t.insert r).bind fun t' => t'.insertAll rs

/-- A bulk insertion appends the rows; it succeeds exactly when the result is a table. -/
theorem insertAll_eq_some_iff {rs : List ρ} {t t' : KeyedTable key} :
    t.insertAll rs = some t' ↔ t'.rows = t.rows ++ rs := by
  induction rs generalizing t with
  | nil =>
    rw [insertAll, Option.some.injEq, KeyedTable.ext_iff, List.append_nil]
    exact eq_comm
  | cons r rs ih =>
    rw [insertAll, Option.bind_eq_some_iff]
    constructor
    · rintro ⟨t₁, hinsert, hrest⟩
      rw [ih.1 hrest, insert_eq_some_iff.1 hinsert]
      simp
    · intro hrows
      have hprefix : ((t.rows ++ [r]).map key).Nodup := by
        have hnodup := t'.nodup
        rw [hrows, ← List.singleton_append, ← List.append_assoc, List.map_append] at hnodup
        exact (List.nodup_append.1 hnodup).1
      exact ⟨⟨t.rows ++ [r], hprefix⟩, insert_eq_some_iff.2 rfl, ih.2 (by simp [hrows])⟩

/-- A bulk insertion of rows with pairwise distinct, untaken keys succeeds. -/
theorem insertAll_isSome {t : KeyedTable key} {rs : List ρ} (hnodup : (rs.map key).Nodup)
    (hfresh : ∀ r ∈ rs, ∀ x ∈ t, key x ≠ key r) : (t.insertAll rs).isSome := by
  have hall : ((t.rows ++ rs).map key).Nodup := by
    rw [List.map_append, List.nodup_append]
    refine ⟨t.nodup, hnodup, ?_⟩
    intro a ha b hb
    obtain ⟨x, hx, rfl⟩ := List.mem_map.1 ha
    obtain ⟨r, hr, rfl⟩ := List.mem_map.1 hb
    exact hfresh r hr x hx
  exact Option.isSome_iff_exists.2 ⟨⟨_, hall⟩, insertAll_eq_some_iff.2 rfl⟩

/-- Insert `r`, or replace the row that holds its key when `replaces` accepts that row. -/
def upsert (t : KeyedTable key) (r : ρ) (replaces : ρ → Bool) : KeyedTable key :=
  if h : key r ∈ t.rows.map key then
    ⟨t.rows.map fun old => if key old = key r ∧ replaces old then r else old, by
      have hkeys : (t.rows.map fun old => if key old = key r ∧ replaces old then r else old).map
          key = t.rows.map key := by
        rw [List.map_map]
        refine List.map_congr_left fun old _ => ?_
        by_cases hold : key old = key r ∧ replaces old
        · simp [hold]
        · simp only [Function.comp_apply, if_neg hold]
      rw [hkeys]
      exact t.nodup⟩
  else
    ⟨t.rows ++ [r], nodup_append_of_fresh h⟩

/-- After an upsert of `r`, the rows with other keys stay, the row that held the key stays
when the guard refuses it, and `r` is stored otherwise. -/
theorem mem_upsert {t : KeyedTable key} {r x : ρ} {replaces : ρ → Bool} :
    x ∈ t.upsert r replaces ↔
      (x ∈ t ∧ (key x = key r → replaces x = false)) ∨
        (x = r ∧ ∀ old ∈ t, key old = key r → replaces old = true) := by
  rw [← mem_rows]
  unfold upsert
  split
  next h =>
    obtain ⟨held, hheld, hkey⟩ := List.mem_map.1 h
    -- `held` is the only row with the key of `r`
    have honly : ∀ old ∈ t, key old = key r → old = held := fun old hold heq =>
      eq_of_key_eq hold hheld (heq.trans hkey.symm)
    rw [List.mem_map]
    constructor
    · rintro ⟨old, hold, rfl⟩
      by_cases hcond : key old = key r ∧ replaces old
      · rw [if_pos hcond]
        refine Or.inr ⟨rfl, fun y hy heq => ?_⟩
        rw [honly y hy heq, ← honly old hold hcond.1]
        exact hcond.2
      · rw [if_neg hcond]
        exact Or.inl ⟨hold, fun heq => by simpa [heq] using hcond⟩
    · rintro (⟨hmem, hguard⟩ | ⟨rfl, hall⟩)
      · refine ⟨x, hmem, if_neg ?_⟩
        rintro ⟨heq, hrep⟩
        rw [hguard heq] at hrep
        cases hrep
      · exact ⟨held, hheld, if_pos ⟨hkey, hall held hheld hkey⟩⟩
  next h =>
    have hfresh : ∀ old ∈ t, key old ≠ key r := fun old hold heq =>
      h (heq ▸ List.mem_map_of_mem hold)
    simp only [List.mem_append, List.mem_singleton, mem_rows]
    constructor
    · rintro (hmem | rfl)
      · exact Or.inl ⟨hmem, fun heq => absurd heq (hfresh x hmem)⟩
      · exact Or.inr ⟨rfl, fun old hold heq => absurd heq (hfresh old hold)⟩
    · rintro (⟨hmem, -⟩ | ⟨rfl, -⟩)
      · exact Or.inl hmem
      · exact Or.inr rfl

/-- An unguarded upsert stores `r` and leaves the rows with other keys. -/
theorem mem_upsert_true {t : KeyedTable key} {r x : ρ} :
    x ∈ t.upsert r (fun _ => true) ↔ (x ∈ t ∧ key x ≠ key r) ∨ x = r := by
  simp [mem_upsert]

section UpsertMax

variable {β : Type*} [LinearOrder β] (f : ρ → β)

/-- Insert `r` unless the row that holds its key has a greater measure. -/
def upsertMax (t : KeyedTable key) (r : ρ) : KeyedTable key :=
  t.upsert r fun old => decide (f old ≤ f r)

variable {f}

theorem mem_upsertMax {t : KeyedTable key} {r x : ρ} :
    x ∈ t.upsertMax f r ↔
      (x ∈ t ∧ (key x = key r → f r < f x)) ∨
        (x = r ∧ ∀ old ∈ t, key old = key r → f old ≤ f r) := by
  simp only [upsertMax, mem_upsert, decide_eq_false_iff_not, decide_eq_true_eq, not_le]

variable (key f) in
/-- Every inserted row is stored, or a row with its key and a measure at least as great is. -/
theorem exists_ge_of_mem_foldl_upsertMax {rs : List ρ} {r : ρ} (hr : r ∈ rs) :
    ∃ y ∈ rs.foldl (upsertMax f) (empty : KeyedTable key), key y = key r ∧ f r ≤ f y := by
  induction rs using List.reverseRecOn with
  | nil => cases hr
  | append_singleton rs last ih =>
    rw [List.foldl_append, List.foldl_cons, List.foldl_nil]
    -- the last row is stored unless a greater row holds its key
    have hlast : ∃ y ∈ (rs.foldl (upsertMax f) (empty : KeyedTable key)).upsertMax f last,
        key y = key last ∧ f last ≤ f y := by
      by_cases hall : ∀ old ∈ rs.foldl (upsertMax f) (empty : KeyedTable key),
          key old = key last → f old ≤ f last
      · exact ⟨last, mem_upsertMax.2 (Or.inr ⟨rfl, hall⟩), rfl, le_rfl⟩
      · push Not at hall
        obtain ⟨old, hold, hkey, hlt⟩ := hall
        exact ⟨old, mem_upsertMax.2 (Or.inl ⟨hold, fun _ => hlt⟩), hkey, hlt.le⟩
    rcases List.mem_append.1 hr with hmem | hmem
    · obtain ⟨y, hy, hkey, hle⟩ := ih hmem
      by_cases hstays : key y = key last → f last < f y
      · exact ⟨y, mem_upsertMax.2 (Or.inl ⟨hy, hstays⟩), hkey, hle⟩
      · rw [Classical.not_imp, not_lt] at hstays
        obtain ⟨z, hz, hzkey, hzle⟩ := hlast
        exact ⟨z, hz, hzkey.trans (hstays.1.symm.trans hkey), hle.trans (hstays.2.trans hzle)⟩
    · rw [List.mem_singleton.1 hmem]
      exact hlast

/-- Only inserted rows are stored. -/
theorem mem_of_mem_foldl_upsertMax {rs : List ρ} {x : ρ}
    (hx : x ∈ rs.foldl (upsertMax f) (empty : KeyedTable key)) : x ∈ rs := by
  induction rs using List.reverseRecOn with
  | nil => exact absurd hx (notMem_empty x)
  | append_singleton rs last ih =>
    rw [List.foldl_append, List.foldl_cons, List.foldl_nil, mem_upsertMax] at hx
    rw [List.mem_append, List.mem_singleton]
    rcases hx with ⟨hmem, -⟩ | ⟨rfl, -⟩
    · exact Or.inl (ih hmem)
    · exact Or.inr rfl

/-- Of rows with pairwise distinct measures, the table holds for each key the greatest. -/
theorem mem_foldl_upsertMax_iff {rs : List ρ} (hdistinct : (rs.map f).Nodup) {x : ρ} :
    x ∈ rs.foldl (upsertMax f) (empty : KeyedTable key) ↔
      x ∈ rs ∧ ∀ r ∈ rs, key r = key x → f r ≤ f x := by
  constructor
  · intro hx
    refine ⟨mem_of_mem_foldl_upsertMax hx, fun r hr hkey => ?_⟩
    obtain ⟨y, hy, hykey, hle⟩ := exists_ge_of_mem_foldl_upsertMax key f hr
    rwa [eq_of_key_eq hy hx (hykey.trans hkey)] at hle
  · rintro ⟨hx, hmax⟩
    obtain ⟨y, hy, hykey, hle⟩ := exists_ge_of_mem_foldl_upsertMax key f hx
    have hyx := hmax y (mem_of_mem_foldl_upsertMax hy) hykey
    have hsame : y = x := List.inj_on_of_nodup_map hdistinct (mem_of_mem_foldl_upsertMax hy) hx
      (le_antisymm hyx hle)
    rwa [hsame] at hy

/-- The order in which rows with pairwise distinct measures are inserted does not matter. -/
theorem foldl_upsertMax_perm {rs rs' : List ρ} (hperm : rs.Perm rs')
    (hdistinct : (rs.map f).Nodup) :
    (rs.foldl (upsertMax f) (empty : KeyedTable key)).rows.Perm
      (rs'.foldl (upsertMax f) (empty : KeyedTable key)).rows := by
  apply perm_of_mem_iff
  intro x
  rw [mem_foldl_upsertMax_iff hdistinct,
    mem_foldl_upsertMax_iff ((hperm.map f).nodup_iff.1 hdistinct)]
  simp only [hperm.mem_iff]

end UpsertMax

end KeyedTable
