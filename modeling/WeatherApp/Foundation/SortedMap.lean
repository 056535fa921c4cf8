import Mathlib.Order.Basic
import Mathlib.Tactic

/-!
# Sorted maps

A finite map with ordered keys, whose entries come in the order of their keys. The structure
carries the proof that they do.

## Main definitions

* `SortedMap`: the entries, in strictly increasing order of their keys.
* `upsert`: change the value of a key, or add the key.
* `values`: the values in the order of their keys.
* `Extends`: a map that starts with some further entries.

## Main results

* `entries_upsert_of_lt`: a key above all others is added at the end.
* `Extends.upsert`: a change above some entries leaves them at the start.
-/

universe u v

/-- A map with ordered keys. -/
structure SortedMap (κ : Type u) (α : Type v) [LinearOrder κ] where
  /-- The keys and their values. -/
  entries : List (κ × α)
  /-- The keys increase. -/
  sorted : entries.Pairwise fun a b => a.1 < b.1

namespace SortedMap

variable {κ : Type u} {α : Type v} [LinearOrder κ]

@[ext]
theorem ext {m m' : SortedMap κ α} (h : m.entries = m'.entries) : m = m' := by
  cases m
  cases m'
  simp_all

/-- The map without entries. -/
def empty : SortedMap κ α := ⟨[], .nil⟩

/-- The values in the order of their keys. -/
def values (m : SortedMap κ α) : List α := m.entries.map Prod.snd

/-- Change the value of a key in a list of entries, or add the key in its place. -/
def upsertEntries (k : κ) (f : Option α → α) : List (κ × α) → List (κ × α)
  | [] => [(k, f none)]
  | (k', a) :: rest =>
    if k < k' then (k, f none) :: (k', a) :: rest
    else if k = k' then (k', f (some a)) :: rest
    else (k', a) :: upsertEntries k f rest

theorem key_of_mem_upsertEntries {k : κ} {f : Option α → α} {l : List (κ × α)} {entry : κ × α}
    (h : entry ∈ upsertEntries k f l) : entry.1 = k ∨ entry.1 ∈ l.map Prod.fst := by
  induction l with
  | nil =>
    rw [upsertEntries, List.mem_singleton] at h
    exact .inl (congrArg Prod.fst h)
  | cons first rest ih =>
    obtain ⟨k', a⟩ := first
    rw [List.map_cons, List.mem_cons]
    unfold upsertEntries at h
    split_ifs at h with hlt heq
    · rcases List.mem_cons.1 h with rfl | hmem
      · exact .inl rfl
      · exact .inr (List.mem_cons.1 (List.mem_map_of_mem (f := Prod.fst) hmem))
    · rcases List.mem_cons.1 h with rfl | hmem
      · exact .inr (.inl rfl)
      · exact .inr (.inr (List.mem_map_of_mem hmem))
    · rcases List.mem_cons.1 h with rfl | hmem
      · exact .inr (.inl rfl)
      · exact (ih hmem).imp_right .inr

theorem sorted_upsertEntries {k : κ} {f : Option α → α} {l : List (κ × α)}
    (h : l.Pairwise fun a b => a.1 < b.1) :
    (upsertEntries k f l).Pairwise fun a b => a.1 < b.1 := by
  induction l with
  | nil => exact List.pairwise_singleton _ _
  | cons first rest ih =>
    obtain ⟨k', a⟩ := first
    have hrest := List.pairwise_cons.1 h
    unfold upsertEntries
    split_ifs with hlt heq
    · refine List.pairwise_cons.2 ⟨fun entry hentry => ?_, h⟩
      rcases List.mem_cons.1 hentry with rfl | hmem
      · exact hlt
      · exact hlt.trans (hrest.1 entry hmem)
    · exact List.pairwise_cons.2 hrest
    · refine List.pairwise_cons.2 ⟨fun entry hentry => ?_, ih hrest.2⟩
      rcases key_of_mem_upsertEntries hentry with hkey | hmem
      · exact hkey ▸ lt_of_le_of_ne (not_lt.1 hlt) (Ne.symm heq)
      · obtain ⟨other, hother, hkey⟩ := List.mem_map.1 hmem
        exact hkey ▸ hrest.1 other hother

/-- Change the value of a key, or add the key. -/
def upsert (m : SortedMap κ α) (k : κ) (f : Option α → α) : SortedMap κ α :=
  ⟨upsertEntries k f m.entries, sorted_upsertEntries m.sorted⟩

/-- Set the value of a key. -/
def insert (m : SortedMap κ α) (k : κ) (a : α) : SortedMap κ α := m.upsert k fun _ => a

/-- The entries after a change of one key: the others stay, and its value changes or is added. -/
theorem mem_upsertEntries {k : κ} {f : Option α → α} {l : List (κ × α)}
    (h : l.Pairwise fun a b => a.1 < b.1) {entry : κ × α} :
    entry ∈ upsertEntries k f l ↔ (entry.1 ≠ k ∧ entry ∈ l) ∨
      (entry = (k, f none) ∧ k ∉ l.map Prod.fst) ∨ ∃ a, (k, a) ∈ l ∧ entry = (k, f (some a)) := by
  induction l with
  | nil => simp [upsertEntries]
  | cons first rest ih =>
    obtain ⟨k', a⟩ := first
    have hrest := List.pairwise_cons.1 h
    have hfresh : ∀ {j}, j ≤ k' → ∀ b, (j, b) ∉ rest := fun hj b hmem =>
      absurd (hrest.1 _ hmem) (not_lt.2 hj)
    unfold upsertEntries
    split_ifs with hlt heq
    · -- the key is below all others
      have hnone : ∀ b, (k, b) ∉ (k', a) :: rest := by
        intro b hmem
        rcases List.mem_cons.1 hmem with heq | hmem
        · exact hlt.ne (congrArg Prod.fst heq)
        · exact hfresh hlt.le b hmem
      have hkeys : k ∉ ((k', a) :: rest).map Prod.fst := by
        intro hmem
        obtain ⟨⟨_, b⟩, hentry, rfl⟩ := List.mem_map.1 hmem
        exact hnone b hentry
      have hother : entry ∈ (k', a) :: rest → entry.1 ≠ k := by
        rintro hmem rfl
        exact hnone entry.2 hmem
      rw [List.mem_cons (a := entry) (b := (k, f none))]
      constructor
      · rintro (rfl | hmem)
        · exact .inr (.inl ⟨rfl, hkeys⟩)
        · exact .inl ⟨hother hmem, hmem⟩
      · rintro (⟨-, hmem⟩ | ⟨rfl, -⟩ | ⟨b, hmem, -⟩)
        · exact .inr hmem
        · exact .inl rfl
        · exact absurd hmem (hnone b)
    · subst heq
      have hother : entry ∈ rest → entry.1 ≠ k := by
        rintro hmem rfl
        exact hfresh le_rfl entry.2 hmem
      rw [List.mem_cons]
      constructor
      · rintro (rfl | hmem)
        · exact .inr (.inr ⟨a, List.mem_cons_self, rfl⟩)
        · exact .inl ⟨hother hmem, List.mem_cons_of_mem _ hmem⟩
      · rintro (⟨hne, hmem⟩ | ⟨-, hkeys⟩ | ⟨b, hmem, rfl⟩)
        · rcases List.mem_cons.1 hmem with rfl | hmem
          · exact absurd rfl hne
          · exact .inr hmem
        · exact absurd List.mem_cons_self hkeys
        · rcases List.mem_cons.1 hmem with heq | hmem
          · rw [(Prod.mk.inj heq).2]
            exact .inl rfl
          · exact absurd hmem (hfresh le_rfl b)
    · rw [List.mem_cons, ih hrest.2, List.map_cons, List.mem_cons, List.mem_cons]
      constructor
      · rintro (rfl | ⟨hne, hmem⟩ | ⟨rfl, hkeys⟩ | ⟨b, hmem, rfl⟩)
        · exact .inl ⟨Ne.symm heq, .inl rfl⟩
        · exact .inl ⟨hne, .inr hmem⟩
        · exact .inr (.inl ⟨rfl, not_or.2 ⟨heq, hkeys⟩⟩)
        · exact .inr (.inr ⟨b, List.mem_cons_of_mem _ hmem, rfl⟩)
      · rintro (⟨hne, rfl | hmem⟩ | ⟨rfl, hkeys⟩ | ⟨b, hmem, rfl⟩)
        · exact .inl rfl
        · exact .inr (.inl ⟨hne, hmem⟩)
        · exact .inr (.inr (.inl ⟨rfl, (not_or.1 hkeys).2⟩))
        · rcases List.mem_cons.1 hmem with hfirst | hmem
          · exact absurd (Prod.mk.inj hfirst).1 heq
          · exact .inr (.inr (.inr ⟨b, hmem, rfl⟩))

/-- Set the value of a key that has none. -/
def insertNew (m : SortedMap κ α) (k : κ) (a : α) : SortedMap κ α := m.upsert k fun old => old.getD a

/-- The entries after a new value. -/
theorem mem_entries_insert {m : SortedMap κ α} {k : κ} {a : α} {entry : κ × α} :
    entry ∈ (m.insert k a).entries ↔ (entry.1 ≠ k ∧ entry ∈ m.entries) ∨ entry = (k, a) := by
  refine (mem_upsertEntries m.sorted).trans (or_congr_right ⟨?_, fun h => ?_⟩)
  · rintro (⟨h, -⟩ | ⟨_, -, h⟩) <;> exact h
  · by_cases hk : k ∈ m.entries.map Prod.fst
    · obtain ⟨⟨_, b⟩, hmem, rfl⟩ := List.mem_map.1 hk
      exact .inr ⟨b, hmem, h⟩
    · exact .inl ⟨h, hk⟩

/-- The entries after a value for a new key: an old value stays. -/
theorem mem_entries_insertNew {m : SortedMap κ α} {k : κ} {a : α} {entry : κ × α} :
    entry ∈ (m.insertNew k a).entries ↔
      entry ∈ m.entries ∨ (entry = (k, a) ∧ k ∉ m.entries.map Prod.fst) := by
  rw [insertNew, upsert, mem_upsertEntries m.sorted]
  constructor
  · rintro (⟨-, hmem⟩ | hnew | ⟨b, hmem, rfl⟩)
    · exact .inl hmem
    · exact .inr hnew
    · exact .inl hmem
  · rintro (hmem | hnew)
    · by_cases hk : entry.1 = k
      · subst hk
        exact .inr (.inr ⟨entry.2, hmem, rfl⟩)
      · exact .inl ⟨hk, hmem⟩
    · exact .inr (.inl hnew)

/-- Entries below the key stay at the start. -/
theorem upsertEntries_append {k : κ} {f : Option α → α} {l l' : List (κ × α)}
    (h : ∀ entry ∈ l, entry.1 < k) :
    upsertEntries k f (l ++ l') = l ++ upsertEntries k f l' := by
  induction l with
  | nil => rfl
  | cons first rest ih =>
    obtain ⟨k', a⟩ := first
    have hfirst : k' < k := h _ List.mem_cons_self
    rw [List.cons_append, upsertEntries, if_neg hfirst.not_gt, if_neg hfirst.ne',
      ih fun entry hentry => h entry (List.mem_cons_of_mem _ hentry), List.cons_append]

/-- A key above all others is added at the end. -/
theorem entries_insert_of_lt {m : SortedMap κ α} {k : κ} {a : α}
    (h : ∀ entry ∈ m.entries, entry.1 < k) :
    (m.insert k a).entries = m.entries ++ [(k, a)] := by
  show upsertEntries k _ m.entries = _
  have happend : upsertEntries k (fun _ => a) (m.entries ++ []) = m.entries ++ [(k, a)] :=
    upsertEntries_append h
  rwa [List.append_nil] at happend

/-- The map of some entries, where the last one of a key counts. -/
def collect (l : List (κ × α)) : SortedMap κ α :=
  l.foldl (fun m entry => m.insert entry.1 entry.2) empty

/-- Entries above those of a map are added at its end. -/
theorem entries_foldl_insert {l : List (κ × α)} (h : l.Pairwise fun a b => a.1 < b.1)
    {m : SortedMap κ α} (habove : ∀ entry ∈ m.entries, ∀ entry' ∈ l, entry.1 < entry'.1) :
    (l.foldl (fun m entry => m.insert entry.1 entry.2) m).entries = m.entries ++ l := by
  induction l generalizing m with
  | nil => simp
  | cons first rest ih =>
    have hrest := List.pairwise_cons.1 h
    have hfirst : (m.insert first.1 first.2).entries = m.entries ++ [first] :=
      entries_insert_of_lt fun entry hentry => habove entry hentry first List.mem_cons_self
    rw [List.foldl_cons, ih hrest.2, hfirst, List.append_assoc, List.singleton_append]
    intro entry hentry entry' hentry'
    rw [hfirst] at hentry
    rcases List.mem_append.1 hentry with hentry | hentry
    · exact habove entry hentry entry' (List.mem_cons_of_mem _ hentry')
    · rw [List.mem_singleton.1 hentry]
      exact hrest.1 entry' hentry'

/-- Collecting the entries of a map gives the map. -/
theorem collect_entries (m : SortedMap κ α) : collect m.entries = m := by
  apply ext
  rw [collect, entries_foldl_insert m.sorted (fun _ hentry => absurd hentry List.not_mem_nil)]
  rfl

/-- A map starts with some entries, and goes on as another one. -/
def Extends (entries : List (κ × α)) (m m' : SortedMap κ α) : Prop :=
  m'.entries = entries ++ m.entries

/-- A change above the first entries leaves them. -/
theorem Extends.upsert {entries : List (κ × α)} {m m' : SortedMap κ α} {k : κ}
    (h : Extends entries m m') (hk : ∀ entry ∈ entries, entry.1 < k) (f : Option α → α) :
    Extends entries (m.upsert k f) (m'.upsert k f) := by
  show upsertEntries k f m'.entries = entries ++ upsertEntries k f m.entries
  rw [h, upsertEntries_append hk]

theorem Extends.values {entries : List (κ × α)} {m m' : SortedMap κ α} (h : Extends entries m m') :
    m'.values = entries.map Prod.snd ++ m.values := by
  rw [SortedMap.values, h, List.map_append]
  rfl

end SortedMap
