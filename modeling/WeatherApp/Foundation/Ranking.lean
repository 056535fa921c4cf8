import Mathlib.Data.List.Sort
import Mathlib.Data.Prod.Lex
import Mathlib.Order.Compare
import Mathlib.Tactic

/-!
# Ranked lists

Sorting by a comparison, and keeping the first entry of each key. When the comparison is the
order of a rank, a kept entry has the least rank among the entries with its key.

## Main results

* `pairwise_sortBy`: a list sorted by a comparison is ordered by the rank it compares.
* `sortBy_eq_of_perm`: sorting does not depend on the order of entries of different ranks.
* `le_of_mem_retainFirst`: a kept entry comes first among the entries with its key.
* `retainFirst_append_retainFirst`: a list may be thinned out piece by piece.
* `compare_then_ne_gt`: how a chain of comparisons orders.
-/

universe u v w

namespace Ranking

variable {α : Type u} {β : Type v} {κ : Type w}

/-- Sort by a comparison; entries that compare equal keep their order. -/
def sortBy (cmp : α → α → Ordering) (l : List α) : List α :=
  l.insertionSort fun a b => cmp a b ≠ .gt

@[simp]
theorem mem_sortBy {cmp : α → α → Ordering} {l : List α} {a : α} :
    a ∈ sortBy cmp l ↔ a ∈ l := List.mem_insertionSort _

/-- A list sorted by a comparison is ordered by the rank it compares. -/
theorem pairwise_sortBy [LinearOrder β] {cmp : α → α → Ordering} {rank : α → β}
    (h : ∀ a b, cmp a b ≠ .gt ↔ rank a ≤ rank b) (l : List α) :
    (sortBy cmp l).Pairwise fun a b => rank a ≤ rank b := by
  have : Std.Total fun a b : α => cmp a b ≠ .gt :=
    ⟨fun a b => by rw [h, h]; exact le_total _ _⟩
  have : IsTrans α fun a b => cmp a b ≠ .gt :=
    ⟨fun a b c hab hbc => by rw [h] at hab hbc ⊢; exact hab.trans hbc⟩
  exact (List.pairwise_insertionSort _ l).imp fun hab => (h _ _).1 hab

/-- The head of a sorted list has the least rank. -/
theorem head_sortBy_le [LinearOrder β] {cmp : α → α → Ordering} {rank : α → β}
    (h : ∀ a b, cmp a b ≠ .gt ↔ rank a ≤ rank b) {l : List α} {a b : α}
    (hhead : (sortBy cmp l).head? = some a) (hb : b ∈ l) : a ∈ l ∧ rank a ≤ rank b := by
  have hsorted := pairwise_sortBy h l
  have hmem : b ∈ sortBy cmp l := mem_sortBy.2 hb
  cases hlist : sortBy cmp l with
  | nil => simp [hlist] at hhead
  | cons c rest =>
    rw [hlist, List.head?_cons, Option.some.injEq] at hhead
    subst hhead
    have hc : c ∈ sortBy cmp l := by simp [hlist]
    rw [hlist, List.pairwise_cons] at hsorted
    rw [hlist] at hmem
    refine ⟨mem_sortBy.1 hc, ?_⟩
    rcases List.mem_cons.1 hmem with rfl | hrest
    · exact le_rfl
    · exact hsorted.1 b hrest

/-- When the rank tells the entries apart, sorting does not depend on their order. -/
theorem sortBy_eq_of_perm [LinearOrder β] {cmp : α → α → Ordering} {rank : α → β}
    (h : ∀ a b, cmp a b ≠ .gt ↔ rank a ≤ rank b) {l l' : List α}
    (hrank : ∀ a ∈ l, ∀ b ∈ l, rank a = rank b → a = b) (hperm : l'.Perm l) :
    sortBy cmp l' = sortBy cmp l := by
  have hsorted : (sortBy cmp l').Perm (sortBy cmp l) :=
    ((List.perm_insertionSort _ l').trans hperm).trans (List.perm_insertionSort _ l).symm
  refine List.Perm.eq_of_pairwise ?_ (pairwise_sortBy h l') (pairwise_sortBy h l) hsorted
  intro a b ha hb hab hba
  exact hrank a (hperm.subset (mem_sortBy.1 ha)) b (mem_sortBy.1 hb) (le_antisymm hab hba)

/-- The first comparison decides, and the second one breaks its ties. -/
theorem compare_then_ne_gt [LinearOrder β] {a b : β} {o : Ordering} :
    (compare a b).then o ≠ .gt ↔ a < b ∨ a = b ∧ o ≠ .gt := by
  rcases lt_trichotomy a b with hlt | rfl | hgt
  · simp [compare_lt_iff_lt.2 hlt, hlt]
  · simp
  · simp [compare_gt_iff_gt.2 hgt, hgt.not_gt, hgt.ne']

section RetainFirst

variable [DecidableEq κ] (key : α → κ)

/-- Keep the first entry of each key. `seen` holds the keys met so far. -/
def retainFirst : List α → List κ → List α
  | [], _ => []
  | a :: l, seen => if key a ∈ seen then retainFirst l seen else a :: retainFirst l (key a :: seen)

variable {key}

theorem mem_of_mem_retainFirst {l : List α} {seen : List κ} {a : α}
    (h : a ∈ retainFirst key l seen) : a ∈ l ∧ key a ∉ seen := by
  induction l generalizing seen with
  | nil => cases h
  | cons b l ih =>
    unfold retainFirst at h
    split_ifs at h with hseen
    · obtain ⟨hmem, hfresh⟩ := ih h
      exact ⟨List.mem_cons_of_mem _ hmem, hfresh⟩
    · rcases List.mem_cons.1 h with rfl | hrest
      · exact ⟨List.mem_cons_self, hseen⟩
      · obtain ⟨hmem, hfresh⟩ := ih hrest
        exact ⟨List.mem_cons_of_mem _ hmem, fun hmem' => hfresh (List.mem_cons_of_mem _ hmem')⟩

/-- The kept entries stay in their order. -/
theorem retainFirst_sublist (l : List α) (seen : List κ) : (retainFirst key l seen).Sublist l := by
  induction l generalizing seen with
  | nil => exact .slnil
  | cons a l ih =>
    unfold retainFirst
    split_ifs
    · exact (ih seen).cons a
    · exact (ih (key a :: seen)).cons_cons a

/-- No two kept entries have the same key. -/
theorem nodup_map_retainFirst (l : List α) (seen : List κ) :
    ((retainFirst key l seen).map key).Nodup := by
  induction l generalizing seen with
  | nil => exact List.nodup_nil
  | cons a l ih =>
    unfold retainFirst
    split_ifs
    · exact ih seen
    · rw [List.map_cons, List.nodup_cons]
      refine ⟨fun hmem => ?_, ih (key a :: seen)⟩
      obtain ⟨b, hb, hkey⟩ := List.mem_map.1 hmem
      exact (mem_of_mem_retainFirst hb).2 (hkey ▸ List.mem_cons_self)

/-- Each key that was not seen before is kept. -/
theorem mem_map_retainFirst {l : List α} {seen : List κ} {k : κ} :
    k ∈ (retainFirst key l seen).map key ↔ k ∈ l.map key ∧ k ∉ seen := by
  induction l generalizing seen with
  | nil => simp [retainFirst]
  | cons a l ih =>
    unfold retainFirst
    by_cases ha : key a ∈ seen
    · rw [if_pos ha, ih, List.map_cons, List.mem_cons]
      refine and_congr_left fun hk => ⟨.inr, fun h => h.resolve_left ?_⟩
      rintro rfl
      exact hk ha
    · rw [if_neg ha, List.map_cons, List.mem_cons, ih, List.map_cons, List.mem_cons, List.mem_cons]
      by_cases hk : k = key a
      · simp [hk, ha]
      · simp [hk]

theorem retainFirst_cons (a : α) (l : List α) (seen : List κ) :
    retainFirst key (a :: l) seen =
      if key a ∈ seen then retainFirst key l seen else a :: retainFirst key l (key a :: seen) := rfl

/-- Something of a list is kept, unless it is empty. -/
theorem retainFirst_eq_nil_iff {l : List α} : retainFirst key l [] = [] ↔ l = [] := by
  cases l with
  | nil => exact iff_of_true rfl rfl
  | cons a l =>
    rw [retainFirst_cons, if_neg List.not_mem_nil]
    exact iff_of_false (List.cons_ne_nil _ _) (List.cons_ne_nil _ _)

/-- Only which keys of the list were seen matters. -/
theorem retainFirst_congr {l : List α} {seen seen' : List κ}
    (h : ∀ a ∈ l, key a ∈ seen ↔ key a ∈ seen') :
    retainFirst key l seen = retainFirst key l seen' := by
  induction l generalizing seen seen' with
  | nil => rfl
  | cons a l ih =>
    have hrest : ∀ b ∈ l, key b ∈ key a :: seen ↔ key b ∈ key a :: seen' := by
      intro b hb
      rw [List.mem_cons, List.mem_cons, h b (List.mem_cons_of_mem _ hb)]
    rw [retainFirst_cons, retainFirst_cons, ih hrest,
      ih fun b hb => h b (List.mem_cons_of_mem _ hb)]
    exact if_congr (h a List.mem_cons_self) rfl rfl

/-- What is kept of a second list depends on the keys of the first one. -/
theorem retainFirst_append (l l' : List α) (seen : List κ) :
    retainFirst key (l ++ l') seen =
      retainFirst key l seen ++ retainFirst key l' (l.map key ++ seen) := by
  induction l generalizing seen with
  | nil => rfl
  | cons a l ih =>
    rw [List.cons_append, retainFirst_cons, retainFirst_cons]
    split_ifs with ha
    · -- the key of `a` is among the seen ones already
      rw [ih seen]
      congr 1
      apply retainFirst_congr
      intro b _
      rw [List.map_cons, List.cons_append, List.mem_cons, List.mem_append]
      exact ⟨.inr, fun h => h.elim (fun h => .inr (h ▸ ha)) id⟩
    · rw [ih (key a :: seen), List.cons_append]
      congr 2
      apply retainFirst_congr
      intro b _
      simp only [List.mem_append, List.map_cons, List.mem_cons]
      tauto

/-- Keeping the first entries of what was kept changes nothing. -/
theorem retainFirst_retainFirst (l : List α) (seen : List κ) :
    retainFirst key (retainFirst key l seen) seen = retainFirst key l seen := by
  induction l generalizing seen with
  | nil => rfl
  | cons a l ih =>
    by_cases ha : key a ∈ seen
    · rw [retainFirst_cons, if_pos ha, ih]
    · rw [retainFirst_cons, if_neg ha, retainFirst_cons, if_neg ha, ih]

/-- A list may be thinned out before more entries are appended. -/
theorem retainFirst_append_retainFirst (l l' : List α) :
    retainFirst key (retainFirst key l [] ++ l') [] = retainFirst key (l ++ l') [] := by
  rw [retainFirst_append, retainFirst_append, retainFirst_retainFirst]
  congr 1
  apply retainFirst_congr
  intro a _
  rw [List.mem_append, List.mem_append, mem_map_retainFirst]
  simp only [List.not_mem_nil, not_false_eq_true, and_true, or_false]

/-- Selecting by the key may be done before or after. -/
theorem filter_retainFirst {p : α → Bool} (hp : ∀ a b, key a = key b → p a = p b) (l : List α)
    (seen : List κ) :
    (retainFirst key l seen).filter p = retainFirst key (l.filter p) seen := by
  induction l generalizing seen with
  | nil => rfl
  | cons a l ih =>
    rw [retainFirst_cons]
    by_cases hselected : p a = true
    · rw [List.filter_cons_of_pos hselected, retainFirst_cons]
      split_ifs
      · exact ih seen
      · rw [List.filter_cons_of_pos hselected, ih (key a :: seen)]
    · rw [List.filter_cons_of_neg hselected]
      split_ifs
      · exact ih seen
      · -- no selected entry has the key of `a`
        rw [List.filter_cons_of_neg hselected, ih (key a :: seen)]
        apply retainFirst_congr
        intro b hb
        have hne : key b ≠ key a := fun heq => hselected (hp b a heq ▸ (List.mem_filter.1 hb).2)
        rw [List.mem_cons, or_iff_right hne]

/-- A kept entry comes first among the entries with its key. -/
theorem le_of_mem_retainFirst {r : α → α → Prop} {l : List α} {seen : List κ} {a b : α}
    (hsorted : l.Pairwise r) (hrefl : r a a) (ha : a ∈ retainFirst key l seen) (hb : b ∈ l)
    (hkey : key b = key a) : r a b := by
  induction l generalizing seen with
  | nil => cases hb
  | cons c l ih =>
    rw [List.pairwise_cons] at hsorted
    unfold retainFirst at ha
    split_ifs at ha with hseen
    · rcases List.mem_cons.1 hb with rfl | hrest
      · exact absurd (hkey ▸ hseen) (mem_of_mem_retainFirst ha).2
      · exact ih hsorted.2 ha hrest
    · rcases List.mem_cons.1 ha with rfl | hkept
      · rcases List.mem_cons.1 hb with rfl | hrest
        · exact hrefl
        · exact hsorted.1 b hrest
      · rcases List.mem_cons.1 hb with rfl | hrest
        · exact absurd (hkey ▸ List.mem_cons_self) (mem_of_mem_retainFirst hkept).2
        · exact ih hsorted.2 hkept hrest

end RetainFirst

end Ranking
