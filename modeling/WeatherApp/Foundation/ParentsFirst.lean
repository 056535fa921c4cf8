import Mathlib.Data.List.Basic
import Mathlib.Tactic

/-!
# Lists with parents first

Elements with at most one parent each are put on a list one after the other, each once and after
its parent.

## Main definitions

* `insertNew`: put an element at the end, unless it is there.
* `Ordered`: a list that was built with parents first.
* `insertWithParent`: put an element on the list after its parent.

## Main results

* `Ordered.idxOf_lt`: a parent comes first.
* `ordered_foldl`, `mem_foldl_insertWithParent`: the list of elements that are inserted in any order.
-/

namespace ParentsFirst

variable {α : Type} [DecidableEq α]

/-- Put an element at the end of a list, unless it is there. -/
def insertNew (xs : List α) (a : α) : List α := if a ∈ xs then xs else xs ++ [a]

@[simp]
theorem mem_insertNew {xs : List α} {a b : α} : b ∈ insertNew xs a ↔ b ∈ xs ∨ b = a := by
  unfold insertNew
  split_ifs with h
  · rw [or_iff_left_of_imp]
    rintro rfl
    exact h
  · rw [List.mem_append, List.mem_singleton]

/-- A list to which each element was added when its parent was there and it was not. -/
inductive Ordered (parent : α → Option α) : List α → Prop where
  | nil : Ordered parent []
  | concat {xs : List α} {a : α} (rest : Ordered parent xs) (fresh : a ∉ xs)
      (after : ∀ b ∈ parent a, b ∈ xs) : Ordered parent (xs ++ [a])

variable {parent : α → Option α} {xs : List α} {a b : α}

omit [DecidableEq α] in
theorem Ordered.nodup (h : Ordered parent xs) : xs.Nodup := by
  induction h with
  | nil => exact List.nodup_nil
  | concat _ fresh _ ih =>
    rw [← List.concat_eq_append]
    exact ih.concat fresh

/-- A parent comes before its children. -/
theorem Ordered.idxOf_lt (h : Ordered parent xs) (ha : a ∈ xs) (hb : b ∈ parent a) :
    xs.idxOf b < xs.idxOf a := by
  have hparent : ∀ {xs}, Ordered parent xs → ∀ a ∈ xs, ∀ b ∈ parent a, b ∈ xs := by
    intro xs h
    induction h with
    | nil => exact fun a ha => absurd ha List.not_mem_nil
    | concat _ _ after ih =>
      intro a ha b hb
      rw [List.mem_append] at ha ⊢
      rcases ha with hold | hnew
      · exact .inl (ih a hold b hb)
      · exact .inl (after b (List.mem_singleton.1 hnew ▸ hb))
  induction h with
  | nil => exact absurd ha List.not_mem_nil
  | @concat xs c rest fresh after ih =>
    by_cases hold : a ∈ xs
    · rw [List.idxOf_append_of_mem hold, List.idxOf_append_of_mem (hparent rest a hold b hb)]
      exact ih hold
    · -- the element that was added last is at the end
      obtain rfl : a = c := by simpa [hold] using ha
      have hmem := after b hb
      rw [List.idxOf_append_of_mem hmem, List.idxOf_append_of_notMem fresh]
      exact Nat.lt_add_right _ (List.idxOf_lt_length_of_mem hmem)

theorem Ordered.insertNew (h : Ordered parent xs) (ha : ∀ b ∈ parent a, b ∈ xs) :
    Ordered parent (ParentsFirst.insertNew xs a) := by
  unfold ParentsFirst.insertNew
  split_ifs with hmem
  · exact h
  · exact h.concat hmem ha

/-- Put an element on a list after its parent. -/
def insertWithParent (parent : α → Option α) (xs : List α) (a : α) : List α :=
  insertNew (match parent a with
    | some b => insertNew xs b
    | none => xs) a

/-- The parents have no parents, so that they can be put on the list first. -/
theorem Ordered.insertWithParent (hroot : ∀ a b, parent a = some b → parent b = none)
    (h : Ordered parent xs) (a : α) : Ordered parent (ParentsFirst.insertWithParent parent xs a) := by
  unfold ParentsFirst.insertWithParent
  cases hparent : parent a with
  | none =>
    refine h.insertNew fun b hb => ?_
    rw [hparent] at hb
    cases hb
  | some b =>
    have hfirst : Ordered parent (ParentsFirst.insertNew xs b) := by
      refine h.insertNew fun c hc => ?_
      rw [hroot a b hparent] at hc
      cases hc
    refine hfirst.insertNew fun c hc => ?_
    rw [hparent] at hc
    exact mem_insertNew.2 (.inr (Option.mem_some.1 hc).symm)

theorem mem_insertWithParent :
    b ∈ insertWithParent parent xs a ↔ b ∈ xs ∨ parent a = some b ∨ b = a := by
  unfold insertWithParent
  cases parent a with
  | none => simp
  | some c =>
    rw [mem_insertNew, mem_insertNew, Option.some.injEq, or_assoc, eq_comm (a := b) (b := c)]

/-- Elements that are inserted in any order are listed with parents first. -/
theorem ordered_foldl (hroot : ∀ a b, parent a = some b → parent b = none) (as : List α) :
    Ordered parent (as.foldl (insertWithParent parent) []) :=
  List.foldlRecOn as _ .nil fun _ h a _ => h.insertWithParent hroot a

/-- The list has the elements and their parents. -/
theorem mem_foldl_insertWithParent (as : List α) :
    b ∈ as.foldl (insertWithParent parent) xs ↔
      b ∈ xs ∨ ∃ a ∈ as, parent a = some b ∨ b = a := by
  induction as generalizing xs with
  | nil => simp
  | cons a as ih =>
    rw [List.foldl_cons, ih, mem_insertWithParent]
    simp only [List.mem_cons, exists_eq_or_imp, or_assoc]

end ParentsFirst
