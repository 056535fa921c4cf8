import Mathlib.Tactic

/-!
# One value in two stores

A value is kept in two stores that cannot be changed together. To change it, the first store takes
the new value and a marker that names it in one transaction; then the second store is replaced; then
the marker is dropped. A crash in between leaves a pair from which the value can still be told: it
is the marked one, and that of the second store where nothing is marked.

So each of these changes is either the change of the value or no change at all, and a recovery only
has to bring the second store to the value and to drop the marker.

## Main definitions

* `MarkedPair`: the stores and the marker.
* `value`: the value that a pair stands for.
* `Coherent`: the first store holds it, unless nothing has been stored yet.

## Main results

* `coherent_commit`, `coherent_replace`, `coherent_clear`, `coherent_settle`: the changes leave a
  coherent pair.
* `value_commit`, `value_replace`, `value_clear`, `value_settle`: only a commit changes the value.
-/

universe u

/-- Two stores for one value, and the marker beside the first. -/
@[ext]
structure MarkedPair (α : Type u) where
  first : Option α
  marker : Option α
  second : α

namespace MarkedPair

variable {α : Type u} {p : MarkedPair α} {v : α}

/-- The value that a pair stands for. -/
def value (p : MarkedPair α) : α := p.marker.getD p.second

/-- The first store takes a new value, and marks it. -/
def commit (p : MarkedPair α) (v : α) : MarkedPair α := { p with first := some v, marker := some v }

/-- The second store is replaced. -/
def replace (p : MarkedPair α) (v : α) : MarkedPair α := { p with second := v }

/-- The marker is dropped. -/
def clear (p : MarkedPair α) : MarkedPair α := { p with marker := none }

/-- Both stores hold the value and nothing is marked. -/
def settle (p : MarkedPair α) : MarkedPair α := ⟨some p.value, none, p.value⟩

/-- The first store holds the value; it may be empty as long as nothing is marked. -/
structure Coherent (p : MarkedPair α) : Prop where
  stored : ∀ v, p.first = some v → v = p.value
  marked : p.marker ≠ none → p.first ≠ none

/-- A marker names the value. -/
theorem value_of_marker (h : p.marker = some v) : p.value = v := by rw [value, h, Option.getD_some]

/-- Without a marker the second store has the value. -/
theorem value_of_unmarked (h : p.marker = none) : p.value = p.second := by
  rw [value, h, Option.getD_none]

@[simp]
theorem value_commit (p : MarkedPair α) (v : α) : (p.commit v).value = v := rfl

/-- A commit makes any pair coherent. -/
theorem coherent_commit (p : MarkedPair α) (v : α) : (p.commit v).Coherent where
  stored w h := by
    show w = v
    exact (Option.some.inj h).symm
  marked _ h := nomatch h

/-- Bringing the second store to the value changes no value. -/
theorem value_replace (h : v = p.value) : (p.replace v).value = p.value := by
  cases hmarker : p.marker with
  | none =>
    have hunmarked : (p.replace v).marker = none := hmarker
    rw [value_of_unmarked hunmarked, ← h]
    rfl
  | some w =>
    have hmarked : (p.replace v).marker = some w := hmarker
    rw [value_of_marker hmarked, value_of_marker hmarker]

theorem coherent_replace (hp : p.Coherent) (h : v = p.value) : (p.replace v).Coherent where
  stored w hw := by
    rw [value_replace h]
    exact hp.stored w hw
  marked := hp.marked

/-- Once the second store has the value, the marker is not needed any more. -/
theorem value_clear (h : p.second = p.value) : p.clear.value = p.value := h

theorem coherent_clear (hp : p.Coherent) (h : p.second = p.value) : p.clear.Coherent where
  stored w hw := by
    rw [value_clear h]
    exact hp.stored w hw
  marked hmarked := absurd rfl hmarked

/-- A recovery changes no value. -/
theorem value_settle (p : MarkedPair α) : p.settle.value = p.value := rfl

/-- What a recovery leaves is coherent again. -/
theorem coherent_settle (p : MarkedPair α) : p.settle.Coherent where
  stored _ hw := (Option.some.inj hw).symm
  marked hmarked := absurd rfl hmarked

end MarkedPair
