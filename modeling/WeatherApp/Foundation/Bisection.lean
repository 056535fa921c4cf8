import Mathlib.Tactic

/-!
# Bisection

An interval of integers is halved, by a test that holds at its lower end and fails at its upper
end, until its ends are next to each other. The upper end is then the least integer where the test
fails, if the test fails from there on. In general it is this integer exactly when the test fails
wherever halving towards it probes it or anything above.

## Main definitions

* `bisect`: the search. The test may fail with an error.
* `probes`: the integers that are tested on the way to a given one.

## Main results

* `bisect_isSome`: an interval of `2 ^ n` integers takes at most `n` halvings.
* `bisect_eq_iff`: when the search ends at a given integer.
-/

universe u

namespace Bisection

variable {ε : Type u}

/-- The middle of an interval. -/
def middle (low high : ℤ) : ℤ := low + (high - low) / 2

/-- Halve an interval until its ends are next to each other. The result is `none` when the fuel is
used up. -/
def bisect (test : ℤ → Except ε Bool) : ℕ → ℤ → ℤ → Option (Except ε ℤ)
  | fuel, low, high =>
    if high - low > 1 then
      match fuel with
      | 0 => none
      | fuel + 1 =>
        match test (middle low high) with
        | .error e => some (.error e)
        | .ok true => bisect test fuel (middle low high) high
        | .ok false => bisect test fuel low (middle low high)
    else some (.ok high)

/-- What halving an interval towards one of its integers tests. -/
def probes : ℕ → ℤ → ℤ → ℤ → List ℤ
  | 0, _, _, _ => []
  | fuel + 1, low, high, target =>
    if high - low > 1 then
      middle low high ::
        if middle low high < target then probes fuel (middle low high) high target
        else probes fuel low (middle low high) target
    else []

theorem middle_mem {low high : ℤ} (h : high - low > 1) :
    low < middle low high ∧ middle low high < high := by
  unfold middle
  omega

/-- Halving an interval halves the fuel that it takes. -/
theorem middle_width {low high : ℤ} {fuel : ℕ} (h : high - low ≤ 2 ^ (fuel + 1)) :
    high - middle low high ≤ 2 ^ fuel ∧ middle low high - low ≤ 2 ^ fuel := by
  rw [pow_succ] at h
  unfold middle
  omega

theorem bisect_of_adjacent {test : ℤ → Except ε Bool} {fuel : ℕ} {low high : ℤ}
    (h : ¬ high - low > 1) : bisect test fuel low high = some (.ok high) := by
  unfold bisect
  exact if_neg h

theorem bisect_succ {test : ℤ → Except ε Bool} {fuel : ℕ} {low high : ℤ} (h : high - low > 1) :
    bisect test (fuel + 1) low high =
      match test (middle low high) with
      | .error e => some (.error e)
      | .ok true => bisect test fuel (middle low high) high
      | .ok false => bisect test fuel low (middle low high) := by
  rw [bisect, if_pos h]

/-- An interval of `2 ^ n` integers takes at most `n` halvings. -/
theorem bisect_isSome {test : ℤ → Except ε Bool} {fuel : ℕ} {low high : ℤ}
    (hwidth : high - low ≤ 2 ^ fuel) : (bisect test fuel low high).isSome := by
  induction fuel generalizing low high with
  | zero => rw [bisect_of_adjacent (by omega)]; rfl
  | succ fuel ih =>
    obtain ⟨hupper, hlower⟩ := middle_width hwidth
    by_cases hwide : high - low > 1
    · rw [bisect_succ hwide]
      match test (middle low high) with
      | .error e => rfl
      | .ok true => exact ih hupper
      | .ok false => exact ih hlower
    · rw [bisect_of_adjacent hwide]
      rfl

/-- The search ends in the interval. -/
theorem mem_of_bisect {test : ℤ → Except ε Bool} {fuel : ℕ} {low high result : ℤ}
    (hlt : low < high) (h : bisect test fuel low high = some (.ok result)) :
    low < result ∧ result ≤ high := by
  induction fuel generalizing low high with
  | zero =>
    by_cases hwide : high - low > 1
    · rw [bisect, if_pos hwide] at h
      cases h
    · rw [bisect_of_adjacent hwide] at h
      cases h
      exact ⟨hlt, le_rfl⟩
  | succ fuel ih =>
    by_cases hwide : high - low > 1
    · obtain ⟨hlow, hhigh⟩ := middle_mem hwide
      rw [bisect_succ hwide] at h
      match htest : test (middle low high), h with
      | .ok true, h => exact ⟨hlow.trans (ih hhigh h).1, (ih hhigh h).2⟩
      | .ok false, h => exact ⟨(ih hlow h).1, (ih hlow h).2.trans hhigh.le⟩
    · rw [bisect_of_adjacent hwide] at h
      cases h
      exact ⟨hlt, le_rfl⟩

/-- The search ends at an integer of the interval exactly when the test tells everything that is
probed on the way apart by it. -/
theorem bisect_eq_iff {test : ℤ → Except ε Bool} {p : ℤ → Bool} {fuel : ℕ} {low high target : ℤ}
    (hwidth : high - low ≤ 2 ^ fuel) (hlow : low < target) (hhigh : target ≤ high)
    (htest : ∀ m, low < m → m < high → test m = .ok (p m)) :
    bisect test fuel low high = some (.ok target) ↔
      ∀ m ∈ probes fuel low high target, p m = true ↔ m < target := by
  induction fuel generalizing low high with
  | zero =>
    have hadjacent : ¬ high - low > 1 := by
      rw [pow_zero] at hwidth
      omega
    have hend : high = target := by omega
    rw [bisect_of_adjacent hadjacent, hend]
    exact iff_of_true rfl fun _ h => nomatch h
  | succ fuel ih =>
    by_cases hwide : high - low > 1
    · obtain ⟨hupper, hlower⟩ := middle_width hwidth
      obtain ⟨hmiddleLow, hmiddleHigh⟩ := middle_mem hwide
      rw [bisect_succ hwide, htest _ hmiddleLow hmiddleHigh, probes, if_pos hwide,
        List.forall_mem_cons]
      by_cases hbelow : middle low high < target
      · rw [if_pos hbelow, iff_true_right hbelow]
        cases hp : p (middle low high) with
        | true =>
          simp only [true_and]
          exact ih hupper hbelow hhigh fun m hm hm' => htest m (hmiddleLow.trans hm) hm'
        | false =>
          -- the target is left out
          refine iff_of_false (fun h => ?_) (fun h => nomatch h.1)
          exact absurd (mem_of_bisect hmiddleLow h).2 (not_le.2 hbelow)
      · rw [if_neg hbelow, iff_false_right hbelow]
        cases hp : p (middle low high) with
        | true =>
          refine iff_of_false (fun h => ?_) (fun h => h.1 rfl)
          exact hbelow (mem_of_bisect hmiddleHigh h).1
        | false =>
          simp only [Bool.false_eq_true, not_false_eq_true, true_and]
          exact ih hlower hlow (not_lt.1 hbelow) fun m hm hm' =>
            htest m hm (hm'.trans hmiddleHigh)
    · have hend : high = target := by omega
      rw [bisect_of_adjacent hwide, probes, if_neg hwide, hend]
      exact iff_of_true rfl fun _ h => nomatch h

/-- What is probed lies inside the interval. -/
theorem mem_probes {fuel : ℕ} {low high target m : ℤ} (h : m ∈ probes fuel low high target) :
    low < m ∧ m < high := by
  induction fuel generalizing low high with
  | zero => cases h
  | succ fuel ih =>
    unfold probes at h
    split_ifs at h with hwide hbelow
    · obtain ⟨hlow, hhigh⟩ := middle_mem hwide
      rcases List.mem_cons.1 h with rfl | hrest
      · exact ⟨hlow, hhigh⟩
      · exact ⟨hlow.trans (ih hrest).1, (ih hrest).2⟩
    · obtain ⟨hlow, hhigh⟩ := middle_mem hwide
      rcases List.mem_cons.1 h with rfl | hrest
      · exact ⟨hlow, hhigh⟩
      · exact ⟨(ih hrest).1, (ih hrest).2.trans hhigh⟩
    · cases h

end Bisection
