import WeatherApp.Engine.Load
import WeatherApp.Foundation.Bisection

/-!
# The next local date

`local_date_and_next_change` of `engine/src/time.rs`: the local date of an instant, and how long it
lasts. The search bisects the next 48 hours. Where clocks are turned back just after midnight, the
old date returns after the new one has begun. When the search probes such an instant it finds the
second midnight.

## Main definitions

* `localDateAndNextChange`: the search.
* `ChangesAfter`: the waits after which the date differs.
* `DateStaysAway`: where halving towards the first change probes, the old date does not return.

## Main results

* `localDateAndNextChange_isSome`: the search ends.
* `next_change_exact_iff`: when the wait is exact.
-/

namespace WeatherApp

open Bisection

section Search

variable (Tz : Type) [TzDatabase Tz]

/-- `SEARCH_WINDOW_MS`. -/
def searchWindowMs : ℤ := 48 * 60 * 60 * 1000

/-- As many halvings as the search window takes. -/
def searchHalvings : ℕ := 28

theorem searchWindowMs_le : searchWindowMs ≤ 2 ^ searchHalvings := by decide

/-- `local_date`. -/
def localDateText {Tz : Type} [TzDatabase Tz] (tz : Tz) (unixMs : ℤ) : Except String String :=
  match localDate tz unixMs with
  | none => .error "invalid fetched_at_unix_ms"
  | some date => .ok date

/-- `i64::checked_add`. -/
def checkedAdd (a b : ℤ) : Option ℤ :=
  if -2 ^ 63 ≤ a + b ∧ a + b < 2 ^ 63 then some (a + b) else none

/-- `local_date_and_next_change`: the date, and the wait in milliseconds. -/
def localDateAndNextChange (unixMs : ℤ) (timezone : String) :
    Option (Except String (String × ℕ)) :=
  match (TzDatabase.fromStr timezone : Option Tz) with
  | none => some (.error s!"invalid timezone `{timezone}`")
  | some tz =>
    match localDateText tz unixMs with
    | .error e => some (.error e)
    | .ok current =>
      match checkedAdd unixMs searchWindowMs with
      | none => some (.error "timestamp overflow while locating next local date")
      | some high =>
        match localDateText tz high with
        | .error e => some (.error e)
        | .ok last =>
          if last = current then
            some (.error s!"local date did not change within 48 hours for `{timezone}`")
          else
            let isCurrent (instant : ℤ) : Except String Bool :=
              (localDateText tz instant).map fun date => decide (date = current)
            (bisect isCurrent searchHalvings unixMs high).map fun found =>
              found.map fun high => (current, (max (Engine.saturatingSub high unixMs) 1).toNat)

variable {Tz}

/-- The waits after which the local date differs. -/
def ChangesAfter (tz : Tz) (unixMs : ℤ) : Set ℕ :=
  {wait | 0 < wait ∧ dateInTimezone tz (unixMs + wait) ≠ dateInTimezone tz unixMs}

/-- Halving the search window towards the first change probes no instant at or after it that has
the old date again. -/
def DateStaysAway (tz : Tz) (unixMs : ℤ) (first : ℕ) : Prop :=
  ∀ instant ∈ probes searchHalvings unixMs (unixMs + searchWindowMs) (unixMs + first),
    unixMs + first ≤ instant → dateInTimezone tz instant ≠ dateInTimezone tz unixMs

theorem localDateText_eq_ok {tz : Tz} {unixMs : ℤ} {date : String} :
    localDateText tz unixMs = .ok date ↔
      (minTimestampMs ≤ unixMs ∧ unixMs ≤ maxTimestampMs) ∧ dateInTimezone tz unixMs = date := by
  simp only [localDateText, localDate, fromTimestampMillis]
  split_ifs with hrange
  · simp [hrange]
  · simp [hrange]

/-- The test of the search at an instant of its window. -/
theorem isCurrent_eq {tz : Tz} {unixMs instant : ℤ} {date last : String}
    (hcurrent : localDateText tz unixMs = .ok date)
    (hlast : localDateText tz (unixMs + searchWindowMs) = .ok last) (hlow : unixMs < instant)
    (hhigh : instant < unixMs + searchWindowMs) :
    ((localDateText tz instant).map fun date' => decide (date' = date)) =
      .ok (decide (dateInTimezone tz instant = dateInTimezone tz unixMs)) := by
  obtain ⟨⟨hmin, -⟩, rfl⟩ := localDateText_eq_ok.1 hcurrent
  obtain ⟨⟨-, hmax⟩, -⟩ := localDateText_eq_ok.1 hlast
  have hinstant : localDateText tz instant = .ok (dateInTimezone tz instant) :=
    localDateText_eq_ok.2 ⟨⟨hmin.trans hlow.le, hhigh.le.trans hmax⟩, rfl⟩
  rw [hinstant]
  rfl

/-- What a search that succeeds has found. -/
theorem localDateAndNextChange_ok {unixMs : ℤ} {timezone date : String} {wait : ℕ} {tz : Tz}
    (htz : TzDatabase.fromStr timezone = some tz)
    (h : localDateAndNextChange Tz unixMs timezone = some (.ok (date, wait))) :
    localDate tz unixMs = some date ∧
      dateInTimezone tz (unixMs + searchWindowMs) ≠ dateInTimezone tz unixMs ∧
      ∃ test : ℤ → Except String Bool,
        (∀ m, unixMs < m → m < unixMs + searchWindowMs →
          test m = .ok (decide (dateInTimezone tz m = dateInTimezone tz unixMs))) ∧
        bisect test searchHalvings unixMs (unixMs + searchWindowMs) =
          some (.ok (unixMs + wait)) := by
  simp only [localDateAndNextChange, htz] at h
  match hcurrent : localDateText tz unixMs, h with
  | .ok current, h =>
    simp only [checkedAdd] at h
    by_cases hrange : -2 ^ 63 ≤ unixMs + searchWindowMs ∧ unixMs + searchWindowMs < 2 ^ 63
    · simp only [if_pos hrange] at h
      match hlast : localDateText tz (unixMs + searchWindowMs), h with
      | .ok last, h =>
        by_cases hsame : last = current
        · simp only [if_pos hsame] at h
          cases h
        · simp only [if_neg hsame] at h
          obtain ⟨found, hfound, hwait⟩ := Option.map_eq_some_iff.1 h
          cases found with
          | error e => cases hwait
          | ok found =>
            simp only [Except.map, Except.ok.injEq, Prod.mk.injEq] at hwait
            obtain ⟨rfl, rfl⟩ := hwait
            have hdate := localDateText_eq_ok.1 hcurrent
            have hdateLast := localDateText_eq_ok.1 hlast
            have hpos : unixMs < unixMs + searchWindowMs := by
              have : 0 < searchWindowMs := by decide
              omega
            obtain ⟨hlow, hhigh⟩ := mem_of_bisect hpos hfound
            have hsub : Engine.saturatingSub found unixMs = found - unixMs := by
              have : searchWindowMs < 2 ^ 63 := by decide
              unfold Engine.saturatingSub
              omega
            have hwait : (unixMs + ((max (Engine.saturatingSub found unixMs) 1).toNat : ℤ)) =
                found := by
              rw [hsub]
              omega
            refine ⟨?_, ?_, _, fun m hm hm' => isCurrent_eq hcurrent hlast hm hm', ?_⟩
            · simp only [localDate, fromTimestampMillis, if_pos hdate.1, Option.map_some, hdate.2]
            · rw [hdate.2, hdateLast.2]
              exact hsame
            · rw [hwait]
              exact hfound
    · simp only [if_neg hrange] at h
      cases h

/-- The search ends. -/
theorem localDateAndNextChange_isSome (unixMs : ℤ) (timezone : String) :
    (localDateAndNextChange Tz unixMs timezone).isSome := by
  simp only [localDateAndNextChange]
  split
  · rfl
  · split
    · rfl
    · split
      · rfl
      next high hhigh =>
        split
        · rfl
        · split_ifs
          · rfl
          · rw [Option.isSome_map]
            apply bisect_isSome
            simp only [checkedAdd] at hhigh
            split_ifs at hhigh
            rw [← Option.some.inj hhigh, add_sub_cancel_left]
            exact searchWindowMs_le

/-- The search ends, with the local date and a wait. The wait is the least one after which the date
differs exactly when halving the window towards that instant probes no later instant that has the
old date again. -/
theorem next_change_exact_iff (unixMs : ℤ) (timezone : String) :
    (localDateAndNextChange Tz unixMs timezone).isSome ∧
      ∀ (tz : Tz) (date : String) (wait : ℕ), TzDatabase.fromStr timezone = some tz →
        localDateAndNextChange Tz unixMs timezone = some (.ok (date, wait)) →
          localDate tz unixMs = some date ∧
            ∃ first, IsLeast (ChangesAfter tz unixMs) first ∧
              (IsLeast (ChangesAfter tz unixMs) wait ↔ DateStaysAway tz unixMs first) := by
  classical
  refine ⟨localDateAndNextChange_isSome unixMs timezone, fun tz date wait htz hsearch => ?_⟩
  obtain ⟨hdate, hchanges, test, htest, hbisect⟩ := localDateAndNextChange_ok htz hsearch
  refine ⟨hdate, ?_⟩
  have hwindow : (0 : ℤ) < searchWindowMs := by decide
  have hend : searchWindowMs.toNat ∈ ChangesAfter tz unixMs := by
    refine ⟨by decide, ?_⟩
    rw [Int.toNat_of_nonneg hwindow.le]
    exact hchanges
  have hexists : ∃ first, first ∈ ChangesAfter tz unixMs := ⟨_, hend⟩
  set first := Nat.find hexists with hfirst
  have hleast : IsLeast (ChangesAfter tz unixMs) first :=
    ⟨Nat.find_spec hexists, fun other hother => Nat.find_min' hexists hother⟩
  have hpos : 0 < first := hleast.1.1
  have hinside : (first : ℤ) ≤ searchWindowMs := by
    have := hleast.2 hend
    omega
  refine ⟨first, hleast, ?_⟩
  -- before the first change every instant has the old date
  have hbefore : ∀ m, unixMs < m → m < unixMs + first →
      dateInTimezone tz m = dateInTimezone tz unixMs := by
    intro m hm hm'
    by_contra hne
    have hmem : (m - unixMs).toNat ∈ ChangesAfter tz unixMs := by
      refine ⟨by omega, ?_⟩
      rwa [Int.toNat_of_nonneg (by omega), add_sub_cancel]
    have := hleast.2 hmem
    omega
  have hwait : IsLeast (ChangesAfter tz unixMs) wait ↔
      bisect test searchHalvings unixMs (unixMs + searchWindowMs) = some (.ok (unixMs + first)) := by
    rw [hbisect, Option.some.injEq, Except.ok.injEq, add_right_inj, Nat.cast_inj]
    exact ⟨fun h => h.unique hleast, fun h => h ▸ hleast⟩
  have hwidth : unixMs + searchWindowMs - unixMs ≤ 2 ^ searchHalvings := by
    rw [add_sub_cancel_left]
    exact searchWindowMs_le
  rw [hwait, bisect_eq_iff hwidth (by omega) (by omega) htest]
  constructor
  · intro hprobes instant hprobe hlater heq
    exact absurd ((hprobes instant hprobe).1 (decide_eq_true heq)) (not_lt.2 hlater)
  · intro haway instant hprobe
    constructor
    · intro hcurrent
      by_contra hlater
      exact haway instant hprobe (not_lt.1 hlater) (of_decide_eq_true hcurrent)
    · intro hearlier
      exact decide_eq_true (hbefore instant (mem_probes hprobe).1 hearlier)

end Search

/-! ## Clocks that are turned back after midnight -/

section Sample

/-- A zone whose clocks were turned back one minute after midnight, in November 2010. -/
inductive NewfoundlandZone where
  | stJohns
  deriving DecidableEq, Repr

instance : TzDatabase NewfoundlandZone where
  fromStr value := if value = "America/St_Johns" then some .stJohns else none
  name _ := "America/St_Johns"
  offset _ seconds :=
    if 1268537460 ≤ seconds ∧ seconds < 1289097060 then -9000 else -12600
  fromStr_name tz := by
    cases tz
    rfl
  name_of_fromStr := by
    intro value tz h
    split_ifs at h with hvalue
    exact hvalue.symm

/-- On a day without such a change the wait is 30 seconds. -/
theorem next_change_sample :
    localDate SampleZone.shanghai 1782230370000 = some "2026-06-23" ∧
      ∃ first, IsLeast (ChangesAfter SampleZone.shanghai 1782230370000) first ∧
        (IsLeast (ChangesAfter SampleZone.shanghai 1782230370000) 30000 ↔
          DateStaysAway SampleZone.shanghai 1782230370000 first) := by
  have hsearch : localDateAndNextChange SampleZone 1782230370000 "Asia/Shanghai" =
      some (.ok ("2026-06-23", 30000)) := by decide +kernel
  have htz : TzDatabase.fromStr "Asia/Shanghai" = some SampleZone.shanghai := by decide
  exact (next_change_exact_iff 1782230370000 "Asia/Shanghai").2 _ _ _ htz hsearch

/-- On the day before, the search finds the second midnight. -/
theorem next_change_late :
    ¬ ∀ (unixMs : ℤ) (timezone : String) (tz : NewfoundlandZone) (date : String) (wait : ℕ),
      TzDatabase.fromStr timezone = some tz →
        localDateAndNextChange NewfoundlandZone unixMs timezone = some (.ok (date, wait)) →
          IsLeast (ChangesAfter tz unixMs) wait := by
  intro hclaim
  have hleast := hclaim 1289012400000 "America/St_Johns" .stJohns "2010-11-06" 88200000
    (by decide) (by decide +kernel)
  have hearlier : 84600000 ∈ ChangesAfter NewfoundlandZone.stJohns 1289012400000 :=
    ⟨by decide, by decide +kernel⟩
  exact absurd (hleast.2 hearlier) (by decide)

end Sample

end WeatherApp
