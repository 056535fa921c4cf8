import WeatherApp.Engine.Weather

/-!
# Fresh snapshots and catalogs

`cached_snapshot_is_fresh` computes with `i64` and `catalog_cache_is_fresh` with `u128`: differences
and times to live saturate in the one where they do not in the other. Where they saturate, the
instants are further apart than any two that have local dates, so both compare the age as it is.

## Main results

* `lt_ttlMs_iff`: the comparison with saturated values is the exact one below the greatest `i64`.
* `cachedSnapshotIsFresh_eq`: the check of a snapshot, by exact arithmetic.
* `snapshot_freshness_exact`: what both checks decide.
-/

namespace WeatherApp.Weather

open Engine (catalogCacheIsFresh saturatingSub)

/-- The age of what was fetched, without a bound. -/
def exactAgeMs (fetchedAtUnixMs nowUnixMs : ℤ) : ℤ := max 0 (nowUnixMs - fetchedAtUnixMs)

/-- The age as the code computes it. -/
theorem max_saturatingSub (fetchedAtUnixMs nowUnixMs : ℤ) :
    max (saturatingSub nowUnixMs fetchedAtUnixMs) 0 =
      min (exactAgeMs fetchedAtUnixMs nowUnixMs) (2 ^ 63 - 1) := by
  rw [saturatingSub, exactAgeMs]
  omega

/-- Two instants that have local dates are not so far apart that their difference saturates. -/
theorem exactAgeMs_lt_of_localDate {Tz : Type} [TzDatabase Tz] {tz : Tz}
    {fetchedAtUnixMs nowUnixMs : ℤ} (hfetched : localDate tz fetchedAtUnixMs ≠ none)
    (hnow : localDate tz nowUnixMs ≠ none) :
    exactAgeMs fetchedAtUnixMs nowUnixMs < 2 ^ 63 - 1 := by
  have hrange : ∀ {unixMs : ℤ}, localDate tz unixMs ≠ none →
      minTimestampMs ≤ unixMs ∧ unixMs ≤ maxTimestampMs := by
    intro unixMs h
    by_contra hout
    apply h
    rw [localDate, fromTimestampMillis, if_neg hout, Option.map_none]
  have hwidth : maxTimestampMs - minTimestampMs < 2 ^ 63 - 1 := by decide
  have hbounds := hrange hfetched
  have hbounds' := hrange hnow
  rw [exactAgeMs]
  omega

/-- A saturated age is below a saturated time to live if and only if the age is below both the time
to live and the bound. -/
theorem lt_ttlMs_iff (ageMs : ℤ) (ttlSeconds : ℕ) :
    min ageMs (2 ^ 63 - 1) < min ((ttlSeconds * 1000 : ℕ) : ℤ) (2 ^ 63 - 1) ↔
      ageMs < ttlSeconds * 1000 ∧ ageMs < 2 ^ 63 - 1 := by
  omega

variable {Tz : Type} [TzDatabase Tz]

/-- `date_for_tz` of a timezone by its name. -/
theorem dateForTz_name (tz : Tz) (unixMs : ℤ) :
    dateForTz Tz unixMs (TzDatabase.name tz) =
      match localDate tz unixMs with
      | none => .error "invalid fetched_at_unix_ms"
      | some date => .ok date := by
  cases hdate : localDate tz unixMs with
  | none => simp only [dateForTz, TzDatabase.fromStr_name, hdate]
  | some date => simp only [dateForTz, TzDatabase.fromStr_name, hdate]

/-- The check of a snapshot. Below the bound it compares the exact age, and then the dates. -/
theorem cachedSnapshotIsFresh_eq (fetchedAtUnixMs nowUnixMs : ℤ) (ttlSeconds : ℕ) (tz : Tz) :
    cachedSnapshotIsFresh Tz fetchedAtUnixMs nowUnixMs ttlSeconds (TzDatabase.name tz) =
      if exactAgeMs fetchedAtUnixMs nowUnixMs < ttlSeconds * 1000 ∧
          exactAgeMs fetchedAtUnixMs nowUnixMs < 2 ^ 63 - 1 then
        match localDate tz fetchedAtUnixMs, localDate tz nowUnixMs with
        | some fetchedDate, some today => .ok (fetchedDate = today)
        | _, _ => .error "invalid fetched_at_unix_ms"
      else .ok false := by
  have hcompare := lt_ttlMs_iff (exactAgeMs fetchedAtUnixMs nowUnixMs) ttlSeconds
  simp only [cachedSnapshotIsFresh, max_saturatingSub, dateForTz_name]
  by_cases hfresh : exactAgeMs fetchedAtUnixMs nowUnixMs < ttlSeconds * 1000 ∧
      exactAgeMs fetchedAtUnixMs nowUnixMs < 2 ^ 63 - 1
  · rw [if_neg (not_le.2 (hcompare.2 hfresh)), if_pos hfresh]
    cases localDate tz fetchedAtUnixMs with
    | none => rfl
    | some fetchedDate =>
      cases localDate tz nowUnixMs with
      | none => rfl
      | some today => rfl
  · rw [if_pos (not_lt.1 fun hlt => hfresh (hcompare.1 hlt)), if_neg hfresh]
    rfl

/-- The check of a catalog compares the age up to the greatest `i64`. -/
theorem catalogCacheIsFresh_eq (fetchedAtUnixMs nowUnixMs : ℤ) (ttlSeconds : ℕ) :
    catalogCacheIsFresh fetchedAtUnixMs nowUnixMs ttlSeconds =
      decide (min (exactAgeMs fetchedAtUnixMs nowUnixMs) (2 ^ 63 - 1) < ttlSeconds * 1000) := by
  have hage : 0 ≤ exactAgeMs fetchedAtUnixMs nowUnixMs := le_max_left _ _
  simp only [catalogCacheIsFresh, max_saturatingSub]
  by_cases hzero : ttlSeconds = 0
  · rw [if_pos hzero, hzero, eq_comm, decide_eq_false_iff_not]
    omega
  · rw [if_neg hzero, decide_eq_decide]
    omega

/-- The check of a snapshot succeeds if and only if the age, computed without bounds, is below the
time to live and both instants have the same local date; it fails only below the time to live, where
one of them has none. A catalog of the same age is fresh as well, and nothing is fresh with a time to
live of zero. -/
theorem snapshot_freshness_exact (now fetched : Int64) (ttlSeconds : UInt64) (tz : Tz) :
    (cachedSnapshotIsFresh Tz fetched.toInt now.toInt ttlSeconds.toNat (TzDatabase.name tz) =
        .ok true ↔
      exactAgeMs fetched.toInt now.toInt < ttlSeconds.toNat * 1000 ∧
        ∃ date, localDate tz fetched.toInt = some date ∧ localDate tz now.toInt = some date) ∧
    (∀ err, cachedSnapshotIsFresh Tz fetched.toInt now.toInt ttlSeconds.toNat
        (TzDatabase.name tz) = .error err →
      exactAgeMs fetched.toInt now.toInt < ttlSeconds.toNat * 1000 ∧
        (localDate tz fetched.toInt = none ∨ localDate tz now.toInt = none)) ∧
    (cachedSnapshotIsFresh Tz fetched.toInt now.toInt ttlSeconds.toNat (TzDatabase.name tz) =
        .ok true →
      catalogCacheIsFresh fetched.toInt now.toInt ttlSeconds.toNat = true) ∧
    (ttlSeconds = 0 →
      cachedSnapshotIsFresh Tz fetched.toInt now.toInt ttlSeconds.toNat (TzDatabase.name tz) =
          .ok false ∧
        catalogCacheIsFresh fetched.toInt now.toInt ttlSeconds.toNat = false) := by
  have hage : 0 ≤ exactAgeMs fetched.toInt now.toInt := le_max_left _ _
  have hdistance := @exactAgeMs_lt_of_localDate Tz _ tz fetched.toInt now.toInt
  rw [cachedSnapshotIsFresh_eq, catalogCacheIsFresh_eq]
  refine ⟨?_, ?_, ?_, ?_⟩
  · constructor
    · intro h
      split_ifs at h with hfresh
      refine ⟨hfresh.1, ?_⟩
      split at h
      next fetchedDate today hfetched hnow =>
        have hsame : fetchedDate = today := of_decide_eq_true (Except.ok.inj h)
        exact ⟨today, hsame ▸ hfetched, hnow⟩
      next => exact nomatch h
      · exact nomatch Except.ok.inj h
    · rintro ⟨hbelow, date, hfetched, hnow⟩
      -- instants with dates are near enough
      have hnear := hdistance (by simp [hfetched]) (by simp [hnow])
      rw [if_pos ⟨hbelow, hnear⟩, hfetched, hnow]
      simp
  · intro err h
    split_ifs at h with hfresh
    refine ⟨hfresh.1, ?_⟩
    split at h
    next => exact nomatch h
    next hnone =>
      cases hfetched : localDate tz fetched.toInt with
      | none => exact .inl rfl
      | some fetchedDate =>
        cases hnow : localDate tz now.toInt with
        | none => exact .inr rfl
        | some today => exact absurd hnow (hnone fetchedDate today hfetched)
  · intro h
    split_ifs at h with hfresh
    · apply decide_eq_true
      omega
    · exact nomatch Except.ok.inj h
  · rintro rfl
    have hzero : ((0 : UInt64).toNat : ℤ) = 0 := by decide
    rw [hzero, if_neg (by omega), decide_eq_false (by omega)]
    exact ⟨rfl, rfl⟩

end WeatherApp.Weather
