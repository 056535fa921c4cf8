import WeatherApp.Schema.IsoDate

/-!
# Dates of the calendar

A date without a year is read as the nearest one of the years around a base. Dates of one day of the
year lie at least 365 days apart, so within half a year of the base there is only one.

## Main definitions

* `CivilDate.IsDate`: a date that `chrono` represents.

## Main results

* `daysFromCivil_add_years`, `daysFromCivil_lt_of_year_lt`: how far apart dates of different years
  are.
* `CivilDate.IsDate.month_mem`, `CivilDate.IsDate.day_mem`: the bounds of a date.
* `year_near`, `far_from_base`: of the days within half a year of a base.
-/

namespace WeatherApp

/-! ## Counting days -/

/-- The leap days before a year that starts in March. -/
def leapDays (year : ℤ) : ℤ := year / 4 - year / 100 + year / 400

theorem leapDays_mono {first second : ℤ} (h : first ≤ second) :
    leapDays first ≤ leapDays second := by
  induction second, h using Int.leInduction with
  | base => exact le_refl _
  | succ year _ ih =>
    apply ih.trans
    simp only [leapDays]
    omega

/-- The days before a month in a year that starts in March. -/
def daysBeforeMonth (month : ℕ) : ℤ := (153 * ((month + 9) % 12 : ℕ) + 2) / 5

/-- The days before a date. -/
theorem daysFromCivil_eq (date : CivilDate) :
    daysFromCivil date =
      let y := if date.month ≤ 2 then date.year - 1 else date.year
      365 * y + leapDays y + daysBeforeMonth date.month + date.day - 719469 := by
  simp only [daysFromCivil, leapDays, daysBeforeMonth]
  generalize (if date.month ≤ 2 then date.year - 1 else date.year) = y
  omega

/-- The same day of the year comes again after 365 or 366 days. -/
theorem daysFromCivil_add_years {first second : CivilDate} (hmonth : second.month = first.month)
    (hday : second.day = first.day) (hyear : first.year ≤ second.year) :
    daysFromCivil first + 365 * (second.year - first.year) ≤ daysFromCivil second := by
  simp only [daysFromCivil_eq, hmonth, hday]
  split_ifs
  · have hleap := leapDays_mono (show first.year - 1 ≤ second.year - 1 by omega)
    omega
  · have hleap := leapDays_mono hyear
    omega

/-- A date of a later year has more days before it. -/
theorem daysFromCivil_lt_of_year_lt {first second : CivilDate} (hyear : first.year < second.year)
    (hmonth : 1 ≤ first.month ∧ first.month ≤ 12) (hday : first.day ≤ 31)
    (hmonth' : 1 ≤ second.month ∧ second.month ≤ 12) (hday' : 1 ≤ second.day) :
    daysFromCivil first + 365 * (second.year - first.year - 1) < daysFromCivil second := by
  have hnext := @daysFromCivil_add_years ⟨first.year + 1, second.month, second.day⟩ second rfl rfl
    hyear
  -- the last day of a year comes before the first one of the next
  have hstep : daysFromCivil first <
      daysFromCivil ⟨first.year + 1, second.month, second.day⟩ := by
    have hleap := leapDays_mono (show first.year - 1 ≤ first.year by omega)
    have hleap' := leapDays_mono (show first.year ≤ first.year + 1 by omega)
    have hwrap : first.year + 1 - 1 = first.year := by ring
    simp only [daysFromCivil_eq, daysBeforeMonth, hwrap]
    split_ifs <;> omega
  dsimp only at hnext
  omega

/-! ## Dates that exist -/

/-- The date is one of the calendar, in the range of `chrono`. -/
def CivilDate.IsDate (date : CivilDate) : Prop :=
  fromYmdOpt date.year date.month date.day = some date

instance (date : CivilDate) : Decidable date.IsDate := by
  unfold CivilDate.IsDate
  infer_instance

/-- Only dates are made from a year, a month and a day. -/
theorem fromYmdOpt_eq_some {year : ℤ} {month day : ℕ} {date : CivilDate}
    (h : fromYmdOpt year month day = some date) : date = ⟨year, month, day⟩ ∧ date.IsDate := by
  have hdate : date = ⟨year, month, day⟩ := by
    simp only [fromYmdOpt] at h
    split_ifs at h
    exact (Option.some.inj h).symm
  subst hdate
  exact ⟨rfl, h⟩

/-- The number of days since the first of March is that of a day of the year. -/
theorem dayOfYear_mem {doe yoe : ℤ} (hlow : 0 ≤ doe) (hhigh : doe ≤ 146096)
    (hyoe : yoe = (doe - doe / 1460 + doe / 36524 - doe / 146096) / 365) :
    0 ≤ doe - (365 * yoe + yoe / 4 - yoe / 100) ∧
      doe - (365 * yoe + yoe / 4 - yoe / 100) ≤ 365 := by
  have hfour : yoe / 4 ≤ doe / 1460 ∧ doe / 1460 ≤ yoe / 4 + 1 := by omega
  have hcentury : yoe / 100 = doe / 36524 - doe / 146096 := by
    have hcenturies : 0 ≤ doe / 36524 ∧ doe / 36524 ≤ 4 := by omega
    generalize hc : doe / 36524 = century at hyoe hcenturies ⊢
    obtain ⟨hfirst, hlast⟩ := hcenturies
    interval_cases century <;> omega
  omega

/-- The month and the day that `civilFromDays` gives, from the days since the first of March. -/
theorem civilFromDays_parts (days : ℤ) : ∃ doy : ℤ, (0 ≤ doy ∧ doy ≤ 365) ∧
    (civilFromDays days).month =
      (if (5 * doy + 2) / 153 < 10 then (5 * doy + 2) / 153 + 3
        else (5 * doy + 2) / 153 - 9).toNat ∧
    (civilFromDays days).day = (doy - (153 * ((5 * doy + 2) / 153) + 2) / 5 + 1).toNat :=
  ⟨_, dayOfYear_mem (by omega) (by omega) rfl, rfl, rfl⟩

/-- The bounds of a month and its days, in a leap year. -/
theorem civilFromDays_mem (days : ℤ) :
    (1 ≤ (civilFromDays days).month ∧ (civilFromDays days).month ≤ 12) ∧
      1 ≤ (civilFromDays days).day ∧
        (civilFromDays days).day ≤ daysInMonth 2000 (civilFromDays days).month := by
  obtain ⟨doy, hdoy, hmonth, hday⟩ := civilFromDays_parts days
  have hmp : 0 ≤ (5 * doy + 2) / 153 ∧ (5 * doy + 2) / 153 ≤ 11 := by omega
  have hbounds : 5 * doy + 2 = 153 * ((5 * doy + 2) / 153) + (5 * doy + 2) % 153 := by omega
  generalize (5 * doy + 2) / 153 = mp at hmonth hday hmp hbounds
  rw [hmonth, hday]
  obtain ⟨hlow, hhigh⟩ := hmp
  interval_cases mp <;> norm_num [daysInMonth, isLeapYear] <;> omega

namespace CivilDate.IsDate

variable {date : CivilDate}

theorem civilFromDays_eq (h : date.IsDate) : civilFromDays (daysFromCivil date) = date := by
  simp only [CivilDate.IsDate, fromYmdOpt] at h
  split_ifs at h with hvalid
  exact hvalid.1

/-- The bounds of the month of a date. -/
theorem month_mem (h : date.IsDate) : 1 ≤ date.month ∧ date.month ≤ 12 := by
  rw [← h.civilFromDays_eq]
  exact (civilFromDays_mem _).1

/-- The bounds of the day of a date. -/
theorem day_mem (h : date.IsDate) : 1 ≤ date.day ∧ date.day ≤ daysInMonth 2000 date.month := by
  rw [← h.civilFromDays_eq]
  exact (civilFromDays_mem _).2

theorem day_le (h : date.IsDate) : date.day ≤ 31 := h.day_mem.2.trans (daysInMonth_le _ _)

end CivilDate.IsDate

/-! ## Around a base -/

/-- The days between two dates. -/
def dayDistance (first second : CivilDate) : ℕ :=
  (daysFromCivil first - daysFromCivil second).natAbs

/-- A date within half a year lies in the year of the base or next to it. -/
theorem year_near {base date : CivilDate} (hbase : base.IsDate) (hdate : date.IsDate)
    (hnear : dayDistance date base ≤ 182) :
    date.year = base.year - 1 ∨ date.year = base.year ∨ date.year = base.year + 1 := by
  rw [dayDistance] at hnear
  by_contra hfar
  rcases lt_or_gt_of_ne (show date.year ≠ base.year by omega) with hbefore | hafter
  · have hlate := daysFromCivil_lt_of_year_lt hbefore hdate.month_mem hdate.day_le hbase.month_mem
      hbase.day_mem.1
    omega
  · have hlate := daysFromCivil_lt_of_year_lt hafter hbase.month_mem hbase.day_le hdate.month_mem
      hdate.day_mem.1
    omega

/-- The same day of another year is further away. -/
theorem far_from_base {base date other : CivilDate} (hnear : dayDistance date base ≤ 182)
    (hmonth : other.month = date.month) (hday : other.day = date.day)
    (hyear : other.year ≠ date.year) : dayDistance date base < dayDistance other base := by
  rw [dayDistance] at hnear ⊢
  rw [dayDistance]
  rcases lt_or_gt_of_ne hyear with hbefore | hafter
  · have hgap := daysFromCivil_add_years hmonth.symm hday.symm hbefore.le
    omega
  · have hgap := daysFromCivil_add_years hmonth hday hafter.le
    omega

end WeatherApp
