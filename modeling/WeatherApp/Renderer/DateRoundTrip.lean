import WeatherApp.Renderer.DateLabel

/-!
# Dates without a year

The engine (`parse_relative_date`) and the terminal (`parse_calendar_date`) read a month and a day
as the nearest date. Written without its year, a date within half a year of the base is read back by
both: the same day of another year is at least 183 days away from the base.

## Main definitions

* `monthDayText`: a date without its year.
* `ReadsSeparators`: what the code relies on in `NaiveDate::parse_from_str`.

## Main results

* `minByKey_candidates`: of the candidates of both readers, the date that was meant is the nearest.
* `relative_date_round_trip`: both read it.
-/

namespace WeatherApp

open Weather (minByKey firstWord parseFullDate parseRelativeDate)

/-! ## The nearest candidate -/

/-- The first least element is the one below all the others. -/
theorem minByKey_eq_some {α : Type} {key : α → ℕ} {x : α} :
    ∀ {xs : List α}, x ∈ xs → (∀ y ∈ xs, y ≠ x → key x < key y) → minByKey key xs = some x := by
  intro xs hx hleast
  induction xs with
  | nil => exact absurd hx List.not_mem_nil
  | cons y ys ih =>
    have hrest : ∀ z ∈ ys, z ≠ x → key x < key z := fun z hz =>
      hleast z (List.mem_cons_of_mem _ hz)
    rw [minByKey]
    by_cases hmem : x ∈ ys
    · rw [ih hmem hrest]
      by_cases hy : y = x
      · rw [hy]
        simp
      · exact if_pos (hleast y List.mem_cons_self hy)
    · obtain rfl : x = y := (List.mem_cons.1 hx).resolve_right hmem
      cases hbest : minByKey key ys with
      | none => rfl
      | some best =>
        have hbestMem : best ∈ ys := mem_of_minByKey_eq_some hbest
        have hlt := hleast best (List.mem_cons_of_mem _ hbestMem) fun h => hmem (h ▸ hbestMem)
        exact if_neg (not_lt.2 hlt.le)

/-- Among the years around the base, that of a date within half a year is the nearest, also where
the day is missing in one of them. -/
theorem minByKey_candidates {base date : CivilDate} (hbase : base.IsDate) (hdate : date.IsDate)
    (hnear : dayDistance date base ≤ 182) :
    minByKey (fun candidate => dayDistance candidate base)
      ([base.year - 1, base.year, base.year + 1].filterMap fun year =>
        fromYmdOpt year date.month date.day) = some date := by
  apply minByKey_eq_some
  · rw [List.mem_filterMap]
    refine ⟨date.year, ?_, hdate⟩
    have hyear := year_near hbase hdate hnear
    simpa using hyear
  · intro other hother hne
    obtain ⟨year, -, hmade⟩ := List.mem_filterMap.1 hother
    obtain ⟨rfl, -⟩ := fromYmdOpt_eq_some hmade
    apply @far_from_base base date ⟨year, date.month, date.day⟩ hnear rfl rfl
    rintro rfl
    exact hne rfl

/-! ## Texts -/

/-- `format("%m-%d")`. -/
def monthDayText (date : CivilDate) : String :=
  s!"{padZero 2 date.month}-{padZero 2 date.day}"

/-- `NaiveDate::parse_from_str` finds both separators of a format in the text. -/
def ReadsSeparators [DateText] : Prop :=
  ∀ separator ∈ ['-', '/', '.'], ∀ text date,
    DateText.parseFromStr text s!"%Y{separator}%m{separator}%d" = some date →
      2 ≤ text.toList.count separator

theorem toList_monthDayText (date : CivilDate) :
    (monthDayText date).toList =
      (padZero 2 date.month).toList ++ '-' :: (padZero 2 date.day).toList := by
  have hparts : monthDayText date = padZero 2 date.month ++ "-" ++ padZero 2 date.day := rfl
  rw [hparts]
  simp

namespace CivilDate.IsDate

variable {date : CivilDate}

theorem month_lt (h : date.IsDate) : date.month < 10 ^ 2 := by
  have := h.month_mem
  omega

theorem day_lt (h : date.IsDate) : date.day < 10 ^ 2 := by
  have := h.day_le
  omega

/-- The characters of the text of a month and a day. -/
theorem isDigit_of_mem_monthDayText (h : date.IsDate) {c : Char}
    (hc : c ∈ (monthDayText date).toList) : c.isDigit = true ∨ c = '-' := by
  rw [toList_monthDayText, List.mem_append, List.mem_cons] at hc
  rcases hc with hc | rfl | hc
  · exact .inl ((padZero_spec (by decide) h.month_lt).1 c hc)
  · exact .inr rfl
  · exact .inl ((padZero_spec (by decide) h.day_lt).1 c hc)

/-- In the year 2000, which has a 29th of February, every day of a year is a date. -/
theorem fourDigit_2000 (h : date.IsDate) :
    CivilDate.FourDigit ⟨2000, date.month, date.day⟩ :=
  ⟨⟨by norm_num, by norm_num⟩, h.month_mem, h.day_mem⟩

end CivilDate.IsDate

/-- No digit is a hyphen. -/
theorem hyphen_notMem_of_allDigits {l : List Char} (h : AllDigits l) : '-' ∉ l := fun hmem =>
  absurd (h _ hmem) (by decide)

/-- A separator stands in the text at most once. -/
theorem count_monthDayText {date : CivilDate} (h : date.IsDate) {separator : Char}
    (hseparator : separator.isDigit = false) :
    (monthDayText date).toList.count separator ≤ 1 := by
  have hdigits : ∀ {l : List Char}, AllDigits l → l.count separator = 0 := by
    intro l hl
    rw [List.count_eq_zero]
    intro hmem
    rw [hl _ hmem] at hseparator
    cases hseparator
  rw [toList_monthDayText, List.count_append, List.count_cons,
    hdigits (padZero_spec (by decide) h.month_lt).1, hdigits (padZero_spec (by decide) h.day_lt).1]
  split_ifs <;> omega

/-! ## The engine -/

/-- A text without white space is its first word. -/
theorem firstWord_eq_self {value : String} (hne : value ≠ "")
    (h : ∀ c ∈ value.toList, isWhitespace c = false) : firstWord value = some value := by
  have hdrop : value.toList.dropWhile isWhitespace = value.toList := by
    cases hlist : value.toList with
    | nil => rfl
    | cons c cs =>
      rw [List.dropWhile_cons_of_neg]
      simp [h c (hlist ▸ List.mem_cons_self)]
  have htake : value.toList.takeWhile (!isWhitespace ·) = value.toList := by
    rw [List.takeWhile_eq_self_iff]
    intro c hc
    simp [h c hc]
  have hnil : value.toList ≠ [] := by
    intro hnil
    exact hne (String.toList_inj.1 (by simpa using hnil))
  simp only [firstWord, hdrop, htake, if_neg hnil, String.ofList_toList]

/-- The text is one word. -/
theorem firstWord_monthDayText {date : CivilDate} (hdate : date.IsDate) :
    firstWord (monthDayText date) = some (monthDayText date) := by
  apply firstWord_eq_self
  · intro hempty
    have hlist := toList_monthDayText date
    rw [hempty] at hlist
    simp at hlist
  · intro c hc
    rcases hdate.isDigit_of_mem_monthDayText hc with hdigit | rfl
    · have hbounds := toNat_of_isDigit hdigit
      simp only [isWhitespace, Bool.or_eq_false_iff, Bool.and_eq_false_iff,
        decide_eq_false_iff_not]
      omega
    · decide

section Engine

variable [DateText] {base date : CivilDate}

/-- What has one separator is no full date. -/
theorem parseFullDate_monthDayText (hseparators : ReadsSeparators) (hdate : date.IsDate) :
    parseFullDate (monthDayText date) = none := by
  have hnone : ∀ separator ∈ ['-', '/', '.'],
      DateText.parseFromStr (monthDayText date) s!"%Y{separator}%m{separator}%d" = none := by
    intro separator hmem
    rw [Option.eq_none_iff_forall_ne_some]
    intro parsed hparsed
    have htwice := hseparators separator hmem _ _ hparsed
    have honce : (monthDayText date).toList.count separator ≤ 1 := by
      apply count_monthDayText hdate
      fin_cases hmem <;> decide
    omega
  have hformats : ["%Y-%m-%d", "%Y/%m/%d", "%Y.%m.%d"].findSome?
      (fun format => DateText.parseFromStr (monthDayText date) format) = none := by
    rw [List.findSome?_eq_none_iff]
    intro format hformat
    fin_cases hformat
    · exact hnone '-' (by decide)
    · exact hnone '/' (by decide)
    · exact hnone '.' (by decide)
  unfold parseFullDate
  rw [firstWord_monthDayText hdate]
  exact hformats

/-- The engine reads the month and the day in a leap year, and takes the nearest year. -/
theorem parseRelativeDate_monthDayText (hreads : ReadsDates) (hseparators : ReadsSeparators)
    (hbase : base.IsDate) (hdate : date.IsDate) (hnear : dayDistance date base ≤ 182) :
    parseRelativeDate (monthDayText date) base = some date := by
  have hparsed := hreads _ hdate.fourDigit_2000
  have htext : formatDate ⟨2000, date.month, date.day⟩ = s!"2000-{monthDayText date}" := by
    have hjoin : ∀ text : String, s!"2000-{text}" = "2000-" ++ text := fun text => rfl
    have hyear : (padZero 4 (2000 : ℤ).toNat).toList = "2000".toList := by decide
    rw [hjoin, ← String.toList_inj, hdate.fourDigit_2000.toList_formatDate, hyear,
      String.toList_append, toList_monthDayText]
    simp
  rw [htext] at hparsed
  have hformat : ∀ format, format = "%m-%d" → s!"%Y-{format}" = "%Y-%m-%d" := by
    rintro format rfl
    decide
  have hfirst : ["%m-%d", "%m/%d", "%m.%d"].findSome? (fun format =>
      DateText.parseFromStr s!"2000-{monthDayText date}" s!"%Y-{format}") =
        some ⟨2000, date.month, date.day⟩ := by
    rw [List.findSome?_cons, hformat _ rfl, hparsed]
  unfold parseRelativeDate
  rw [parseFullDate_monthDayText hseparators hdate, firstWord_monthDayText hdate]
  simp only [Option.bind_eq_bind, Option.bind_some, hfirst]
  exact minByKey_candidates hbase hdate hnear

end Engine

/-! ## The terminal -/

section Terminal

variable {base date : CivilDate}

/-- A text without an end and without a sign of its own is its own normalized token. -/
theorem normalizeDateToken_dateToken_eq_self {value : String}
    (h : ∀ c ∈ value.toList, c.isDigit = true ∨ c = '-') :
    normalizeDateToken (dateToken value) = value := by
  have hplain : ∀ c ∈ value.toList, c ∉ ['T', ' ', '日', '年', '月', '/', '.'] := by
    intro c hc hmem
    rcases h c hc with hdigit | rfl
    · fin_cases hmem <;> exact absurd hdigit (by decide)
    · exact absurd hmem (by decide)
  have htoken : dateToken value = value := by
    have htake : value.toList.takeWhile (fun c => c ≠ 'T' ∧ c ≠ ' ') = value.toList := by
      rw [List.takeWhile_eq_self_iff]
      intro c hc
      have hc := hplain c hc
      simp only [List.mem_cons, not_or] at hc
      simp [hc.1, hc.2.1]
    rw [dateToken, htake, String.ofList_toList]
  have hdrop : value.toList.rdropWhile (fun c => c = '日') = value.toList := by
    rw [List.rdropWhile_eq_self_iff]
    intro hne hlast
    exact hplain _ (List.getLast_mem hne) (by simpa using .inr (.inr (.inl (by simpa using hlast))))
  have hmap : value.toList.map (fun character =>
      if character ∈ ['年', '月', '/', '.'] then '-' else character) = value.toList := by
    rw [List.map_congr_left (g := id), List.map_id]
    intro c hc
    have hc := hplain c hc
    simp only [List.mem_cons, not_or] at hc
    simp [hc]
  rw [htoken, normalizeDateToken, hdrop, hmap, String.ofList_toList]

/-- A number is read back from its digits. -/
theorem parseU32_padZero {width n : ℕ} (hpos : 0 < width) (h : n < 10 ^ width)
    (hfits : n < 2 ^ 32) : parseU32 (padZero width n) = some n := by
  obtain ⟨hdigits, hlength, hvalue⟩ := padZero_spec hpos h
  have hne : (padZero width n).toList ≠ [] := by
    intro hnil
    rw [hnil] at hlength
    exact hpos.ne hlength
  have hbound : Nat.ofDigitChars 10 (padZero width n).toList 0 < 2 ^ 32 := by
    rw [hvalue]
    exact hfits
  rw [parseU32_of_allDigits hdigits hne hbound, hvalue]

/-- The text splits into the month and the day. -/
theorem splitOnChar_monthDayText (hdate : date.IsDate) :
    splitOnChar (monthDayText date) '-' = [padZero 2 date.month, padZero 2 date.day] := by
  have hjoined : monthDayText date =
      ('-').toString.intercalate [padZero 2 date.month, padZero 2 date.day] := by
    rw [← String.toList_inj, toList_monthDayText]
    simp
  rw [hjoined]
  apply splitOnChar_intercalate
  · simp
  · intro piece hpiece
    rcases List.mem_pair.1 hpiece with rfl | rfl
    · exact hyphen_notMem_of_allDigits (padZero_spec (by decide) hdate.month_lt).1
    · exact hyphen_notMem_of_allDigits (padZero_spec (by decide) hdate.day_lt).1

/-- The terminal reads the month and the day, and takes the nearest year. -/
theorem parseCalendarDate_monthDayText (hbase : base.IsDate) (hdate : date.IsDate)
    (hnear : dayDistance date base ≤ 182) :
    parseCalendarDate (monthDayText date) base = some date := by
  have hmonth := parseU32_padZero (by decide : 0 < 2) hdate.month_lt
    (hdate.month_lt.trans (by decide))
  have hday := parseU32_padZero (by decide : 0 < 2) hdate.day_lt (hdate.day_lt.trans (by decide))
  have hnearest := minByKey_candidates hbase hdate hnear
  simp only [parseCalendarDate, parseCalendarDateWithLen,
    normalizeDateToken_dateToken_eq_self fun c => hdate.isDigit_of_mem_monthDayText,
    splitOnChar_monthDayText hdate, hmonth, hday, Option.bind_eq_bind, Option.bind_some, hnearest,
    Option.map_some, Option.pure_def]

end Terminal

/-! ## Both readers -/

/-- A date within half a year of the base, written without its year, is read back by the engine and
by the terminal. -/
theorem relative_date_round_trip [DateText] (hreads : ReadsDates) (hseparators : ReadsSeparators)
    {base date : CivilDate} (hbase : base.IsDate) (hdate : date.IsDate)
    (hnear : dayDistance date base ≤ 182) :
    parseRelativeDate (monthDayText date) base = some date ∧
      parseCalendarDate (monthDayText date) base = some date :=
  ⟨parseRelativeDate_monthDayText hreads hseparators hbase hdate hnear,
    parseCalendarDate_monthDayText hbase hdate hnear⟩

/-- The texts `YYYY-MM-DD` have both separators. -/
theorem readsSeparators_isoDateText : @ReadsSeparators isoDateText := by
  intro separator hmem text date hparsed
  have hother : ∀ other ∈ ['/', '.'], s!"%Y{other}%m{other}%d" ≠ "%Y-%m-%d" := by
    rintro other (_ | ⟨_, _ | ⟨_, ⟨⟩⟩⟩)
    · decide
    · decide
  show 2 ≤ text.toList.count separator
  by_cases hsame : separator = '-'
  · subst hsame
    change (if "%Y-%m-%d" = "%Y-%m-%d" then readIsoDate text else none) = some date at hparsed
    rw [if_pos rfl] at hparsed
    simp only [readIsoDate] at hparsed
    split_ifs at hparsed with hvalid
    obtain ⟨hfour, htext⟩ := hvalid
    rw [← htext, hfour.toList_formatDate]
    simp only [List.count_append, List.count_cons_self]
    omega
  · have hrest : separator ∈ ['/', '.'] := by simpa [hsame] using hmem
    change (if s!"%Y{separator}%m{separator}%d" = "%Y-%m-%d" then readIsoDate text else none) =
      some date at hparsed
    rw [if_neg (hother separator hrest)] at hparsed
    cases hparsed

section Sample

attribute [local instance] isoDateText

/-- A leap day, as seen from the middle of January. -/
theorem relative_date_round_trip_sample :
    parseRelativeDate (monthDayText ⟨2028, 2, 29⟩) ⟨2028, 1, 15⟩ = some ⟨2028, 2, 29⟩ ∧
      parseCalendarDate (monthDayText ⟨2028, 2, 29⟩) ⟨2028, 1, 15⟩ = some ⟨2028, 2, 29⟩ :=
  relative_date_round_trip readsDates_isoDateText readsSeparators_isoDateText (by decide)
    (by decide) (by decide)

end Sample

end WeatherApp
