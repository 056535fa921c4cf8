import WeatherApp.Renderer.DateLabel

/-!
# The same date in both renderers

The terminal splits a text at its separators and reads the numbers, the window matches it against
two expressions. A text in the common notation, which the expressions describe, is read alike by
both, and no other text is read by both. Where both read a date or neither does, the labels are the
same.

## Main definitions

* `CommonNotation`: the texts that both renderers read.

## Main results

* `Gui.calendarDate_eq`: both know the same dates from the year 100 to the year 9999.
* `date_labels_agree`: the labels are the same on the texts that are read alike.
-/

namespace WeatherApp

open Weather (minByKey)

/-! ## The calendar of the window -/

namespace Gui

/-- In a month that exists, `Date.UTC` counts the days like the calendar. -/
theorem dateUtc_eq {year : ℤ} {month day : ℕ} (hyear : 100 ≤ year)
    (hmonth : 1 ≤ month ∧ month ≤ 12) : dateUtc year month day = daysFromCivil ⟨year, month, day⟩ := by
  have hindex : ((month : ℤ) - 1) / 12 = 0 := by omega
  have hrest : (((month : ℤ) - 1) % 12).toNat + 1 = month := by omega
  have hfull : (if 0 ≤ year ∧ year ≤ 99 then 1900 + year else year) = year := by
    rw [if_neg]
    omega
  simp only [dateUtc, hfull, hindex, hrest, add_zero, daysFromCivil_eq]
  split_ifs <;> omega

/-- A date as the window keeps it. -/
def CalendarDate.ofDate (date : CivilDate) : CalendarDate := ⟨date, daysFromCivil date⟩

/-- From the year 100 on, the window knows the dates of the calendar. -/
theorem calendarDate_eq {year : ℤ} {month day : ℕ} (hyear : 100 ≤ year ∧ year ≤ 9999) :
    calendarDate year month day = (fromYmdOpt year month day).map CalendarDate.ofDate := by
  by_cases hmonth : 1 ≤ month ∧ month ≤ 12
  · simp only [calendarDate, fromYmdOpt, dateUtc_eq hyear.1 hmonth]
    by_cases hvalid : civilFromDays (daysFromCivil ⟨year, month, day⟩) = ⟨year, month, day⟩
    · -- a date of these years is far from both ends of the range
      have hday : 1 ≤ day ∧ day ≤ daysInMonth 2000 month := by
        have hmem := (civilFromDays_mem (daysFromCivil ⟨year, month, day⟩)).2
        rwa [hvalid] at hmem
      have hlast := hday.2.trans (daysInMonth_le _ _)
      have hrange : (daysFromCivil ⟨year, month, day⟩).natAbs ≤ 100000000 := by
        simp only [daysFromCivil_eq, leapDays, daysBeforeMonth]
        split_ifs <;> omega
      rw [if_pos ⟨hrange, hvalid⟩, if_pos ⟨hvalid, by omega, by omega⟩]
      rfl
    · simp [hvalid]
  · -- no date has such a month
    have hmissing : ∀ days, civilFromDays days ≠ ⟨year, month, day⟩ := by
      intro days heq
      have hmem := (civilFromDays_mem days).1
      rw [heq] at hmem
      exact hmonth hmem
    simp [calendarDate, fromYmdOpt, hmissing]

/-- The years 0 to 99 are those of another century for `Date.UTC`, so they have no dates. -/
theorem le_of_calendarDate_eq_some {year : ℤ} {month day : ℕ} {date : CalendarDate}
    (h : calendarDate year month day = some date) (hyear : 0 ≤ year) (hmonth : month ≤ 99) :
    100 ≤ year := by
  simp only [calendarDate] at h
  split_ifs at h with hvalid
  by_contra hearly
  have hlate : 1600 ≤ (civilFromDays (dateUtc year month day)).year := by
    have hdays : 0 ≤ dateUtc year month day + 60000 := by
      simp only [dateUtc, if_pos (show 0 ≤ year ∧ year ≤ 99 by omega), daysFromCivil_eq, leapDays,
        daysBeforeMonth]
      split_ifs <;> omega
    generalize dateUtc year month day = days at hdays
    simp only [civilFromDays]
    split_ifs <;> omega
  rw [hvalid.2] at hlate
  dsimp only at hlate
  omega

/-- Today, in the years whose neighbours the window knows. -/
theorem localCalendarDate_eq {today : CivilDate} (htoday : today.IsDate)
    (hyear : 100 ≤ today.year ∧ today.year ≤ 9999) :
    localCalendarDate today = CalendarDate.ofDate today := by
  rw [localCalendarDate, calendarDate_eq hyear, htoday]
  rfl

/-! ## The labels of a date -/

/-- The padding of the window is that of the terminal. -/
theorem padStart_natCast (length n : ℕ) : padStart length n = padZero length n := rfl

theorem specificDate_ofDate {date : CivilDate} (hyear : 0 ≤ date.year ∧ date.year ≤ 9999) :
    specificDate (.ofDate date) = formatDate date := by
  have htext : padStart 4 date.year = padZero 4 date.year.toNat := by
    rw [← padStart_natCast, Int.toNat_of_nonneg hyear.1]
  simp only [specificDate, CalendarDate.ofDate, formatDate, if_pos hyear, htext, padStart_natCast]

/-- The weeks start on Sunday in the window and on Monday in the terminal. -/
theorem weekdayName_eq (date : CivilDate) :
    weekdayName (daysFromCivil date) = WeatherApp.weekdayName date := by
  simp only [weekdayName, WeatherApp.weekdayName]
  generalize daysFromCivil date = days
  obtain ⟨rest, hrest⟩ : ∃ rest, rest = days % 7 := ⟨_, rfl⟩
  have hsunday : (days + 4) % 7 = (rest + 4) % 7 := by omega
  have hmonday : (days + 3) % 7 = (rest + 3) % 7 := by omega
  rw [hsunday, hmonday]
  have hlow : 0 ≤ rest := by omega
  have hhigh : rest ≤ 6 := by omega
  interval_cases rest <;> rfl

/-- Both renderers write a date in the same way. -/
theorem labelForDate_ofDate {date today : CivilDate} (hyear : 0 ≤ date.year ∧ date.year ≤ 9999) :
    labelForDate (.ofDate date) (.ofDate today) = WeatherApp.labelForDate date today := by
  simp only [labelForDate, WeatherApp.labelForDate, specificDate_ofDate hyear]
  simp only [CalendarDate.ofDate, weekdayName_eq]

end Gui

/-! ## The common notation -/

/-- One or two digits. -/
def ShortNumber (digits : List Char) : Prop :=
  AllDigits digits ∧ 1 ≤ digits.length ∧ digits.length ≤ 2

/-- A date in the notation of both renderers: a year of four digits from 0100 on or none, the month
and the day of one or two digits, with their separators, and then the end, a `T` or a blank. -/
structure SharedSpelling where
  year : Option (List Char × Char)
  month : List Char
  separator : Char
  day : List Char
  mark : List Char
  rest : List Char
  year_digits : ∀ part ∈ year, AllDigits part.1 ∧ part.1.length = 4 ∧
    100 ≤ Nat.ofDigitChars 10 part.1 0 ∧ part.2 ∈ ['-', '/', '.', '年']
  month_digits : ShortNumber month
  separator_mem : separator ∈ ['-', '/', '.', '月']
  day_digits : ShortNumber day
  mark_eq : mark = [] ∨ mark = ['日']
  rest_eq : rest = [] ∨ ∃ c cs, rest = c :: cs ∧ (c = 'T' ∨ c = ' ')

namespace SharedSpelling

/-- The month and all that follows. -/
def monthText (spelling : SharedSpelling) : List Char :=
  spelling.month ++ spelling.separator :: (spelling.day ++ (spelling.mark ++ spelling.rest))

/-- The text of a date. -/
def text (spelling : SharedSpelling) : List Char :=
  match spelling.year with
  | some (digits, separator) => digits ++ separator :: spelling.monthText
  | none => spelling.monthText

/-- The number of the month. -/
def monthNumber (spelling : SharedSpelling) : ℕ := Nat.ofDigitChars 10 spelling.month 0

/-- The number of the day. -/
def dayNumber (spelling : SharedSpelling) : ℕ := Nat.ofDigitChars 10 spelling.day 0

/-- What follows the day is no digit. -/
theorem isDigit_of_mem_head? (spelling : SharedSpelling) (c : Char)
    (h : c ∈ (spelling.mark ++ spelling.rest).head?) : c.isDigit = false := by
  rcases spelling.mark_eq with hmark | hmark
  · rcases spelling.rest_eq with hrest | ⟨first, others, hrest, hfirst⟩
    · simp [hmark, hrest] at h
    · obtain rfl : first = c := by simpa [hmark, hrest] using h
      rcases hfirst with rfl | rfl <;> decide
  · obtain rfl : '日' = c := by simpa [hmark] using h
    decide

end SharedSpelling

/-- The text is a date in the notation that both renderers read. -/
def CommonNotation (text : List Char) : Prop := ∃ spelling : SharedSpelling, spelling.text = text

/-- The value of one or two digits. -/
theorem ShortNumber.lt {digits : List Char} (h : ShortNumber digits) :
    Nat.ofDigitChars 10 digits 0 < 100 := by
  have hbound := ofDigitChars_lt h.1
  have hpow := Nat.pow_le_pow_right (show 0 < 10 by decide) h.2.2
  omega

/-! ## The window on the common notation -/

namespace Gui

/-- The digits before something else. -/
theorem takeWhile_take_append {most : ℕ} {digits rest : List Char} (hdigits : AllDigits digits)
    (hmost : digits.length ≤ most) (hrest : ∀ c ∈ rest.head?, c.isDigit = false) :
    ((digits ++ rest).take most).takeWhile Char.isDigit = digits := by
  rw [List.take_append, List.take_of_length_le hmost, List.takeWhile_append_of_pos hdigits]
  cases rest with
  | nil => simp
  | cons c cs =>
    have hc : c.isDigit = false := hrest c rfl
    cases most - digits.length with
    | zero => simp
    | succ n => simp [hc]

/-- They are a number, if they are enough. -/
theorem matchDigits_append {least most : ℕ} {digits rest : List Char} (hdigits : AllDigits digits)
    (hleast : least ≤ digits.length) (hmost : digits.length ≤ most)
    (hrest : ∀ c ∈ rest.head?, c.isDigit = false) :
    matchDigits least most (digits ++ rest) = some (Nat.ofDigitChars 10 digits 0, rest) := by
  simp only [matchDigits, takeWhile_take_append hdigits hmost hrest, if_pos hleast, List.drop_left]

theorem matchDigits_cons {least most : ℕ} {digits : List Char} {c : Char} (hdigits : AllDigits digits)
    (hleast : least ≤ digits.length) (hmost : digits.length ≤ most) (hc : c.isDigit = false)
    (rest : List Char) :
    matchDigits least most (digits ++ c :: rest) =
      some (Nat.ofDigitChars 10 digits 0, c :: rest) := by
  apply matchDigits_append hdigits hleast hmost
  intro first hfirst
  rwa [← Option.some.inj hfirst]

theorem isDigit_of_mem_separators {c sign : Char} (h : c ∈ ['-', '/', '.', sign])
    (hsign : sign.isDigit = false) : c.isDigit = false := by
  simp only [List.mem_cons, List.not_mem_nil, or_false] at h
  rcases h with rfl | rfl | rfl | rfl
  · decide
  · decide
  · decide
  · exact hsign

/-- A date in the common notation ends where the window wants it to end. -/
theorem matchEnd_mark_rest (spelling : SharedSpelling) :
    matchEnd (spelling.mark ++ spelling.rest) = true := by
  rcases spelling.mark_eq with hmark | hmark <;>
    rcases spelling.rest_eq with hrest | ⟨first, others, hrest, rfl | rfl⟩ <;>
      rw [hmark, hrest] <;> rfl

theorem matchPartial_monthText (spelling : SharedSpelling) :
    matchPartial spelling.monthText = some (spelling.monthNumber, spelling.dayNumber) := by
  have hmonth := spelling.month_digits
  have hday := spelling.day_digits
  have hseparator := isDigit_of_mem_separators spelling.separator_mem (by decide)
  have hfirst := matchDigits_cons hmonth.1 hmonth.2.1 hmonth.2.2 hseparator
    (spelling.day ++ (spelling.mark ++ spelling.rest))
  have hsecond := matchDigits_append hday.1 hday.2.1 hday.2.2 spelling.isDigit_of_mem_head?
  simp only [matchPartial, SharedSpelling.monthText, hfirst, Option.bind_eq_bind, Option.bind_some,
    matchSeparator, if_pos spelling.separator_mem, hsecond, matchEnd_mark_rest, if_true]
  rfl

/-- The window reads the numbers of the common notation, and makes the date of its year or the
nearest one. -/
theorem parsedCalendarDate_of_spelling {value : String} {spelling : SharedSpelling}
    (htrim : jsTrim value = String.ofList spelling.text) (today : CalendarDate) :
    parsedCalendarDate value today =
      match spelling.year with
      | some (digits, _) =>
        calendarDate (Nat.ofDigitChars 10 digits 0) spelling.monthNumber spelling.dayNumber
      | none =>
        minByKey (fun candidate => (candidate.ordinal - today.ordinal).natAbs)
          ([today.date.year - 1, today.date.year, today.date.year + 1].filterMap fun year =>
            calendarDate year spelling.monthNumber spelling.dayNumber) := by
  simp only [parsedCalendarDate, htrim, String.toList_ofList]
  cases hyear : spelling.year with
  | some part =>
    obtain ⟨digits, separator⟩ := part
    obtain ⟨hdigits, hlength, -, hseparator⟩ := spelling.year_digits _ hyear
    have hfour := matchDigits_cons hdigits hlength.ge hlength.le
      (isDigit_of_mem_separators hseparator (by decide)) spelling.monthText
    have hfull : matchFull spelling.text = some (Nat.ofDigitChars 10 digits 0,
        spelling.monthNumber, spelling.dayNumber) := by
      simp only [matchFull, SharedSpelling.text, hyear, hfour, Option.bind_eq_bind,
        Option.bind_some, matchSeparator, if_pos hseparator, matchPartial_monthText]
      rfl
    rw [hfull]
  | none =>
    have htext : spelling.text = spelling.monthText := by
      rw [SharedSpelling.text, hyear]
    -- one or two digits are no year
    have hfull : matchFull spelling.text = none := by
      obtain ⟨hdigits, -, hlength⟩ := spelling.month_digits
      have hmonth : (spelling.monthText.take 4).takeWhile Char.isDigit = spelling.month := by
        apply takeWhile_take_append hdigits (hlength.trans (by decide))
        intro first hfirst
        rw [← Option.some.inj hfirst]
        exact isDigit_of_mem_separators spelling.separator_mem (by decide)
      have hshort : ¬ 4 ≤ spelling.month.length := by omega
      simp [matchFull, matchDigits, htext, hmonth, hshort]
    rw [hfull, htext, matchPartial_monthText]

end Gui

/-! ## The terminal on the common notation -/

theorem ShortNumber.parseU32_eq {digits : List Char} (h : ShortNumber digits) :
    parseU32 (String.ofList digits) = some (Nat.ofDigitChars 10 digits 0) := by
  have hbound := h.lt
  have hlist : (String.ofList digits).toList = digits := String.toList_ofList
  rw [parseU32_of_allDigits (hlist.symm ▸ h.1)] <;> rw [hlist]
  · rintro rfl
    exact absurd h.2.1 (by decide)
  · omega

namespace SharedSpelling

/-- What stands before the end. -/
def dateText (spelling : SharedSpelling) : List Char :=
  match spelling.year with
  | some (digits, separator) =>
    digits ++ separator :: (spelling.month ++ spelling.separator :: spelling.day)
  | none => spelling.month ++ spelling.separator :: spelling.day

theorem text_eq (spelling : SharedSpelling) :
    spelling.text = spelling.dateText ++ (spelling.mark ++ spelling.rest) := by
  simp only [text, dateText, monthText]
  cases spelling.year <;> simp

/-- The characters of the numbers and the separators. -/
theorem isDigit_of_mem_dateText {spelling : SharedSpelling} {c : Char}
    (h : c ∈ spelling.dateText) :
    c.isDigit = true ∨ c ∈ ['年', '月', '/', '.', '-'] := by
  have hmonth := spelling.month_digits.1 c
  have hday := spelling.day_digits.1 c
  have hsigns : ∀ {c sign : Char}, c ∈ ['-', '/', '.', sign] → sign ∈ ['年', '月'] →
      c ∈ ['年', '月', '/', '.', '-'] := by
    intro c sign hc hsign
    fin_cases hsign <;> fin_cases hc <;> decide
  have hmonthText : c ∈ spelling.month ++ spelling.separator :: spelling.day →
      c.isDigit = true ∨ c ∈ ['年', '月', '/', '.', '-'] := by
    intro hc
    rw [List.mem_append, List.mem_cons] at hc
    rcases hc with hc | rfl | hc
    · exact .inl (hmonth hc)
    · exact .inr (hsigns spelling.separator_mem (by decide))
    · exact .inl (hday hc)
  simp only [dateText] at h
  cases hyear : spelling.year with
  | none =>
    rw [hyear] at h
    exact hmonthText h
  | some part =>
    rw [hyear] at h
    obtain ⟨hdigits, -, -, hseparator⟩ := spelling.year_digits _ hyear
    rcases List.mem_append.1 h with hc | hc
    · exact .inl (hdigits c hc)
    · rcases List.mem_cons.1 hc with rfl | hc
      · exact .inr (hsigns hseparator (by decide))
      · exact hmonthText hc

/-- No character before the end ends a date. -/
theorem ne_of_mem_dateText_mark (spelling : SharedSpelling) :
    ∀ c ∈ spelling.dateText ++ spelling.mark, c ≠ 'T' ∧ c ≠ ' ' := by
  intro c hc
  rcases List.mem_append.1 hc with hc | hc
  · rcases isDigit_of_mem_dateText hc with hdigit | hmem
    · constructor <;> rintro rfl <;> exact absurd hdigit (by decide)
    · fin_cases hmem <;> decide
  · rcases spelling.mark_eq with hmark | hmark
    · simp [hmark] at hc
    · obtain rfl : c = '日' := by simpa [hmark] using hc
      decide

/-- The terminal cuts the text at its end. -/
theorem dateToken_text (spelling : SharedSpelling) :
    dateToken (String.ofList spelling.text) =
      String.ofList (spelling.dateText ++ spelling.mark) := by
  rw [dateToken, String.toList_ofList, text_eq, ← List.append_assoc,
    List.takeWhile_append_of_pos fun c hc => decide_eq_true (spelling.ne_of_mem_dateText_mark c hc)]
  rcases spelling.rest_eq with hrest | ⟨first, others, hrest, hfirst⟩
  · simp [hrest]
  · have hend : ¬ (first ≠ 'T' ∧ first ≠ ' ') := by tauto
    simp [hrest, hend]

/-- The mark of the day is dropped, and no digit before it. -/
theorem rdropWhile_dateText_mark (spelling : SharedSpelling) :
    (spelling.dateText ++ spelling.mark).rdropWhile (fun c => c = '日') = spelling.dateText := by
  have hself : spelling.dateText.rdropWhile (fun c => c = '日') = spelling.dateText := by
    obtain ⟨front, hfront⟩ : ∃ front, spelling.dateText = front ++ spelling.day := by
      simp only [dateText]
      cases spelling.year with
      | none => exact ⟨spelling.month ++ [spelling.separator], by simp⟩
      | some part => exact ⟨part.1 ++ part.2 :: (spelling.month ++ [spelling.separator]), by simp⟩
    have hday : spelling.day ≠ [] := by
      intro hnil
      have hlength := spelling.day_digits.2.1
      rw [hnil] at hlength
      exact absurd hlength (by decide)
    rw [List.rdropWhile_eq_self_iff, hfront]
    intro hne hlast
    rw [List.getLast_append_of_ne_nil hne hday, decide_eq_true_eq] at hlast
    have hdigit := spelling.day_digits.1 _ (List.getLast_mem hday)
    rw [hlast] at hdigit
    exact absurd hdigit (by decide)
  rcases spelling.mark_eq with hmark | hmark
  · rw [hmark, List.append_nil, hself]
  · rw [hmark, List.rdropWhile_concat_pos _ _ _ (by decide), hself]

/-- The pieces between the separators. -/
def pieces (spelling : SharedSpelling) : List String :=
  (spelling.year.toList.map fun part => String.ofList part.1) ++
    [String.ofList spelling.month, String.ofList spelling.day]

/-- Digits are kept, and separators become hyphens. -/
theorem normalizeDateToken_dateText (spelling : SharedSpelling) :
    normalizeDateToken (String.ofList (spelling.dateText ++ spelling.mark)) =
      ('-').toString.intercalate spelling.pieces := by
  have hkept : ∀ {digits : List Char}, AllDigits digits → digits.map (fun character =>
      if character ∈ ['年', '月', '/', '.'] then '-' else character) = digits := by
    intro digits hdigits
    rw [List.map_congr_left (g := id), List.map_id]
    intro c hc
    rw [if_neg]
    · rfl
    · intro hmem
      have hdigit := hdigits c hc
      fin_cases hmem <;> exact absurd hdigit (by decide)
  have hseparator : ∀ {c sign : Char}, c ∈ ['-', '/', '.', sign] → sign ∈ ['年', '月'] →
      (if c ∈ ['年', '月', '/', '.'] then '-' else c) = '-' := by
    intro c sign hc hsign
    fin_cases hsign <;> fin_cases hc <;> decide
  have hmonth := hkept spelling.month_digits.1
  have hday := hkept spelling.day_digits.1
  have hsecond := hseparator spelling.separator_mem (by decide)
  rw [← String.toList_inj, normalizeDateToken, String.toList_ofList, String.toList_ofList,
    rdropWhile_dateText_mark, pieces]
  simp only [dateText]
  cases hyear : spelling.year with
  | none =>
    rw [List.map_append, List.map_cons, hmonth, hday, hsecond]
    simp
  | some part =>
    obtain ⟨hdigits, -, -, hmem⟩ := spelling.year_digits _ hyear
    have hfirst := hseparator hmem (by decide)
    rw [List.map_append, List.map_cons, List.map_append, List.map_cons, hkept hdigits, hmonth, hday,
      hfirst, hsecond]
    simp

theorem splitOnChar_normalizeDateToken (spelling : SharedSpelling) :
    splitOnChar (normalizeDateToken (dateToken (String.ofList spelling.text))) '-' =
      spelling.pieces := by
  rw [dateToken_text, normalizeDateToken_dateText]
  apply splitOnChar_intercalate
  · simp [pieces]
  · have hplain : ∀ {digits : List Char}, AllDigits digits →
        '-' ∉ (String.ofList digits).toList := by
      intro digits hdigits hmem
      rw [String.toList_ofList] at hmem
      exact absurd (hdigits _ hmem) (by decide)
    intro piece hpiece
    rcases List.mem_append.1 hpiece with hpiece | hpiece
    · obtain ⟨part, hpart, rfl⟩ := List.mem_map.1 hpiece
      exact hplain (spelling.year_digits part (Option.mem_toList.1 hpart)).1
    · rcases List.mem_pair.1 hpiece with rfl | rfl
      · exact hplain spelling.month_digits.1
      · exact hplain spelling.day_digits.1

/-- The terminal reads the numbers of the common notation, and makes the date of its year or the
nearest one. -/
theorem parseCalendarDate_text (spelling : SharedSpelling) (today : CivilDate) :
    parseCalendarDate (String.ofList spelling.text) today =
      match spelling.year with
      | some (digits, _) =>
        fromYmdOpt (Nat.ofDigitChars 10 digits 0) spelling.monthNumber spelling.dayNumber
      | none =>
        minByKey (fun candidate => dayDistance candidate today)
          ([today.year - 1, today.year, today.year + 1].filterMap fun year =>
            fromYmdOpt year spelling.monthNumber spelling.dayNumber) := by
  have hmonth : parseU32 (String.ofList spelling.month) = some spelling.monthNumber :=
    spelling.month_digits.parseU32_eq
  have hday : parseU32 (String.ofList spelling.day) = some spelling.dayNumber :=
    spelling.day_digits.parseU32_eq
  have hpieces := spelling.splitOnChar_normalizeDateToken
  rw [pieces] at hpieces
  cases hyear : spelling.year with
  | none =>
    rw [hyear] at hpieces
    simp only [parseCalendarDate, parseCalendarDateWithLen, hpieces, Option.toList_none,
      List.map_nil, List.nil_append, hmonth, hday, Option.bind_eq_bind, Option.bind_some]
    cases minByKey _ _ <;> rfl
  | some part =>
    obtain ⟨hdigits, hlength, -, -⟩ := spelling.year_digits _ hyear
    have hlist : (String.ofList part.1).toList = part.1 := String.toList_ofList
    have hnumber : parseI32 (String.ofList part.1) =
        some (Nat.ofDigitChars 10 part.1 0 : ℤ) := by
      have hbound := ofDigitChars_lt hdigits
      rw [hlength] at hbound
      rw [parseI32_of_allDigits (hlist.symm ▸ hdigits)] <;> rw [hlist]
      · intro hnil
        rw [hnil] at hlength
        exact absurd hlength (by decide)
      · omega
    rw [hyear] at hpieces
    simp only [parseCalendarDate, parseCalendarDateWithLen, hpieces, Option.toList_some,
      List.map_cons, List.map_nil, List.cons_append, List.nil_append, hnumber, hmonth, hday,
      Option.bind_eq_bind, Option.bind_some]
    cases fromYmdOpt _ _ _ <;> rfl

end SharedSpelling

/-! ## The same dates -/

theorem minByKey_map {α β : Type} (key : β → ℕ) (f : α → β) (xs : List α) :
    minByKey key (xs.map f) = (minByKey (fun x => key (f x)) xs).map f := by
  induction xs with
  | nil => rfl
  | cons x xs ih =>
    rw [List.map_cons, minByKey, minByKey, ih]
    cases minByKey (fun x => key (f x)) xs with
    | none => rfl
    | some best =>
      simp only [Option.map_some]
      split_ifs <;> rfl

/-- What both renderers make of a text in the common notation. -/
theorem SharedSpelling.parsedCalendarDate_eq {spelling : SharedSpelling} {value : String}
    {today : CivilDate} (hyear : 101 ≤ today.year ∧ today.year ≤ 9998)
    (hvalue : value.toList = spelling.text) (htrim : Gui.jsTrim value = value) :
    Gui.parsedCalendarDate value (.ofDate today) =
      (parseCalendarDate value today).map Gui.CalendarDate.ofDate := by
  obtain rfl : value = String.ofList spelling.text := by rw [← hvalue, String.ofList_toList]
  rw [Gui.parsedCalendarDate_of_spelling htrim, parseCalendarDate_text]
  cases hspelled : spelling.year with
  | some part =>
    obtain ⟨hdigits, hlength, hearly, -⟩ := spelling.year_digits _ hspelled
    have hlate := ofDigitChars_lt hdigits
    rw [hlength] at hlate
    apply Gui.calendarDate_eq
    omega
  | none =>
    have hcandidates : ([today.year - 1, today.year, today.year + 1].filterMap fun year =>
        Gui.calendarDate year spelling.monthNumber spelling.dayNumber) =
          ([today.year - 1, today.year, today.year + 1].filterMap fun year =>
            fromYmdOpt year spelling.monthNumber spelling.dayNumber).map
              Gui.CalendarDate.ofDate := by
      rw [List.map_filterMap]
      apply List.filterMap_congr
      intro year hmem
      apply Gui.calendarDate_eq
      simp only [List.mem_cons, List.not_mem_nil, or_false] at hmem
      omega
    show minByKey _ ([today.year - 1, today.year, today.year + 1].filterMap fun year =>
      Gui.calendarDate year spelling.monthNumber spelling.dayNumber) = _
    rw [hcandidates, minByKey_map]
    rfl

/-- A date in the common notation is of the years whose four digits both renderers write alike. -/
theorem SharedSpelling.year_mem {spelling : SharedSpelling} {today date : CivilDate}
    (hyear : 101 ≤ today.year ∧ today.year ≤ 9998)
    (h : parseCalendarDate (String.ofList spelling.text) today = some date) :
    0 ≤ date.year ∧ date.year ≤ 9999 := by
  rw [parseCalendarDate_text] at h
  cases hspelled : spelling.year with
  | some part =>
    obtain ⟨hdigits, hlength, hearly, -⟩ := spelling.year_digits _ hspelled
    have hlate := ofDigitChars_lt hdigits
    rw [hlength] at hlate
    rw [hspelled] at h
    obtain ⟨rfl, -⟩ := fromYmdOpt_eq_some h
    show 0 ≤ (Nat.ofDigitChars 10 part.1 0 : ℤ) ∧ (Nat.ofDigitChars 10 part.1 0 : ℤ) ≤ 9999
    omega
  | none =>
    rw [hspelled] at h
    obtain ⟨year, hmem, hmade⟩ := List.mem_filterMap.1 (mem_of_minByKey_eq_some h)
    obtain ⟨rfl, -⟩ := fromYmdOpt_eq_some hmade
    simp only [List.mem_cons, List.not_mem_nil, or_false] at hmem
    show 0 ≤ year ∧ year ≤ 9999
    omega

/-! ## No other text is read by both -/

namespace Gui

/-- What is matched as a number is its digits. -/
theorem matchDigits_eq_some {least most n : ℕ} {input rest : List Char}
    (h : matchDigits least most input = some (n, rest)) : ∃ digits, input = digits ++ rest ∧
      AllDigits digits ∧ least ≤ digits.length ∧ digits.length ≤ most ∧
        n = Nat.ofDigitChars 10 digits 0 := by
  simp only [matchDigits] at h
  split_ifs at h with hleast
  obtain ⟨rfl, rfl⟩ := Prod.mk.inj (Option.some.inj h)
  have hstarts : (input.take most).takeWhile Char.isDigit <+: input :=
    (List.takeWhile_prefix _).trans (List.take_prefix _ _)
  refine ⟨(input.take most).takeWhile Char.isDigit, ?_, ?_, hleast, ?_, rfl⟩
  · exact (List.prefix_iff_eq_append.1 hstarts).symm
  · exact fun c hc => List.mem_takeWhile_imp hc
  · exact ((List.takeWhile_prefix _).length_le).trans (List.length_take_le _ _)

theorem matchSeparator_eq_some {sign : Char} {input rest : List Char}
    (h : matchSeparator sign input = some rest) :
    ∃ c, input = c :: rest ∧ c ∈ ['-', '/', '.', sign] := by
  cases input with
  | nil => cases h
  | cons c cs =>
    simp only [matchSeparator] at h
    split_ifs at h with hmem
    obtain rfl := Option.some.inj h
    exact ⟨c, rfl, hmem⟩

/-- A date ends with its mark, if there is one, and then at the end, a `T` or white space. -/
theorem matchEnd_eq_true {input : List Char} (h : matchEnd input = true) :
    ∃ mark rest, input = mark ++ rest ∧ (mark = [] ∨ mark = ['日']) ∧
      (rest = [] ∨ ∃ c cs, rest = c :: cs ∧ (c = 'T' ∨ isJsWhitespace c = true)) := by
  unfold matchEnd at h
  dsimp only at h
  -- whether anything is left after the mark, and whether there was a mark
  split at h
  next hrest =>
    split at hrest
    next => exact ⟨['日'], _, rfl, .inr rfl, .inl hrest⟩
    next => exact ⟨[], _, rfl, .inl rfl, .inl hrest⟩
  next c cs hrest =>
    simp only [Bool.or_eq_true, decide_eq_true_eq] at h
    split at hrest
    next => exact ⟨['日'], _, rfl, .inr rfl, .inr ⟨c, cs, hrest, h⟩⟩
    next => exact ⟨[], _, rfl, .inl rfl, .inr ⟨c, cs, hrest, h⟩⟩

theorem matchPartial_eq_some {input : List Char} {month day : ℕ}
    (h : matchPartial input = some (month, day)) :
    ∃ first separator second mark rest,
      input = first ++ separator :: (second ++ (mark ++ rest)) ∧
        (ShortNumber first ∧ separator ∈ ['-', '/', '.', '月'] ∧ ShortNumber second) ∧
          (mark = [] ∨ mark = ['日']) ∧
            (rest = [] ∨ ∃ c cs, rest = c :: cs ∧ (c = 'T' ∨ isJsWhitespace c = true)) ∧
              month = Nat.ofDigitChars 10 first 0 := by
  simp only [matchPartial, Option.bind_eq_bind, Option.bind_eq_some_iff] at h
  obtain ⟨⟨month', afterMonth⟩, hmonth, afterSeparator, hseparator, ⟨day', afterDay⟩, hday, hend⟩ := h
  split_ifs at hend with hended
  obtain ⟨rfl, rfl⟩ := Prod.mk.inj (Option.some.inj hend)
  obtain ⟨first, rfl, hfirst, hfirstLeast, hfirstMost, hvalue⟩ := matchDigits_eq_some hmonth
  obtain ⟨separator, rfl, hmem⟩ := matchSeparator_eq_some hseparator
  obtain ⟨second, rfl, hsecond, hsecondLeast, hsecondMost, -⟩ := matchDigits_eq_some hday
  obtain ⟨mark, rest, rfl, hmark, hrest⟩ := matchEnd_eq_true hended
  exact ⟨first, separator, second, mark, rest, rfl, ⟨⟨hfirst, hfirstLeast, hfirstMost⟩, hmem,
    hsecond, hsecondLeast, hsecondMost⟩, hmark, hrest, hvalue⟩

end Gui

/-- What is parsed as a number has digits only. -/
theorem allDigits_of_parseDigits {most n : ℕ} {digits : List Char}
    (h : parseDigits most digits = some n) : AllDigits digits := by
  simp only [parseDigits] at h
  split_ifs at h with hdigits
  exact List.all_eq_true.1 hdigits.2.1

theorem mem_of_parseU32 {value : String} {n : ℕ} (h : parseU32 value = some n) {c : Char}
    (hc : c ∈ value.toList) : c.isDigit = true ∨ c = '+' := by
  unfold parseU32 at h
  split at h
  next digits hlist =>
    rw [hlist, List.mem_cons] at hc
    rcases hc with rfl | hc
    · exact .inr rfl
    · exact .inl (allDigits_of_parseDigits h c hc)
  next => exact .inl (allDigits_of_parseDigits h c hc)

theorem mem_of_parseI32 {value : String} {n : ℤ} (h : parseI32 value = some n) {c : Char}
    (hc : c ∈ value.toList) : c.isDigit = true ∨ c = '+' ∨ c = '-' := by
  have hdigits : ∀ {most : ℕ} {digits : List Char} {f : ℕ → ℤ},
      (parseDigits most digits).map f = some n → c ∈ digits → c.isDigit = true := by
    intro most digits f hparsed hmem
    obtain ⟨number, hnumber, -⟩ := Option.map_eq_some_iff.1 hparsed
    exact allDigits_of_parseDigits hnumber c hmem
  unfold parseI32 at h
  split at h
  next digits hlist =>
    rw [hlist, List.mem_cons] at hc
    rcases hc with rfl | hc
    · exact .inr (.inl rfl)
    · exact .inl (hdigits (f := Nat.cast) (by simpa [Option.map_eq_bind] using h) hc)
  next digits hlist =>
    rw [hlist, List.mem_cons] at hc
    rcases hc with rfl | hc
    · exact .inr (.inr rfl)
    · exact .inl (hdigits h hc)
  next => exact .inl (hdigits (f := Nat.cast) (by simpa [Option.map_eq_bind] using h) hc)

/-- An element of a split list other than the separator is in one of the pieces. -/
theorem exists_mem_splitOn {α : Type} [BEq α] [LawfulBEq α] {x c : α} {xs : List α} (hc : c ∈ xs)
    (hne : c ≠ x) : ∃ piece ∈ xs.splitOn x, c ∈ piece := by
  induction xs with
  | nil => exact absurd hc List.not_mem_nil
  | cons y xs ih =>
    rw [List.splitOn_cons_eq_if_modifyHead]
    obtain ⟨head, others, hpieces⟩ := List.exists_cons_of_ne_nil (List.splitOn_ne_nil x xs)
    rw [hpieces] at ih ⊢
    split
    next heq =>
      have hy : c ≠ y := fun h => hne (h.trans (beq_iff_eq.1 heq))
      obtain ⟨piece, hpiece, hmem⟩ := ih ((List.mem_cons.1 hc).resolve_left hy)
      exact ⟨piece, List.mem_cons_of_mem _ hpiece, hmem⟩
    next =>
      rw [List.modifyHead_cons]
      rcases List.mem_cons.1 hc with rfl | hc
      · exact ⟨c :: head, List.mem_cons_self, List.mem_cons_self⟩
      · obtain ⟨piece, hpiece, hmem⟩ := ih hc
        rcases List.mem_cons.1 hpiece with rfl | hpiece
        · exact ⟨y :: piece, List.mem_cons_self, List.mem_cons_of_mem _ hmem⟩
        · exact ⟨piece, List.mem_cons_of_mem _ hpiece, hmem⟩

/-- The terminal reads a text only if all its pieces are numbers. -/
theorem mem_of_parseCalendarDate {value : String} {today date : CivilDate}
    (h : parseCalendarDate value today = some date) {piece : String}
    (hpiece : piece ∈ splitOnChar (normalizeDateToken (dateToken value)) '-') {c : Char}
    (hc : c ∈ piece.toList) : c.isDigit = true ∨ c = '+' ∨ c = '-' := by
  rw [parseCalendarDate, Option.map_eq_some_iff] at h
  obtain ⟨⟨date', length⟩, hread, -⟩ := h
  simp only [parseCalendarDateWithLen, Option.bind_eq_bind] at hread
  have hunsigned : ∀ {text : String} {n : ℕ}, parseU32 text = some n → c ∈ text.toList →
      c.isDigit = true ∨ c = '+' ∨ c = '-' := fun hparsed hmem =>
    (mem_of_parseU32 hparsed hmem).imp_right .inl
  generalize splitOnChar (normalizeDateToken (dateToken value)) '-' = pieces at hread hpiece
  split at hread
  next year month day =>
    simp only [Option.bind_eq_some_iff] at hread
    obtain ⟨_, hyear, _, hmonth, _, hday, -⟩ := hread
    simp only [List.mem_cons, List.not_mem_nil, or_false] at hpiece
    rcases hpiece with rfl | rfl | rfl
    · exact mem_of_parseI32 hyear hc
    · exact hunsigned hmonth hc
    · exact hunsigned hday hc
  next month day =>
    simp only [Option.bind_eq_some_iff] at hread
    obtain ⟨_, hmonth, _, hday, -⟩ := hread
    simp only [List.mem_cons, List.not_mem_nil, or_false] at hpiece
    rcases hpiece with rfl | rfl
    · exact hunsigned hmonth hc
    · exact hunsigned hday hc
  next => cases hread

/-- A text that the terminal reads has only digits, signs and separators before its end. -/
theorem mem_dateToken {value : String} {today date : CivilDate}
    (h : parseCalendarDate value today = some date) {c : Char} (hc : c ∈ (dateToken value).toList) :
    c.isDigit = true ∨ c ∈ ['日', '年', '月', '/', '.', '+', '-'] := by
  by_cases hsign : c ∈ ['日', '年', '月', '/', '.', '+', '-']
  · exact .inr hsign
  simp only [List.mem_cons, List.not_mem_nil, or_false, not_or] at hsign
  obtain ⟨hday, hyear, hmonth, hslash, hdot, hplus, hminus⟩ := hsign
  -- no mark of the day is dropped here, and no separator changed
  have hkept : c ∈ (dateToken value).toList.rdropWhile (fun c => c = '日') := by
    have hparts := List.rdropWhile_append_rtakeWhile (p := fun c => decide (c = '日'))
      (l := (dateToken value).toList)
    rw [← hparts, List.mem_append] at hc
    apply hc.resolve_right
    intro hmark
    exact hday (by simpa using List.mem_rtakeWhile_imp hmark)
  have hnormal : c ∈ (normalizeDateToken (dateToken value)).toList := by
    rw [normalizeDateToken, String.toList_ofList, List.mem_map]
    exact ⟨c, hkept, if_neg (by simp [hyear, hmonth, hslash, hdot])⟩
  obtain ⟨piece, hpiece, hmem⟩ := exists_mem_splitOn hnormal hminus
  have hlist : (String.ofList piece).toList = piece := String.toList_ofList
  have hread := mem_of_parseCalendarDate h (List.mem_map_of_mem (f := String.ofList) hpiece)
    (hlist.symm ▸ hmem)
  rcases hread with hdigit | hsign | hsign
  · exact .inl hdigit
  · exact absurd hsign hplus
  · exact absurd hsign hminus

/-- White space other than a blank does not end a date for the terminal. -/
theorem rest_of_parseCalendarDate {value : String} {today date : CivilDate}
    (h : parseCalendarDate value today = some date) {front rest : List Char}
    (hvalue : value.toList = front ++ rest) (hfront : ∀ c ∈ front, c ≠ 'T' ∧ c ≠ ' ')
    (hrest : rest = [] ∨ ∃ c cs, rest = c :: cs ∧ (c = 'T' ∨ Gui.isJsWhitespace c = true)) :
    rest = [] ∨ ∃ c cs, rest = c :: cs ∧ (c = 'T' ∨ c = ' ') := by
  rcases hrest with hnil | ⟨c, cs, hcons, rfl | hwhite⟩
  · exact .inl hnil
  · exact .inr ⟨'T', cs, hcons, .inl rfl⟩
  by_cases hblank : c = ' '
  · exact .inr ⟨c, cs, hcons, .inr hblank⟩
  have hletter : c ≠ 'T' := by
    rintro rfl
    exact absurd hwhite (by decide)
  have hmem : c ∈ (dateToken value).toList := by
    rw [dateToken, String.toList_ofList, hvalue, hcons,
      List.takeWhile_append_of_pos fun d hd => decide_eq_true (hfront d hd)]
    apply List.mem_append_right
    simp [hletter, hblank]
  exfalso
  rcases mem_dateToken h hmem with hdigit | hsign
  · have hbounds := toNat_of_isDigit hdigit
    simp only [Gui.isJsWhitespace, isWhitespace, Bool.or_eq_true, Bool.and_eq_true,
      decide_eq_true_eq] at hwhite
    omega
  · fin_cases hsign <;> exact absurd hwhite (by decide)

/-- What the window takes for a date is in the common notation, if the terminal reads it too. -/
theorem SharedSpelling.commonNotation_append {bare : SharedSpelling} (hbare : bare.rest = [])
    {value : String} {today date : CivilDate} (h : parseCalendarDate value today = some date)
    {rest : List Char} (hvalue : value.toList = bare.text ++ rest)
    (hrest : rest = [] ∨ ∃ c cs, rest = c :: cs ∧ (c = 'T' ∨ Gui.isJsWhitespace c = true)) :
    CommonNotation value.toList := by
  have hfront : value.toList = (bare.dateText ++ bare.mark) ++ rest := by
    rw [hvalue, text_eq, hbare, List.append_nil]
  have hend := rest_of_parseCalendarDate h hfront bare.ne_of_mem_dateText_mark hrest
  refine ⟨{ bare with rest := rest, rest_eq := hend }, ?_⟩
  rw [hfront, text_eq, List.append_assoc]
  rfl

/-- A text that both renderers read is in the common notation. -/
theorem commonNotation_of_both {value : String} {today date : CivilDate}
    {now other : Gui.CalendarDate} (htrim : Gui.jsTrim value = value)
    (hterminal : parseCalendarDate value today = some date)
    (hwindow : Gui.parsedCalendarDate value now = some other) : CommonNotation value.toList := by
  simp only [Gui.parsedCalendarDate, htrim] at hwindow
  cases hfull : Gui.matchFull value.toList with
  | some numbers =>
    obtain ⟨year, month, day⟩ := numbers
    rw [hfull] at hwindow
    simp only [Gui.matchFull, Option.bind_eq_bind, Option.bind_eq_some_iff] at hfull
    obtain ⟨⟨year', afterYear⟩, hyear, afterSeparator, hseparator, ⟨month', day'⟩, hpartial, heq⟩ :=
      hfull
    obtain ⟨rfl, hnumbers⟩ := Prod.mk.inj (Option.some.inj heq)
    obtain ⟨rfl, rfl⟩ := Prod.mk.inj hnumbers
    obtain ⟨digits, htext, hdigits, hleast, hmost, rfl⟩ := Gui.matchDigits_eq_some hyear
    obtain ⟨separator, rfl, hmem⟩ := Gui.matchSeparator_eq_some hseparator
    obtain ⟨first, sign, second, mark, rest, rfl, ⟨hfirst, hsign, hsecond⟩, hmark, hrest, rfl⟩ :=
      Gui.matchPartial_eq_some hpartial
    have hlate : 100 ≤ Nat.ofDigitChars 10 digits 0 := by
      have hmonth := hfirst.lt
      have := Gui.le_of_calendarDate_eq_some hwindow (by omega) (by omega)
      omega
    apply @SharedSpelling.commonNotation_append
      { year := some (digits, separator), month := first, separator := sign, day := second,
        mark := mark, rest := [],
        year_digits := by
          rintro part ⟨⟩
          exact ⟨hdigits, le_antisymm hmost hleast, hlate, hmem⟩
        month_digits := hfirst, separator_mem := hsign, day_digits := hsecond, mark_eq := hmark,
        rest_eq := .inl rfl } rfl value today date hterminal rest ?_ hrest
    rw [htext]
    simp [SharedSpelling.text, SharedSpelling.monthText]
  | none =>
    cases hpartial : Gui.matchPartial value.toList with
    | none =>
      rw [hfull, hpartial] at hwindow
      cases hwindow
    | some numbers =>
      obtain ⟨month, day⟩ := numbers
      obtain ⟨first, sign, second, mark, rest, htext, ⟨hfirst, hsign, hsecond⟩, hmark, hrest, -⟩ :=
        Gui.matchPartial_eq_some hpartial
      apply @SharedSpelling.commonNotation_append
        { year := none, month := first, separator := sign, day := second, mark := mark, rest := [],
          year_digits := by
            rintro part ⟨⟩
          month_digits := hfirst, separator_mem := hsign, day_digits := hsecond, mark_eq := hmark,
          rest_eq := .inl rfl } rfl value today date hterminal rest ?_ hrest
      rw [htext]
      simp [SharedSpelling.text, SharedSpelling.monthText]

/-! ## The labels -/

/-- The text without white space at its ends, for both renderers. -/
theorem Gui.jsTrim_jsTrim (value : String) : jsTrim (jsTrim value) = jsTrim value := by
  simp only [jsTrim, String.toList_ofList, dropWhile_rdropWhile_dropWhile,
    List.rdropWhile_idempotent]

/-- Of a text that both renderers trim alike, in the years whose neighbours both know: they show the
same label, apart from that of an empty text, if the text is in the common notation or neither of
them reads a date in it. No other text is read by both. -/
theorem date_labels_agree {value : String} {today : CivilDate} (htoday : today.IsDate)
    (hyear : 101 ≤ today.year ∧ today.year ≤ 9998) (htrim : Gui.jsTrim value = trim value) :
    (CommonNotation (trim value).toList ∨
        (parseCalendarDate (trim value) today = none ∧
          Gui.parsedCalendarDate (trim value) (Gui.localCalendarDate today) = none) →
      Gui.multiDayDateLabel value today =
        if trim value = "" then "—" else multiDayDateLabel value today) ∧
      ((parseCalendarDate (trim value) today).isSome = true →
        (Gui.parsedCalendarDate (trim value) (Gui.localCalendarDate today)).isSome = true →
          CommonNotation (trim value).toList) := by
  have hself : Gui.jsTrim (trim value) = trim value := by
    rw [← htrim, Gui.jsTrim_jsTrim]
  constructor
  · intro hread
    simp only [Gui.multiDayDateLabel, multiDayDateLabel, htrim]
    split_ifs
    · rfl
    rcases hread with ⟨spelling, hspelling⟩ | ⟨hterminal, hwindow⟩
    · have hvalue : trim value = String.ofList spelling.text := by
        rw [hspelling, String.ofList_toList]
      rw [Gui.localCalendarDate_eq htoday ⟨by omega, by omega⟩,
        SharedSpelling.parsedCalendarDate_eq hyear hspelling.symm hself]
      cases hparsed : parseCalendarDate (trim value) today with
      | none => rfl
      | some date =>
        rw [hvalue] at hparsed
        exact Gui.labelForDate_ofDate (SharedSpelling.year_mem hyear hparsed)
    · rw [hterminal, hwindow]
  · intro hterminal hwindow
    obtain ⟨date, hdate⟩ := Option.isSome_iff_exists.1 hterminal
    obtain ⟨other, hother⟩ := Option.isSome_iff_exists.1 hwindow
    exact commonNotation_of_both hself hdate hother

/-- Leap day, with the signs of the language. -/
theorem date_labels_agree_sample :
    Gui.multiDayDateLabel " 2028年2月29日 10:00" ⟨2028, 2, 28⟩ =
      multiDayDateLabel " 2028年2月29日 10:00" ⟨2028, 2, 28⟩ :=
  ((@date_labels_agree " 2028年2月29日 10:00" ⟨2028, 2, 28⟩ (by decide) (by decide)
    (by decide)).1 (.inl ⟨{
      year := some (['2', '0', '2', '8'], '年'), month := ['2'], separator := '月',
      day := ['2', '9'], mark := ['日'], rest := [' ', '1', '0', ':', '0', '0'],
      year_digits := by
        rintro part ⟨⟩
        exact ⟨List.all_eq_true.1 (by decide), rfl, by decide, by decide⟩
      month_digits := ⟨List.all_eq_true.1 (by decide), by decide, by decide⟩
      separator_mem := by decide
      day_digits := ⟨List.all_eq_true.1 (by decide), by decide, by decide⟩
      mark_eq := .inr rfl
      rest_eq := .inr ⟨' ', _, rfl, .inr rfl⟩ }, by decide⟩)).trans
    (if_neg (by decide))

/-- A tab ends a date only in the window, a number has a sign only in the terminal, the years before
101 have other neighbours in the window, and only the terminal trims a next line. -/
theorem date_labels_differ :
    (Gui.multiDayDateLabel "2026-07-18\t08:00" ⟨2026, 7, 17⟩ = "明天" ∧
      multiDayDateLabel "2026-07-18\t08:00" ⟨2026, 7, 17⟩ = "2026-07-18\t08:00") ∧
    (Gui.multiDayDateLabel "+7-18" ⟨2026, 7, 17⟩ = "+7-18" ∧
      multiDayDateLabel "+7-18" ⟨2026, 7, 17⟩ = "明天") ∧
    (Gui.multiDayDateLabel "7-18" ⟨99, 7, 17⟩ = "1969-07-18" ∧
      multiDayDateLabel "7-18" ⟨99, 7, 17⟩ = "明天") ∧
    (Gui.multiDayDateLabel "\u0085" ⟨2026, 7, 17⟩ = "\u0085" ∧
      multiDayDateLabel "\u0085" ⟨2026, 7, 17⟩ = "-") := by
  decide

end WeatherApp
