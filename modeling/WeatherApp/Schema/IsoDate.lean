import WeatherApp.Schema.Weather

/-!
# Dates and their texts

The order of dates, and the texts `YYYY-MM-DD` of the dates whose years have four digits. As texts
they are ordered like the dates, since their parts are padded to fixed widths.

## Main definitions

* `CivilDate.FourDigit`: a date of the calendar in the years 0 to 9999.
* `ReadsDates`: what the code relies on in `NaiveDate::parse_from_str`.
* `isoDateText`: a reader of such texts.

## Main results

* `formatDate_lt_iff`: texts are ordered like dates.
* `readsDates_isoDateText`: the reader reads them.
-/

namespace WeatherApp

/-! ## The order of dates -/

/-- The key of the order of dates. -/
def CivilDate.rank (date : CivilDate) : ℤ ×ₗ ℕ ×ₗ ℕ :=
  toLex (date.year, toLex (date.month, date.day))

theorem CivilDate.rank_injective : Function.Injective CivilDate.rank := by
  intro a b h
  obtain ⟨year, month, day⟩ := a
  obtain ⟨year', month', day'⟩ := b
  simp only [CivilDate.rank, toLex_inj, Prod.mk.injEq] at h
  obtain ⟨rfl, rfl, rfl⟩ := h
  rfl

/-- Dates are ordered by year, month and day. -/
instance : LinearOrder CivilDate := LinearOrder.lift' CivilDate.rank CivilDate.rank_injective

theorem CivilDate.lt_iff {a b : CivilDate} :
    a < b ↔ a.year < b.year ∨
      a.year = b.year ∧ (a.month < b.month ∨ a.month = b.month ∧ a.day < b.day) := by
  show a.rank < b.rank ↔ _
  rw [CivilDate.rank, CivilDate.rank, Prod.Lex.toLex_lt_toLex, Prod.Lex.toLex_lt_toLex]

/-- Whether the year has a 29th of February. -/
def isLeapYear (year : ℤ) : Bool := year % 4 = 0 ∧ (year % 100 ≠ 0 ∨ year % 400 = 0)

/-- The number of days of a month. -/
def daysInMonth (year : ℤ) (month : ℕ) : ℕ :=
  if month = 2 then (if isLeapYear year then 29 else 28)
  else if month = 4 ∨ month = 6 ∨ month = 9 ∨ month = 11 then 30
  else 31

/-- A date of the calendar whose year has four digits. -/
structure CivilDate.FourDigit (date : CivilDate) : Prop where
  year : 0 ≤ date.year ∧ date.year ≤ 9999
  month : 1 ≤ date.month ∧ date.month ≤ 12
  day : 1 ≤ date.day ∧ date.day ≤ daysInMonth date.year date.month

instance (date : CivilDate) : Decidable date.FourDigit :=
  decidable_of_iff ((0 ≤ date.year ∧ date.year ≤ 9999) ∧ (1 ≤ date.month ∧ date.month ≤ 12) ∧
      (1 ≤ date.day ∧ date.day ≤ daysInMonth date.year date.month))
    ⟨fun h => ⟨h.1, h.2.1, h.2.2⟩, fun h => ⟨h.year, h.month, h.day⟩⟩

theorem daysInMonth_le (year : ℤ) (month : ℕ) : daysInMonth year month ≤ 31 := by
  unfold daysInMonth
  split_ifs <;> omega

/-! ## Padded numbers -/

/-- All characters are decimal digits. -/
def AllDigits (l : List Char) : Prop := ∀ c ∈ l, c.isDigit = true

theorem toNat_of_isDigit {c : Char} (h : c.isDigit = true) : 48 ≤ c.toNat ∧ c.toNat ≤ 57 := by
  simp only [Char.isDigit, Bool.and_eq_true, decide_eq_true_eq] at h
  exact ⟨h.1, h.2⟩

theorem ofDigitChars_cons_zero (c : Char) (l : List Char) :
    Nat.ofDigitChars 10 (c :: l) 0 = 10 ^ l.length * (c.toNat - 48) + Nat.ofDigitChars 10 l 0 := by
  rw [Nat.ofDigitChars_cons, Nat.ofDigitChars_eq_ofDigitChars_zero, Nat.mul_zero, Nat.zero_add]
  rfl

/-- The value of some digits is less than the power of their number. -/
theorem ofDigitChars_lt {l : List Char} (h : AllDigits l) :
    Nat.ofDigitChars 10 l 0 < 10 ^ l.length := by
  induction l with
  | nil => simp
  | cons c l ih =>
    have hrest := ih fun d hd => h d (List.mem_cons_of_mem _ hd)
    have hc := toNat_of_isDigit (h c List.mem_cons_self)
    have hmul : 10 ^ l.length * (c.toNat - 48) ≤ 10 ^ l.length * 9 :=
      Nat.mul_le_mul_left _ (by omega)
    rw [ofDigitChars_cons_zero, List.length_cons, pow_succ]
    omega

/-- As many digits are ordered like their values. -/
theorem lt_iff_ofDigitChars_lt {l l' : List Char} (h : AllDigits l) (h' : AllDigits l')
    (hlength : l.length = l'.length) :
    l < l' ↔ Nat.ofDigitChars 10 l 0 < Nat.ofDigitChars 10 l' 0 := by
  induction l generalizing l' with
  | nil =>
    rw [List.length_nil, eq_comm, List.length_eq_zero_iff] at hlength
    subst hlength
    simp
  | cons c l ih =>
    obtain ⟨c', l', rfl⟩ : ∃ c' rest, l' = c' :: rest := by
      cases l' with
      | nil => cases hlength
      | cons c' rest => exact ⟨c', rest, rfl⟩
    have hrest : AllDigits l := fun d hd => h d (List.mem_cons_of_mem _ hd)
    have hrest' : AllDigits l' := fun d hd => h' d (List.mem_cons_of_mem _ hd)
    have hlengths : l.length = l'.length := Nat.succ.inj hlength
    have hc := toNat_of_isDigit (h c List.mem_cons_self)
    have hc' := toNat_of_isDigit (h' c' List.mem_cons_self)
    have hbound := ofDigitChars_lt hrest
    have hbound' := ofDigitChars_lt hrest'
    rw [List.cons_lt_cons_iff, ih hrest hrest' hlengths, ofDigitChars_cons_zero,
      ofDigitChars_cons_zero, hlengths]
    rw [hlengths] at hbound
    -- the first digits decide, unless they are the same
    rcases lt_trichotomy c.toNat c'.toNat with hlt | heq | hgt
    · have hmul : 10 ^ l'.length * (c.toNat - 48) + 10 ^ l'.length ≤
          10 ^ l'.length * (c'.toNat - 48) := by
        rw [← Nat.mul_succ]
        exact Nat.mul_le_mul_left _ (by omega)
      exact iff_of_true (.inl hlt) (by omega)
    · have hsame : c = c' := Char.toNat_inj.1 heq
      subst hsame
      simp only [lt_irrefl, true_and, false_or]
      omega
    · have hmul : 10 ^ l'.length * (c'.toNat - 48) + 10 ^ l'.length ≤
          10 ^ l'.length * (c.toNat - 48) := by
        rw [← Nat.mul_succ]
        exact Nat.mul_le_mul_left _ (by omega)
      refine iff_of_false ?_ (by omega)
      rintro (hlt | ⟨rfl, -⟩)
      · exact lt_asymm hlt hgt
      · exact lt_irrefl _ hgt

/-- Texts that start with as many characters are ordered by these first. -/
theorem append_lt_append_iff {l l' r r' : List Char} (hlength : l.length = l'.length) :
    l ++ r < l' ++ r' ↔ l < l' ∨ l = l' ∧ r < r' := by
  induction l generalizing l' with
  | nil =>
    rw [List.length_nil, eq_comm, List.length_eq_zero_iff] at hlength
    subst hlength
    simp
  | cons c l ih =>
    cases l' with
    | nil => cases hlength
    | cons c' l' =>
      rw [List.cons_append, List.cons_append, List.cons_lt_cons_iff, List.cons_lt_cons_iff,
        ih (Nat.succ.inj hlength), List.cons.injEq]
      tauto

/-- What a padded number is. -/
theorem padZero_spec {width n : ℕ} (hpos : 0 < width) (h : n < 10 ^ width) :
    AllDigits (padZero width n).toList ∧ (padZero width n).toList.length = width ∧
      Nat.ofDigitChars 10 (padZero width n).toList 0 = n := by
  have hlist : (padZero width n).toList =
      List.replicate (width - (Nat.toDigits 10 n).length) '0' ++ Nat.toDigits 10 n := by
    simp [padZero, ← String.length_toList]
  have hfits : (Nat.toDigits 10 n).length ≤ width := (Nat.length_toDigits_le_iff (by decide) hpos).2 h
  rw [hlist]
  refine ⟨fun c hc => ?_, ?_, ?_⟩
  · rcases List.mem_append.1 hc with hzero | hdigit
    · rw [(List.mem_replicate.1 hzero).2]
      decide
    · exact Nat.isDigit_of_mem_toDigits (by decide) (by decide) hdigit
  · rw [List.length_append, List.length_replicate]
    omega
  · rw [Nat.ofDigitChars_append, Nat.ofDigitChars_replicate_zero, Nat.mul_zero,
      Nat.ofDigitChars_ten_toDigits]

/-- Padded numbers are ordered like the numbers. -/
theorem padZero_lt_iff {width n m : ℕ} (hpos : 0 < width) (hn : n < 10 ^ width)
    (hm : m < 10 ^ width) : (padZero width n).toList < (padZero width m).toList ↔ n < m := by
  obtain ⟨hdigits, hlength, hvalue⟩ := padZero_spec hpos hn
  obtain ⟨hdigits', hlength', hvalue'⟩ := padZero_spec hpos hm
  rw [lt_iff_ofDigitChars_lt hdigits hdigits' (hlength.trans hlength'.symm), hvalue, hvalue']

theorem padZero_inj {width n m : ℕ} (hpos : 0 < width) (hn : n < 10 ^ width)
    (hm : m < 10 ^ width) : (padZero width n).toList = (padZero width m).toList ↔ n = m := by
  refine ⟨fun h => ?_, fun h => h ▸ rfl⟩
  rw [← (padZero_spec hpos hn).2.2, h, (padZero_spec hpos hm).2.2]

/-! ## Texts of dates -/

namespace CivilDate.FourDigit

variable {date date' : CivilDate}

theorem year_lt (h : date.FourDigit) : date.year.toNat < 10 ^ 4 := by
  have := h.year
  omega

theorem month_lt (h : date.FourDigit) : date.month < 10 ^ 2 := by
  have := h.month
  omega

theorem day_lt (h : date.FourDigit) : date.day < 10 ^ 2 := by
  have := h.day
  have := daysInMonth_le date.year date.month
  omega

/-- The characters of the text of a date. -/
theorem toList_formatDate (h : date.FourDigit) :
    (formatDate date).toList = (padZero 4 date.year.toNat).toList ++
      '-' :: ((padZero 2 date.month).toList ++ '-' :: (padZero 2 date.day).toList) := by
  have hparts : formatDate date = padZero 4 date.year.toNat ++ "-" ++ padZero 2 date.month ++ "-" ++
      padZero 2 date.day := by
    simp only [formatDate, if_pos h.year]
    rfl
  rw [hparts]
  simp

/-- Texts are ordered like dates. -/
theorem formatDate_lt_iff (h : date.FourDigit) (h' : date'.FourDigit) :
    formatDate date < formatDate date' ↔ date < date' := by
  have hyears : date.year.toNat < date'.year.toNat ↔ date.year < date'.year := by
    have := h.year
    have := h'.year
    omega
  have hyear : date.year.toNat = date'.year.toNat ↔ date.year = date'.year := by
    have := h.year
    have := h'.year
    omega
  have hwidth : ∀ {width n m : ℕ}, 0 < width → n < 10 ^ width → m < 10 ^ width →
      (padZero width n).toList.length = (padZero width m).toList.length := fun hpos hn hm => by
    rw [(padZero_spec hpos hn).2.1, (padZero_spec hpos hm).2.1]
  rw [String.lt_iff_toList_lt, h.toList_formatDate, h'.toList_formatDate, CivilDate.lt_iff,
    append_lt_append_iff (hwidth (by decide) h.year_lt h'.year_lt),
    List.cons_lt_cons_iff, append_lt_append_iff (hwidth (by decide) h.month_lt h'.month_lt),
    List.cons_lt_cons_iff, padZero_lt_iff (by decide) h.year_lt h'.year_lt,
    padZero_lt_iff (by decide) h.month_lt h'.month_lt, padZero_lt_iff (by decide) h.day_lt h'.day_lt,
    padZero_inj (by decide) h.year_lt h'.year_lt, padZero_inj (by decide) h.month_lt h'.month_lt,
    hyears, hyear]
  simp only [lt_irrefl, false_or, true_and]

/-- A text of a date has ten characters. -/
theorem length_formatDate (h : date.FourDigit) : (formatDate date).toList.length = 10 := by
  rw [h.toList_formatDate, List.length_append, List.length_cons, List.length_append,
    List.length_cons, (padZero_spec (by decide) h.year_lt).2.1,
    (padZero_spec (by decide) h.month_lt).2.1, (padZero_spec (by decide) h.day_lt).2.1]

/-- They are digits and hyphens. -/
theorem isDigit_of_mem_formatDate (h : date.FourDigit) {c : Char}
    (hc : c ∈ (formatDate date).toList) : c.isDigit = true ∨ c = '-' := by
  have hyear := (padZero_spec (by decide) h.year_lt).1 c
  have hmonth := (padZero_spec (by decide) h.month_lt).1 c
  have hday := (padZero_spec (by decide) h.day_lt).1 c
  rw [h.toList_formatDate, List.mem_append, List.mem_cons, List.mem_append, List.mem_cons] at hc
  rcases hc with hc | rfl | hc | rfl | hc
  · exact .inl (hyear hc)
  · exact .inr rfl
  · exact .inl (hmonth hc)
  · exact .inr rfl
  · exact .inl (hday hc)

/-- No character of a date is white space. -/
theorem isWhitespace_of_mem_formatDate (h : date.FourDigit) {c : Char}
    (hc : c ∈ (formatDate date).toList) : isWhitespace c = false := by
  rcases h.isDigit_of_mem_formatDate hc with hdigit | rfl
  · have hbounds := toNat_of_isDigit hdigit
    simp only [isWhitespace, Bool.or_eq_false_iff, Bool.and_eq_false_iff, decide_eq_false_iff_not]
    omega
  · decide

/-- The text of a date has ten bytes. -/
theorem length_asBytes_formatDate (h : date.FourDigit) : (asBytes (formatDate date)).length = 10 := by
  have hone : ∀ c ∈ (formatDate date).toList, (String.utf8EncodeChar c).length = 1 := by
    intro c hc
    rw [String.length_utf8EncodeChar, Char.utf8Size_eq_one_iff]
    rcases h.isDigit_of_mem_formatDate hc with hdigit | rfl
    · have hbound : c.toNat ≤ 127 := (toNat_of_isDigit hdigit).2.trans (by decide)
      exact hbound
    · decide
  rw [asBytes, List.length_flatMap, List.map_congr_left hone, List.map_const', List.sum_replicate,
    h.length_formatDate]
  rfl

end CivilDate.FourDigit

/-! ## Reading dates -/

/-- `NaiveDate::parse_from_str` reads the texts of dates. -/
def ReadsDates [DateText] : Prop :=
  ∀ date : CivilDate, date.FourDigit →
    DateText.parseFromStr (formatDate date) "%Y-%m-%d" = some date

/-- Read a text `YYYY-MM-DD`. -/
def readIsoDate (text : String) : Option CivilDate :=
  let number (start length : ℕ) : ℕ :=
    Nat.ofDigitChars 10 ((text.toList.drop start).take length) 0
  let date : CivilDate := ⟨number 0 4, number 5 2, number 8 2⟩
  if date.FourDigit ∧ formatDate date = text then some date else none

/-- The texts `YYYY-MM-DD` are dates, to run the model on. -/
@[reducible]
def isoDateText : DateText where
  parseFromStr text format := if format = "%Y-%m-%d" then readIsoDate text else none

/-- The parts of a text of three parts. -/
theorem take_drop_parts {year month day : List Char} (hyear : year.length = 4)
    (hmonth : month.length = 2) (hday : day.length = 2) :
    ((year ++ '-' :: (month ++ '-' :: day)).drop 0).take 4 = year ∧
      ((year ++ '-' :: (month ++ '-' :: day)).drop 5).take 2 = month ∧
      ((year ++ '-' :: (month ++ '-' :: day)).drop 8).take 2 = day := by
  have hmonths : year ++ '-' :: (month ++ '-' :: day) =
      (year ++ ['-']) ++ (month ++ '-' :: day) := by simp
  have hdays : year ++ '-' :: (month ++ '-' :: day) =
      (year ++ '-' :: (month ++ ['-'])) ++ day := by simp
  refine ⟨List.take_left' hyear, ?_, ?_⟩
  · rw [hmonths, List.drop_left' (by simp [hyear]), List.take_left' hmonth]
  · rw [hdays, List.drop_left' (by simp [hyear, hmonth]), List.take_of_length_le hday.le]

theorem readsDates_isoDateText : @ReadsDates isoDateText := by
  intro date h
  obtain ⟨-, hyear, hyearValue⟩ := padZero_spec (by decide : 0 < 4) h.year_lt
  obtain ⟨-, hmonth, hmonthValue⟩ := padZero_spec (by decide : 0 < 2) h.month_lt
  obtain ⟨-, hday, hdayValue⟩ := padZero_spec (by decide : 0 < 2) h.day_lt
  show (if "%Y-%m-%d" = "%Y-%m-%d" then readIsoDate (formatDate date) else none) = _
  have hnumbers : (⟨((Nat.ofDigitChars 10 (((formatDate date).toList.drop 0).take 4) 0 : ℕ) : ℤ),
      Nat.ofDigitChars 10 (((formatDate date).toList.drop 5).take 2) 0,
      Nat.ofDigitChars 10 (((formatDate date).toList.drop 8).take 2) 0⟩ : CivilDate) = date := by
    obtain ⟨hfirst, hsecond, hthird⟩ := take_drop_parts hyear hmonth hday
    rw [h.toList_formatDate, hfirst, hsecond, hthird, hyearValue, hmonthValue, hdayValue,
      Int.toNat_of_nonneg h.year.1]
  rw [if_pos rfl]
  simp only [readIsoDate, hnumbers, and_true, if_pos h]

end WeatherApp
