import WeatherApp.Engine.Weather
import WeatherApp.Schema.Calendar
import WeatherApp.Schema.Number

/-!
# Date labels

The labels of dates in the two renderers: `weather-renderer/common/src/date.rs` for the terminal,
and `weather-renderer/gui/src/date.ts` for the window.

## Main definitions

* `parseCalendarDateWithLen`, `multiDayDateLabel`: the terminal's reader and its label.
* `Gui.parsedCalendarDate`, `Gui.multiDayDateLabel`: those of the window.
-/

namespace WeatherApp

open Weather (minByKey)

/-- The nearest candidate is one of them. -/
theorem mem_of_minByKey_eq_some {α : Type} {key : α → ℕ} {xs : List α} {best : α}
    (h : minByKey key xs = some best) : best ∈ xs := by
  induction xs generalizing best with
  | nil => cases h
  | cons x xs ih =>
    rw [minByKey] at h
    cases hrest : minByKey key xs with
    | none =>
      rw [hrest] at h
      exact Option.some.inj h ▸ List.mem_cons_self
    | some other =>
      simp only [hrest] at h
      split_ifs at h
      · exact Option.some.inj h ▸ List.mem_cons_of_mem _ (ih hrest)
      · exact Option.some.inj h ▸ List.mem_cons_self

/-! ## The terminal -/

/-- `value.split(['T', ' ']).next()`. -/
def dateToken (value : String) : String :=
  String.ofList (value.toList.takeWhile fun c => c ≠ 'T' ∧ c ≠ ' ')

/-- The token with hyphens for all separators, and without the ones that end a day. -/
def normalizeDateToken (token : String) : String :=
  String.ofList ((token.toList.rdropWhile (· = '日')).map fun character =>
    if character ∈ ['年', '月', '/', '.'] then '-' else character)

/-- `parse_calendar_date_with_len`: the date, and how many bytes of the text it takes. -/
def parseCalendarDateWithLen (value : String) (today : CivilDate) : Option (CivilDate × ℕ) := do
  let token := dateToken value
  let date ←
    match splitOnChar (normalizeDateToken token) '-' with
    | [year, month, day] => do
      let year ← parseI32 year
      let month ← parseU32 month
      let day ← parseU32 day
      fromYmdOpt year month day
    | [month, day] => do
      let month ← parseU32 month
      let day ← parseU32 day
      let candidates := [today.year - 1, today.year, today.year + 1].filterMap fun year =>
        fromYmdOpt year month day
      minByKey (fun candidate => dayDistance candidate today) candidates
    | _ => none
  return (date, (asBytes token).length)

/-- `parse_calendar_date`. -/
def parseCalendarDate (value : String) (today : CivilDate) : Option CivilDate :=
  (parseCalendarDateWithLen value today).map (·.1)

/-- `NaiveDate::weekday`, as the name of the day. -/
def weekdayName (date : CivilDate) : String :=
  ["星期一", "星期二", "星期三", "星期四", "星期五", "星期六", "星期日"].getD
    ((daysFromCivil date + 3) % 7).toNat ""

/-- `label_for_date`. -/
def labelForDate (value today : CivilDate) : String :=
  let offset := daysFromCivil value - daysFromCivil today
  if offset = -1 then "昨天"
  else if offset = 0 then "今天"
  else if offset = 1 then "明天"
  else if 2 ≤ offset ∧ offset ≤ 7 then weekdayName value
  else formatDate value

/-- `multi_day_date_label`. -/
def multiDayDateLabel (value : String) (today : CivilDate) : String :=
  let input := trim value
  if input = "" then "-"
  else
    match parseCalendarDate input today with
    | none => input
    | some date => labelForDate date today

example : multiDayDateLabel "07月19日" ⟨2026, 7, 17⟩ = "星期日" := by decide +kernel

example : multiDayDateLabel "01-01" ⟨2026, 12, 31⟩ = "明天" := by decide +kernel

/-! ## The window -/

namespace Gui

/-- White space and line ends of JavaScript: what `trim` drops and `\s` matches. -/
def isJsWhitespace (c : Char) : Bool :=
  c.toNat = 0xFEFF || (isWhitespace c && c.toNat ≠ 0x85)

/-- `String.prototype.trim`. -/
def jsTrim (value : String) : String :=
  String.ofList ((value.toList.dropWhile isJsWhitespace).rdropWhile isJsWhitespace)

/-- `CalendarDate`. -/
structure CalendarDate where
  date : CivilDate
  ordinal : ℤ
  deriving DecidableEq, Repr

/-- `Date.UTC(year, month - 1, day)` in days: the years 0 to 99 mean those of the last century, and
months and days may be too many. -/
def dateUtc (year : ℤ) (month day : ℕ) : ℤ :=
  let fullYear := if 0 ≤ year ∧ year ≤ 99 then 1900 + year else year
  let index : ℤ := (month : ℤ) - 1
  daysFromCivil ⟨fullYear + index / 12, (index % 12).toNat + 1, 1⟩ + day - 1

/-- `calendarDate`. A time of more than 100 million days is none. -/
def calendarDate (year : ℤ) (month day : ℕ) : Option CalendarDate :=
  let timestamp := dateUtc year month day
  if timestamp.natAbs ≤ 100000000 ∧ civilFromDays timestamp = ⟨year, month, day⟩ then
    some ⟨⟨year, month, day⟩, timestamp⟩
  else none

/-- `localCalendarDate`, of a time by its local date. -/
def localCalendarDate (now : CivilDate) : CalendarDate :=
  (calendarDate now.year now.month now.day).getD ⟨⟨1970, 1, 1⟩, 0⟩

/-- `\d{least,most}`: the number and the rest. A longer match is never given back here, since a digit
follows no expression that it could match. -/
def matchDigits (least most : ℕ) (input : List Char) : Option (ℕ × List Char) :=
  let digits := (input.take most).takeWhile Char.isDigit
  if least ≤ digits.length then
    some (Nat.ofDigitChars 10 digits 0, input.drop digits.length)
  else none

/-- `(?:[/.-]|年)` and `(?:[/.-]|月)`. -/
def matchSeparator (sign : Char) : List Char → Option (List Char)
  | c :: rest => if c ∈ ['-', '/', '.', sign] then some rest else none
  | [] => none

/-- `(?:日)?(?=$|[T\s])`: whether the date ends here. -/
def matchEnd (input : List Char) : Bool :=
  let rest :=
    match input with
    | '日' :: rest => rest
    | _ => input
  match rest with
  | [] => true
  | c :: _ => c = 'T' || isJsWhitespace c

/-- `/^(\d{1,2})(?:[/.-]|月)(\d{1,2})(?:日)?(?=$|[T\s])/u`. -/
def matchPartial (input : List Char) : Option (ℕ × ℕ) := do
  let (month, rest) ← matchDigits 1 2 input
  let rest ← matchSeparator '月' rest
  let (day, rest) ← matchDigits 1 2 rest
  if matchEnd rest then some (month, day) else none

/-- `/^(\d{4})(?:[/.-]|年)(\d{1,2})(?:[/.-]|月)(\d{1,2})(?:日)?(?=$|[T\s])/u`. -/
def matchFull (input : List Char) : Option (ℕ × ℕ × ℕ) := do
  let (year, rest) ← matchDigits 4 4 input
  let rest ← matchSeparator '年' rest
  let (month, day) ← matchPartial rest
  return (year, month, day)

/-- `parsedCalendarDate`. The first of the sorted candidates is the first one that is nearest, since
the order of equal ones is kept. -/
def parsedCalendarDate (value : String) (today : CalendarDate) : Option CalendarDate :=
  let input := (jsTrim value).toList
  match matchFull input with
  | some (year, month, day) => calendarDate year month day
  | none =>
    match matchPartial input with
    | none => none
    | some (month, day) =>
      let candidates := [today.date.year - 1, today.date.year, today.date.year + 1].filterMap
        fun year => calendarDate year month day
      minByKey (fun candidate => (candidate.ordinal - today.ordinal).natAbs) candidates

/-- `String(value).padStart(length, "0")`. -/
def padStart (length : ℕ) (value : ℤ) : String :=
  String.ofList (List.replicate (length - (toString value).length) '0') ++ toString value

/-- `specificDate`. -/
def specificDate (value : CalendarDate) : String :=
  s!"{padStart 4 value.date.year}-{padStart 2 value.date.month}-{padStart 2 value.date.day}"

/-- `WEEKDAYS`, by the day of the week that `getUTCDay` gives. -/
def weekdayName (ordinal : ℤ) : String :=
  ["星期日", "星期一", "星期二", "星期三", "星期四", "星期五", "星期六"].getD
    ((ordinal + 4) % 7).toNat ""

/-- `labelForDate`. -/
def labelForDate (value today : CalendarDate) : String :=
  let offset := value.ordinal - today.ordinal
  if offset = -1 then "昨天"
  else if offset = 0 then "今天"
  else if offset = 1 then "明天"
  else if 2 ≤ offset ∧ offset ≤ 7 then weekdayName value.ordinal
  else specificDate value

/-- `multiDayDateLabel`, of a text and the local date of `now`. -/
def multiDayDateLabel (value : String) (now : CivilDate) : String :=
  let input := jsTrim value
  if input = "" then "—"
  else
    let today := localCalendarDate now
    match parsedCalendarDate input today with
    | none => input
    | some date => labelForDate date today

example : multiDayDateLabel "2026-07-18\t08:00" ⟨2026, 7, 17⟩ = "明天" := by decide +kernel

end Gui

end WeatherApp
