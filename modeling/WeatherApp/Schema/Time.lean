import WeatherApp.Schema.Text

/-!
# Timestamps and local dates

Instants are Unix milliseconds. The third-party crate `chrono-tz` supplies the timezones: a
timezone is an opaque value with a name and a UTC offset at each instant. The calendar is the
proleptic Gregorian one of `chrono`.

## Main definitions

* `TzDatabase`: what the code relies on in `chrono-tz`.
* `fromTimestampMillis`: `DateTime::<Utc>::from_timestamp_millis`.
* `localDate`: the date text `%Y-%m-%d` of an instant in a timezone.
* `Instant`, `Duration`: the monotonic clock of `std::time`, in nanoseconds.
-/

namespace WeatherApp

/-- The timezones of `chrono-tz`. -/
class TzDatabase (Tz : Type) where
  /-- `Tz::from_str`. -/
  fromStr : String → Option Tz
  /-- `Tz::name`. -/
  name : Tz → String
  /-- Seconds east of UTC at an instant given in Unix seconds. -/
  offset : Tz → ℤ → ℤ
  /-- A timezone is found under its own name. -/
  fromStr_name : ∀ tz, fromStr (name tz) = some tz
  /-- The lookup is exact: a timezone is found under no other name. -/
  name_of_fromStr : ∀ {value tz}, fromStr value = some tz → name tz = value

/-- Three zones with the offsets they have in June 2026, to run the model on. -/
inductive SampleZone where
  | utc
  | shanghai
  | adak
  deriving DecidableEq, Repr

instance : TzDatabase SampleZone where
  fromStr value :=
    if value = "UTC" then some .utc
    else if value = "Asia/Shanghai" then some .shanghai
    else if value = "America/Adak" then some .adak
    else none
  name
    | .utc => "UTC"
    | .shanghai => "Asia/Shanghai"
    | .adak => "America/Adak"
  offset
    | .utc, _ => 0
    | .shanghai, _ => 28800
    | .adak, _ => -32400
  fromStr_name := by
    intro tz
    cases tz <;> decide
  name_of_fromStr := by
    intro value tz h
    split_ifs at h <;> cases h <;> simp_all

/-- A date of the proleptic Gregorian calendar. -/
structure CivilDate where
  year : ℤ
  month : ℕ
  day : ℕ
  deriving DecidableEq, Repr

/-- Days from 1970-01-01 to a date. Years are counted from March, so that the leap day is the
last day of a year. -/
def daysFromCivil (date : CivilDate) : ℤ :=
  let y := if date.month ≤ 2 then date.year - 1 else date.year
  let era := y / 400
  let yoe := y - era * 400
  let mp : ℤ := ((date.month + 9) % 12 : ℕ)
  let doy := (153 * mp + 2) / 5 + date.day - 1
  let doe := yoe * 365 + yoe / 4 - yoe / 100 + doy
  era * 146097 + doe - 719468

/-- The date a number of days after 1970-01-01. -/
def civilFromDays (days : ℤ) : CivilDate :=
  let z := days + 719468
  let era := z / 146097
  let doe := z - era * 146097
  let yoe := (doe - doe / 1460 + doe / 36524 - doe / 146096) / 365
  let doy := doe - (365 * yoe + yoe / 4 - yoe / 100)
  let mp := (5 * doy + 2) / 153
  let day := doy - (153 * mp + 2) / 5 + 1
  let month := if mp < 10 then mp + 3 else mp - 9
  let year := yoe + era * 400
  ⟨if month ≤ 2 then year + 1 else year, month.toNat, day.toNat⟩

example : civilFromDays 20627 = ⟨2026, 6, 23⟩ := by decide

example : daysFromCivil ⟨2026, 6, 23⟩ = 20627 := by decide

/-- Decimal digits, zero-padded to a width. -/
def padZero (width n : ℕ) : String :=
  let digits := toString n
  String.ofList (List.replicate (width - digits.length) '0') ++ digits

/-- `format("%Y-%m-%d")`. A year outside `0..=9999` carries its sign. -/
def formatDate (date : CivilDate) : String :=
  let year :=
    if 0 ≤ date.year ∧ date.year ≤ 9999 then padZero 4 date.year.toNat
    else (if date.year < 0 then "-" else "+") ++ padZero 4 date.year.natAbs
  s!"{year}-{padZero 2 date.month}-{padZero 2 date.day}"

example : formatDate ⟨2026, 6, 3⟩ = "2026-06-03" := by decide

/-- First representable instant, -262143-01-01T00:00:00Z. -/
def minTimestampMs : ℤ := daysFromCivil ⟨-262143, 1, 1⟩ * 86400000

/-- Last representable millisecond, on +262142-12-31. -/
def maxTimestampMs : ℤ := (daysFromCivil ⟨262142, 12, 31⟩ + 1) * 86400000 - 1

/-- `DateTime::<Utc>::from_timestamp_millis`: the instant, unless it is out of range. -/
def fromTimestampMillis (unixMs : ℤ) : Option ℤ :=
  if minTimestampMs ≤ unixMs ∧ unixMs ≤ maxTimestampMs then some unixMs else none

variable {Tz : Type} [TzDatabase Tz]

/-- The date text of a representable instant: `with_timezone(tz).format("%Y-%m-%d")`. -/
def dateInTimezone (tz : Tz) (unixMs : ℤ) : String :=
  let seconds := unixMs / 1000
  formatDate (civilFromDays ((seconds + TzDatabase.offset tz seconds) / 86400))

/-- The local date of an instant in a timezone; `none` if the instant is out of range. -/
def localDate (tz : Tz) (unixMs : ℤ) : Option String :=
  (fromTimestampMillis unixMs).map (dateInTimezone tz)

/-! ## The monotonic clock -/

/-- A duration in nanoseconds. -/
abbrev Duration := ℕ

/-- A monotonic instant in nanoseconds. -/
abbrev Instant := ℕ

/-- `Duration::from_secs`. -/
def Duration.fromSecs (seconds : ℕ) : Duration := seconds * 1000000000

/-- The last representable instant: the seconds of an instant are an `i64`. -/
def Instant.latest : Instant := Duration.fromSecs (2 ^ 63) - 1

/-- The sum of an instant and a duration, when it is representable. The operator `+` of `Instant`
panics when it is not. -/
def Instant.checkedAdd (instant : Instant) (duration : Duration) : Option Instant :=
  if duration ≤ Instant.latest - instant then some (instant + duration) else none

end WeatherApp
