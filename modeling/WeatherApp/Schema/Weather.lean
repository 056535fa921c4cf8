import WeatherApp.Schema.Station
import WeatherApp.Schema.Time
import Mathlib.Tactic

/-!
# Weather messages

The weather snapshot and the events of the engine, from `weather-schema`. Of the observed
weather, the forecast and the charts only the fields that the engine looks at are kept. A `double`
is the bit pattern of its value; what the standard library and `chrono` make of texts comes as
parameters.

## Main definitions

* `WeatherSnapshot`, `WeatherAlert`, `RadarInfo`, `DebugPayload`
* `RefreshEvent`, `FetchLogEvent`
* `FloatText`, `DateText`: the texts of numbers and dates.
-/

namespace WeatherApp

/-! ## Numbers and dates -/

/-- The bit pattern of a `double`. -/
abbrev F64 := UInt64

/-- `f64::is_finite`: the exponent is not the greatest one. -/
def F64.isFinite (value : F64) : Bool := (value.toNat / 2 ^ 52) % 2 ^ 11 ≠ 2 ^ 11 - 1

/-- The texts of numbers. -/
class FloatText where
  /-- `str::parse`. -/
  parse : String → Option F64
  /-- `value.fract() == 0.0`. -/
  isWhole : F64 → Bool
  /-- `format!("{value:.0}")`. -/
  toWholeText : F64 → String
  /-- `f64::to_string`. -/
  toText : F64 → String

/-- No text is a number, to run the model on. -/
@[reducible]
def sampleFloatText : FloatText where
  parse _ := none
  isWhole _ := true
  toWholeText _ := "0"
  toText _ := "0"

/-- The texts of dates. -/
class DateText where
  /-- `NaiveDate::parse_from_str`, of a text with a format. -/
  parseFromStr : String → String → Option CivilDate

/-- No text is a date, to run the model on. -/
@[reducible]
def sampleDateText : DateText where
  parseFromStr _ _ := none

/-- `NaiveDate::from_ymd_opt`: the date, if the calendar has it and `chrono` represents it. -/
def fromYmdOpt (year : ℤ) (month day : ℕ) : Option CivilDate :=
  let date : CivilDate := ⟨year, month, day⟩
  if civilFromDays (daysFromCivil date) = date ∧ -262143 ≤ year ∧ year ≤ 262142 then some date
  else none

/-! ## The snapshot -/

/-- `WeatherAlert`. -/
structure WeatherAlert where
  alert : Option String
  province : Option String
  city : Option String
  url : Option String
  issueContent : Option String
  prevention : Option String
  signalType : Option String
  signalLevel : Option String
  iconUrl : Option String
  iconName : Option String
  iconResourceId : Option String
  inherited : Bool
  deriving DecidableEq, Repr

/-- `ObservedWeather`: the alerts. -/
structure ObservedWeather where
  alerts : List WeatherAlert
  deriving DecidableEq, Repr

/-- `ForecastDay`: its date, the high of the day and the low of the night. -/
structure ForecastDay where
  date : String
  dayTemperature : Option String
  nightTemperature : Option String
  deriving DecidableEq, Repr

/-- `ForecastReport`: its days. -/
structure ForecastReport where
  days : List ForecastDay
  deriving DecidableEq, Repr

/-- `AirQuality`. -/
structure AirQuality where
  publishTime : Option String
  aqi : Option F64
  level : Option String
  category : Option String
  primaryPollutant : Option String
  pm25 : Option F64
  pm10 : Option F64
  no2 : Option F64
  so2 : Option F64
  co : Option F64
  o3 : Option F64
  deriving DecidableEq, Repr

/-- `TemperatureChart`: its date, the high and the low. -/
structure TemperatureChart where
  date : Option String
  maxTemperature : Option F64
  minTemperature : Option F64
  deriving DecidableEq, Repr

/-- `PassedWeatherChart`: the time and the temperature that was observed. -/
structure PassedWeatherChart where
  time : Option String
  temperature : Option F64
  deriving DecidableEq, Repr

/-- `RadarInfo`. -/
structure RadarInfo where
  title : Option String
  imageUrl : Option String
  pageUrl : Option String
  imageResourceId : Option String
  deriving DecidableEq, Repr

/-- `DebugPayload`. -/
structure DebugPayload where
  provider : String
  operation : String
  endpoint : String
  rawJson : String
  warnings : List String
  deriving DecidableEq, Repr

/-- `WeatherSnapshot`. -/
structure WeatherSnapshot where
  station : Option StationRef
  real : Option ObservedWeather
  predict : Option ForecastReport
  air : Option AirQuality
  tempchart : List TemperatureChart
  passedchart : List PassedWeatherChart
  radar : Option RadarInfo
  stale : Bool
  debug : Option DebugPayload
  deriving DecidableEq, Repr

/-- `GetWeatherRequest`. -/
structure GetWeatherRequest where
  unifiedUuid : String
  refresh : Bool
  includeDebug : Bool
  deriving DecidableEq, Repr

/-- The alerts of a snapshot. -/
def WeatherSnapshot.alerts (snapshot : WeatherSnapshot) : List WeatherAlert :=
  match snapshot.real with
  | some real => real.alerts
  | none => []

/-! ## Events -/

/-- `RefreshPhase`. -/
inductive RefreshEvent.Phase where
  | unspecified
  | started
  | completed
  deriving DecidableEq, Repr

/-- `RefreshOutcome`. -/
inductive RefreshEvent.Outcome where
  | unspecified
  | success
  | stale
  | failure
  deriving DecidableEq, Repr

/-- `RefreshEvent`. -/
structure RefreshEvent where
  unifiedUuid : Option String
  started : Bool
  completed : Bool
  message : Option String
  phase : RefreshEvent.Phase
  outcome : RefreshEvent.Outcome
  deriving DecidableEq, Repr

/-- `FetchOutcome`. -/
inductive FetchLogEvent.Outcome where
  | unspecified
  | success
  | warning
  | failure
  deriving DecidableEq, Repr

/-- `FetchLogEvent`, without its time. -/
structure FetchLogEvent where
  unifiedUuid : Option String
  endpoint : String
  ok : Bool
  message : Option String
  outcome : FetchLogEvent.Outcome
  deriving DecidableEq, Repr

end WeatherApp
