import WeatherApp.Conf.Types
import WeatherApp.Db.History
import WeatherApp.Engine.Load
import WeatherApp.Foundation.Process
import WeatherApp.Updater.Weather

/-!
# The weather of a station

`engine/src/handlers/weather.rs`: how a request for the weather of a station is answered, and how
the scheduler refreshes a station. A request is a program that calls the database actor, the
provider, the other participants of its flight and the surroundings of the engine.

## Main definitions

* `mergeStation`, `mergeParentAlerts`, `mergeCachedDailyHigh`, `cachedSnapshotIsFresh`
* `RefreshCompletionGuard`, `RefreshTerminal`: the events of a refresh.
* `Call`, `Reply`, `Program`
* `resolveStation`, `fetchWeatherUncached`, `getWeatherInternal`
* `Request.program`: the requests and the scheduled refreshes.
-/

namespace WeatherApp.Weather

open Process (perform)

/-! ## Stations -/

section Stations

variable [Sha256]

/-- `ProviderStation::public_ref`. -/
def publicRef (station : ProviderStation) : StationRef :=
  ⟨station.province, station.city, station.name, station.unifiedUuid⟩

/-- `merge_station`. -/
def mergeStation (upstream : Option StationRef) (requested : ProviderStation) : StationRef :=
  let station := upstream.getD (publicRef requested)
  { province := if station.province.isEmpty then requested.province else station.province
    city := if station.city.isEmpty then requested.city else station.city
    name := requested.name
    unifiedUuid :=
      if requested.unifiedUuid.isEmpty then unifiedStationUuid requested.name
      else requested.unifiedUuid }

/-- The provider's station under the name that was asked for. -/
def named (name : String) (station : ProviderStation) : ProviderStation :=
  { station with name, unifiedUuid := unifiedStationUuid name }

/-- The provider's station in Beijing. -/
def sampleProviderStation : ProviderStation :=
  ⟨"nmc", sampleStation.name, "54511", "ABJ", sampleStation.province, sampleStation.city, "",
    sampleStation.name, sampleStation.unifiedUuid⟩

/-- `first_enabled_station_name`. -/
def firstEnabledStationName (config : AppConfig) : Option String :=
  (config.stations.find? (·.enabled)).map (·.name)

/-- `municipality_air_parent_name`. -/
def municipalityAirParentName (province city : String) : Option String :=
  if stripSuffix province "市" = none then none
  else
    let municipality := shortRegionName province
    if municipality.isEmpty ∨ city = municipality ∨ city = province then none
    else some (canonicalStationName province municipality)

end Stations

/-! ## Merging snapshots -/

/-- `same_alert`. -/
def sameAlert (left right : WeatherAlert) : Bool :=
  left.alert = right.alert ∧ left.province = right.province ∧ left.city = right.city ∧
    left.issueContent = right.issueContent ∧ left.signalType = right.signalType ∧
    left.signalLevel = right.signalLevel

/-- The alerts of a parent that are not there yet, marked as inherited, after those of the
station. -/
def inheritAlerts (alerts : List WeatherAlert) : List WeatherAlert → List WeatherAlert
  | [] => alerts
  | parentAlert :: rest =>
    let parentAlert := { parentAlert with inherited := true }
    if alerts.any fun current => sameAlert current parentAlert then inheritAlerts alerts rest
    else inheritAlerts (alerts ++ [parentAlert]) rest

/-- `merge_parent_alerts`. -/
def mergeParentAlerts (snapshot : WeatherSnapshot) (parentAlerts : List WeatherAlert) :
    WeatherSnapshot :=
  if parentAlerts.isEmpty then snapshot
  else { snapshot with real := some ⟨inheritAlerts snapshot.alerts parentAlerts⟩ }

section Fresh

variable (Tz : Type) [TzDatabase Tz]

/-- `date_for_tz`. -/
def dateForTz (unixMs : ℤ) (timezone : String) : Except String String :=
  match (TzDatabase.fromStr timezone : Option Tz) with
  | none => .error s!"invalid timezone `{timezone}`"
  | some tz =>
    match localDate tz unixMs with
    | none => .error "invalid fetched_at_unix_ms"
    | some date => .ok date

/-- `cached_snapshot_is_fresh`. -/
def cachedSnapshotIsFresh (fetchedAtUnixMs nowUnixMs : ℤ) (ttlSeconds : ℕ) (timezone : String) :
    Except String Bool := do
  let ttlMs : ℤ := min (ttlSeconds * 1000 : ℕ) (2 ^ 63 - 1)
  let ageMs := max (Engine.saturatingSub nowUnixMs fetchedAtUnixMs) 0
  if ageMs ≥ ttlMs then return false
  else
    let fetchedDate ← dateForTz Tz fetchedAtUnixMs timezone
    let today ← dateForTz Tz nowUnixMs timezone
    return fetchedDate = today

end Fresh

section DailyHigh

variable [FloatText] [DateText]

/-- `split_whitespace().next()`. -/
def firstWord (value : String) : Option String :=
  let word := (value.toList.dropWhile isWhitespace).takeWhile (!isWhitespace ·)
  if word = [] then none else some (String.ofList word)

/-- `parse_temperature`. -/
def parseTemperature (value : Option String) : Option F64 := do
  let value ← value
  let unit (c : Char) : Bool := c = '°' || c = '℃'
  FloatText.parse (trim (String.ofList ((trim value).toList.rdropWhile unit)))

/-- `parse_full_date`. -/
def parseFullDate (value : String) : Option CivilDate := do
  let date ← firstWord value
  ["%Y-%m-%d", "%Y/%m/%d", "%Y.%m.%d"].findSome? fun format => DateText.parseFromStr date format

/-- `min_by_key`: the first element with the least key. -/
def minByKey {α : Type} (key : α → ℕ) : List α → Option α
  | [] => none
  | x :: xs =>
    match minByKey key xs with
    | none => some x
    | some best => if key best < key x then some best else some x

/-- `parse_relative_date`: a date without a year is the nearest one. -/
def parseRelativeDate (value : String) (base : CivilDate) : Option CivilDate :=
  match parseFullDate value with
  | some date => some date
  | none => do
    let date ← firstWord value
    let parsed ← ["%m-%d", "%m/%d", "%m.%d"].findSome? fun format =>
      DateText.parseFromStr s!"2000-{date}" s!"%Y-{format}"
    let candidates := [base.year - 1, base.year, base.year + 1].filterMap fun year =>
      fromYmdOpt year parsed.month parsed.day
    minByKey (fun candidate => (daysFromCivil candidate - daysFromCivil base).natAbs) candidates

/-- `current_forecast_index`. -/
def currentForecastIndex (snapshot : WeatherSnapshot) (today : CivilDate) : Option ℕ := do
  let predict ← snapshot.predict
  predict.days.findIdx? fun day => parseRelativeDate day.date today = some today

/-- `current_temperature_chart_index`: a single chart without a date is that of today. -/
def currentTemperatureChartIndex (snapshot : WeatherSnapshot) (today : CivilDate) : Option ℕ :=
  let dated := snapshot.tempchart.findIdx? fun chart =>
    (chart.date.bind fun value => parseRelativeDate value today) = some today
  match dated, snapshot.tempchart with
  | some index, _ => some index
  | none, [chart] => if chart.date.all isBlank then some 0 else none
  | none, _ => none

/-- `snapshot_daily_high`. -/
def snapshotDailyHigh (snapshot : WeatherSnapshot) (today : CivilDate) : Option F64 :=
  let forecast : Option F64 := do
    let index ← currentForecastIndex snapshot today
    let predict ← snapshot.predict
    let day ← predict.days[index]?
    (parseTemperature day.dayTemperature).filter F64.isFinite
  let chart : Option F64 := do
    let index ← currentTemperatureChartIndex snapshot today
    let chart ← snapshot.tempchart[index]?
    chart.maxTemperature.filter F64.isFinite
  forecast <|> chart

/-- `temperature_text`. -/
def temperatureText (value : F64) : String :=
  if FloatText.isWhole value then FloatText.toWholeText value else FloatText.toText value

/-- The high of the day for a forecast that has none. -/
def fillDay (high : F64) (day : ForecastDay) : ForecastDay :=
  if ((parseTemperature day.dayTemperature).filter F64.isFinite).isNone then
    { day with dayTemperature := some (temperatureText high) }
  else day

/-- The high of the day for a chart that has none. -/
def fillChart (high : F64) (chart : TemperatureChart) : TemperatureChart :=
  if (chart.maxTemperature.filter F64.isFinite).isNone then
    { chart with maxTemperature := some high }
  else chart

/-- `merge_cached_daily_high`. -/
def mergeCachedDailyHigh (snapshot : WeatherSnapshot) (stored : StoredSnapshot WeatherSnapshot)
    (today : String) : WeatherSnapshot :=
  if stored.date ≠ today then snapshot
  else
    match parseFullDate today with
    | none => snapshot
    | some today =>
      match snapshotDailyHigh snapshot today <|> snapshotDailyHigh stored.snapshot today with
      | none => snapshot
      | some high =>
        let filled :=
          match currentForecastIndex snapshot today with
          | none => snapshot
          | some index =>
            { snapshot with
              predict := snapshot.predict.map fun forecast =>
                ⟨forecast.days.modify index (fillDay high)⟩ }
        match currentTemperatureChartIndex filled today with
        | none => filled
        | some index =>
          { filled with tempchart := filled.tempchart.modify index (fillChart high) }

/-- What has been merged concerns the forecast and the chart alone. -/
theorem mergeCachedDailyHigh_frame (snapshot : WeatherSnapshot)
    (stored : StoredSnapshot WeatherSnapshot) (today : String) :
    ∃ predict tempchart, mergeCachedDailyHigh snapshot stored today =
      { snapshot with predict, tempchart } := by
  unfold mergeCachedDailyHigh
  split
  · exact ⟨_, _, rfl⟩
  · split
    · exact ⟨_, _, rfl⟩
    · split
      · exact ⟨_, _, rfl⟩
      · dsimp only
        split <;> split <;> exact ⟨_, _, rfl⟩

end DailyHigh

/-- `warning_summary`. -/
def warningSummary (warnings : List String) : Option String :=
  if warnings.isEmpty then none else some ("; ".intercalate warnings)

/-! ## Events -/

/-- `RefreshTerminal`. -/
inductive RefreshTerminal where
  | success
  | stale
  | failure (message : String)
  deriving DecidableEq, Repr

/-- `into_diagnostics`. -/
def RefreshTerminal.intoDiagnostics : RefreshTerminal → RefreshEvent.Outcome × String
  | .success => (.success, "success")
  | .stale => (.stale, "stale")
  | .failure message => (.failure, s!"failure: {message}")

/-- `refresh_event`. -/
def refreshEvent (unifiedUuid : Option String) (phase : RefreshEvent.Phase)
    (outcome : RefreshEvent.Outcome) (message : Option String) : RefreshEvent :=
  ⟨unifiedUuid, phase = .started, phase = .completed, message, phase, outcome⟩

/-- `publish_refresh_started`. -/
def refreshStarted (unifiedUuid : Option String) : RefreshEvent :=
  refreshEvent unifiedUuid .started .unspecified none

/-- `publish_refresh_terminal`. -/
def refreshTerminal (unifiedUuid : Option String) (outcome : RefreshTerminal) : RefreshEvent :=
  let (outcome, message) := outcome.intoDiagnostics
  refreshEvent unifiedUuid .completed outcome (some message)

/-- `fetch_log_event`. -/
def fetchLogEvent (unifiedUuid : Option String) (endpoint : String) (ok : Bool)
    (message : Option String) : FetchLogEvent :=
  let outcome : FetchLogEvent.Outcome :=
    match ok, message.isSome with
    | true, false => .success
    | true, true => .warning
    | false, _ => .failure
  ⟨unifiedUuid, endpoint, ok, message, outcome⟩

end WeatherApp.Weather
