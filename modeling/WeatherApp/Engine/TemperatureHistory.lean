import WeatherApp.Db.HistoryPage
import WeatherApp.Engine.System
import WeatherApp.Engine.WeatherSystem
import WeatherApp.Foundation.SortedMap
import WeatherApp.Schema.Rpc

/-!
# Temperature history

`engine/src/handlers/temperature_history.rs`: a page of the daily highs and lows of a station, from
the stored snapshots of its days and, on the newest page, the forecast of the newest one.

## Main definitions

* `TemperatureRange`, `historicalRange`: the high and the low of a day.
* `buildTemperatureHistory`: the points of some snapshots.
* `getTemperatureHistory`: the handler.
* `followHistory`: a client that follows the pages.
-/

namespace WeatherApp

open Weather (parseTemperature parseFullDate parseRelativeDate)

/-! ## Ranges -/

/-- `f64::is_nan`: the greatest exponent with a fraction. -/
def F64.isNan (value : F64) : Bool := !value.isFinite && value.toNat % 2 ^ 52 ≠ 0

/-- The order of numbers: the bits below the sign count upwards, or downwards behind a sign. -/
def F64.rank (value : F64) : ℤ :=
  if value.toNat < 2 ^ 63 then value.toNat else -(value.toNat - 2 ^ 63 : ℕ)

/-- `f64::max`: a NaN gives way to the other value. -/
def F64.max (a b : F64) : F64 :=
  if a.isNan then b else if b.isNan then a else if a.rank < b.rank then b else a

/-- `f64::min`. -/
def F64.min (a b : F64) : F64 :=
  if a.isNan then b else if b.isNan then a else if b.rank < a.rank then b else a

/-- `Iterator::reduce`. -/
def reduce {α : Type} (f : α → α → α) : List α → Option α
  | [] => none
  | first :: rest => some (rest.foldl f first)

/-- `TemperatureRange`. -/
structure TemperatureRange where
  max : Option F64
  min : Option F64
  deriving DecidableEq, Repr

namespace TemperatureRange

/-- `TemperatureRange::default`. -/
def default : TemperatureRange := ⟨none, none⟩

/-- `usable`. -/
def usable (range : TemperatureRange) : Bool := range.max.isSome || range.min.isSome

/-- `fill_missing`. -/
def fillMissing (range other : TemperatureRange) : TemperatureRange :=
  ⟨range.max <|> other.max, range.min <|> other.min⟩

end TemperatureRange

/-- `DailyTemperaturePoint`. -/
structure DailyTemperaturePoint where
  date : String
  maxTemperature : Option F64
  minTemperature : Option F64
  forecast : Bool
  deriving DecidableEq, Repr

/-- `daily_point`. -/
def dailyPoint (date : CivilDate) (range : TemperatureRange) (forecast : Bool) :
    DailyTemperaturePoint :=
  ⟨formatDate date, range.max, range.min, forecast⟩

section Build

variable [FloatText] [DateText]

/-- The chart of a day: one of its date, or the only one if it has no date. -/
def matchingChart (tempchart : List TemperatureChart) (date : CivilDate) :
    Option TemperatureChart :=
  (tempchart.find? fun chart =>
    (chart.date.bind fun value => parseRelativeDate value date) = some date) <|>
  match tempchart with
  | [chart] => if chart.date.all isBlank then some chart else none
  | _ => none

/-- `historical_range`. -/
def historicalRange (stored : StoredSnapshot WeatherSnapshot) (date : CivilDate) :
    TemperatureRange :=
  let range := match matchingChart stored.snapshot.tempchart date with
    | some chart => ⟨chart.maxTemperature, chart.minTemperature⟩
    | none => .default
  let rows := stored.snapshot.passedchart.filter fun row =>
    row.time.all fun time => (parseRelativeDate time date).all fun rowDate => rowDate = date
  let observed := rows.filterMap (·.temperature)
  let range :=
    if observed = [] then range
    else range.fillMissing ⟨reduce F64.max observed, reduce F64.min observed⟩
  match stored.snapshot.predict.bind fun forecast =>
      forecast.days.find? fun day => parseRelativeDate day.date date = some date with
  | some day =>
    range.fillMissing ⟨parseTemperature day.dayTemperature, parseTemperature day.nightTemperature⟩
  | none => range

/-- The point of a stored snapshot, when its date is one and its range is usable. -/
def historicalEntry (stored : StoredSnapshot WeatherSnapshot) :
    Option (CivilDate × DailyTemperaturePoint) := do
  let date ← parseFullDate stored.date
  let range := historicalRange stored date
  if range.usable then some (date, dailyPoint date range false) else none

/-- The points of a history without a forecast. -/
def historicalPoints (history : List (StoredSnapshot WeatherSnapshot)) :
    SortedMap CivilDate DailyTemperaturePoint :=
  history.foldl (fun points stored =>
    match historicalEntry stored with
    | some (date, point) => points.insert date point
    | none => points) .empty

/-- Merge the forecast of a day into the points. -/
def mergeForecast (points : SortedMap CivilDate DailyTemperaturePoint) (date : CivilDate)
    (range : TemperatureRange) : SortedMap CivilDate DailyTemperaturePoint :=
  if range.usable then
    points.upsert date fun
      | some point => { point with
          maxTemperature := range.max <|> point.maxTemperature
          minTemperature := range.min <|> point.minTemperature
          forecast := true }
      | none => dailyPoint date range true
  else points

/-- The days of a snapshot's forecast and of its temperature chart, with their dates. -/
def forecastDays (snapshot : WeatherSnapshot) : List (Option String × TemperatureRange) :=
  (match snapshot.predict with
    | some forecast => forecast.days.map fun day => (some day.date,
        ⟨parseTemperature day.dayTemperature, parseTemperature day.nightTemperature⟩)
    | none => []) ++
  snapshot.tempchart.map fun chart => (chart.date, ⟨chart.maxTemperature, chart.minTemperature⟩)

/-- Merge the forecast of the newest snapshot, from its own date on. -/
def mergeForecasts (points : SortedMap CivilDate DailyTemperaturePoint)
    (snapshot : WeatherSnapshot) (baseDate : CivilDate) :
    SortedMap CivilDate DailyTemperaturePoint :=
  (forecastDays snapshot).foldl (fun points (text, range) =>
    match text.bind fun value => (parseRelativeDate value baseDate).filter (baseDate ≤ ·) with
    | some date => mergeForecast points date range
    | none => points) points

/-- `build_temperature_history`. -/
def buildTemperatureHistory (history : List (StoredSnapshot WeatherSnapshot))
    (includeForecast : Bool) : List DailyTemperaturePoint :=
  let points := historicalPoints history
  let latest : Option (WeatherSnapshot × CivilDate) := do
    let latest ← history.getLast?
    let baseDate ← parseFullDate latest.date
    return (latest.snapshot, baseDate)
  match includeForecast, latest with
  | true, some (snapshot, baseDate) => (mergeForecasts points snapshot baseDate).values
  | _, _ => points.values

/-! ## The handler -/

variable [WeatherCodec] {Tz : Type}

/-- `DEFAULT_HISTORY_PAGE_SIZE`. -/
def defaultHistoryPageSize : ℕ := 7

/-- `MAX_HISTORY_PAGE_SIZE`. -/
def maxHistoryPageSize : ℕ := 31

/-- `GetTemperatureHistoryRequest`. -/
structure GetTemperatureHistoryRequest where
  unifiedUuid : String
  beforeDate : Option String
  pageSize : ℕ
  deriving DecidableEq, Repr

/-- `GetTemperatureHistoryResponse`. -/
structure GetTemperatureHistoryResponse where
  points : List DailyTemperaturePoint
  nextBeforeDate : Option String
  hasMoreHistory : Bool
  deriving DecidableEq, Repr

/-- The cursor of a request: a blank one is none. -/
def GetTemperatureHistoryRequest.cursor (request : GetTemperatureHistoryRequest) : Option String :=
  request.beforeDate.filter fun value => !isBlank value

/-- The checks of `get_temperature_history` and the page that it reads. -/
def readHistoryPage (db : DbInstance Tz) (request : GetTemperatureHistoryRequest)
    (faults : FaultPlan) : Except (RpcErrorCode × String) (StoredSnapshotPage WeatherSnapshot) :=
  let unifiedUuid := trim request.unifiedUuid
  if unifiedUuid = "" then .error (.badRequest, "unified_uuid must not be empty")
  else
    let pageSize := if request.pageSize = 0 then defaultHistoryPageSize else request.pageSize
    if pageSize > maxHistoryPageSize then
      .error (.badRequest, s!"page_size {pageSize} exceeds maximum {maxHistoryPageSize}")
    else
      match request.cursor.filter fun value =>
          (asBytes value).length ≠ 10 ∨ (DateText.parseFromStr value "%Y-%m-%d").isNone with
      | some value => .error (.badRequest, s!"before_date `{value}` must use YYYY-MM-DD")
      | none =>
        match db.getHistorySnapshotPage unifiedUuid request.cursor pageSize faults with
        | .ok page => .ok page
        | .error error =>
          let error := Engine.describe error
          .error (.database, s!"failed to load temperature history: {error}")

/-- The response to a page. -/
def historyResponse (page : StoredSnapshotPage WeatherSnapshot) (includeForecast : Bool) :
    GetTemperatureHistoryResponse :=
  { points := buildTemperatureHistory page.snapshots includeForecast
    nextBeforeDate := if page.hasMore then page.snapshots.head?.map (·.date) else none
    hasMoreHistory := page.hasMore }

/-- `handle_get_temperature_history`. -/
def handleGetTemperatureHistory (db : DbInstance Tz) (request : GetTemperatureHistoryRequest)
    (faults : FaultPlan) : Except (RpcErrorCode × String) GetTemperatureHistoryResponse :=
  (readHistoryPage db request faults).map fun page => historyResponse page request.cursor.isNone

/-! ## A client -/

/-- What a request visits and what it answers. -/
structure VisitedPage where
  page : StoredSnapshotPage WeatherSnapshot
  response : GetTemperatureHistoryResponse
  deriving DecidableEq, Repr

/-- The requests of a client that follows `next_before_date` until there is none. The `n`-th one
finds the database `db n`. The result is `none` when the fuel is used up. -/
def followHistory (db : ℕ → DbInstance Tz) (unifiedUuid : String) (pageSize : ℕ) :
    ℕ → ℕ → Option String → Option (Except (RpcErrorCode × String) (List VisitedPage))
  | 0, _, _ => none
  | fuel + 1, n, beforeDate =>
    let request : GetTemperatureHistoryRequest := ⟨unifiedUuid, beforeDate, pageSize⟩
    match readHistoryPage (db n) request noFaults,
        handleGetTemperatureHistory (db n) request noFaults with
    | .ok page, .ok response =>
      match response.nextBeforeDate with
      | none => some (.ok [⟨page, response⟩])
      | some date =>
        (followHistory db unifiedUuid pageSize fuel (n + 1) (some date)).map fun rest =>
          rest.map (⟨page, response⟩ :: ·)
    | .error error, _ | _, .error error => some (.error error)

end Build

end WeatherApp
