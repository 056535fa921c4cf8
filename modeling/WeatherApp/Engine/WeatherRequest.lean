import WeatherApp.Engine.Weather
import WeatherApp.Schema.Rpc

/-!
# Requests for the weather

The programs of `engine/src/handlers/weather.rs` and `refresh_one` of `engine/src/refresh.rs`.
They wait for the database actor, for the provider, for the resolution of a name and for the
initializer of their flight; everything else they do without giving up control. The lookup of a
name in the catalog can answer anything.

## Main definitions

* `Query`, `DbCommand`, `Call`: what a program calls. `Call.awaits`: where it can be cancelled.
* `RefreshCompletionGuard`, `refreshEffect`: the events of a refresh.
* `getWeatherInternal`, `Request.program`
-/

namespace WeatherApp.Weather

open Process (perform)

/-! ## Calls -/

/-- What a program asks its surroundings. -/
inductive Query where
  /-- `self.config.get()`. -/
  | config
  /-- `weather_now_unix_ms`. -/
  | now
  /-- The response of the upstream service for a station. -/
  | weather (providerStationId : String) (includeDebug : Bool)
  /-- `resolve_station_name_from_targeted_index`. -/
  | resolveName (name : String)
  /-- `self.resources.register`. -/
  | register (url : String)
  deriving DecidableEq, Repr

/-- The answer to a query. -/
abbrev Query.Reply : Query → Type
  | .config => AppConfig
  | .now => ℤ
  | .weather _ _ => Except String WeatherDocument
  | .resolveName _ => Except String ProviderStation
  | .register _ => Option String

/-- A command for the database actor. -/
inductive DbCommand where
  | getLatestSnapshot (uuid : String)
  | putHistorySnapshot (snapshot : WeatherSnapshot) (fetchedAtUnixMs : ℤ)
  | logFetch (unifiedUuid : Option String) (endpoint : String) (ok : Bool) (message : Option String)
  | getProviderStationByUuid (uuid : String)
  | getProviderStationByName (displayName : String)
  deriving DecidableEq, Repr

/-- What a command returns. -/
abbrev DbCommand.Reply : DbCommand → Type
  | .getLatestSnapshot _ => Option (StoredSnapshot WeatherSnapshot)
  | .putHistorySnapshot _ _ => Unit
  | .logFetch _ _ _ _ => Unit
  | .getProviderStationByUuid _ => Option ProviderStation
  | .getProviderStationByName _ => Option ProviderStation

/-- The station and whether a debug payload is asked for. -/
abbrev FlightKey := String × Bool

/-- The calls of a program. -/
inductive Call where
  | input (query : Query)
  | db (command : DbCommand)
  /-- `join` of the flight of a key. -/
  | join (key : FlightKey)
  /-- The start of `get_or_init`. -/
  | enter (key : FlightKey) (flight : ℕ)
  /-- The end of `get_or_init` in the participant that initialized the flight. -/
  | complete (key : FlightKey) (flight : ℕ) (result : Except String WeatherSnapshot)
  /-- `drop` of the lease. -/
  | leave (key : FlightKey) (flight : ℕ)
  /-- `RefreshCompletionGuard::start`. -/
  | startRefresh (requestedUuid : String)
  /-- `set_unified_uuid`. -/
  | setUnifiedUuid (uuid : String)
  /-- `complete` of the guard. -/
  | completeRefresh (outcome : RefreshTerminal)
  /-- The guard goes out of scope. -/
  | dropRefresh
  /-- `publish_snapshot`. -/
  | publishSnapshot (snapshot : WeatherSnapshot)
  /-- `publish_fetch_log`. -/
  | publishFetchLog (event : FetchLogEvent)
  deriving DecidableEq

/-- The replies to calls. -/
abbrev Reply : Call → Type
  | .input query => query.Reply
  | .db command => Except String command.Reply
  | .join _ => ℕ
  | .enter _ _ => Option (Except String WeatherSnapshot)
  | .complete _ _ _ => Except String WeatherSnapshot
  | .leave _ _ => Unit
  | .startRefresh _ => Unit
  | .setUnifiedUuid _ => Unit
  | .completeRefresh _ => Unit
  | .dropRefresh => Unit
  | .publishSnapshot _ => Unit
  | .publishFetchLog _ => Unit

/-- The calls at which a program gives up control, and can be cancelled. -/
def Call.awaits : Call → Bool
  | .input (.weather _ _) => true
  | .input (.resolveName _) => true
  | .db _ => true
  | .enter _ _ => true
  | _ => false

/-- A call with its reply. -/
abbrev Event := CallEvent Call Reply

/-- A program that can fail; errors are texts with their causes. -/
abbrev Program (α : Type) := ExceptT String (Process Call Reply) α

/-- Make a call. -/
def invoke (c : Call) : Process Call Reply (Reply c) := perform c

/-- Ask the surroundings. -/
def ask (query : Query) : Program query.Reply :=
  ExceptT.mk (.call (.input query) fun reply => .ret (.ok reply))

/-- Send a command to the database actor and fail when it fails. -/
def db (command : DbCommand) : Program command.Reply := ExceptT.mk (.call (.db command) .ret)

/-- Do something that has no reply. -/
def emit (c : Call) : Program Unit := ExceptT.mk (.call c fun _ => .ret (.ok ⟨⟩))

/-- Run a program and look at its result. -/
def attempt {α : Type} (p : Program α) : Program (Except String α) :=
  ExceptT.mk (p.run >>= fun result => .ret (.ok result))

/-- Continue with the result of a pure computation, or fail with its error. -/
def ofExcept {α : Type} (result : Except String α) : Program α := ExceptT.mk (.ret result)

/-! ## The events of a refresh -/

/-- `RefreshCompletionGuard` while it is armed. -/
structure RefreshCompletionGuard where
  unifiedUuid : Option String
  deriving DecidableEq, Repr

/-- `drop` of the guard: a refresh that was not completed has failed. -/
def dropCompletion : Option RefreshCompletionGuard → List RefreshEvent
  | none => []
  | some completion =>
    [refreshTerminal completion.unifiedUuid (.failure "refresh cancelled before completion")]

/-- What a call publishes about the refresh, and the guard after it. -/
def refreshEffect (completion : Option RefreshCompletionGuard) :
    Call → List RefreshEvent × Option RefreshCompletionGuard
  | .startRefresh requestedUuid =>
    let unifiedUuid := if isBlank requestedUuid then none else some requestedUuid
    ([refreshStarted unifiedUuid], some ⟨unifiedUuid⟩)
  | .setUnifiedUuid uuid => ([], completion.map fun _ => ⟨some uuid⟩)
  | .completeRefresh outcome =>
    match completion with
    | none => ([], none)
    | some completion => ([refreshTerminal completion.unifiedUuid outcome], none)
  | .dropRefresh => (dropCompletion completion, none)
  | _ => ([], completion)

section Programs

variable [Sha256] [FloatText] [DateText] (Tz : Type) [TzDatabase Tz] (providerName : String)

/-! ## Stations -/

/-- `station_by_name`. -/
def stationByName (name : String) : Program ProviderStation := do
  let known ← db (.getProviderStationByName name)
  match known with
  | some station => return named name station
  | none =>
    let resolved ← ask (.resolveName name)
    let station ← ofExcept resolved
    return named name station

/-- The error for a station nobody knows. -/
def stationNotFound : String :=
  "station not found for unified_uuid; call FUZZY_MATCH_STATIONS first to populate DB"

/-- `resolve_station`. -/
def resolveStation (unifiedUuid : String) : Program ProviderStation :=
  if isBlank unifiedUuid then do
    let config ← ask .config
    match firstEnabledStationName config with
    | none => throw "no enabled station is configured for the default weather request"
    | some name => stationByName name
  else do
    let known ← db (.getProviderStationByUuid unifiedUuid)
    match known with
    | some station => return station
    | none =>
      let config ← ask .config
      match config.stations.find? fun station => unifiedStationUuid station.name = unifiedUuid with
      | none => throw stationNotFound
      | some matched => stationByName matched.name

/-! ## What is stored already -/

/-- The latest snapshot of a station, if it is fresh. -/
def freshStored (uuid : String) : Program (Option (StoredSnapshot WeatherSnapshot)) := do
  let found ← db (.getLatestSnapshot uuid)
  match found with
  | none => return none
  | some stored =>
    let config ← ask .config
    let now ← ask .now
    let fresh ← ofExcept (cachedSnapshotIsFresh Tz stored.fetchedAtUnixMs now
      config.updater.weatherTtlSeconds config.db.timezone)
    return if fresh then some stored else none

/-- `apply_parent_alerts`. -/
def applyParentAlerts (snapshot : WeatherSnapshot) (station : ProviderStation) :
    Program WeatherSnapshot :=
  match parentStationName station.name with
  | none => return snapshot
  | some parentName => do
    let found ← freshStored Tz (unifiedStationUuid parentName)
    match found with
    | none => return snapshot
    | some stored => return mergeParentAlerts snapshot stored.snapshot.alerts

/-- `apply_cached_municipality_air`. -/
def applyCachedMunicipalityAir (snapshot : WeatherSnapshot) (station : ProviderStation) :
    Program WeatherSnapshot :=
  if snapshot.air.isSome then return snapshot
  else
    match municipalityAirParentName station.province station.city with
    | none => return snapshot
    | some parentName => do
      let found ← freshStored Tz (unifiedStationUuid parentName)
      match found with
      | none => return snapshot
      | some stored =>
        match stored.snapshot.air with
        | none => return snapshot
        | some air => return { snapshot with air := some air }

/-- `apply_cached_daily_high`. -/
def applyCachedDailyHigh (snapshot : WeatherSnapshot) (station : ProviderStation) :
    Program WeatherSnapshot := do
  let config ← ask .config
  let now ← ask .now
  let today ← ofExcept (dateForTz Tz now config.db.timezone)
  let found ← db (.getLatestSnapshot station.unifiedUuid)
  match found with
  | none => return snapshot
  | some stored => return mergeCachedDailyHigh snapshot stored today

/-- Keep the snapshot when a step that enriches it fails. -/
def orUnchanged (snapshot : WeatherSnapshot) (step : Program WeatherSnapshot) :
    Program (WeatherSnapshot × Option String) := do
  let result ← attempt step
  match result with
  | .ok enriched => return (enriched, none)
  | .error err => return (snapshot, some err)

/-- The enrichment of an answer: the air of the municipality and the alerts of the parent. -/
def enrich (snapshot : WeatherSnapshot) (station : ProviderStation) :
    Program (WeatherSnapshot × Option String) := do
  let (withAir, airError) ← orUnchanged snapshot (applyCachedMunicipalityAir Tz snapshot station)
  let (withAlerts, _) ← orUnchanged withAir (applyParentAlerts Tz withAir station)
  return (withAlerts, airError)

/-! ## Fetching -/

/-- `persist_snapshot`. -/
def persistSnapshot (snapshot : WeatherSnapshot) : Program Unit := do
  let fetchedAtUnixMs ← ask .now
  db (.putHistorySnapshot snapshot fetchedAtUnixMs)

/-- A warning, if there is one. -/
def warningOf (what : String) : Option String → List String
  | none => []
  | some err => [s!"{what}: {err}"]

/-- What is left of an error when it is only reported. -/
def errorOf {α : Type} : Except String α → Option String
  | .ok _ => none
  | .error err => some err

/-- A fetch after the provider has answered. -/
def settleFetched (station : ProviderStation) (fetched : WeatherFetch) :
    Program WeatherSnapshot := do
  let merged := { fetched.snapshot with
    station := some (mergeStation fetched.snapshot.station station) }
  let (snapshot, highError) ← orUnchanged merged (applyCachedDailyHigh Tz merged station)
  let warnings := fetched.warnings ++ warningOf "daily high fallback failed" highError
  let persisted ← attempt (persistSnapshot { snapshot with debug := none })
  let warnings := warnings ++ warningOf "cache write failed" (errorOf persisted)
  let (snapshot, airError) ← enrich Tz snapshot station
  let warnings := warnings ++ warningOf "municipality air fallback failed" airError
  let logged ← attempt
    (db (.logFetch (some station.unifiedUuid) "rest/weather" true (warningSummary warnings)))
  let warnings := warnings ++ warningOf "fetch log write failed" (errorOf logged)
  emit (.publishFetchLog
    (fetchLogEvent (some station.unifiedUuid) "rest/weather" true (warningSummary warnings)))
  return { snapshot with debug := snapshot.debug.map fun debug => { debug with warnings } }

/-- A fetch after the provider has failed: the latest snapshot, marked as stale. -/
def settleFailed (station : ProviderStation) (fetchError : String) : Program WeatherSnapshot := do
  let logged ← attempt
    (db (.logFetch (some station.unifiedUuid) "rest/weather" false (some fetchError)))
  let eventMessage :=
    match logged with
    | .error logError => s!"{fetchError}; fetch log write failed: {logError}"
    | .ok _ => fetchError
  emit (.publishFetchLog
    (fetchLogEvent (some station.unifiedUuid) "rest/weather" false (some eventMessage)))
  let found ← attempt (db (.getLatestSnapshot station.unifiedUuid))
  match found with
  | .ok (some stored) =>
    let stale := { stored.snapshot with
      station := some (mergeStation stored.snapshot.station station)
      stale := true }
    let (snapshot, _) ← enrich Tz stale station
    return snapshot
  | .ok none => throw fetchError
  | .error cacheError => throw s!"stale cache lookup failed: {cacheError}: {fetchError}"

/-- `fetch_weather_uncached`. -/
def fetchWeatherUncached (station : ProviderStation) (includeDebug : Bool) :
    Program WeatherSnapshot := do
  let fetched ← ask (.weather station.providerStationId includeDebug)
  match fetched with
  | .ok document => settleFetched Tz station (nmcWeather providerName includeDebug document)
  | .error err => settleFailed Tz station err

/-- `Singleflight::run`. -/
def shareFlight (key : FlightKey) (work : Program WeatherSnapshot) : Program WeatherSnapshot :=
  ExceptT.mk do
    let flight ← invoke (.join key)
    let shared : Option (Except String WeatherSnapshot) ← invoke (.enter key flight)
    match shared with
    | some result =>
      let _ ← invoke (.leave key flight)
      return result
    | none =>
      let result ← work.run
      let result ← invoke (.complete key flight result)
      let _ ← invoke (.leave key flight)
      return result

/-! ## Answering -/

/-- Replace the links of an alert. -/
def prepareAlert (alert : WeatherAlert) : Program WeatherAlert :=
  match alert.iconUrl with
  | none => return { alert with url := none }
  | some iconUrl => do
    let iconResourceId ← ask (.register iconUrl)
    return { alert with iconUrl := none, iconResourceId, url := none }

/-- Replace the links of all alerts. -/
def prepareAlerts : List WeatherAlert → Program (List WeatherAlert)
  | [] => return []
  | alert :: alerts => do
    let prepared ← prepareAlert alert
    let rest ← prepareAlerts alerts
    return prepared :: rest

/-- Replace the links of the radar. -/
def prepareRadar (radar : RadarInfo) : Program RadarInfo :=
  match radar.imageUrl with
  | none => return { radar with pageUrl := none }
  | some imageUrl => do
    let imageResourceId ← ask (.register imageUrl)
    return { radar with imageUrl := none, imageResourceId, pageUrl := none }

/-- Prepare what there is. -/
def prepareSome {α : Type} (prepare : α → Program α) : Option α → Program (Option α)
  | none => return none
  | some a => some <$> prepare a

/-- `prepare_snapshot_resources`. -/
def prepareSnapshotResources (snapshot : WeatherSnapshot) : Program WeatherSnapshot := do
  let radar ← prepareSome prepareRadar snapshot.radar
  let real ← prepareSome (fun real => ObservedWeather.mk <$> prepareAlerts real.alerts)
    snapshot.real
  return { snapshot with radar, real }

/-- Complete the refresh that was asked for. -/
def completeIf (refresh : Bool) (outcome : RefreshTerminal) : Program Unit :=
  if refresh then emit (.completeRefresh outcome) else return ⟨⟩

/-- The outcome of a refresh. -/
def terminalOf : Except String WeatherSnapshot → RefreshTerminal
  | .ok snapshot => if snapshot.stale then .stale else .success
  | .error err => .failure err

/-- The answer from the cache, if the request allows one. -/
def cachedAnswer (request : GetWeatherRequest) (station : ProviderStation) :
    Program (Option WeatherSnapshot) :=
  if request.refresh ∨ request.includeDebug then return none
  else do
    let found ← freshStored Tz station.unifiedUuid
    match found with
    | none => return none
    | some stored =>
      let snapshot := { stored.snapshot with
        station := some (mergeStation stored.snapshot.station station) }
      let (snapshot, _) ← enrich Tz snapshot station
      return some snapshot

/-- `get_weather_internal` after the station is resolved. -/
def weatherOf (request : GetWeatherRequest) (station : ProviderStation) :
    Program WeatherSnapshot := do
  if request.refresh then emit (.setUnifiedUuid station.unifiedUuid)
  let cached ← cachedAnswer Tz request station
  match cached with
  | some snapshot => prepareSnapshotResources snapshot
  | none =>
    let result ← attempt (shareFlight (station.unifiedUuid, request.includeDebug)
      (fetchWeatherUncached Tz providerName station request.includeDebug))
    completeIf request.refresh (terminalOf result)
    let snapshot ← ofExcept result
    prepareSnapshotResources snapshot

/-- The body of `get_weather_internal`. -/
def weatherBody (request : GetWeatherRequest) : Program WeatherSnapshot := do
  let resolved ← attempt (resolveStation request.unifiedUuid)
  match resolved with
  | .error err =>
    completeIf request.refresh (.failure err)
    throw err
  | .ok station => weatherOf Tz providerName request station

/-- `get_weather_internal`: the guard of a refresh lives as long as the call. -/
def getWeatherInternal (request : GetWeatherRequest) :
    Process Call Reply (Except String WeatherSnapshot) := do
  if request.refresh then
    let _ ← invoke (.startRefresh request.unifiedUuid)
    let result ← (weatherBody Tz providerName request).run
    let _ ← invoke .dropRefresh
    return result
  else (weatherBody Tz providerName request).run

/-- A request, or a refresh of the scheduler. -/
inductive Request where
  /-- `handle_weather_request`, of a payload that was decoded or not. -/
  | getWeather (payload : Except String GetWeatherRequest) (forceRefresh : Bool)
  /-- `refresh_one`. -/
  | refreshOne (name : String)
  deriving DecidableEq

/-- What a request ends with. -/
inductive Outcome where
  /-- The response, or the code and the message of its error. -/
  | response (result : Except (RpcErrorCode × String) WeatherSnapshot)
  /-- The end of a scheduled refresh. -/
  | refreshed
  deriving DecidableEq

/-- Publish the snapshot of an answer. -/
def publishAnswer : Except String WeatherSnapshot → Process Call Reply Unit
  | .ok snapshot => invoke (.publishSnapshot snapshot)
  | .error _ => return ⟨⟩

/-- The program of a request. -/
def Request.program : Request → Process Call Reply Outcome
  | .getWeather (.error err) _ => return .response (.error (.badRequest, err))
  | .getWeather (.ok request) forceRefresh => do
    let request := { request with refresh := request.refresh || forceRefresh }
    let result ← getWeatherInternal Tz providerName request
    publishAnswer result
    return .response (result.mapError fun err => (.weather, err))
  | .refreshOne name => do
    let station ← (stationByName name).run
    match station with
    | .error _ => return .refreshed
    | .ok station =>
      let result ← getWeatherInternal Tz providerName ⟨station.unifiedUuid, true, false⟩
      publishAnswer result
      return .refreshed

end Programs

end WeatherApp.Weather
