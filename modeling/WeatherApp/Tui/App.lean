import WeatherApp.Conf.Wire
import WeatherApp.Engine.Resource
import WeatherApp.Renderer.ConfiguredStations
import WeatherApp.Renderer.SearchState
import WeatherApp.Schema.Lifecycle
import WeatherApp.Schema.Weather

/-!
# The terminal application

The state of `weather-renderer/tui/src/tui.rs` and what a key, a tick, an answer
(`apply_effect_result`) and an event of the engine (`apply_engine_event`) do to it. Each returns the
effects that the loop has to start. Where the program panics there is no state.

## Main definitions

* `App`: the state.
* `Effect`, `EffectResult`: what the application asks for, and what it is answered.
* `App.reduceKey`, `App.tick`, `App.applyEffectResult`, `App.applyEngineEvent`: its steps.
-/

namespace WeatherApp.Tui

/-! ## The parts of the state -/

/-- `WEATHER_REFRESH_INTERVAL`. -/
def weatherRefreshInterval : Duration := Duration.fromSecs 60

/-- `MAX_LOG_LINES`. -/
def maxLogLines : ℕ := 64

/-- `InputMode`. -/
inductive InputMode where
  | normal
  | manage
  | manageMove
  | manageAddSearch
  | manageBrowseSearch
  | about
  deriving DecidableEq, Repr

/-- `PanelFocus`. -/
inductive PanelFocus where
  | stations
  | current
  | forecast
  | alert
  deriving DecidableEq, Repr

/-- A panel as `{:?}` writes it. -/
def PanelFocus.debug : PanelFocus → String
  | stations => "Stations"
  | current => "Current"
  | forecast => "Forecast"
  | alert => "Alert"

/-- `KeyCode`, with the keys that only the application looks at. -/
inductive TerminalKey where
  | tab
  | pageDown
  | pageUp
  | key (event : KeyEvent)
  deriving DecidableEq, Repr

/-- The key as the search sees it. -/
def TerminalKey.event : TerminalKey → KeyEvent
  | key event => event
  | tab | pageDown | pageUp => ⟨.other, false, false⟩

/-- `MoveDraft`. -/
structure MoveDraft where
  stations : List Wire.StationConfig
  selected : ℕ
  origin : ℕ
  deriving DecidableEq, Repr

/-- `MoveDraft::new`. -/
def MoveDraft.new (stations : List Wire.StationConfig) (selected : ℕ) : Option MoveDraft :=
  if stations = [] then none
  else
    let selected := min selected (stations.length - 1)
    some ⟨stations, selected, selected⟩

/-- `MoveDraft::move_by`. -/
def MoveDraft.moveBy (draft : MoveDraft) (delta : ℤ) : MoveDraft :=
  let next := movedIndex draft.selected draft.stations.length delta
  if next ≠ draft.selected then
    { draft with stations := draft.stations.swap draft.selected next, selected := next }
  else draft

/-- `PendingConfig`. -/
structure PendingConfig where
  token : ℕ
  message : String
  selectName : Option String
  deriving DecidableEq, Repr

/-- `station_is_selectable`. -/
def stationIsSelectable (hidden : Finset String) (station : ConfiguredStation) : Bool :=
  station.enabled && station.name ∉ hidden

/-- `normalize_station_selection`. -/
def normalizeStationSelection (stations : List ConfiguredStation) (hidden : Finset String)
    (selected : Option ℕ) : Option ℕ :=
  if selected.any fun index => stations[index]?.any (stationIsSelectable hidden) then selected
  else stations.findIdx? (stationIsSelectable hidden)

/-- The indices that `move_station_selection` moves between. -/
def selectableIndices (stations : List ConfiguredStation) (hidden : Finset String) : List ℕ :=
  (stations.zipIdx.filter fun entry => stationIsSelectable hidden entry.1).map Prod.snd

/-- `move_station_selection`. The moved position is in the range of the indices. -/
def moveStationSelection (stations : List ConfiguredStation) (hidden : Finset String)
    (selected : Option ℕ) (delta : ℤ) : Option ℕ :=
  let selectable := selectableIndices stations hidden
  let position := (selected.bind fun selected => selectable.findIdx? (· = selected)).getD 0
  selectable[movedIndex position selectable.length delta]?

/-- `configured_stations`. -/
def configuredStations (config : Wire.AppConfig) : List ConfiguredStation :=
  config.stations.map fun station => ⟨station.name, station.enabled⟩

/-- What the application asks for. -/
inductive Effect where
  | cancelSearch
  | search (token : ℕ) (query : String)
  | loadWeather (token : ℕ) (name : String) (unifiedUuid : Option String) (refresh : Bool)
  | preview (token : ℕ) (station : StationRef)
  | updateConfig (token : ℕ) (config : Wire.AppConfig)
  | loadAbout
  deriving DecidableEq, Repr

/-- What it is answered. -/
inductive EffectResult where
  | searchPage (page : SearchPage)
  | searchFailed (token : ℕ) (message : String)
  | weather (token : ℕ) (name : String) (result : Except String WeatherSnapshot)
  | preview (token : ℕ) (stationName : String) (result : Except String WeatherSnapshot)
  | config (token : ℕ) (result : Except String Wire.AppConfig)
  | about (result : Except String EngineStatus)
  | taskFailed (message : String)

/-- `EngineEvent`, decoded. What cannot be decoded does nothing. -/
inductive EngineEvent where
  | weatherSnapshot (snapshot : Option WeatherSnapshot)
  | engineStatus (status : EngineStatus)
  | fetchLog (topic : String) (log : FetchLogEvent)
  | refresh (topic : String) (refresh : RefreshEvent)
  | other

/-- `TuiApp`. -/
structure App where
  config : Wire.AppConfig
  stations : List ConfiguredStation
  selectedStation : Option ℕ
  snapshot : Option WeatherSnapshot
  mode : InputMode
  focus : PanelFocus
  forecastScroll : ℕ
  alertScroll : ℕ
  logs : List String
  lastWeatherRefresh : Option Instant
  manageSelected : ℕ
  moveDraft : Option MoveDraft
  hiddenStations : Finset String
  previewSnapshot : Option WeatherSnapshot
  search : SearchState
  aboutStatus : Option EngineStatus
  weatherToken : ℕ
  weatherPending : Bool
  configToken : ℕ
  pendingConfig : Option PendingConfig

namespace PanelFocus

/-- `PanelFocus::ORDER`. -/
def order : List PanelFocus := [stations, current, forecast, alert]

/-- `hidden`: the alerts have a panel when there are some. -/
def hidden (snapshot : Option WeatherSnapshot) : PanelFocus → Bool
  | alert => (snapshot.bind (·.real)).all (·.alerts.isEmpty)
  | stations | current | forecast => false

/-- `next`. -/
def next (focus : PanelFocus) (snapshot : Option WeatherSnapshot) : PanelFocus :=
  let start := (order.findIdx? (· = focus)).getD 0
  let candidates := (List.range order.length).filterMap fun step =>
    order[(start + (step + 1)) % order.length]?
  (candidates.find? fun candidate => !candidate.hidden snapshot).getD focus

end PanelFocus

namespace App

/-- `TuiApp::load`, for the configuration and the status that the engine answers. -/
def load (config : Wire.AppConfig) (aboutStatus : Option EngineStatus) : App where
  config := config
  stations := configuredStations config
  selectedStation := normalizeStationSelection (configuredStations config) ∅ none
  snapshot := none
  mode := .normal
  focus := .stations
  forecastScroll := 0
  alertScroll := 0
  logs := ["ready"]
  lastWeatherRefresh := none
  manageSelected := 0
  moveDraft := none
  hiddenStations := ∅
  previewSnapshot := none
  search := .initial
  aboutStatus := aboutStatus
  weatherToken := 0
  weatherPending := false
  configToken := 0
  pendingConfig := none

/-- `push_log`. -/
def pushLog (app : App) (message : String) : App :=
  let logs := app.logs ++ [message]
  { app with logs := logs.drop (logs.length - maxLogLines) }

/-- `normalize_selected_station`. -/
def normalizeSelectedStation (app : App) : App :=
  { app with selectedStation :=
      normalizeStationSelection app.stations app.hiddenStations app.selectedStation }

/-- The station selected in the list. -/
def selected (app : App) : Option ConfiguredStation :=
  app.selectedStation.bind (app.stations[·]?)

/-- `request_selected_weather`. -/
def requestSelectedWeather (app : App) (refresh : Bool) (now : Instant) :
    Option (App × List Effect) :=
  let app := app.normalizeSelectedStation
  match app.selectedStation with
  | none =>
    let app := { app with
      snapshot := none
      weatherPending := false
      lastWeatherRefresh := some now }
    some (app.pushLog "no enabled visible stations", [])
  | some index =>
    match app.stations[index]? with
    | none => some (app, [])
    | some station =>
      let token := app.weatherToken + 1
      if token < 2 ^ 64 then
        some ({ app with weatherToken := token, weatherPending := true },
          [.loadWeather token station.name none refresh])
      else none

/-- `tick`. -/
def tick (app : App) (now : Instant) : Option (App × List Effect) :=
  let due := app.lastWeatherRefresh.all fun last => now - last ≥ weatherRefreshInterval
  if due && !app.weatherPending then app.requestSelectedWeather false now else some (app, [])

/-! ## Changing the configuration -/

/-- `begin_config_update`. -/
def beginConfigUpdate (app : App) (config : Wire.AppConfig) (message : String)
    (selectName : Option String) : Option (App × List Effect) :=
  if app.pendingConfig.isSome then
    some (app.pushLog "configuration update already in progress", [])
  else
    let token := app.configToken + 1
    if token < 2 ^ 64 then
      some ({ app with configToken := token, pendingConfig := some ⟨token, message, selectName⟩ },
        [.updateConfig token config])
    else none

/-- `toggle_selected`. -/
def toggleSelected (app : App) : Option (App × List Effect) :=
  match app.config.stations[app.manageSelected]? with
  | none => some (app, [])
  | some station =>
    let newEnabled := !station.enabled
    let candidate := { app.config with
      stations := app.config.stations.set app.manageSelected { station with enabled := newEnabled } }
    let message := if newEnabled then "enabled " ++ station.name else "disabled " ++ station.name
    app.beginConfigUpdate candidate message (some station.name)

/-- `delete_selected`. `Vec::remove` panics where there is no such station. -/
def deleteSelected (app : App) : Option (App × List Effect) :=
  if app.config.stations = [] then some (app, [])
  else
    match app.config.stations[app.manageSelected]? with
    | none => none
    | some removed =>
      let stations := app.config.stations.eraseIdx app.manageSelected
      let selectName := (stations[min app.manageSelected (stations.length - 1)]?).map (·.name)
      app.beginConfigUpdate { app.config with stations } ("removed " ++ removed.name) selectName

/-- `exit_search_to_manage`. -/
def exitSearchToManage (app : App) : Option App :=
  app.search.cancelAndClear.map fun search =>
    pushLog { app with search, mode := .manage, previewSnapshot := none } "search closed"

/-- The stations with that one enabled, which is added unless it is there. -/
def withStation (stations : List Wire.StationConfig) (name : String) : List Wire.StationConfig :=
  if stations.any (·.name = name) then
    stations.modify (stations.findIdx (·.name = name)) fun station =>
      { station with enabled := true }
  else stations ++ [⟨name, true⟩]

/-- `add_selected_result`. -/
def addSelectedResult (app : App) (station : StationRef) : Option (App × List Effect) :=
  let name := station.name
  let already := app.config.stations.any (·.name = name)
  let candidate := { app.config with stations := withStation app.config.stations name }
  let message := if already then "enabled existing " ++ name else "added " ++ name
  app.exitSearchToManage.bind fun app => app.beginConfigUpdate candidate message (some name)

/-! ## Keys -/

/-- `select_station`, and whether the selection changed. -/
def selectStation (app : App) (delta : ℤ) : App × Bool :=
  let app := app.normalizeSelectedStation
  let next := moveStationSelection app.stations app.hiddenStations app.selectedStation delta
  if next = app.selectedStation then (app, false)
  else ({ app with selectedStation := next, forecastScroll := 0, alertScroll := 0 }, true)

/-- `scroll_forecast`. -/
def scrollForecast (app : App) (delta : ℤ) : App :=
  let len := ((app.snapshot.bind (·.predict)).map (·.days.length)).getD 0
  if len = 0 then { app with forecastScroll := 0 }
  else { app with forecastScroll := min (app.forecastScroll + delta).toNat (len - 1) }

/-- Up and down in `handle_normal_key`. -/
def moveInFocus (app : App) (delta : ℤ) (now : Instant) : Option (App × List Effect) :=
  match app.focus with
  | .stations =>
    let (app, moved) := app.selectStation delta
    if moved then app.requestSelectedWeather false now else some (app, [])
  | .forecast => some (app.scrollForecast delta, [])
  | .alert =>
    some ({ app with
      alertScroll := if delta < 0 then app.alertScroll - 1 else saturatingAdd app.alertScroll 1 }, [])
  | .current => some (app, [])

/-- `handle_normal_key`, and whether it ends the application. -/
def handleNormalKey (app : App) (key : TerminalKey) (now : Instant) :
    Option (App × Bool × List Effect) :=
  let stay (next : Option (App × List Effect)) := next.map fun (app, effects) => (app, false, effects)
  match key with
  | .tab =>
    let focus := app.focus.next app.snapshot
    some (pushLog { app with focus } ("focus: " ++ focus.debug), false, [])
  | .pageDown =>
    some (if app.focus = .forecast then app.scrollForecast 5 else app, false, [])
  | .pageUp =>
    some (if app.focus = .forecast then app.scrollForecast (-5) else app, false, [])
  | .key event =>
    match event.code with
    | .char 'q' => some (app, true, [])
    | .char 'r' => stay (app.requestSelectedWeather true now)
    | .esc => some ({ app with focus := .stations, forecastScroll := 0, alertScroll := 0 }, false, [])
    | .char 'j' | .down => stay (app.moveInFocus 1 now)
    | .char 'k' | .up => stay (app.moveInFocus (-1) now)
    | .char 'm' =>
      let app := { app with
        mode := .manage
        manageSelected := min (app.selectedStation.getD 0) (app.config.stations.length - 1) }
      some (app.pushLog "manage mode", false, [])
    | .char '?' => some ({ app with mode := .about }, false, [.loadAbout])
    | _ => some (app, false, [])

/-- `handle_about_key`. -/
def handleAboutKey (app : App) (key : TerminalKey) : App × List Effect :=
  match key with
  | .key ⟨.char 'r', _, _⟩ => (app, [.loadAbout])
  | _ => ({ app with mode := .normal }, [])

/-- `enter_search`. -/
def enterSearch (app : App) (mode : InputMode) : Option App :=
  app.search.enter.map fun search =>
    pushLog { app with mode, search, previewSnapshot := none } <|
      match mode with
      | .manageAddSearch => "add search: type query, Enter to search, Ctrl+A to add"
      | .manageBrowseSearch => "browse search: type query, Enter to search, Ctrl+A to preview"
      | _ => ""

/-- What `handle_manage_key` does where the selected station may have changed. -/
def requestIfMoved (app : App) (previous : Option ℕ) (now : Instant) : Option (App × List Effect) :=
  if app.selectedStation ≠ previous then app.requestSelectedWeather false now else some (app, [])

/-- Hiding and showing the station in the list: `h` of `handle_manage_key`. -/
def toggleHidden (app : App) (now : Instant) : Option (App × List Effect) :=
  match app.config.stations[app.manageSelected]? with
  | none => some (app, [])
  | some station =>
    let previous := app.selectedStation
    let newHidden := station.name ∉ app.hiddenStations
    let hiddenStations :=
      if newHidden then insert station.name app.hiddenStations
      else app.hiddenStations.erase station.name
    let app := normalizeSelectedStation { app with hiddenStations }
    (app.requestIfMoved previous now).map fun (app, effects) =>
      (app.pushLog (if newHidden then "hid " ++ station.name else "showed " ++ station.name), effects)

/-- `handle_manage_key`. -/
def handleManageKey (app : App) (key : TerminalKey) (now : Instant) : Option (App × List Effect) :=
  match key.event.code with
  | .esc =>
    let previous := app.selectedStation
    let app := (normalizeSelectedStation { app with mode := .normal }).pushLog "manage closed"
    app.requestIfMoved previous now
  | .char 'j' | .down =>
    some ({ app with
      manageSelected := movedIndex app.manageSelected app.config.stations.length 1 }, [])
  | .char 'k' | .up =>
    some ({ app with
      manageSelected := movedIndex app.manageSelected app.config.stations.length (-1) }, [])
  | .char ' ' => app.toggleSelected
  | .char 'd' => app.deleteSelected
  | .char 'a' => (app.enterSearch .manageAddSearch).map (·, [])
  | .char 's' => (app.enterSearch .manageBrowseSearch).map (·, [])
  | .char 'M' =>
    if app.pendingConfig.isSome then
      some (app.pushLog "configuration update already in progress", [])
    else
      match MoveDraft.new app.config.stations app.manageSelected with
      | none => some (app, [])
      | some draft =>
        some (pushLog { app with moveDraft := some draft, mode := .manageMove }
          "move mode: j/k to move, Enter to confirm", [])
  | .char 'h' => app.toggleHidden now
  | _ => some (app, [])

/-- `handle_move_key`. -/
def handleMoveKey (app : App) (key : TerminalKey) : Option (App × List Effect) :=
  match app.moveDraft with
  | none => some ({ app with mode := .manage }, [])
  | some draft =>
    let moved (delta : ℤ) : App :=
      let draft := draft.moveBy delta
      { app with moveDraft := some draft, manageSelected := draft.selected }
    match key.event.code with
    | .esc =>
      some (pushLog { app with manageSelected := draft.origin, moveDraft := none, mode := .manage }
        "move cancelled", [])
    | .enter =>
      let selectedName := draft.stations[draft.selected]?.map (·.name)
      let candidate := { app.config with stations := draft.stations }
      let app := { app with manageSelected := draft.selected, moveDraft := none, mode := .manage }
      app.beginConfigUpdate candidate "move confirmed" selectedName
    | .char 'j' | .down => some (moved 1, [])
    | .char 'k' | .up => some (moved (-1), [])
    | _ => some (app, [])

/-- `handle_search_key`. -/
def handleSearchKey (app : App) (key : TerminalKey) : Option (App × List Effect) :=
  (app.search.handleKey key.event).bind fun (search, intent) =>
    let app := { app with search }
    match intent with
    | .exit => app.exitSearchToManage.map (·, [.cancelSearch])
    | .submit =>
      app.search.start.map fun (search, token, query) =>
        ({ app with search, previewSnapshot := none }, [.search token query])
    | .queryChanged => some ({ app with previewSnapshot := none }, [.cancelSearch])
    | .action =>
      match app.search.selectedResult with
      | none => some (app.pushLog "no selected search result", [])
      | some station =>
        if app.mode = .manageAddSearch then
          (app.addSelectedResult station).map fun (app, effects) => (app, .cancelSearch :: effects)
        else some (app, [.preview app.search.token station])
    | .none => some (app, [])

/-- `reduce_key`: the state, whether the application ends, and the effects. -/
def reduceKey (app : App) (key : TerminalKey) (now : Instant) : Option (App × Bool × List Effect) :=
  let stay (next : Option (App × List Effect)) := next.map fun (app, effects) => (app, false, effects)
  if key.event.code = .char 'c' ∧ key.event.control then some (app, true, [])
  else
    match app.mode with
    | .normal => app.handleNormalKey key now
    | .manage => stay (app.handleManageKey key now)
    | .manageMove => stay (app.handleMoveKey key)
    | .manageAddSearch | .manageBrowseSearch => stay (app.handleSearchKey key)
    | .about => stay (some (app.handleAboutKey key))

/-! ## Answers -/

/-- The entry of the list to point at after an update: the station with that name, and otherwise
`fallback`. -/
def pointAt (stations : List Wire.StationConfig) (selectName : Option String)
    (current fallback : ℕ) : ℕ :=
  match selectName with
  | some name => (stations.findIdx? (·.name = name)).getD fallback
  | none => min current (stations.length - 1)

/-- The name of the selected station. -/
def selectedName (app : App) : Option String := app.selected.map (·.name)

/-- The answer to the pending update of the configuration. -/
def applyConfigResult (app : App) (pending : PendingConfig)
    (result : Except String Wire.AppConfig) (now : Instant) : Option (App × List Effect) :=
  match result with
  | .ok config =>
    let oldSelectedName := app.selectedName
    let stations := configuredStations config
    let hiddenStations := app.hiddenStations.filter fun name => stations.any (·.name = name)
    let preferred := oldSelectedName.bind fun name => stations.findIdx? (·.name = name)
    let last := config.stations.length - 1
    let app := pushLog { app with
      config, stations, hiddenStations
      selectedStation := normalizeStationSelection stations hiddenStations preferred
      manageSelected := pointAt config.stations pending.selectName app.manageSelected last }
      pending.message
    if app.selectedName ≠ oldSelectedName then app.requestSelectedWeather false now
    else some (app, [])
  | .error error =>
    let last := app.config.stations.length - 1
    let manageSelected := pointAt app.config.stations pending.selectName app.manageSelected
      (min app.manageSelected last)
    some (pushLog { app with manageSelected } ("configuration update failed: " ++ error), [])

/-- `apply_effect_result`. -/
def applyEffectResult (app : App) (result : EffectResult) (now : Instant) :
    Option (App × List Effect) :=
  match result with
  | .searchPage page => some ({ app with search := (app.search.applyPage page).1 }, [])
  | .searchFailed token message =>
    let (search, failed) := app.search.applyError token message
    let app := { app with search }
    some (if failed then app.pushLog ("search failed: " ++ message) else app, [])
  | .weather token name result =>
    if token ≠ app.weatherToken then some (app, [])
    else
      let app := { app with weatherPending := false, lastWeatherRefresh := some now }
      match result with
      | .ok snapshot =>
        let focus := if app.focus.hidden (some snapshot) then .stations else app.focus
        some (pushLog { app with snapshot := some snapshot, focus } ("loaded " ++ name), [])
      | .error error => some (app.pushLog ("refresh failed: " ++ error), [])
  | .preview token stationName result =>
    let selectedMatches := app.search.selectedResult.any (·.name = stationName)
    if token = app.search.token ∧ app.mode = .manageBrowseSearch ∧ selectedMatches then
      match result with
      | .ok snapshot =>
        some (pushLog { app with previewSnapshot := some snapshot } ("preview " ++ stationName), [])
      | .error error => some (app.pushLog ("preview failed: " ++ error), [])
    else some (app, [])
  | .config token result =>
    match app.pendingConfig with
    | none => some (app, [])
    | some pending =>
      if token ≠ pending.token then some (app, [])
      else applyConfigResult { app with pendingConfig := none } pending result now
  | .about result =>
    match result with
    | .ok status => some ({ app with aboutStatus := some status }, [])
    | .error error => some (app.pushLog ("about refresh failed: " ++ error), [])
  | .taskFailed error => some (app.pushLog error, [])

/-! ## Events -/

/-- `log_station_label`. -/
def logStationLabel [Sha256] (app : App) (unifiedUuid : String) : String :=
  if unifiedUuid = "" then "global"
  else
    match (app.snapshot.bind (·.station)).filter (·.unifiedUuid = unifiedUuid) with
    | some station =>
      let name := if station.name = "" then s!"{station.province}-{station.city}" else station.name
      s!"{name}({unifiedUuid})"
    | none =>
      match app.search.results.find? (·.unifiedUuid = unifiedUuid) with
      | some station => s!"{station.name}({unifiedUuid})"
      | none =>
        match app.config.stations.find? fun station =>
            unifiedStationUuid station.name = unifiedUuid with
        | some station => s!"{station.name}({unifiedUuid})"
        | none => unifiedUuid

/-- A detail after a colon, unless there is none. -/
def detailText (detail : Option String) : String :=
  ((detail.filter (· ≠ "")).map (": " ++ ·)).getD ""

/-- The line for a status. -/
def statusLine (status : EngineStatus) : String :=
  let state := match status.lifecycleState with
    | .starting => "starting"
    | .ready => "ready"
    | .stopping => "stopping"
    | .failed => "failed"
    | .unspecified => if status.ready then "ready" else "not-ready"
  s!"engine {status.mode} {state}{detailText status.message}"

/-- The line for an entry of the fetch log. -/
def fetchLine (topic station : String) (log : FetchLogEvent) : String :=
  let state := match log.outcome with
    | .success => "ok"
    | .warning => "warn"
    | .failure => "fail"
    | .unspecified => if log.ok then "ok" else "fail"
  s!"{topic} {station} {state}: {log.endpoint}"

/-- The line for an event of a refresh, if it has one. -/
def refreshLine (topic station : String) (refresh : RefreshEvent) : Option String :=
  match refresh.phase with
  | .started => some s!"{topic} {station} started"
  | .completed =>
    let state := match refresh.outcome with
      | .success => "success"
      | .stale => "stale"
      | .failure => "failure"
      | .unspecified => "completed"
    let detail := match refresh.outcome with
      | .failure => refresh.message.bind (stripPrefix "failure: ")
      | .unspecified => refresh.message
      | .success | .stale => none
    some s!"{topic} {station} {state}{detailText detail}"
  | .unspecified =>
    if refresh.started then some s!"{topic} {station} started"
    else if refresh.completed then some s!"{topic} {station} completed"
    else none

/-- `apply_engine_event`. -/
def applyEngineEvent [Sha256] (app : App) (now : Instant) : EngineEvent → App
  | .weatherSnapshot snapshot =>
    let incoming := (snapshot.bind (·.station)).map (·.unifiedUuid)
    let current := (app.snapshot.bind (·.station)).map (·.unifiedUuid)
    if incoming.any (· ≠ "") && incoming = current then
      { app with snapshot, lastWeatherRefresh := some now }
    else app
  | .engineStatus status => app.pushLog (statusLine status)
  | .fetchLog topic log =>
    app.pushLog (fetchLine topic (app.logStationLabel (log.unifiedUuid.getD "")) log)
  | .refresh topic refresh =>
    match refreshLine topic (app.logStationLabel (refresh.unifiedUuid.getD "")) refresh with
    | some line => app.pushLog line
    | none => app
  | .other => app

end App

end WeatherApp.Tui
