import WeatherApp.Foundation.KeyedMap
import WeatherApp.Tui.App

/-!
# A session of the terminal application

The tasks behind the effects (`tui/src/tui/effects.rs`) and the loop of `run_interactive`. A task
sends its answer into a channel; the loop takes a key, an event, a tick or an answer, lets the
application react, and starts the effects that it asks for. Tasks go on at any time.

## Main definitions

* `Task`, `EffectRunner`: the tasks and the channel.
* `EffectRunner.dispatch`: what an effect starts.
* `Session`, `sessionSystem`: the application with its tasks, and the interleavings of their steps.
-/

namespace WeatherApp.Tui

/-! ## Tasks -/

/-- The capacity of the channel of answers. -/
def resultChannelCapacity : ℕ := 64

/-- Where `run_search` is. -/
inductive SearchStage where
  /-- It waits for the page at the offset. -/
  | awaiting (cursor : PageCursor) (offset : ℕ)
  /-- It sends an error, and ends. -/
  | failing (message : String)

/-- The head of the loop of `run_search`. -/
def SearchStage.next (cursor : PageCursor) : SearchStage :=
  match cursor.request tuiSearchPageSize with
  | .ok ((offset, _), cursor) => .awaiting cursor offset
  | .error message => .failing message

/-- A task of an effect. -/
inductive Task where
  | search (token : ℕ) (query : String) (stage : SearchStage)
  | weather (token : ℕ) (name : String) (request : GetWeatherRequest)
  | preview (token : ℕ) (stationName : String) (request : GetWeatherRequest)
  | config (token : ℕ) (config : Wire.AppConfig)
  | about

/-- The request of `load_weather`. -/
def loadWeatherRequest [Sha256] (name : String) (unifiedUuid : Option String) (refresh : Bool) :
    GetWeatherRequest where
  unifiedUuid := (unifiedUuid.filter (· ≠ "")).getD (unifiedStationUuid name)
  refresh := refresh
  includeDebug := false

/-- `EffectRunner`, with the channel that its tasks send into. -/
structure EffectRunner where
  tasks : KeyedMap ℕ Task
  nextTask : ℕ
  search : Option ℕ
  /-- The tasks that were aborted. They end where they wait next. -/
  aborted : Finset ℕ
  /-- The panics of tasks that are not joined yet. -/
  failures : List String
  channel : List EffectResult
  /-- The tasks that have panicked so far. -/
  panicked : List Task

namespace EffectRunner

/-- `EffectRunner::new`. -/
def new : EffectRunner := ⟨.empty, 0, none, ∅, [], [], []⟩

/-- `try_send`. -/
def trySend (channel : List EffectResult) (result : EffectResult) : List EffectResult :=
  if channel.length < resultChannelCapacity then channel ++ [result] else channel

/-- `reap_completed`. -/
def reapCompleted (runner : EffectRunner) : EffectRunner :=
  { runner with
    channel := runner.failures.foldl
      (fun channel error => trySend channel (.taskFailed ("TUI effect task failed: " ++ error)))
      runner.channel
    failures := []
    search := runner.search.filter fun task => (runner.tasks.get task).isSome }

/-- `JoinSet::spawn`. -/
def spawn (runner : EffectRunner) (task : Task) : EffectRunner :=
  { runner with tasks := runner.tasks.set runner.nextTask task, nextTask := runner.nextTask + 1 }

/-- `cancel_search`. -/
def cancelSearch (runner : EffectRunner) : EffectRunner :=
  { runner with aborted := runner.aborted ∪ runner.search.toFinset, search := none }

/-- The task of a search starts at the head of its loop. -/
def startSearch (runner : EffectRunner) (token : ℕ) (query : String) : EffectRunner :=
  { runner.spawn (.search token query (.next .default)) with search := some runner.nextTask }

/-- `dispatch`. -/
def dispatch [Sha256] (runner : EffectRunner) (effect : Effect) : EffectRunner :=
  let runner := runner.reapCompleted
  match effect with
  | .cancelSearch => runner.cancelSearch
  | .search token query => runner.cancelSearch.startSearch token query
  | .loadWeather token name unifiedUuid refresh =>
    runner.spawn (.weather token name (loadWeatherRequest name unifiedUuid refresh))
  | .preview token station =>
    runner.spawn (.preview token station.name
      (loadWeatherRequest station.name (some station.unifiedUuid) false))
  | .updateConfig token config => runner.spawn (.config token config)
  | .loadAbout => runner.spawn .about

/-- The effects of a step, one after the other. -/
def dispatchAll [Sha256] (runner : EffectRunner) (effects : List Effect) : EffectRunner :=
  effects.foldl dispatch runner

/-- `sender.send`, by the task. It waits while the channel is full. -/
def send (runner : EffectRunner) (result : EffectResult) : Option EffectRunner :=
  if runner.channel.length < resultChannelCapacity then
    some { runner with channel := runner.channel ++ [result] }
  else none

/-- The task ends with its answer. -/
def finish (runner : EffectRunner) (task : ℕ) (result : EffectResult) : Option EffectRunner :=
  send { runner with tasks := runner.tasks.remove task } result

/-- The iteration of `run_search` that gets this response. -/
def page (runner : EffectRunner) (task token : ℕ) (query : String) (cursor : PageCursor)
    (offset : ℕ) (response : Except String FuzzyMatchStationsResponse) : Option EffectRunner :=
  match response with
  | .error message => runner.finish task (.searchFailed token message)
  | .ok response =>
    match cursor.advance response.hasMore response.nextOffset with
    | .error message => runner.finish task (.searchFailed token message)
    | .ok (canContinue, cursor) =>
      let page : SearchPage :=
        ⟨token, offset, response.stations, response.hasMore, response.nextOffset⟩
      if canContinue then
        send { runner with
          tasks := runner.tasks.set task (.search token query (.next cursor)) } (.searchPage page)
      else runner.finish task (.searchPage page)

end EffectRunner

/-! ## The loop -/

/-- What a request of a task is answered. -/
inductive Answer where
  | page (response : Except String FuzzyMatchStationsResponse)
  | weather (result : Except String WeatherSnapshot)
  | config (result : Except String Wire.AppConfig)
  | about (result : Except String EngineStatus)

/-- The task goes on with the answer to its request. -/
def EffectRunner.answer (runner : EffectRunner) (task : ℕ) (answer : Answer) :
    Option EffectRunner :=
  match runner.tasks.get task, answer with
  | some (.search token query (.awaiting cursor offset)), .page response =>
    runner.page task token query cursor offset response
  | some (.weather token name _), .weather result =>
    runner.finish task (.weather token name result)
  | some (.preview token stationName _), .weather result =>
    runner.finish task (.preview token stationName result)
  | some (.config token _), .config result => runner.finish task (.config token result)
  | some .about, .about result => runner.finish task (.about result)
  | _, _ => none

/-- The state of `run_interactive`. -/
structure Session where
  app : App
  runner : EffectRunner
  exiting : Bool

/-- A step of the loop or of a task. -/
inductive SessionLabel where
  | key (key : TerminalKey) (now : Instant)
  /-- An input event that is not a key press. -/
  | otherInput
  | result (now : Instant)
  | event (event : EngineEvent) (now : Instant)
  | lagged (skipped : ℕ)
  | tick (now : Instant)
  /-- The task gets the answer to its request. -/
  | answer (task : ℕ) (answer : Answer)
  /-- The task sends the error of a search. -/
  | fail (task : ℕ)
  /-- The task ends because it was aborted. -/
  | cancelled (task : ℕ)
  | panic (task : ℕ) (message : String)

namespace Session

variable [Sha256]

/-- The end of an iteration: the effects are started, and tasks that ended are joined. -/
def react (s : Session) (reaction : App × List Effect) : Session :=
  { s with
    app := reaction.1
    runner := (s.runner.dispatchAll reaction.2).reapCompleted }

/-- A step of the loop. -/
def loopStep (s : Session) : SessionLabel → Option Session
  | .key key now =>
    (s.app.reduceKey key now).map fun (app, exit, effects) =>
      { s.react (app, effects) with exiting := exit }
  | .otherInput => some (s.react (s.app, []))
  | .result now =>
    match s.runner.channel with
    | [] => none
    | result :: channel =>
      (s.app.applyEffectResult result now).map
        (react { s with runner := { s.runner with channel } })
  | .event event now => some (s.react (s.app.applyEngineEvent now event, []))
  | .lagged skipped => some (s.react (s.app.pushLog s!"engine events lagged by {skipped}", []))
  | .tick now => (s.app.tick now).map s.react
  | .answer _ _ | .fail _ | .cancelled _ | .panic _ _ => none

/-- A step of a task. -/
def taskStep (s : Session) : SessionLabel → Option Session
  | .answer task answer =>
    (s.runner.answer task answer).map fun runner => { s with runner }
  | .fail task =>
    match s.runner.tasks.get task with
    | some (.search token _ (.failing message)) =>
      (s.runner.finish task (.searchFailed token message)).map fun runner => { s with runner }
    | _ => none
  | .cancelled task =>
    if task ∈ s.runner.aborted then
      some { s with runner := { s.runner with tasks := s.runner.tasks.remove task } }
    else none
  | .panic task message =>
    (s.runner.tasks.get task).map fun panicked =>
      { s with runner := { s.runner with
          tasks := s.runner.tasks.remove task
          failures := s.runner.failures ++ [message]
          panicked := s.runner.panicked ++ [panicked] } }
  | .key _ _ | .otherInput | .result _ | .event _ _ | .lagged _ | .tick _ => none

/-- The step of the loop or of a task. The loop ends when the application exits. -/
def step (s : Session) (label : SessionLabel) : Option Session :=
  if s.exiting then s.taskStep label else (s.loopStep label).or (s.taskStep label)

/-- The start of `run_interactive`. -/
def start (config : Wire.AppConfig) (aboutStatus : Option EngineStatus) (now : Instant) :
    Option Session :=
  ((App.load config aboutStatus).requestSelectedWeather false now).map fun (app, effects) =>
    ⟨app, EffectRunner.new.dispatchAll effects, false⟩

end Session

/-- The session, with all orders of its steps. -/
def sessionSystem [Sha256] : LabelledSystem Session SessionLabel where
  init s := ∃ config aboutStatus now, Session.start config aboutStatus now = some s
  step s label s' := s.step label = some s'

end WeatherApp.Tui
