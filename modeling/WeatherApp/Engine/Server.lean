import WeatherApp.Engine.Router

/-!
# The engine's supervisor

`run_bound_engine_sockets` of `engine/src/server.rs`: it starts the router, the socket monitors, the
signal task, the refresh loop and the publisher, waits for an exit or a failure, and then stops them
in order: the work tasks, the database, the publisher.

The router and the refresh loop own sets of tasks. A task that returns has joined its set; a task
that panics or is aborted drops its set, whose members are aborted but not joined. What is still
running of dropped sets is counted in `orphanHandlers` and `orphanJobs`. Timeouts may expire at any
time.

## Main definitions

* `ServerRun`: the supervisor and its tasks.
* `serverSystem`: their runs.
-/

namespace WeatherApp

/-- `TaskKind`. -/
inductive TaskKind where
  | router
  | rpcMonitor
  | pubMonitor
  | signal
  | refresh
  deriving DecidableEq, Repr

/-- A kind as `{kind:?}` prints it. -/
def TaskKind.debug : TaskKind → String
  | router => "Router"
  | rpcMonitor => "RpcMonitor"
  | pubMonitor => "PubMonitor"
  | signal => "Signal"
  | refresh => "Refresh"

/-- All work tasks. -/
def TaskKind.all : List TaskKind := [router, rpcMonitor, pubMonitor, signal, refresh]

/-- How a task ends: its future returns, or joining it fails. -/
inductive TaskEnd where
  | returned (result : Except String Unit)
  | joinError (error : String)

/-- A member of a set of tasks. -/
inductive TaskState where
  | running
  | ended (taskEnd : TaskEnd)
  | joined (taskEnd : TaskEnd)

/-- The task has not ended. -/
def TaskState.isRunning : TaskState → Bool
  | running => true
  | _ => false

/-- The task was joined. -/
def TaskState.isJoined : TaskState → Bool
  | joined _ => true
  | _ => false

/-- The task ended by returning. -/
def TaskState.hasReturned : TaskState → Bool
  | ended (.returned _) | joined (.returned _) => true
  | _ => false

/-- Where `run_refresh_loop` is. -/
inductive RefreshPhase where
  | looping
  /-- After the loop: the jobs are aborted and joined. -/
  | draining (result : Except String Unit)

/-- The task of the refresh loop, down to the number of its jobs that run; `RefreshLoop` says when
it starts them. -/
structure RefreshTask where
  phase : RefreshPhase
  jobs : ℕ

/-- `LifecycleState`, for the states that the supervisor publishes. -/
inductive LifecycleState where
  | starting
  | ready
  | stopping
  | failed
  deriving DecidableEq, Repr

/-- The state ends the engine's life. -/
def LifecycleState.isTerminal : LifecycleState → Bool
  | stopping | failed => true
  | _ => false

/-- Where `run_bound_engine_sockets` is. -/
inductive ServerPhase where
  /-- In its `select!`. -/
  | selecting
  /-- In `drain_work_tasks`, before the deadline. -/
  | draining
  /-- In `drain_work_tasks`, after `abort_all`. -/
  | reaping
  /-- In `bounded_db_shutdown`. -/
  | dbShutdown
  /-- After it; next is the check of the publisher. -/
  | checkingPublisher
  /-- Next is the terminal event. -/
  | publishing
  /-- It cancelled the publisher and waits for it. -/
  | stoppingPublisher
  /-- It aborted the publisher and waits for it. -/
  | abortingPublisher
  /-- Next is the result. -/
  | returning
  | returned (result : Except String EngineExit)

/-- The supervisor, its tasks and what it has done. -/
structure ServerRun where
  phase : ServerPhase
  work : TaskKind → TaskState
  router : RouterRun
  refresh : RefreshTask
  orphanHandlers : ℕ
  orphanJobs : ℕ
  publisher : TaskState
  publisherCancelled : Bool
  requestedExit : Option EngineExit
  criticalFailure : Option String
  publisherFinished : Bool
  /-- The failures recorded, in order. -/
  failures : List String
  /-- The lifecycle events published, in order. -/
  events : List LifecycleState
  dbShutdownStarted : Bool
  dbShutdownEnded : Bool

/-- A step of the supervisor or of a task. -/
inductive ServerLabel where
  /-- The router or one of its tasks goes on, or somebody requests an exit. -/
  | router (label : RouterLabel)
  | dispatchJob
  | jobEnds
  | refreshCancelled
  | refreshFails
  | orphanHandlerStops
  | orphanJobStops
  /-- The future of a work task returns; a monitor or the signal task with this result. -/
  | taskReturns (kind : TaskKind) (result : Except String Unit)
  | taskPanics (kind : TaskKind)
  /-- An aborted work task is dropped. -/
  | taskAborted (kind : TaskKind)
  | publisherEnds (taskEnd : TaskEnd)
  /-- `wait_for_exit` returns in the `select!`. -/
  | observeExit
  /-- A work task is joined. -/
  | joinWork (kind : TaskKind)
  /-- The publisher is joined. -/
  | joinPublisher
  | drainTimeout
  /-- No work task is left. -/
  | drained
  | dbShutdownEnds (result : Except String Unit)
  | checkPublisher
  | publishTerminal
  | publisherTimeout
  | return

namespace ServerRun

/-- The state before the `select!`. -/
def start : ServerRun where
  phase := .selecting
  work _ := .running
  router := .start
  refresh := ⟨.looping, 0⟩
  orphanHandlers := 0
  orphanJobs := 0
  publisher := .running
  publisherCancelled := false
  requestedExit := none
  criticalFailure := none
  publisherFinished := false
  failures := []
  events := [.starting, .ready]
  dbShutdownStarted := false
  dbShutdownEnded := false

/-- The handler tasks that run. -/
def handlers (s : ServerRun) : ℕ := s.router.running + s.orphanHandlers

/-- The refresh jobs that run. -/
def jobs (s : ServerRun) : ℕ := s.refresh.jobs + s.orphanJobs

/-- `add_failure`, or the first failure. -/
def addFailure (s : ServerRun) (error : String) : ServerRun :=
  { s with
    criticalFailure := some (match s.criticalFailure with
      | some previous => s!"{previous}; additionally: {error}"
      | none => error)
    failures := s.failures ++ [error] }

/-- `add_failure` where there can be none. -/
def addFailure? (s : ServerRun) : Option String → ServerRun
  | some error => s.addFailure error
  | none => s

/-- The state of a work task changes. -/
def setWork (s : ServerRun) (kind : TaskKind) (state : TaskState) : ServerRun :=
  { s with work := Function.update s.work kind state }

/-- The future of a work task is dropped with the set that it owns: its members are aborted, and
run until they are dropped too. -/
def dropFuture (s : ServerRun) : TaskKind → ServerRun
  | .router =>
    { s with
      router := { s.router with tasks := .empty }
      orphanHandlers := s.orphanHandlers + s.router.running }
  | .refresh =>
    { s with
      refresh := { s.refresh with jobs := 0 }
      orphanJobs := s.orphanJobs + s.refresh.jobs }
  | _ => s

/-- What the `select!` makes of the first work task that ends. -/
def selectWork (s : ServerRun) (kind : TaskKind) : TaskEnd → ServerRun
  | .returned (.ok ()) =>
    if kind = .signal then { s with requestedExit := some .shutdown }
    else s.addFailure s!"critical engine task {kind.debug} exited unexpectedly"
  | .returned (.error err) =>
    s.addFailure s!"critical engine task {kind.debug} failed: {err}"
  | .joinError err =>
    s.addFailure s!"critical engine task panicked or was cancelled: {err}"

/-- What `drain_work_tasks` records of a task that it joins. -/
def drainFailure (kind : TaskKind) : TaskEnd → Option String
  | .returned (.ok ()) => none
  | .returned (.error err) => some s!"engine task {kind.debug} cleanup failed: {err}"
  | .joinError err => some s!"engine task cleanup panicked or was cancelled: {err}"

/-- `unexpected_publisher_exit`. -/
def unexpectedPublisherExit : TaskEnd → String
  | .returned (.ok ()) => "critical engine task Publisher exited unexpectedly"
  | .returned (.error err) => s!"critical engine task Publisher failed: {err}"
  | .joinError err => s!"critical engine task Publisher panicked or was cancelled: {err}"

/-- `publisher_cleanup_failure`. -/
def publisherCleanupFailure : TaskEnd → Option String
  | .returned (.ok ()) => none
  | .returned (.error err) => some s!"publisher cleanup failed: {err}"
  | .joinError err => some s!"publisher cleanup task panicked or was cancelled: {err}"

/-- The cancellation of the work tasks, and then `drain_work_tasks`. -/
def startDraining (s : ServerRun) : ServerRun :=
  { s with
    phase := .draining
    router := { s.router with cancelled := true } }

/-- The state of `terminal_lifecycle`. -/
def terminalLifecycle (s : ServerRun) : LifecycleState :=
  if s.criticalFailure.isSome then .failed else .stopping

/-- The router goes on while its task runs. Exits are requested at any time, and only the
supervisor cancels. -/
def routerStep (decode : Frame → Except String RpcRequest) (s : ServerRun) :
    RouterLabel → Option ServerRun
  | .cancel => none
  | .requestExit exit =>
    (s.router.step decode (.requestExit exit)).map fun router => { s with router }
  | label =>
    if (s.work .router).isRunning then
      (s.router.step decode label).map fun router => { s with router }
    else none

/-- A task of the router or the refresh loop, or a task that returns. -/
def workStep (decode : Frame → Except String RpcRequest) (s : ServerRun) :
    ServerLabel → Option ServerRun
  | .router label => s.routerStep decode label
  | .dispatchJob =>
    match (s.work .refresh).isRunning, s.refresh.phase with
    | true, .looping =>
      some { s with refresh := { s.refresh with jobs := s.refresh.jobs + 1 } }
    | _, _ => none
  | .jobEnds =>
    if 0 < s.refresh.jobs then
      some { s with refresh := { s.refresh with jobs := s.refresh.jobs - 1 } }
    else none
  | .refreshCancelled =>
    match (s.work .refresh).isRunning, s.refresh.phase with
    | true, .looping =>
      if s.router.cancelled then
        some { s with refresh := { s.refresh with phase := .draining (.ok ()) } }
      else none
    | _, _ => none
  | .refreshFails =>
    match (s.work .refresh).isRunning, s.refresh.phase with
    | true, .looping =>
      some { s with
        refresh := { s.refresh with
          phase := .draining (.error "refresh config watch closed unexpectedly") } }
    | _, _ => none
  | .orphanHandlerStops =>
    if 0 < s.orphanHandlers then some { s with orphanHandlers := s.orphanHandlers - 1 } else none
  | .orphanJobStops =>
    if 0 < s.orphanJobs then some { s with orphanJobs := s.orphanJobs - 1 } else none
  | .taskReturns .router _ =>
    match (s.work .router).isRunning, s.router.phase with
    | true, .returned outcome => some (s.setWork .router (.ended (.returned outcome)))
    | _, _ => none
  | .taskReturns .refresh _ =>
    match (s.work .refresh).isRunning, s.refresh.phase, s.refresh.jobs with
    | true, .draining result, 0 => some (s.setWork .refresh (.ended (.returned result)))
    | _, _, _ => none
  | .taskReturns kind result =>
    if (s.work kind).isRunning then some (s.setWork kind (.ended (.returned result))) else none
  | .taskPanics kind =>
    if (s.work kind).isRunning then
      some ((s.dropFuture kind).setWork kind (.ended (.joinError "task panicked")))
    else none
  | .taskAborted kind =>
    match s.phase with
    | .reaping =>
      if (s.work kind).isRunning then
        some ((s.dropFuture kind).setWork kind (.ended (.joinError "task was cancelled")))
      else none
    | _ => none
  | .publisherEnds taskEnd =>
    if s.publisher.isRunning then some { s with publisher := .ended taskEnd } else none
  | _ => none

/-- A step of the supervisor itself. -/
def mainStep (s : ServerRun) : ServerLabel → Option ServerRun
  | .observeExit =>
    match s.phase, s.router.control.waitForExit with
    | .selecting, some exit => some { s with requestedExit := some exit }.startDraining
    | _, _ => none
  | .joinWork kind =>
    match s.phase, s.work kind with
    | .selecting, .ended taskEnd =>
      some ((s.setWork kind (.joined taskEnd)).selectWork kind taskEnd).startDraining
    | .draining, .ended taskEnd =>
      some ((s.setWork kind (.joined taskEnd)).addFailure? (drainFailure kind taskEnd))
    | .reaping, .ended taskEnd => some (s.setWork kind (.joined taskEnd))
    | _, _ => none
  | .joinPublisher =>
    match s.phase, s.publisher with
    | .selecting, .ended taskEnd =>
      some ({ s with
        publisher := .joined taskEnd
        publisherFinished := true }.addFailure (unexpectedPublisherExit taskEnd)).startDraining
    | .stoppingPublisher, .ended taskEnd =>
      some ({ s with
        publisher := .joined taskEnd
        phase := .returning }.addFailure? (publisherCleanupFailure taskEnd))
    | .abortingPublisher, .ended taskEnd =>
      some ({ s with
        publisher := .joined taskEnd
        phase := .returning }.addFailure "publisher cleanup timed out")
    | _, _ => none
  | .drainTimeout =>
    match s.phase with
    | .draining =>
      if TaskKind.all.all fun kind => (s.work kind).isJoined then none
      else some { s with phase := .reaping }
    | _ => none
  | .drained =>
    if TaskKind.all.all fun kind => (s.work kind).isJoined then
      match s.phase with
      | .draining => some { s with phase := .dbShutdown, dbShutdownStarted := true }
      | .reaping =>
        some { s.addFailure "engine task cleanup timed out" with
          phase := .dbShutdown
          dbShutdownStarted := true }
      | _ => none
    else none
  | .dbShutdownEnds result =>
    match s.phase with
    | .dbShutdown =>
      some { s.addFailure? (match result with
          | .ok () => none
          | .error err => some err) with
        phase := .checkingPublisher
        dbShutdownEnded := true }
    | _ => none
  | .checkPublisher =>
    match s.phase with
    | .checkingPublisher =>
      match s.publisherFinished, s.publisher with
      | false, .ended taskEnd =>
        some { s.addFailure (unexpectedPublisherExit taskEnd) with
          phase := .publishing
          publisher := .joined taskEnd
          publisherFinished := true }
      | _, _ => some { s with phase := .publishing }
    | _ => none
  | .publishTerminal =>
    match s.phase with
    | .publishing =>
      some { s with
        events := s.events ++ [s.terminalLifecycle]
        phase := if s.publisherFinished then .returning else .stoppingPublisher
        publisherCancelled := !s.publisherFinished }
    | _ => none
  | .publisherTimeout =>
    match s.phase with
    | .stoppingPublisher => some { s with phase := .abortingPublisher }
    | _ => none
  | .return =>
    match s.phase with
    | .returning =>
      some { s with
        phase := .returned (match s.criticalFailure with
          | some error => .error error
          | none => .ok (s.requestedExit.getD .shutdown)) }
    | _ => none
  | _ => none

/-- One step. -/
def step (decode : Frame → Except String RpcRequest) (s : ServerRun) (l : ServerLabel) :
    Option ServerRun := (s.workStep decode l).or (s.mainStep l)

end ServerRun

/-- The supervisor, under any order of its events. -/
def serverSystem (decode : Frame → Except String RpcRequest) :
    LabelledSystem ServerRun ServerLabel where
  init s := s = .start
  step s l s' := s.step decode l = some s'

end WeatherApp
