import WeatherApp.Daemon.Probe

/-!
# Clients that find or start an engine

`DaemonSupervisor` of `renderer/common/src/daemon.rs` and the sessions of the terminal and the
graphical client (`tui/src/lib.rs`, `gui/src-tauri/src/lib.rs`). A client that finds no engine starts
a daemon with a token of its own. It owns the engine that gets ready only if the metadata of the
lock has the process and the token of its daemon; otherwise it adopts the engine, and its own daemon
is killed. At the end of a session the engine is stopped if the client owns it.

A daemon that is dropped is waited for. Loops have a number of rounds; where it is used up, the
program stands still.

## Main definitions

* `readinessDecision`, `ensureReady`: how a client comes to a ready engine.
* `ForegroundDaemon.drop`: the end of a daemon.
* `runManaged`, `runGui`, `runDirect`: sessions.
* `runManagedStop`, `runDirectStop`, `stopDaemon`: the commands to stop an engine.
-/

namespace WeatherApp.Host

/-! ## Requests -/

/-- The result of a request to shut down, from its response. -/
def shutdownResult (requestId : String) (response : Option ResponseMessage) : Except String Unit :=
  match response with
  | none => .error "RPC request timed out"
  | some response =>
    if response.requestId ≠ requestId then .error "RPC request timed out"
    else
      match response.status, response.body with
      | .error, .error error => .error s!"{error.code}: {error.message}"
      | .error, _ => .error "engine returned an error without details"
      | _, .empty => .ok ⟨⟩
      | _, _ => .error "failed to decode Protobuf message"

/-- `shutdown`, `shutdown_if_owned`: a request over a connection to an endpoint. -/
def requestShutdown (endpoint : String) (ownerToken : Option String) : HostM Unit := do
  let requestId : String ← invoke (.correlationId "renderer-request")
  orFail (perform (.send ⟨requestId, endpoint, .shutdown ownerToken⟩))
  let response : Option ResponseMessage ← invoke (.await requestId)
  ExceptT.mk (pure (shutdownResult requestId response))

/-! ## Daemons -/

/-- `try_wait` of a child, `false` when it fails too. -/
def hasExited (child : ℕ) : HostProgram Bool := do
  let result : Except IoError Bool ← perform (.tryWait child)
  match result with
  | .ok exited => return exited
  | .error _ => return false

namespace ForegroundDaemon

/-- The wait for a daemon that was asked to shut down: whether it has exited. -/
def awaitExit (child deadline : ℕ) : ℕ → HostProgram Bool
  | 0 => stalled
  | rounds + 1 => do
    let now : ℕ ← perform .now
    if now < deadline then
      let exited ← hasExited child
      if exited then return true
      else
        perform .sleep
        awaitExit child deadline rounds
    else return false

/-- A daemon that was asked to shut down gets some time: whether it has exited then. -/
def awaitGraceful (rounds : ℕ) (daemon : ForegroundDaemon) : HostProgram Bool := do
  if daemon.gracefulShutdownRequested then
    let exited ← hasExited daemon.child
    if exited then return false
    else
      let now : ℕ ← perform .now
      awaitExit daemon.child (now + 5000) rounds
  else return false

/-- `drop`. -/
def drop (rounds : ℕ) (daemon : ForegroundDaemon) : HostProgram Unit := do
  let exited ← awaitGraceful rounds daemon
  if exited then return ⟨⟩
  else
    let exited ← hasExited daemon.child
    if ¬ exited then perform (.kill daemon.child)
    perform (.wait daemon.child)

end ForegroundDaemon

/-- `SpawnedForeground`. -/
structure SpawnedForeground where
  ownerToken : String
  foreground : ForegroundDaemon
  deriving DecidableEq, Repr

/-- A spawned daemon is dropped, if there is one. -/
def dropSpawned (rounds : ℕ) : Option SpawnedForeground → HostProgram Unit
  | none => return ⟨⟩
  | some spawned => spawned.foreground.drop rounds

/-- What is dropped with the ownership of an engine. -/
def EngineOwnership.drop (rounds : ℕ) : EngineOwnership → HostProgram Unit
  | .owned _ foreground => foreground.drop rounds
  | _ => return ⟨⟩

/-! ## Readiness -/

/-- `ReadinessDecision`. -/
inductive ReadinessDecision where
  | wait
  | owned
  | adopted
  deriving DecidableEq, Repr

/-- `probe_state_error`. -/
def probeStateError (state : ProbeState) (message : Option String) : String :=
  match message with
  | some message => s!"engine probe reported {state.asStr}: {message}"
  | none => s!"engine probe reported {state.asStr}"

/-- The metadata is that of the spawned daemon. -/
def SpawnedForeground.identifies (spawned : SpawnedForeground) (metadata : EngineLockMetadata) :
    Bool :=
  metadata.pid = spawned.foreground.child ∧ metadata.ownerToken = some spawned.ownerToken

/-- `readiness_decision`. -/
def readinessDecision (probe : DaemonProbe) (spawned : Option SpawnedForeground) :
    Except String ReadinessDecision :=
  match probe.state with
  | .notRunning | .starting => .ok .wait
  | .running =>
    match spawned with
    | none => .ok .adopted
    | some spawned =>
      if probe.lockMetadata.any spawned.identifies then .ok .owned else .ok .adopted
  | state => .error (probeStateError state probe.message)

/-- `startup_wait_duration`, in milliseconds. -/
def startupWaitDuration (probe : DaemonProbe) : ℕ :=
  probe.startupTimeoutMs - probe.lockAgeMs.getD 0

/-- `Instant` has a last value. -/
def instantLimit : ℕ := 2 ^ 63 * 1000

/-- `readiness_deadline`. -/
def readinessDeadline (wait : ℕ) : HostM ℕ := do
  let now : ℕ ← invoke .now
  if now + wait < instantLimit then return now + wait
  else throw "configured engine startup timeout is too large"

/-- `probe_with_deadline`. -/
def runProbe (config : Option String) : HostM DaemonProbe := do
  let child : ℕ ← orContext "failed to run daemon probe" (perform (.spawnProbe config))
  orFail (perform (.output child))

/-- A round of `wait_for_readiness` that goes on waiting: a daemon that has exited is not waited
for. -/
def checkSpawned (probe : DaemonProbe) (spawned : Option SpawnedForeground) : HostM Unit :=
  if probe.state = .notRunning then
    match spawned with
    | none => throw "engine stopped while waiting for readiness"
    | some spawned => do
      let exited : Bool ← orContext "failed to inspect foreground daemon process"
        (perform (.tryWait spawned.foreground.child))
      if exited then throw "foreground daemon exited before engine readiness"
  else return ⟨⟩

/-- The loop of `wait_for_readiness`. The error of an exited daemon is without its status. -/
def waitRounds (config : Option String) (deadline startupTimeoutMs dropRounds : ℕ)
    (spawned : Option SpawnedForeground) : ℕ → HostM ReadyDaemon
  | 0 => ExceptT.lift stalled
  | rounds + 1 => do
    let now : ℕ ← invoke .now
    if deadline ≤ now then
      throw s!"engine did not become ready within {startupTimeoutMs} ms"
    let probe ← addContext s!"engine did not become ready within {startupTimeoutMs} ms"
      (runProbe config)
    let decision : ReadinessDecision ← ExceptT.mk (pure (readinessDecision probe spawned))
    match decision, spawned with
    | .owned, some spawned =>
      return ⟨probe, .owned spawned.ownerToken spawned.foreground⟩
    | .owned, none => throw "owned readiness requires a foreground process"
    | .adopted, spawned =>
      ExceptT.lift (dropSpawned dropRounds spawned)
      return ⟨probe, .adopted⟩
    | .wait, spawned =>
      checkSpawned probe spawned
      let _ ← invoke .sleep
      waitRounds config deadline startupTimeoutMs dropRounds spawned rounds

/-- `wait_for_readiness`. A failure drops the daemon that was spawned. -/
def waitForReadiness (rounds : ℕ) (config : Option String) (wait startupTimeoutMs : ℕ)
    (spawned : Option SpawnedForeground) : HostM ReadyDaemon :=
  onError (dropSpawned rounds spawned) do
    let deadline ← readinessDeadline wait
    waitRounds config deadline startupTimeoutMs rounds spawned rounds

/-- `ensure_ready`. -/
def ensureReady (rounds : ℕ) (config : Option String) (initial : DaemonProbe) :
    HostM ReadyDaemon := do
  match initial.state with
  | .running => return ⟨initial, .adopted⟩
  | .notRunning =>
    let ownerToken : String ← invoke (.correlationId "tui-owner")
    let child : ℕ ← orContext "failed to start foreground daemon"
      (perform (.spawnDaemon config ownerToken))
    waitForReadiness rounds config (max initial.startupTimeoutMs 1) initial.startupTimeoutMs
      (some ⟨ownerToken, child, false⟩)
  | .starting =>
    waitForReadiness rounds config (startupWaitDuration initial) initial.startupTimeoutMs none
  | state => throw (probeStateError state initial.message)

/-! ## Sessions -/

/-- A client with a connection to a ready engine. -/
def connectReady (rounds : ℕ) (config : Option String) : HostM ReadyDaemon := do
  let probe ← runProbe config
  let ready ← ensureReady rounds config probe
  let _ ← invoke (.ready ready)
  onError (ready.ownership.drop rounds)
    (orFail (perform (.connect ready.probe.rpcEndpoint ready.probe.pubEndpoint)))
  return ready

/-- The engine is asked to stop if it is the client's own. The daemon is given time if the engine
accepts. -/
def releaseEngine (endpoint : String) : EngineOwnership → HostProgram EngineOwnership
  | .owned ownerToken foreground => do
    let accepted ← (requestShutdown endpoint (some ownerToken)).run
    match accepted with
    | .ok _ => return .owned ownerToken { foreground with gracefulShutdownRequested := true }
    | .error _ => return .owned ownerToken foreground
  | ownership => return ownership

/-- `run_session`. -/
def runSession (rounds : ℕ) (endpoint : String) (ownership : EngineOwnership) : HostM Unit :=
  ExceptT.mk do
    let result : Except String Unit ← perform .runConnected
    let ownership ← releaseEngine endpoint ownership
    ownership.drop rounds
    perform .closeClient
    return result

/-- `run_managed`, for what does not stop the engine. -/
def runManaged (rounds : ℕ) (config : Option String) : HostM Unit := do
  let ready ← connectReady rounds config
  runSession rounds ready.probe.rpcEndpoint ready.ownership

/-- A session of the graphical client, up to `close_session`. -/
def runGui (rounds : ℕ) (config : Option String) : HostM Unit := do
  let ready ← connectReady rounds config
  ExceptT.mk do
    let result : Except String Unit ← perform .runConnected
    let ownership ← releaseEngine ready.probe.rpcEndpoint ready.ownership
    perform .closeClient
    ownership.drop rounds
    return result

/-- `run_direct`, for what does not stop the engine. -/
def runDirect (rounds : ℕ) (rpcEndpoint pubEndpoint : String) : HostM Unit := do
  orFail (perform (.connect rpcEndpoint pubEndpoint))
  runSession rounds rpcEndpoint .direct

/-! ## Commands to stop an engine -/

/-- A connection for one request to shut down. -/
def stopEngine (rpcEndpoint pubEndpoint : String) : HostM Unit := do
  orFail (perform (.connect rpcEndpoint pubEndpoint))
  ExceptT.mk do
    let result ← (requestShutdown rpcEndpoint none).run
    perform .closeClient
    return result

/-- `run_direct`, to stop the engine. -/
def runDirectStop (rpcEndpoint pubEndpoint : String) : HostM Unit :=
  stopEngine rpcEndpoint pubEndpoint

/-- `run_managed`, to stop the engine. -/
def runManagedStop (config : Option String) : HostM Unit := do
  let probe ← runProbe config
  match probe.state with
  | .notRunning => return ⟨⟩
  | .running => stopEngine probe.rpcEndpoint probe.pubEndpoint
  | state => throw (probeStateError state probe.message)

section Stop

variable [LockMetadataJson]

/-- `validate_shutdown_response`. -/
def validateShutdownResponse (requestId : String) (response : Option ResponseMessage) :
    Except String Unit :=
  match response with
  | none => .error "daemon shutdown request timed out"
  | some response =>
    if response.requestId ≠ requestId then
      .error "daemon shutdown response envelope does not match the request"
    else
      match response.status, response.body with
      | .error, .error error => .error s!"{error.code}: {error.message}"
      | .error, _ => .error "daemon shutdown was rejected without an error message"
      | .accepted, .empty => .ok ⟨⟩
      | .accepted, _ => .error "daemon shutdown response payload is invalid"
      | _, _ => .error "daemon shutdown response was not accepted"

/-- `wait_until_stopped`. -/
def waitUntilStopped (config : Option String) (deadline : ℕ) : ℕ → HostM Unit
  | 0 => ExceptT.lift stalled
  | rounds + 1 => do
    let now : ℕ ← invoke .now
    if deadline ≤ now then throw "timed out waiting for weather daemon to stop"
    let status : Except String ProbeStatus ← ExceptT.lift (probeStatus config).run
    if status.toOption.any fun status => status.state = .notRunning then return ⟨⟩
    else
      let _ ← invoke .sleep
      waitUntilStopped config deadline rounds

/-- The request of `stop` to an engine that runs. -/
def stopRunning (rounds : ℕ) (config : Option String) (status : ProbeStatus) : HostM Unit := do
  let path : String ←
    match config with
    | some path => pure path
    | none => orFail (perform .defaultConfigFile)
  let configPath : String ← orFail (perform (.absolutePath path))
  let appConfig : AppConfig ← orFail (perform (.loadOrDefault configPath))
  let requestId : String ← invoke (.correlationId "daemon-stop")
  orFail (perform .resolveHmacKey)
  orFail (perform (.send ⟨requestId, status.rpcEndpoint,
    .shutdown (status.lockMetadata.bind (·.ownerToken))⟩))
  let response : Option ResponseMessage ← invoke (.await requestId)
  let _ ← ExceptT.mk (pure (validateShutdownResponse requestId response) :
    HostProgram (Except String Unit))
  let now : ℕ ← invoke .now
  waitUntilStopped config (now + max appConfig.engine.requestTimeoutMs 1 + 12000) rounds

/-- `stop`. -/
def stopDaemon (rounds : ℕ) (config : Option String) : HostM Unit := do
  let status ← probeStatus config
  match status.state with
  | .notRunning => return ⟨⟩
  | .running => stopRunning rounds config status
  | state => throw (match status.message with
    | some message => s!"cannot stop weather daemon in state {state.asStr}: {message}"
    | none => s!"cannot stop weather daemon in state {state.asStr}")

end Stop

end WeatherApp.Host
