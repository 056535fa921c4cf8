import WeatherApp.Engine.Lifecycle
import WeatherApp.Engine.Lock

/-!
# An engine from its start to its end

`EngineRuntime` of `engine/src/runtime.rs`: an engine takes its lock, prepares the configuration and
the database, takes the lock of the database, and serves requests until it exits; it gives back the
locks at its end. The daemon of `daemon/src/run.rs` runs one engine after the other for as long as
they exit to restart.

The tasks of a running engine are seen from outside only, as in what it receives and answers: how
they are supervised is the subject of `ServerRun`, and the requests other than `GetEngineStatus`,
`Shutdown` and `RestartEngine` are left out. The database worker gives back its lease when it ends,
which is at the latest when the process ends.

## Main definitions

* `startEngine`: `start_with_provider_factory`.
* `EngineRuntime.respond`: the answers to the requests of the lifecycle.
* `EngineRuntime.serve`, `runEngine`: a running engine.
* `runDaemon`: the daemon.
-/

namespace WeatherApp.Host

/-- The parts of `EngineRuntime` that concern its life. -/
structure EngineRuntime where
  configPath : String
  launch : EngineLockMetadata
  config : AppConfig
  engineLock : LockGuard
  /-- The lease of the database worker. -/
  dbLock : LockGuard
  deriving DecidableEq

/-- `launch_metadata` in a process. -/
def launchMetadata (process : ℕ) (configPath : String) (ownerToken : Option String) :
    HostM EngineLockMetadata := do
  if ownerToken = some "" then throw "engine owner token must not be empty"
  let now : ℤ ← orFail (perform .unixTimestampMs)
  if now < 0 then throw "engine start timestamp does not fit in u64 milliseconds"
  let instanceId : String ← invoke (.correlationId "engine-instance")
  return {
    version := engineLockMetadataVersion
    pid := process
    instanceId := instanceId
    ownerToken := ownerToken
    startedAtUnixMs := now.toNat
    configPath := configPath }

/-- A step of a start. -/
def startupStep (step : StartupStep) : HostM step.Result := orFail (perform (.startup step))

/-- `DatabasePaths::new`: the lock of a database. -/
def databaseLock (data : String) : String := data ++ ".lock"

section Start

variable [LockMetadataJson]

/-- The part of a start that has the lock of the database. -/
def openDatabase (configPath data : String) (config : AppConfig) : HostM AppConfig := do
  let config : AppConfig ← startupStep (.recoverPendingTimezone data configPath config)
  startupStep (.startDatabase data config.db.timezone)
  return config

/-- The part of a start that has the lock of the engine: the configuration and the lease of the
database. -/
def prepareEngine (configPath engineLockPath : String) : HostM (AppConfig × LockGuard) := do
  startupStep (.ensureConfigFile configPath)
  let config : AppConfig ← startupStep (.loadForEngineStartup configPath)
  startupStep (.record .config configPath)
  startupStep (.record .lock engineLockPath)
  startupStep (.createProvider config.updater)
  let dbPath := resolveRelative (baseDirOf configPath) config.db.path
  startupStep (.createDbDirectory dbPath)
  let data : String ← startupStep (.canonicalizeDatabase dbPath)
  startupStep (.record .db data)
  startupStep (.record .db (data ++ "-wal"))
  startupStep (.record .db (data ++ "-shm"))
  startupStep (.record .lock (databaseLock data))
  let dbLock ← LockGuard.exclusive (databaseLock data)
  let config ← onError dbLock.drop (openDatabase configPath data config)
  return (config, dbLock)

/-- `start_with_provider_factory`. -/
def startEngine (process : ℕ) (configPath : String) (ownerToken : Option String) :
    HostM EngineRuntime := do
  let configPath : String ← orFail (perform (.absolutePath configPath))
  let preliminary : AppConfig ← orFail (perform (.loadOrDefault configPath))
  let engineLockPath := resolveRelative (baseDirOf configPath) preliminary.engine.lockPath
  let launch ← launchMetadata process configPath ownerToken
  let engineLock ← LockGuard.engine engineLockPath launch
  let (config, dbLock) ← onError engineLock.drop (prepareEngine configPath engineLockPath)
  return ⟨configPath, launch, config, engineLock, dbLock⟩

end Start

/-! ## Requests -/

/-- `shutdown_owner_authorized`. -/
def shutdownOwnerAuthorized (actual requested : Option String) : Bool :=
  match requested with
  | none => true
  | some requested => actual = some requested

/-- `accepted_exit`, for a request of the lifecycle. -/
def acceptedShutdown (request : LifecycleRequest) (response : ResponseMessage) :
    Option EngineExit :=
  if response.status ≠ .accepted then none
  else
    match request with
    | .shutdown _ => some .shutdown
    | .getEngineStatus => none

namespace EngineRuntime

/-- `status`. -/
def status (runtime : EngineRuntime) (mode rpcEndpoint pubEndpoint : String) : EngineStatus where
  ready := true
  mode := mode
  rpcEndpoint := rpcEndpoint
  pubEndpoint := pubEndpoint
  configPath := runtime.configPath
  message := none
  instanceId := runtime.launch.instanceId
  lifecycleState := .ready

/-- `handle_rpc_request`, for the requests of the lifecycle. -/
def respond (runtime : EngineRuntime) (mode rpcEndpoint pubEndpoint : String)
    (message : RequestMessage) : ResponseMessage :=
  match message.request with
  | .getEngineStatus =>
    ⟨message.requestId, .ok, .status (runtime.status mode rpcEndpoint pubEndpoint)⟩
  | .shutdown ownerToken =>
    if shutdownOwnerAuthorized runtime.launch.ownerToken ownerToken then
      ⟨message.requestId, .accepted, .empty⟩
    else
      ⟨message.requestId, .error, .error ⟨RpcErrorCode.ownerMismatch.asStr,
        "engine ownership changed before conditional shutdown"⟩⟩

/-- `add_failure`. -/
def addFailure (failure : Option String) (error : String) : Option String :=
  match failure with
  | some previous => some s!"{previous}; additionally: {error}"
  | none => some error

/-- The sockets of a running engine, until its tasks have been drained: the exit that was asked for
first, and the failures. The engine answers requests until then. -/
def serve (runtime : EngineRuntime) (mode rpcEndpoint pubEndpoint : String) :
    ℕ → Option (Except String EngineExit) → HostProgram (EngineExit × Option String)
  | 0, _ => stalled
  | rounds + 1, outcome => do
    let received : Received ← perform (.receive rpcEndpoint)
    match received with
    | .request message => do
      let response := runtime.respond mode rpcEndpoint pubEndpoint message
      perform (.respond response)
      serve runtime mode rpcEndpoint pubEndpoint rounds
        (outcome.or ((acceptedShutdown message.request response).map .ok))
    | .restart => serve runtime mode rpcEndpoint pubEndpoint rounds (outcome.or (some (.ok .restart)))
    | .signal => serve runtime mode rpcEndpoint pubEndpoint rounds (outcome.or (some (.ok .shutdown)))
    | .failure error => serve runtime mode rpcEndpoint pubEndpoint rounds (outcome.or (some (.error error)))
    | .drained failure =>
      match outcome with
      | none => serve runtime mode rpcEndpoint pubEndpoint rounds none
      | some (.ok exit) => return (exit, failure)
      | some (.error error) => return (.shutdown, failure.elim (some error) (addFailure (some error)))

/-- `bounded_db_shutdown`. The worker gives back its lease when it ends. -/
def shutdownDatabase (runtime : EngineRuntime) : HostProgram (Except String Unit) := do
  let (result, returned) : Except String Unit × Bool ← perform .shutdownDatabase
  if returned then runtime.dbLock.drop
  return result

/-- `run_engine_sockets`. -/
def runSockets (rounds : ℕ) (runtime : EngineRuntime) (mode : String) :
    HostProgram (Except String EngineExit) := do
  let ipc := runtime.config.ipc
  let bound : Except String (String × String) ← perform (.bind ipc.rpcEndpoint ipc.pubEndpoint)
  match bound with
  | .error err =>
    let closed ← runtime.shutdownDatabase
    match closed with
    | .ok _ => return .error err
    | .error dbErr => return .error s!"DB shutdown also failed: {dbErr}: {err}"
  | .ok (rpcEndpoint, pubEndpoint) =>
    let (exit, failure) ← runtime.serve mode rpcEndpoint pubEndpoint rounds none
    let closed ← runtime.shutdownDatabase
    let failure :=
      match closed with
      | .ok _ => failure
      | .error err => addFailure failure err
    match failure with
    | some err => return .error err
    | none => return .ok exit

end EngineRuntime

/-! ## The daemon -/

variable [LockMetadataJson]

/-- `run_engine_with_owner`. The lock of the engine is dropped last. -/
def runEngine (rounds process : ℕ) (configPath mode : String) (ownerToken : Option String) :
    HostM EngineExit := do
  let runtime ← startEngine process configPath ownerToken
  ExceptT.mk do
    let result ← runtime.runSockets rounds mode
    runtime.engineLock.drop
    return result

/-- The level of the log: the one of the command line, or the one of the configuration. -/
def configureLog (configPath : String) (logLevel : Option String) : HostM Unit := do
  let config : AppConfig ← orFail (perform (.loadOrDefault configPath))
  orFail (perform (.configureLogging (logLevel.getD config.engine.logLevel)))

/-- The loop of `run`. -/
def daemonLoop (rounds process : ℕ) (configPath mode : String) (logLevel ownerToken : Option String) :
    ℕ → HostM Unit
  | 0 => ExceptT.lift stalled
  | restarts + 1 => do
    let exit ← runEngine rounds process configPath mode ownerToken
    match exit with
    | .shutdown => return ⟨⟩
    | .restart =>
      if logLevel = none then configureLog configPath none
      daemonLoop rounds process configPath mode logLevel ownerToken restarts

/-- `run`. The default path is looked up first, also when it is not needed. -/
def runDaemon (rounds process : ℕ) (config logLevel : Option String) (foreground : Bool)
    (ownerToken : Option String) : HostM Unit := do
  let default : String ← orFail (perform .defaultConfigFile)
  let configPath : String ← orFail (perform (.absolutePath (config.getD default)))
  configureLog configPath logLevel
  daemonLoop rounds process configPath (if foreground then "foreground" else "daemon") logLevel
    ownerToken rounds

end WeatherApp.Host
