import WeatherApp.Conf.Types
import WeatherApp.Foundation.FileLock
import WeatherApp.Foundation.Process
import WeatherApp.Manifest.Components
import WeatherApp.Schema.Lifecycle
import WeatherApp.Schema.Rpc

/-!
# What the processes ask of the host

The processes of the application are programs that call the operating system: files and their
locks, clocks, sockets, and other processes. This module has the calls and their replies, and the
values that the processes exchange.

A request and its answer are on their way by themselves, and are lost or late as they may. One
version of the application runs, so that the schema versions agree; signatures are left out.

## Main definitions

* `ProbeStatus`, `DaemonProbe`: what a probe prints, and what its reader takes from it.
* `ReadyDaemon`, `EngineOwnership`: what a client knows of the engine that it found or started.
* `HostCall`, `HostCall.Reply`: the calls and their replies.
* `HostProgram`, `HostM`: programs, and programs that can fail.
-/

namespace WeatherApp.Host

open Manifest (ComponentKind)

/-! ## Values -/

/-- `std::io::ErrorKind`, as far as it is told apart. -/
inductive IoErrorKind where
  | notFound
  | wouldBlock
  | other
  deriving DecidableEq, Repr

/-- `std::io::Error`. -/
structure IoError where
  kind : IoErrorKind
  text : String
  deriving DecidableEq, Repr

/-- The requests of the engine's lifecycle: `GetEngineStatus` and `Shutdown`. -/
inductive LifecycleRequest where
  | getEngineStatus
  | shutdown (ownerToken : Option String)
  deriving DecidableEq, Repr

/-- A request on its way to an endpoint. -/
structure RequestMessage where
  requestId : String
  endpoint : String
  request : LifecycleRequest
  deriving DecidableEq, Repr

/-- The payload of a response. -/
inductive ResponseBody where
  | status (status : EngineStatus)
  | empty
  | error (error : EngineError)
  deriving DecidableEq, Repr

/-- A response on its way back. -/
structure ResponseMessage where
  requestId : String
  status : ResponseStatus
  body : ResponseBody
  deriving DecidableEq, Repr

/-- What an engine takes from its sockets and signals. -/
inductive Received where
  | request (message : RequestMessage)
  /-- `RestartEngine`, from any client. -/
  | restart
  /-- The signal task ends. -/
  | signal
  /-- A critical task ends. -/
  | failure (error : String)
  /-- The tasks have been drained, with failures or without. -/
  | drained (failure : Option String)
  deriving DecidableEq, Repr

/-- `ProbeState`, `DaemonProbeState`. -/
inductive ProbeState where
  | notRunning
  | starting
  | running
  | unhealthy
  | endpointConflict
  deriving DecidableEq, Repr

/-- `ProbeState::as_str`. -/
def ProbeState.asStr : ProbeState → String
  | notRunning => "not_running"
  | starting => "starting"
  | running => "running"
  | unhealthy => "unhealthy"
  | endpointConflict => "endpoint_conflict"

/-- `ProbeStatus`. -/
structure ProbeStatus where
  state : ProbeState
  rpcEndpoint : String
  pubEndpoint : String
  configPath : String
  lockPath : String
  lockHeld : Bool
  lockAgeMs : Option ℕ
  startupTimeoutMs : ℕ
  lockMetadata : Option EngineLockMetadata
  rpcEndpointReachable : Bool
  pubEndpointReachable : Bool
  engineStatus : Option EngineStatus
  message : Option String
  deriving DecidableEq, Repr

/-- `DaemonProbe`. -/
structure DaemonProbe where
  state : ProbeState
  rpcEndpoint : String
  pubEndpoint : String
  lockAgeMs : Option ℕ
  startupTimeoutMs : ℕ
  lockMetadata : Option EngineLockMetadata
  message : Option String
  deriving DecidableEq, Repr

/-- The printed status, as `DaemonProbe` reads it. -/
def DaemonProbe.ofStatus (status : ProbeStatus) : DaemonProbe where
  state := status.state
  rpcEndpoint := status.rpcEndpoint
  pubEndpoint := status.pubEndpoint
  lockAgeMs := status.lockAgeMs
  startupTimeoutMs := status.startupTimeoutMs
  lockMetadata := status.lockMetadata
  message := status.message

/-- `LockGuard`: the open file, with what it was acquired for. -/
structure LockGuard where
  path : String
  metadata : Option EngineLockMetadata
  file : OpenFile
  deriving DecidableEq, Repr

/-- `ForegroundDaemon`. -/
structure ForegroundDaemon where
  child : ℕ
  gracefulShutdownRequested : Bool
  deriving DecidableEq, Repr

/-- `EngineOwnership`. -/
inductive EngineOwnership where
  | direct
  | adopted
  | owned (ownerToken : String) (foreground : ForegroundDaemon)
  deriving DecidableEq, Repr

/-- `ReadyDaemon`. -/
structure ReadyDaemon where
  probe : DaemonProbe
  ownership : EngineOwnership
  deriving DecidableEq, Repr

/-! ## Paths -/

/-- `Path::is_absolute`. -/
def isAbsolute (path : String) : Bool := path.toList.head? = some '/'

/-- `Path::join`. -/
def joinPath (base path : String) : String :=
  if isAbsolute path ∨ base = "" then path
  else if base.toList.getLast? = some '/' then base ++ path
  else base ++ "/" ++ path

/-- A reversed path without what stands for no component at its end. -/
def dropTrailing : List Char → List Char
  | '/' :: rest => dropTrailing rest
  | '.' :: '/' :: rest => dropTrailing rest
  | path => path

/-- `Path::parent`. -/
def parentPath (path : String) : Option String :=
  match dropTrailing path.toList.reverse with
  | [] => none
  | last =>
    let front := last.dropWhile (· ≠ '/')
    match dropTrailing front with
    | [] => some (if front = [] then "" else "/")
    | parent => some (String.ofList parent.reverse)

/-- `resolve_relative`. -/
def resolveRelative (baseDir value : String) : String := joinPath baseDir value

/-- The directory that the paths of a configuration are relative to. -/
def baseDirOf (configPath : String) : String := (parentPath configPath).getD "."

example : baseDirOf "/home/me/.weather/weather.toml" = "/home/me/.weather" := by decide +kernel

/-! ## Calls -/

/-- The fallible steps of a start of the engine that no other process takes part in. -/
inductive StartupStep where
  | ensureConfigFile (configPath : String)
  | loadForEngineStartup (configPath : String)
  /-- `ComponentManifest::record`. -/
  | record (kind : ComponentKind) (path : String)
  /-- The provider factory. -/
  | createProvider (config : UpdaterConfig)
  /-- `create_dir_all` for the database. -/
  | createDbDirectory (path : String)
  /-- `DatabasePaths::canonicalized`, down to the data file. -/
  | canonicalizeDatabase (path : String)
  /-- `recover_pending_timezone`. -/
  | recoverPendingTimezone (dbPath configPath : String) (config : AppConfig)
  /-- `DbActor::start_with_lease`, after the lease. -/
  | startDatabase (dbPath timezone : String)
  deriving DecidableEq

abbrev StartupStep.Result : StartupStep → Type
  | loadForEngineStartup _ => AppConfig
  | canonicalizeDatabase _ => String
  | recoverPendingTimezone _ _ _ => AppConfig
  | _ => Unit

/-- The calls of a process. -/
inductive HostCall where
  /-- `create_dir_all` for the directory of a file. -/
  | createParent (path : String)
  /-- `OpenOptions::open`, for writing too if the file is created. -/
  | openFile (path : String) (create : Bool)
  /-- `File::metadata`, and in it the time of the last change, in nanoseconds. -/
  | metadata (file : OpenFile)
  /-- `File::try_clone`, for a moment. -/
  | tryClone (file : OpenFile)
  /-- `same_file::Handle::from_file`. -/
  | identify (file : OpenFile)
  /-- `same_file::Handle::from_path`. -/
  | identifyPath (path : String)
  /-- `try_lock_exclusive`, `try_lock_shared`. -/
  | tryLock (file : OpenFile) (isExclusive : Bool)
  | unlock (file : OpenFile)
  /-- The file is dropped. -/
  | close (file : OpenFile)
  /-- `seek` to the start. -/
  | seekStart (file : OpenFile)
  /-- `set_len(0)`. -/
  | truncate (file : OpenFile)
  /-- `write_all` at the end of the file. -/
  | write (file : OpenFile) (text : String)
  | syncData (file : OpenFile)
  | readToEnd (file : OpenFile)
  /-- Nothing happens: from here on the process has the guard. -/
  | hold (guard : LockGuard)
  /-- Nothing happens: the guard is about to be dropped. -/
  | giveUp (guard : LockGuard)
  /-- `Instant::now`, in milliseconds. -/
  | now
  /-- `SystemTime::now`, in nanoseconds. -/
  | systemTime
  /-- `unix_timestamp_ms`. -/
  | unixTimestampMs
  | sleep
  /-- `correlation_id`. -/
  | correlationId (scope : String)
  /-- `absolute_config_path`. -/
  | absolutePath (path : String)
  /-- `default_config_file`. -/
  | defaultConfigFile
  /-- `normalize_path`. -/
  | normalizePath (path : String)
  | loadOrDefault (configPath : String)
  /-- `logging::configure`. -/
  | configureLogging (level : String)
  | resolveHmacKey
  | startup (step : StartupStep)
  /-- `tcp_endpoint_reachable`. -/
  | reachable (endpoint : String)
  /-- `bind_engine_sockets`: the endpoints that were bound. -/
  | bind (rpcEndpoint pubEndpoint : String)
  | receive (endpoint : String)
  | respond (response : ResponseMessage)
  /-- `bounded_db_shutdown`, and whether the worker has given back its lease. -/
  | shutdownDatabase
  | send (message : RequestMessage)
  /-- A response, or none in time. -/
  | await (requestId : String)
  /-- `EngineClient::connect`. -/
  | connect (rpcEndpoint pubEndpoint : String)
  /-- `run_connected`: the requests of a session other than those to shut down. -/
  | runConnected
  /-- `EngineClient::close`. -/
  | closeClient
  | spawnProbe (config : Option String)
  /-- The output of a probe, in time. A probe that is not awaited any longer is killed. -/
  | output (process : ℕ)
  /-- `start_foreground`. -/
  | spawnDaemon (config : Option String) (ownerToken : String)
  | tryWait (process : ℕ)
  | kill (process : ℕ)
  | wait (process : ℕ)
  /-- Nothing happens: from here on the client has a ready daemon. -/
  | ready (ready : ReadyDaemon)
  /-- Never replied to: more rounds of a loop than the program was given. -/
  | stall
  deriving DecidableEq

abbrev HostCall.Reply : HostCall → Type
  | createParent _ => Except IoError Unit
  | openFile _ _ => Except IoError OpenFile
  | metadata _ => Except IoError (Except IoError ℤ)
  | tryClone _ => Except IoError Unit
  | identify _ => Except IoError ℕ
  | identifyPath _ => Except IoError ℕ
  | tryLock _ _ => Except IoError Unit
  | unlock _ => Unit
  | close _ => Unit
  | seekStart _ => Except IoError Unit
  | truncate _ => Except IoError Unit
  | write _ _ => Except IoError Unit
  | syncData _ => Except IoError Unit
  | readToEnd _ => Except IoError String
  | hold _ => Unit
  | giveUp _ => Unit
  | now => ℕ
  | systemTime => ℤ
  | unixTimestampMs => Except String ℤ
  | sleep => Unit
  | correlationId _ => String
  | absolutePath _ => Except String String
  | defaultConfigFile => Except String String
  | normalizePath _ => Except String String
  | loadOrDefault _ => Except String AppConfig
  | configureLogging _ => Except String Unit
  | resolveHmacKey => Except String Unit
  | startup step => Except String step.Result
  | reachable _ => Bool
  | bind _ _ => Except String (String × String)
  | receive _ => Received
  | respond _ => Unit
  | shutdownDatabase => Except String Unit × Bool
  | send _ => Except String Unit
  | await _ => Option ResponseMessage
  | connect _ _ => Except String Unit
  | runConnected => Except String Unit
  | closeClient => Unit
  | spawnProbe _ => Except IoError ℕ
  | output _ => Except String DaemonProbe
  | spawnDaemon _ _ => Except IoError ℕ
  | tryWait _ => Except IoError Bool
  | kill _ => Unit
  | wait _ => Unit
  | ready _ => Unit
  | stall => Empty

/-- A program of a process. -/
abbrev HostProgram (α : Type) := Process HostCall HostCall.Reply α

/-- A program that can fail; errors are texts with their causes. -/
abbrev HostM (α : Type) := ExceptT String HostProgram α

/-- Make a call. -/
def perform (c : HostCall) : HostProgram c.Reply := Process.perform c

/-- Make a call that cannot fail. -/
def invoke (c : HostCall) : HostM c.Reply := ExceptT.lift (perform c)

/-- `with_context`, for the errors of the operating system. -/
def orContext {α : Type} (context : String) (p : HostProgram (Except IoError α)) : HostM α :=
  ExceptT.mk (p >>= fun result => pure (result.mapError fun err => s!"{context}: {err.text}"))

/-- `with_context`, for a program that fails. -/
def addContext {α : Type} (context : String) (p : HostM α) : HostM α :=
  ExceptT.mk (p.run >>= fun result => pure (result.mapError fun err => s!"{context}: {err}"))

/-- Continue with a result, or fail with its error. -/
def orFail {α : Type} (p : HostProgram (Except String α)) : HostM α := ExceptT.mk p

/-- Do something if a program fails. -/
def onError {α : Type} (drop : HostProgram Unit) (p : HostM α) : HostM α :=
  ExceptT.mk do
    let result ← p.run
    match result with
    | .ok a => return .ok a
    | .error err =>
      drop
      return .error err

/-- Go on with the next attempt after a delay, or fail if this was the last one. What the attempt
has open is dropped on the way. -/
def retryOr {α : Type} (again : Option (HostM α)) (drop : HostProgram Unit) (error : String) :
    HostM α :=
  match again with
  | some next => do
    let _ ← invoke .sleep
    ExceptT.lift drop
    next
  | none => do
    ExceptT.lift drop
    throw error

/-- Attempts one after the other, with so many more after the first. -/
def attempts {α : Type} (attempt : Option (HostM α) → HostM α) : ℕ → HostM α
  | 0 => attempt none
  | more + 1 => attempt (some (attempts attempt more))

/-- A loop that has used up its rounds. -/
def stalled {α : Type} : HostProgram α := .call .stall Empty.elim

end WeatherApp.Host
