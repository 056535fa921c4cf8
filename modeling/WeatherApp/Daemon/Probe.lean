import WeatherApp.Engine.Lock

/-!
# The probe

`daemon/src/probe.rs`: the state of an engine, from its lock file and from what answers at its
endpoint. The lock is looked at before and after the endpoint; a sample in which it has changed is
taken again.

Durations and times are in nanoseconds.

## Main definitions

* `LockSnapshot`, `observeLock`: what the lock file shows.
* `statusDisposition`, `classifyProbe`: what an answer and the lock mean together.
* `probeStatus`: the probe.
-/

namespace WeatherApp.Host

/-- `PROBE_SAMPLE_ATTEMPTS`. -/
def probeSampleAttempts : ℕ := 3

/-- `LOCK_OBSERVATION_ATTEMPTS`. -/
def lockObservationAttempts : ℕ := 3

/-! ## The lock -/

/-- `LockState`. -/
inductive LockState where
  | missing
  | free
  | held
  deriving DecidableEq, Repr

/-- `LockSnapshot`. -/
structure LockSnapshot where
  state : LockState
  identity : Option ℕ
  modified : Option ℤ
  metadata : Option EngineLockMetadata
  deriving DecidableEq, Repr

section Observe

variable [LockMetadataJson]

/-- `read_lock_metadata`. -/
def readLockMetadata (file : OpenFile) (path : String) : HostM (Option EngineLockMetadata) := do
  let contents : String ← orContext s!"failed to read lock metadata from {path}"
    (perform (.readToEnd file))
  return (LockMetadataJson.read contents).filter (·.isSupported)

/-- What `observe_lock_once` sees of a file that it has opened. The identity keeps the file open, but
not locked. -/
def observeOpenLock (path : String) (file : OpenFile) : HostM (Option LockSnapshot) := do
  let metadata : Except IoError ℤ ← orContext s!"failed to inspect open lock file {path}"
    (perform (.metadata file))
  orContext s!"failed to clone open lock file {path}" (perform (.tryClone file))
  let identity : ℕ ← orContext s!"failed to identify open lock file {path}"
    (perform (.identify file))
  let modified : ℤ ← orContext s!"failed to read lock age from {path}" (pure metadata)
  let lockMetadata ← readLockMetadata file path
  let locked : Except IoError Unit ← invoke (.tryLock file false)
  match locked with
  | .ok _ =>
    let matched ← fileMatchesPath file path
    let _ ← invoke (.unlock file)
    if matched then return some ⟨.free, some identity, some modified, lockMetadata⟩
    else return none
  | .error err =>
    if err.kind = .wouldBlock then
      let matched ← fileMatchesPath file path
      if matched then return some ⟨.held, some identity, some modified, lockMetadata⟩
      else return none
    else throw s!"failed to probe lock {path}: {err.text}"

/-- `observe_lock_once`. -/
def observeLockOnce (path : String) : HostM (Option LockSnapshot) := do
  let opened : Except IoError OpenFile ← invoke (.openFile path false)
  match opened with
  | .error err =>
    if err.kind = .notFound then return some ⟨.missing, none, none, none⟩
    else throw s!"failed to open lock file {path}: {err.text}"
  | .ok file =>
    let snapshot ← onError (perform (.close file)) (observeOpenLock path file)
    let _ ← invoke (.close file)
    return snapshot

/-- `observe_lock`. -/
def observeLock (path : String) : HostM LockSnapshot :=
  attempts (fun again => do
    let snapshot ← observeLockOnce path
    match snapshot with
    | some snapshot => return snapshot
    | none => retryOr again (pure ⟨⟩) s!"lock path {path} changed during {lockObservationAttempts} consecutive observations")
    (lockObservationAttempts - 1)

end Observe

/-- `lock_age`. -/
def lockAge (snapshot : LockSnapshot) (now : ℤ) : Option ℕ :=
  if snapshot.state ≠ .held then none
  else
    let startedAt := (snapshot.metadata.map fun metadata =>
      (metadata.startedAtUnixMs : ℤ) * 10 ^ 6).or snapshot.modified
    startedAt.map fun startedAt => (now - startedAt).toNat

/-- `duration_ms`. -/
def durationMs (duration : ℕ) : ℕ := min (duration / 10 ^ 6) (2 ^ 64 - 1)

/-! ## The endpoint -/

/-- `StatusDisposition`. -/
inductive StatusDisposition where
  | matchingReady
  | matchingNotReady
  | adoptedReady
  | foreign
  deriving DecidableEq, Repr

/-- The metadata of the lock is that of another engine than the one that answers. -/
def isForeignLock (active : String) (status : EngineStatus) :
    Option EngineLockMetadata → HostM Bool
  | none => return false
  | some metadata => do
    let metadataConfig : String ← orFail (perform (.normalizePath metadata.configPath))
    return metadataConfig ≠ active ∨ metadata.instanceId ≠ status.instanceId

/-- `status_disposition`. -/
def statusDisposition (requestedConfig : String) (config : AppConfig) (status : EngineStatus)
    (strictConfig : Bool) (lockMetadata : Option EngineLockMetadata) :
    HostM StatusDisposition := do
  let requested : String ← orFail (perform (.normalizePath requestedConfig))
  let active : String ← orFail (perform (.normalizePath status.configPath))
  let isMatch : Bool := requested = active ∧ status.rpcEndpoint = config.ipc.rpcEndpoint ∧
    status.pubEndpoint = config.ipc.pubEndpoint
  let isForeign ← isForeignLock active status lockMetadata
  if isForeign then return .foreign
  else if ¬ isMatch ∧ ¬ strictConfig ∧ status.ready then return .adoptedReady
  else if ¬ isMatch then return .foreign
  else if status.ready then return .matchingReady
  else return .matchingNotReady

/-- The status in a response to a request, if it is one. -/
def statusOfResponse (requestId : String) (response : Option ResponseMessage) :
    Option EngineStatus :=
  match response with
  | none => none
  | some response =>
    if response.requestId ≠ requestId ∨ response.status ≠ .ok then none
    else
      match response.body with
      | .status status => some status
      | _ => none

/-- `rpc_endpoint_status`. -/
def rpcEndpointStatus (rpcEndpoint : String) : HostM (Option EngineStatus) := do
  let requestId : String ← invoke (.correlationId "daemon-request")
  orFail (perform .resolveHmacKey)
  let sent : Except String Unit ← invoke (.send ⟨requestId, rpcEndpoint, .getEngineStatus⟩)
  match sent with
  | .error _ => return none
  | .ok _ =>
    let response : Option ResponseMessage ← invoke (.await requestId)
    return statusOfResponse requestId response

/-! ## The state -/

/-- `classify_probe`. -/
def classifyProbe (lockState : LockState) (lockAge : Option ℕ) (startupTimeout : ℕ)
    (rpcEndpointReachable pubEndpointReachable : Bool) (status : Option StatusDisposition) :
    ProbeState :=
  if status = some .adoptedReady then .running
  else if status = some .foreign then .endpointConflict
  else if lockState = .held then
    if status = some .matchingReady then .running
    else if lockAge.all (fun age => startupTimeout ≤ age) then .unhealthy
    else .starting
  else if rpcEndpointReachable || pubEndpointReachable || status.isSome then .endpointConflict
  else .notRunning

/-- `state_message`. -/
def stateMessage (state : ProbeState) (lockAge : Option ℕ) (startupTimeout : ℕ)
    (status : Option StatusDisposition) : Option String :=
  match state with
  | .notRunning | .running => none
  | .starting => some
      s!"engine lock is held and startup is still within {durationMs startupTimeout} ms"
  | .unhealthy => some
      s!"engine lock has been held for {(lockAge.map durationMs).getD 0} ms without a ready status"
  | .endpointConflict =>
    if status = some .foreign then
      some "RPC endpoint returned a status for a different engine configuration"
    else
      some ("one or more configured endpoints are reachable without a healthy engine holding " ++
        "the expected lock")

/-- The metadata of a lock that is held. -/
def LockSnapshot.heldMetadata (snapshot : LockSnapshot) : Option EngineLockMetadata :=
  if snapshot.state = .held then snapshot.metadata else none

/-- The status of a probe from its samples. -/
def reportStatus (configPath lockPath : String) (config : AppConfig) (startupTimeout : ℕ)
    (lock : LockSnapshot) (age : Option ℕ) (rpcReachable pubReachable : Bool)
    (engineStatus : Option EngineStatus) (disposition : Option StatusDisposition) : ProbeStatus :=
  let state := classifyProbe lock.state age startupTimeout rpcReachable pubReachable disposition
  let activeStatus := engineStatus.filter fun _ =>
    disposition = some .matchingReady ∨ disposition = some .adoptedReady
  { state := state
    rpcEndpoint := (activeStatus.map (·.rpcEndpoint)).getD config.ipc.rpcEndpoint
    pubEndpoint := (activeStatus.map (·.pubEndpoint)).getD config.ipc.pubEndpoint
    configPath := (activeStatus.map (·.configPath)).getD configPath
    lockPath := lockPath
    lockHeld := lock.state = .held
    lockAgeMs := age.map durationMs
    startupTimeoutMs := durationMs startupTimeout
    lockMetadata := lock.heldMetadata
    rpcEndpointReachable := rpcReachable
    pubEndpointReachable := pubReachable
    engineStatus := engineStatus
    message :=
      if disposition = some .adoptedReady then
        some "adopted a ready engine discovered at the configured RPC endpoint"
      else stateMessage state age startupTimeout disposition }

section Probe

variable [LockMetadataJson]

/-- The status of the endpoint, if it is reachable. -/
def sampleEndpoint (rpcReachable : Bool) (rpcEndpoint : String) : HostM (Option EngineStatus) :=
  if rpcReachable then rpcEndpointStatus rpcEndpoint else return none

/-- The disposition of a status, if there is one. -/
def disposeStatus (configPath : String) (config : AppConfig) (strictConfig : Bool)
    (held : Option EngineLockMetadata) :
    Option EngineStatus → HostM (Option StatusDisposition)
  | none => return none
  | some status => do
    let disposition ← statusDisposition configPath config status strictConfig held
    return some disposition

/-- One sample of `probe_status`. -/
def probeSample (configPath lockPath : String) (config : AppConfig) (strictConfig : Bool)
    (again : Option (HostM ProbeStatus)) : HostM ProbeStatus := do
  let lockBefore ← observeLock lockPath
  let rpcReachable : Bool ← invoke (.reachable config.ipc.rpcEndpoint)
  let pubReachable : Bool ← invoke (.reachable config.ipc.pubEndpoint)
  let engineStatus ← sampleEndpoint rpcReachable config.ipc.rpcEndpoint
  let lockAfter ← observeLock lockPath
  if lockBefore ≠ lockAfter then
    retryOr again (pure ⟨⟩)
      s!"engine state changed during {probeSampleAttempts} consecutive probe samples"
  else
    let now : ℤ ← invoke .systemTime
    let disposition ← disposeStatus configPath config strictConfig lockAfter.heldMetadata
      engineStatus
    return reportStatus configPath lockPath config (max config.engine.startupTimeoutMs 1 * 10 ^ 6)
      lockAfter (lockAge lockAfter now) rpcReachable pubReachable engineStatus disposition

/-- `probe_status`. -/
def probeStatus (requested : Option String) : HostM ProbeStatus := do
  let path : String ←
    match requested with
    | some path => pure path
    | none => orFail (perform .defaultConfigFile)
  let configPath : String ← orFail (perform (.absolutePath path))
  let config : AppConfig ← orFail (perform (.loadOrDefault configPath))
  let lockPath := resolveRelative (baseDirOf configPath) config.engine.lockPath
  attempts (probeSample configPath lockPath config requested.isSome) (probeSampleAttempts - 1)

end Probe

end WeatherApp.Host
