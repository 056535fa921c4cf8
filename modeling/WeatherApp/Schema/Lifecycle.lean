import Mathlib.Data.Nat.Basic

/-!
# The identity and the state of an engine

The metadata that an engine leaves in its lock file (`weather-schema/src/lifecycle.rs`), and the
status it reports (`weather.proto`).

## Main definitions

* `EngineLockMetadata`: who holds the lock.
* `EngineStatus`: what an engine says of itself.
-/

namespace WeatherApp

/-- `ENGINE_LOCK_METADATA_VERSION`. -/
def engineLockMetadataVersion : ℕ := 1

/-- `EngineLockMetadata`. -/
structure EngineLockMetadata where
  version : ℕ
  pid : ℕ
  instanceId : String
  ownerToken : Option String
  startedAtUnixMs : ℕ
  configPath : String
  deriving DecidableEq, Repr

/-- `is_supported`. -/
def EngineLockMetadata.isSupported (metadata : EngineLockMetadata) : Bool :=
  metadata.version = engineLockMetadataVersion

/-- `LifecycleState` of a status. -/
inductive EngineStatus.Lifecycle where
  | unspecified
  | starting
  | ready
  | stopping
  | failed
  deriving DecidableEq, Repr

/-- `EngineStatus`, without the versions. -/
structure EngineStatus where
  ready : Bool
  mode : String
  rpcEndpoint : String
  pubEndpoint : String
  configPath : String
  message : Option String
  instanceId : String
  lifecycleState : EngineStatus.Lifecycle
  deriving DecidableEq, Repr

end WeatherApp
