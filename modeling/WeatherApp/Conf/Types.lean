import WeatherApp.Schema.Station

/-!
# The configuration

The configuration record of `conf/src/types.rs` with the defaults of `conf/src/defaults.rs`, and
the hot-update boundary of `conf/src/validate.rs`.

## Main definitions

* `AppConfig`: the configuration; `AppConfig.default` is the one of a fresh install.
* `AppConfig.withTimezone`: the configuration with another database timezone.
* `restartRequiredFields`: what an online update may not change.
-/

namespace WeatherApp

/-- `SUPPORTED_CONFIG_VERSION`. -/
def supportedConfigVersion : ℕ := 2

/-- `EngineConfig`. -/
structure EngineConfig where
  requestTimeoutMs : ℕ
  startupTimeoutMs : ℕ
  lockPath : String
  logLevel : String
  deriving DecidableEq, Repr

/-- `IpcConfig`. -/
structure IpcConfig where
  rpcEndpoint : String
  pubEndpoint : String
  hmac : String
  hmacKey : String
  hmacEnvKeyName : String
  deriving DecidableEq, Repr

/-- `DbConfig`. -/
structure DbConfig where
  path : String
  timezone : String
  deriving DecidableEq, Repr

/-- `NetworkConfig`. -/
structure NetworkConfig where
  httpProxy : Option String
  httpsProxy : Option String
  noProxy : Option String
  allProxy : Option String
  allowInsecure : Bool
  deriving DecidableEq, Repr

/-- `ProviderNetworkConfig`. -/
structure ProviderNetworkConfig where
  httpProxy : Option String
  httpsProxy : Option String
  noProxy : Option String
  allProxy : Option String
  allowInsecure : Option Bool
  deriving DecidableEq, Repr

/-- `ProviderConfig`. -/
structure ProviderConfig where
  name : String
  baseUrl : String
  requestTimeoutSeconds : ℕ
  network : ProviderNetworkConfig
  deriving DecidableEq, Repr

/-- `UpdaterConfig`. -/
structure UpdaterConfig where
  weatherTtlSeconds : ℕ
  provinceTtlSeconds : ℕ
  defaultProvider : String
  network : NetworkConfig
  provider : List ProviderConfig
  deriving DecidableEq, Repr

/-- `StationConfig`. -/
structure StationConfig where
  name : String
  enabled : Bool
  deriving DecidableEq, Repr

/-- `AppConfig`. -/
structure AppConfig where
  configVersion : ℕ
  engine : EngineConfig
  ipc : IpcConfig
  db : DbConfig
  updater : UpdaterConfig
  stations : List StationConfig
  deriving DecidableEq, Repr

/-! ## Defaults -/

/-- `EngineConfig::default`. -/
def EngineConfig.default : EngineConfig := ⟨3000, 8000, "engine.lock", "info"⟩

/-- `IpcConfig::default`. -/
def IpcConfig.default : IpcConfig :=
  ⟨"tcp://127.0.0.1:44445", "tcp://127.0.0.1:44444", "disabled", "weather-dev-default-key", ""⟩

/-- `DbConfig::default`. -/
def DbConfig.default : DbConfig := ⟨"weather.db", "Asia/Shanghai"⟩

/-- `NetworkConfig::default`. -/
def NetworkConfig.default : NetworkConfig := ⟨none, none, none, none, false⟩

/-- `ProviderNetworkConfig::default`. -/
def ProviderNetworkConfig.default : ProviderNetworkConfig := ⟨none, none, none, none, none⟩

/-- `UpdaterConfig::default`. -/
def UpdaterConfig.default : UpdaterConfig :=
  ⟨600, 86400, "nmc", .default, [⟨"nmc", "https://www.nmc.cn", 20, .default⟩]⟩

/-- `AppConfig::default`. -/
def AppConfig.default : AppConfig :=
  ⟨supportedConfigVersion, .default, .default, .default, .default, [⟨"北京-北京市", true⟩]⟩

namespace AppConfig

/-- The configuration with another database timezone. -/
def withTimezone (config : AppConfig) (timezone : String) : AppConfig :=
  { config with db := { config.db with timezone } }

@[simp]
theorem withTimezone_timezone (config : AppConfig) (timezone : String) :
    (config.withTimezone timezone).db.timezone = timezone := rfl

@[simp]
theorem withTimezone_self (config : AppConfig) :
    config.withTimezone config.db.timezone = config := rfl

end AppConfig

/-! ## Online updates -/

/-- `restart_required_fields`. -/
def restartRequiredFields (current new : AppConfig) : List String :=
  (if current.engine ≠ new.engine then ["engine"] else []) ++
  (if current.ipc ≠ new.ipc then ["ipc"] else []) ++
  (if current.db ≠ new.db then ["db"] else []) ++
  (if current.updater.defaultProvider ≠ new.updater.defaultProvider then
    ["updater.default_provider"] else []) ++
  (if current.updater.network ≠ new.updater.network then ["updater.network"] else []) ++
  (if current.updater.provider ≠ new.updater.provider then ["updater.provider"] else [])

/-- An update that requires no restart keeps everything but the stations and the two times to
live. -/
theorem restartRequiredFields_eq_nil {current new : AppConfig}
    (h : restartRequiredFields current new = []) :
    new.engine = current.engine ∧ new.ipc = current.ipc ∧ new.db = current.db ∧
      new.updater.defaultProvider = current.updater.defaultProvider ∧
      new.updater.network = current.updater.network ∧
      new.updater.provider = current.updater.provider := by
  simp only [restartRequiredFields, List.append_eq_nil_iff, ite_eq_right_iff, reduceCtorEq,
    imp_false, not_not] at h
  obtain ⟨⟨⟨⟨⟨hengine, hipc⟩, hdb⟩, hdefault⟩, hnetwork⟩, hprovider⟩ := h
  exact ⟨hengine.symm, hipc.symm, hdb.symm, hdefault.symm, hnetwork.symm, hprovider.symm⟩

end WeatherApp
