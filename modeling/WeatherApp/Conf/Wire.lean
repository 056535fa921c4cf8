import WeatherApp.Conf.Types

/-!
# The configuration on the wire

The messages of `weather-schema/weather/schema/v1/weather.proto` for the configuration, and the
conversions of `conf/src/proto_conv.rs`. A section of a message may be absent. Some fields are only
there for older peers: what comes in is ignored and what goes out is always the same.

## Main definitions

* `Wire.AppConfig`: the message.
* `Wire.AppConfig.toConfig`, `AppConfig.toWire`: the conversions.
* `Wire.AppConfig.withLegacy`: the message with other fields for older peers.

## Main results

* `toConfig_toWire`: a configuration with a log level survives the way out and back.
* `toConfig_withLegacy`: the fields for older peers are ignored.
-/

namespace WeatherApp

namespace Wire

/-- `weather_schema::EngineConfig`. -/
structure EngineConfig where
  requestTimeoutMs : ℕ
  startupTimeoutMs : ℕ
  lockPath : String
  logLevel : String
  deriving DecidableEq, Repr

/-- `weather_schema::IpcConfig`. -/
structure IpcConfig where
  transport : String
  rpcEndpoint : String
  pubEndpoint : String
  hmac : String
  hmacKey : String
  hmacEnvKeyName : String
  deriving DecidableEq, Repr

/-- `weather_schema::DbConfig`. -/
structure DbConfig where
  path : String
  lockPath : String
  timezone : String
  deriving DecidableEq, Repr

/-- `weather_schema::NetworkConfig`. -/
structure NetworkConfig where
  httpProxy : Option String
  httpsProxy : Option String
  noProxy : Option String
  allProxy : Option String
  allowInsecure : Bool
  deriving DecidableEq, Repr

/-- `weather_schema::ProviderNetworkConfig`. -/
structure ProviderNetworkConfig where
  httpProxy : Option String
  httpsProxy : Option String
  noProxy : Option String
  allProxy : Option String
  allowInsecure : Option Bool
  deriving DecidableEq, Repr

/-- `weather_schema::ProviderConfig`. -/
structure ProviderConfig where
  name : String
  baseUrl : String
  requestTimeoutSeconds : ℕ
  network : Option ProviderNetworkConfig
  deriving DecidableEq, Repr

/-- `weather_schema::UpdaterConfig`. -/
structure UpdaterConfig where
  weatherTtlSeconds : ℕ
  provinceTtlSeconds : ℕ
  defaultProvider : String
  provider : List ProviderConfig
  network : Option NetworkConfig
  deriving DecidableEq, Repr

/-- `weather_schema::DaemonConfig`. -/
structure DaemonConfig where
  serviceBackend : String
  foreground : Bool
  serviceScope : String
  deriving DecidableEq, Repr

/-- `weather_schema::StationConfig`. -/
structure StationConfig where
  name : String
  enabled : Bool
  deriving DecidableEq, Repr

/-- `weather_schema::AppConfig`. -/
structure AppConfig where
  engine : Option EngineConfig
  ipc : Option IpcConfig
  db : Option DbConfig
  updater : Option UpdaterConfig
  daemon : Option DaemonConfig
  stations : List StationConfig
  configVersion : ℕ
  deriving DecidableEq, Repr

/-- `EngineConfig::default` of the message. -/
def EngineConfig.default : EngineConfig := ⟨0, 0, "", ""⟩

/-- `IpcConfig::default` of the message. -/
def IpcConfig.default : IpcConfig := ⟨"", "", "", "", "", ""⟩

/-- `DbConfig::default` of the message. -/
def DbConfig.default : DbConfig := ⟨"", "", ""⟩

/-- `UpdaterConfig::default` of the message. -/
def UpdaterConfig.default : UpdaterConfig := ⟨0, 0, "", [], none⟩

/-! ## From the wire -/

/-- `From<schema::EngineConfig>`. -/
def EngineConfig.toConfig (value : EngineConfig) : WeatherApp.EngineConfig where
  requestTimeoutMs := value.requestTimeoutMs
  startupTimeoutMs := value.startupTimeoutMs
  lockPath := value.lockPath
  logLevel := if value.logLevel = "" then "info" else value.logLevel

/-- `From<schema::IpcConfig>`. -/
def IpcConfig.toConfig (value : IpcConfig) : WeatherApp.IpcConfig where
  rpcEndpoint := value.rpcEndpoint
  pubEndpoint := value.pubEndpoint
  hmac := value.hmac
  hmacKey := value.hmacKey
  hmacEnvKeyName := value.hmacEnvKeyName

/-- `From<schema::DbConfig>`. -/
def DbConfig.toConfig (value : DbConfig) : WeatherApp.DbConfig where
  path := value.path
  timezone := value.timezone

/-- `From<schema::NetworkConfig>`. -/
def NetworkConfig.toConfig (value : NetworkConfig) : WeatherApp.NetworkConfig where
  httpProxy := value.httpProxy
  httpsProxy := value.httpsProxy
  noProxy := value.noProxy
  allProxy := value.allProxy
  allowInsecure := value.allowInsecure

/-- `From<schema::ProviderNetworkConfig>`. -/
def ProviderNetworkConfig.toConfig (value : ProviderNetworkConfig) :
    WeatherApp.ProviderNetworkConfig where
  httpProxy := value.httpProxy
  httpsProxy := value.httpsProxy
  noProxy := value.noProxy
  allProxy := value.allProxy
  allowInsecure := value.allowInsecure

/-- `From<schema::ProviderConfig>`. -/
def ProviderConfig.toConfig (value : ProviderConfig) : WeatherApp.ProviderConfig where
  name := value.name
  baseUrl := value.baseUrl
  requestTimeoutSeconds := value.requestTimeoutSeconds
  network := (value.network.map (·.toConfig)).getD .default

/-- `From<schema::UpdaterConfig>`. -/
def UpdaterConfig.toConfig (value : UpdaterConfig) : WeatherApp.UpdaterConfig where
  weatherTtlSeconds := value.weatherTtlSeconds
  provinceTtlSeconds := value.provinceTtlSeconds
  defaultProvider := value.defaultProvider
  network := (value.network.map (·.toConfig)).getD .default
  provider := value.provider.map (·.toConfig)

/-- `From<schema::StationConfig>`. -/
def StationConfig.toConfig (value : StationConfig) : WeatherApp.StationConfig where
  name := value.name
  enabled := value.enabled

/-- `From<schema::AppConfig>`. -/
def AppConfig.toConfig (value : AppConfig) : WeatherApp.AppConfig where
  configVersion := value.configVersion
  engine := (value.engine.getD .default).toConfig
  ipc := (value.ipc.getD .default).toConfig
  db := (value.db.getD .default).toConfig
  updater := (value.updater.getD .default).toConfig
  stations := value.stations.map (·.toConfig)

/-- What a message holds for older peers. -/
structure Legacy where
  transport : String
  lockPath : String
  daemon : Option DaemonConfig

/-- The message with other fields for older peers, in the sections that it has. -/
def AppConfig.withLegacy (value : AppConfig) (legacy : Legacy) : AppConfig :=
  { value with
    ipc := value.ipc.map fun ipc => { ipc with transport := legacy.transport }
    db := value.db.map fun db => { db with lockPath := legacy.lockPath }
    daemon := legacy.daemon }

/-- The fields for older peers are ignored. -/
theorem toConfig_withLegacy (value : AppConfig) (legacy : Legacy) :
    (value.withLegacy legacy).toConfig = value.toConfig := by
  obtain ⟨_, ipc, db, _, _, _, _⟩ := value
  rcases ipc with _ | ipc <;> rcases db with _ | db <;> rfl

end Wire

/-! ## To the wire -/

/-- `From<EngineConfig>`. -/
def EngineConfig.toWire (value : EngineConfig) : Wire.EngineConfig where
  requestTimeoutMs := value.requestTimeoutMs
  startupTimeoutMs := value.startupTimeoutMs
  lockPath := value.lockPath
  logLevel := value.logLevel

/-- `From<IpcConfig>`. -/
def IpcConfig.toWire (value : IpcConfig) : Wire.IpcConfig where
  transport := "tcp"
  rpcEndpoint := value.rpcEndpoint
  pubEndpoint := value.pubEndpoint
  hmac := value.hmac
  hmacKey := value.hmacKey
  hmacEnvKeyName := value.hmacEnvKeyName

/-- `From<DbConfig>`. -/
def DbConfig.toWire (value : DbConfig) : Wire.DbConfig where
  path := value.path
  lockPath := value.path ++ ".lock"
  timezone := value.timezone

/-- `From<NetworkConfig>`. -/
def NetworkConfig.toWire (value : NetworkConfig) : Wire.NetworkConfig where
  httpProxy := value.httpProxy
  httpsProxy := value.httpsProxy
  noProxy := value.noProxy
  allProxy := value.allProxy
  allowInsecure := value.allowInsecure

/-- `From<ProviderNetworkConfig>`. -/
def ProviderNetworkConfig.toWire (value : ProviderNetworkConfig) : Wire.ProviderNetworkConfig where
  httpProxy := value.httpProxy
  httpsProxy := value.httpsProxy
  noProxy := value.noProxy
  allProxy := value.allProxy
  allowInsecure := value.allowInsecure

/-- `From<ProviderConfig>`. -/
def ProviderConfig.toWire (value : ProviderConfig) : Wire.ProviderConfig where
  name := value.name
  baseUrl := value.baseUrl
  requestTimeoutSeconds := value.requestTimeoutSeconds
  network := some value.network.toWire

/-- `From<UpdaterConfig>`. -/
def UpdaterConfig.toWire (value : UpdaterConfig) : Wire.UpdaterConfig where
  weatherTtlSeconds := value.weatherTtlSeconds
  provinceTtlSeconds := value.provinceTtlSeconds
  defaultProvider := value.defaultProvider
  network := some value.network.toWire
  provider := value.provider.map (·.toWire)

/-- `From<StationConfig>`. -/
def StationConfig.toWire (value : StationConfig) : Wire.StationConfig where
  name := value.name
  enabled := value.enabled

/-- `From<AppConfig>`. -/
def AppConfig.toWire (value : AppConfig) : Wire.AppConfig where
  configVersion := value.configVersion
  engine := some value.engine.toWire
  ipc := some value.ipc.toWire
  db := some value.db.toWire
  updater := some value.updater.toWire
  daemon := some ⟨"auto", true, "user"⟩
  stations := value.stations.map (·.toWire)

/-! ## Out and back -/

theorem EngineConfig.toConfig_toWire {value : EngineConfig} (h : value.logLevel ≠ "") :
    value.toWire.toConfig = value := by
  show EngineConfig.mk _ _ _ (if value.logLevel = "" then "info" else value.logLevel) = value
  rw [if_neg h]
  rfl

theorem UpdaterConfig.toConfig_toWire (value : UpdaterConfig) : value.toWire.toConfig = value := by
  have hprovider : (value.provider.map (·.toWire)).map (·.toConfig) = value.provider := by
    rw [List.map_map]
    exact List.map_id _
  show UpdaterConfig.mk _ _ _ _ ((value.provider.map (·.toWire)).map (·.toConfig)) = value
  rw [hprovider]
  rfl

/-- Only an empty log level does not survive. -/
theorem AppConfig.toConfig_toWire {value : AppConfig} (h : value.engine.logLevel ≠ "") :
    value.toWire.toConfig = value := by
  have hstations : (value.stations.map (·.toWire)).map (·.toConfig) = value.stations := by
    rw [List.map_map]
    exact List.map_id _
  show AppConfig.mk _ value.engine.toWire.toConfig _ _ value.updater.toWire.toConfig
    ((value.stations.map (·.toWire)).map (·.toConfig)) = value
  rw [hstations, EngineConfig.toConfig_toWire h, UpdaterConfig.toConfig_toWire]
  rfl

end WeatherApp
