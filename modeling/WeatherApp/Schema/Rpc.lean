import WeatherApp.Schema.Text

/-!
# RPC envelopes

`weather-schema/weather/schema/v1/weather.proto` and `weather-schema/src/diagnostics.rs`: requests
and responses of the engine with the fields that the clients and the router read. An enumeration
field of the wire is an `i32`, which need not be one of the values the enumeration names.

## Main definitions

* `RpcRequest`, `RpcResponse`, `EngineError`: the envelopes.
* `RpcKind`, `ResponseStatus`, `RpcErrorCode`: the enumerations and their wire values.
-/

namespace WeatherApp

/-- `RpcErrorCode`. -/
inductive RpcErrorCode where
  | engine
  | badRequest
  | schemaVersion
  | auth
  | ownerMismatch
  | updater
  | database
  | payloadTooLarge
  | busy
  | timeout
  | fuzzy
  | restartRequired
  | config
  | weather
  | resource
  deriving DecidableEq, Repr

/-- `RpcErrorCode::as_str`. -/
def RpcErrorCode.asStr : RpcErrorCode → String
  | engine => "ENGINE"
  | badRequest => "BAD_REQUEST"
  | schemaVersion => "SCHEMA_VERSION"
  | auth => "AUTH"
  | ownerMismatch => "OWNER_MISMATCH"
  | updater => "UPDATER"
  | database => "DB"
  | payloadTooLarge => "PAYLOAD_TOO_LARGE"
  | busy => "BUSY"
  | timeout => "TIMEOUT"
  | fuzzy => "FUZZY"
  | restartRequired => "RESTART_REQUIRED"
  | config => "CONFIG"
  | weather => "WEATHER"
  | resource => "RESOURCE"

/-- `EngineError`. -/
structure EngineError where
  code : String
  message : String
  deriving DecidableEq, Repr

/-- `ResponseStatus`. -/
inductive ResponseStatus where
  | unspecified
  | ok
  | accepted
  | error
  deriving DecidableEq, Repr

/-- The wire value of a status. -/
def ResponseStatus.toWire : ResponseStatus → ℤ
  | unspecified => 0
  | ok => 1
  | accepted => 2
  | error => 3

/-- `RpcKind`. -/
inductive RpcKind where
  | unspecified
  | ping
  | getEngineStatus
  | getWeather
  | listProvinces
  | listCities
  | fuzzyMatchStations
  | listConfiguredStations
  | batchListRegions
  | resolveStationUuid
  | migrateDbTimezone
  | getConfig
  | updateConfig
  | getResource
  | getTemperatureHistory
  | triggerRefresh
  | restartEngine
  | shutdown
  deriving DecidableEq, Repr

/-- `RpcKind::try_from`. -/
def RpcKind.fromWire : ℤ → Option RpcKind
  | 0 => some unspecified
  | 1 => some ping
  | 2 => some getEngineStatus
  | 10 => some getWeather
  | 11 => some listProvinces
  | 12 => some listCities
  | 13 => some fuzzyMatchStations
  | 14 => some listConfiguredStations
  | 15 => some batchListRegions
  | 16 => some resolveStationUuid
  | 17 => some migrateDbTimezone
  | 18 => some getConfig
  | 19 => some updateConfig
  | 20 => some getResource
  | 21 => some getTemperatureHistory
  | 30 => some triggerRefresh
  | 40 => some restartEngine
  | 41 => some shutdown
  | _ => none

/-- `RpcRequest`. -/
structure RpcRequest where
  schemaVersion : String
  requestId : String
  kind : ℤ
  payload : List UInt8
  deriving DecidableEq, Repr

/-- `RpcResponse`. -/
structure RpcResponse where
  requestId : String
  status : ℤ
  payload : List UInt8
  error : Option EngineError
  deriving DecidableEq, Repr

end WeatherApp
