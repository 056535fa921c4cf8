import WeatherApp.Conf.Types
import WeatherApp.Schema.Time

/-!
# Valid configurations

`validate` of `conf/src/load.rs` and `normalize_config_stations` of `conf/src/normalize.rs`. The
environment variables of the process and the URL parser of the `url` crate are parameters.

## Main results

* `validate_withTimezone`: a valid configuration stays valid under another known timezone.
* `normalizedStations_normalize`: normalizing the station names is idempotent.
-/

namespace WeatherApp

/-- A parsed URL, as far as the validation reads it. -/
structure ParsedUrl where
  scheme : String
  hostStr : Option String

/-- What the validation reads from its surroundings. -/
class Environment where
  /-- `std::env::var`. -/
  var : String → Option String
  /-- `url::Url::parse`. -/
  parseUrl : String → Option ParsedUrl

/-- A process without environment variables, and a parser for URLs that consist of a scheme and
a host, to run the model on. -/
@[reducible]
def sampleEnvironment : Environment where
  var _ := none
  parseUrl value :=
    match splitOnChar value ':' with
    | scheme :: host :: _ =>
      if scheme ≠ "" ∧ startsWith host "//" then
        some ⟨scheme, some (String.ofList (host.toList.drop 2))⟩
      else none
    | _ => none

/-! ## Station names -/

/-- `normalize_config_stations`: the configuration with normalized station names, and whether
one of them changed. -/
def normalizeConfigStations (config : AppConfig) : AppConfig × Bool :=
  ({ config with
      stations := config.stations.map fun station =>
        { station with name := normalizeStationName station.name } },
    config.stations.any fun station => normalizeStationName station.name ≠ station.name)

/-- `hmac_key_from_str`: the UTF-8 bytes, padded with zeros to 32. -/
def hmacKeyFromStr (key : String) : Except String (List UInt8) :=
  let bytes := asBytes key
  if bytes.length > 32 then .error "ipc.hmac_key must be at most 32 bytes"
  else .ok (bytes ++ List.replicate (32 - bytes.length) 0)

section Checks

variable [Environment]

/-- `validate_network_proxy_urls`, for one of the three fields. -/
def validateProxyUrl (scope field : String) (value : Option String) : Except String Unit :=
  match (value.map trim).filter (· ≠ "") with
  | none => .ok ⟨⟩
  | some value =>
    match Environment.parseUrl value with
    | none => .error s!"{scope}.{field} is not a valid proxy URL"
    | some parsed =>
      if parsed.scheme ∉ ["http", "https", "socks4", "socks4a", "socks5", "socks5h"] ∨
          parsed.hostStr = none then
        .error s!"{scope}.{field} must use http, https, socks4, socks4a, socks5, or socks5h and include a host"
      else .ok ⟨⟩

/-- `validate_network_proxy_urls`. -/
def validateNetworkProxyUrls (scope : String) (httpProxy httpsProxy allProxy : Option String) :
    Except String Unit := do
  validateProxyUrl scope "http_proxy" httpProxy
  validateProxyUrl scope "https_proxy" httpsProxy
  validateProxyUrl scope "all_proxy" allProxy

/-- The checks of `validate` on the version and the log level. -/
def validateEngine (config : AppConfig) : Except String Unit :=
  if config.configVersion ≠ supportedConfigVersion then
    .error s!"config_version {config.configVersion} is incompatible; engine supports {supportedConfigVersion}"
  else if config.engine.logLevel ∉ ["off", "error", "warn", "info", "debug", "trace"] then
    .error s!"engine.log_level `{config.engine.logLevel}` is invalid; expected off / error / warn / info / debug / trace"
  else .ok ⟨⟩

/-- The checks of `validate` on the endpoints and the signing key. -/
def validateIpc (ipc : IpcConfig) : Except String Unit :=
  if !startsWith ipc.rpcEndpoint "tcp://" then .error "ipc.rpc_endpoint must be a tcp:// endpoint"
  else if !startsWith ipc.pubEndpoint "tcp://" then
    .error "ipc.pub_endpoint must be a tcp:// endpoint"
  else if ipc.rpcEndpoint = ipc.pubEndpoint then
    .error "ipc.rpc_endpoint and ipc.pub_endpoint must differ"
  else if ipc.hmac = "disabled" then .ok ⟨⟩
  else if ipc.hmac = "hmac_key" then
    if ipc.hmacKey = "" then
      .error "ipc.hmac = \"hmac_key\" requires non-empty ipc.hmac_key"
    else (hmacKeyFromStr ipc.hmacKey).map fun _ => ⟨⟩
  else if ipc.hmac = "hmac_env_key" then
    if ipc.hmacEnvKeyName = "" then
      .error "ipc.hmac = \"hmac_env_key\" requires non-empty ipc.hmac_env_key_name"
    else if Environment.var ipc.hmacEnvKeyName = none then
      .error s!"ipc.hmac_env_key_name `{ipc.hmacEnvKeyName}` is not set in environment"
    else .ok ⟨⟩
  else .error s!"ipc.hmac `{ipc.hmac}` is invalid; expected disabled / hmac_key / hmac_env_key"

/-- The checks of `validate` on the database. -/
def validateDb (Tz : Type) [TzDatabase Tz] (db : DbConfig) : Except String Unit :=
  if isBlank db.path then .error "db.path must not be empty"
  else if (TzDatabase.fromStr db.timezone : Option Tz) = none then
    .error s!"db.timezone `{db.timezone}` is not a valid IANA timezone (e.g. Asia/Shanghai)"
  else .ok ⟨⟩

/-- The checks of `validate` on the providers. -/
def validateUpdater (updater : UpdaterConfig) : Except String Unit :=
  if updater.provider = [] then .error "updater.provider must contain at least one provider"
  else if !updater.provider.any fun provider => provider.name = updater.defaultProvider then
    .error "updater.default_provider must match a configured provider"
  else do
    validateNetworkProxyUrls "updater.network" updater.network.httpProxy
      updater.network.httpsProxy updater.network.allProxy
    updater.provider.forM fun provider =>
      validateNetworkProxyUrls s!"updater provider `{provider.name}` network"
        provider.network.httpProxy provider.network.httpsProxy provider.network.allProxy

/-- The loop of `validate` over the stations, with the names seen so far. -/
def validateStations (seen : List String) : List StationConfig → Except String Unit
  | [] => .ok ⟨⟩
  | station :: stations =>
    let normalized := normalizeStationName station.name
    if normalized = "" then .error "station.name must not be empty"
    else if normalized ∈ seen then
      .error s!"duplicate station.name `{normalized}` after normalization"
    else validateStations (normalized :: seen) stations

/-- `validate`. -/
def validate (Tz : Type) [TzDatabase Tz] (config : AppConfig) : Except String Unit := do
  validateEngine config
  validateIpc config.ipc
  validateDb Tz config.db
  validateUpdater config.updater
  validateStations [] config.stations

/-! ## Valid configurations -/

/-- A configuration is valid when it passes the five groups of checks. -/
theorem validate_eq_ok_iff {Tz : Type} [TzDatabase Tz] {config : AppConfig} :
    validate Tz config = .ok ⟨⟩ ↔
      validateEngine config = .ok ⟨⟩ ∧ validateIpc config.ipc = .ok ⟨⟩ ∧
        validateDb Tz config.db = .ok ⟨⟩ ∧ validateUpdater config.updater = .ok ⟨⟩ ∧
        validateStations [] config.stations = .ok ⟨⟩ := by
  have hbind : ∀ {x y : Except String Unit},
      (x >>= fun _ => y) = .ok ⟨⟩ ↔ x = .ok ⟨⟩ ∧ y = .ok ⟨⟩ := by
    intro x y
    cases x <;> simp [bind, Except.bind]
  rw [validate, hbind, hbind, hbind, hbind]

/-- The timezone of a valid configuration is known. -/
theorem fromStr_of_validate {Tz : Type} [TzDatabase Tz] {config : AppConfig}
    (h : validate Tz config = .ok ⟨⟩) :
    ∃ tz : Tz, TzDatabase.fromStr config.db.timezone = some tz := by
  have hdb := (validate_eq_ok_iff.1 h).2.2.1
  unfold validateDb at hdb
  split_ifs at hdb with hblank hknown
  exact Option.ne_none_iff_exists'.1 hknown

/-- A valid configuration stays valid under another known timezone. -/
theorem validate_withTimezone {Tz : Type} [TzDatabase Tz] {config : AppConfig}
    (h : validate Tz config = .ok ⟨⟩) {timezone : String} {tz : Tz}
    (hknown : TzDatabase.fromStr timezone = some tz) :
    validate Tz (config.withTimezone timezone) = .ok ⟨⟩ := by
  rw [validate_eq_ok_iff] at h ⊢
  obtain ⟨hengine, hipc, hdb, hupdater, hstations⟩ := h
  refine ⟨hengine, hipc, ?_, hupdater, hstations⟩
  unfold validateDb at hdb ⊢
  split_ifs at hdb with hblank
  rw [AppConfig.withTimezone, if_neg hblank, if_neg (by simp [hknown])]

end Checks

/-! ## Normalized configurations -/

/-- The station names are normalized. -/
def NormalizedStations (config : AppConfig) : Prop := (normalizeConfigStations config).1 = config

/-- The flag reports exactly whether the normalization changes the configuration. -/
theorem normalizeConfigStations_changed {config : AppConfig} :
    (normalizeConfigStations config).2 = false ↔ NormalizedStations config := by
  have hstations : (config.stations.map fun station =>
      { station with name := normalizeStationName station.name }) = config.stations ↔
      ∀ station ∈ config.stations, normalizeStationName station.name = station.name := by
    conv_lhs => rhs; rw [← List.map_id' config.stations]
    rw [List.map_inj_left]
    refine forall₂_congr fun station _ => ?_
    cases station
    simp
  rw [normalizeConfigStations, NormalizedStations, normalizeConfigStations]
  cases config
  simp only [AppConfig.mk.injEq, true_and, List.any_eq_false, decide_eq_true_eq, not_not]
  exact hstations.symm

/-- Normalizing is idempotent. -/
theorem normalizedStations_normalize (config : AppConfig) :
    NormalizedStations (normalizeConfigStations config).1 := by
  simp [NormalizedStations, normalizeConfigStations, Function.comp_def]

/-- The timezone is none of the names that are normalized. -/
theorem NormalizedStations.withTimezone {config : AppConfig} (h : NormalizedStations config)
    (timezone : String) : NormalizedStations (config.withTimezone timezone) := by
  rw [← normalizeConfigStations_changed] at h ⊢
  exact h

end WeatherApp
