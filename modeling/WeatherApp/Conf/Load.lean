import WeatherApp.Conf.Validate
import WeatherApp.Foundation.Serde

/-!
# Loading the configuration

`conf/src/load.rs` with the serialization that `conf/src/types.rs` derives and the atomic writes of
`conf/src/persist.rs`: a document is parsed, migrated to the supported version, read into the
configuration and checked. The engine also normalizes the station names at its startup, and
replaces the file where it has migrated or normalized it. The text of documents is a parameter; an
error is the text that its chain of contexts prints.

## Main definitions

* `AppConfig.codec` and the like: the derived readers and writers.
* `LegacyAppConfigV1.read`, `migrateV1ToV2`: documents of the first version.
* `loadFromPath`, `loadForEngineStartup`: the two ways to load a file.
-/

namespace WeatherApp

open Serde

/-! ## Derived codecs -/

/-- The derived codec of `StationConfig`. -/
def StationConfig.codec : Codec StationConfig :=
  Fields.codec
    (.cons (.required "name" string) (.cons (.required "enabled" bool) .nil
      (by decide)) (by decide))
    (fun c => (c.name, c.enabled, ())) (fun (name, enabled, _) => ⟨name, enabled⟩) fun _ => rfl

/-- The derived codec of `EngineConfig`. -/
def EngineConfig.codec : Codec EngineConfig :=
  Fields.codec
    (.cons (.required "request_timeout_ms" u64) (.cons (.required "startup_timeout_ms" u64)
      (.cons (.required "lock_path" string) (.cons (.defaulted "log_level" string "info") .nil
        (by decide)) (by decide)) (by decide)) (by decide))
    (fun c => (c.requestTimeoutMs, c.startupTimeoutMs, c.lockPath, c.logLevel, ()))
    (fun (request, startup, lock, level, _) => ⟨request, startup, lock, level⟩) fun _ => rfl

/-- The derived codec of `IpcConfig`. -/
def IpcConfig.codec : Codec IpcConfig :=
  Fields.codec
    (.cons (.required "rpc_endpoint" string) (.cons (.required "pub_endpoint" string)
      (.cons (.required "hmac" string) (.cons (.required "hmac_key" string)
        (.cons (.required "hmac_env_key_name" string) .nil
          (by decide)) (by decide)) (by decide)) (by decide)) (by decide))
    (fun c => (c.rpcEndpoint, c.pubEndpoint, c.hmac, c.hmacKey, c.hmacEnvKeyName, ()))
    (fun (rpc, pub, hmac, key, env, _) => ⟨rpc, pub, hmac, key, env⟩) fun _ => rfl

/-- The derived codec of `DbConfig`. -/
def DbConfig.codec : Codec DbConfig :=
  Fields.codec
    (.cons (.required "path" string) (.cons (.required "timezone" string) .nil
      (by decide)) (by decide))
    (fun c => (c.path, c.timezone, ())) (fun (path, timezone, _) => ⟨path, timezone⟩) fun _ => rfl

/-- The derived codec of `NetworkConfig`. -/
def NetworkConfig.codec : Codec NetworkConfig :=
  Fields.codec
    (.cons (.optional "http_proxy" string) (.cons (.optional "https_proxy" string)
      (.cons (.optional "no_proxy" string) (.cons (.optional "all_proxy" string)
        (.cons (.defaulted "allow_insecure" bool false) .nil
          (by decide)) (by decide)) (by decide)) (by decide)) (by decide))
    (fun c => (c.httpProxy, c.httpsProxy, c.noProxy, c.allProxy, c.allowInsecure, ()))
    (fun (http, https, no, all, insecure, _) => ⟨http, https, no, all, insecure⟩) fun _ => rfl

/-- The derived codec of `ProviderNetworkConfig`. -/
def ProviderNetworkConfig.codec : Codec ProviderNetworkConfig :=
  Fields.codec
    (.cons (.optional "http_proxy" string) (.cons (.optional "https_proxy" string)
      (.cons (.optional "no_proxy" string) (.cons (.optional "all_proxy" string)
        (.cons (.optional "allow_insecure" bool) .nil
          (by decide)) (by decide)) (by decide)) (by decide)) (by decide))
    (fun c => (c.httpProxy, c.httpsProxy, c.noProxy, c.allProxy, c.allowInsecure, ()))
    (fun (http, https, no, all, insecure, _) => ⟨http, https, no, all, insecure⟩) fun _ => rfl

/-- The derived codec of `ProviderConfig`. The network is left out when `is_empty`, that is when
it is the default. -/
def ProviderConfig.codec : Codec ProviderConfig :=
  Fields.codec
    (.cons (.required "name" string) (.cons (.required "base_url" string)
      (.cons (.required "request_timeout_seconds" u64)
        (.cons (.skipped "network" ProviderNetworkConfig.codec .default) .nil
          (by decide)) (by decide)) (by decide)) (by decide))
    (fun c => (c.name, c.baseUrl, c.requestTimeoutSeconds, c.network, ()))
    (fun (name, url, timeout, network, _) => ⟨name, url, timeout, network⟩) fun _ => rfl

/-- The derived codec of `UpdaterConfig`. -/
def UpdaterConfig.codec : Codec UpdaterConfig :=
  Fields.codec
    (.cons (.required "weather_ttl_seconds" u64) (.cons (.required "province_ttl_seconds" u64)
      (.cons (.required "default_provider" string)
        (.cons (.defaulted "network" NetworkConfig.codec .default)
          (.cons (.required "provider" ProviderConfig.codec.list) .nil
            (by decide)) (by decide)) (by decide)) (by decide)) (by decide))
    (fun c => (c.weatherTtlSeconds, c.provinceTtlSeconds, c.defaultProvider, c.network,
      c.provider, ()))
    (fun (weather, province, name, network, provider, _) =>
      ⟨weather, province, name, network, provider⟩) fun _ => rfl

/-- The fields of `AppConfig`. -/
def AppConfig.fields :
    Fields (ℕ × EngineConfig × IpcConfig × DbConfig × UpdaterConfig × List StationConfig × Unit) :=
  .cons (.required "config_version" u32) (.cons (.required "engine" EngineConfig.codec)
    (.cons (.required "ipc" IpcConfig.codec) (.cons (.required "db" DbConfig.codec)
      (.cons (.required "updater" UpdaterConfig.codec)
        (.cons (.required "stations" StationConfig.codec.list) .nil
          (by decide)) (by decide)) (by decide)) (by decide)) (by decide)) (by decide)

/-- The derived codec of `AppConfig`. -/
def AppConfig.codec : Codec AppConfig :=
  AppConfig.fields.codec
    (fun c => (c.configVersion, c.engine, c.ipc, c.db, c.updater, c.stations, ()))
    (fun (version, engine, ipc, db, updater, stations, _) =>
      ⟨version, engine, ipc, db, updater, stations⟩) fun _ => rfl

/-! ## Documents of the first version -/

/-- `LegacyIpcConfigV1`. -/
structure LegacyIpcConfigV1 where
  transport : String
  rpcEndpoint : String
  pubEndpoint : String
  hmac : String
  hmacKey : String
  hmacEnvKeyName : String

/-- `LegacyDbConfigV1`. -/
structure LegacyDbConfigV1 where
  path : String
  lockPath : String
  timezone : String

/-- `LegacyDaemonConfigV1`. -/
structure LegacyDaemonConfigV1 where
  serviceBackend : String
  foreground : Bool
  serviceScope : String

/-- `LegacyAppConfigV1`. -/
structure LegacyAppConfigV1 where
  configVersion : ℕ
  engine : EngineConfig
  ipc : LegacyIpcConfigV1
  db : LegacyDbConfigV1
  updater : UpdaterConfig
  daemon : LegacyDaemonConfigV1
  stations : List StationConfig

/-- The value of a required field. -/
def readRequired {α : Type} (field : String → Option Toml) (name : String)
    (read : Toml → Except String α) : Except String α :=
  match field name with
  | some v => read v
  | none => .error s!"missing field {name}"

/-- The derived reader of `LegacyIpcConfigV1`. -/
def LegacyIpcConfigV1.read (v : Toml) : Except String LegacyIpcConfigV1 := do
  let field ← recordFields
    ["transport", "rpc_endpoint", "pub_endpoint", "hmac", "hmac_key", "hmac_env_key_name"] v
  let transport ← readRequired field "transport" string.read
  let rpcEndpoint ← readRequired field "rpc_endpoint" string.read
  let pubEndpoint ← readRequired field "pub_endpoint" string.read
  let hmac ← readRequired field "hmac" string.read
  let hmacKey ← readRequired field "hmac_key" string.read
  let hmacEnvKeyName ← readRequired field "hmac_env_key_name" string.read
  return { transport, rpcEndpoint, pubEndpoint, hmac, hmacKey, hmacEnvKeyName }

/-- The derived reader of `LegacyDbConfigV1`. -/
def LegacyDbConfigV1.read (v : Toml) : Except String LegacyDbConfigV1 := do
  let field ← recordFields ["path", "lock_path", "timezone"] v
  let path ← readRequired field "path" string.read
  let lockPath ← readRequired field "lock_path" string.read
  let timezone ← readRequired field "timezone" string.read
  return { path, lockPath, timezone }

/-- The derived reader of `LegacyDaemonConfigV1`. -/
def LegacyDaemonConfigV1.read (v : Toml) : Except String LegacyDaemonConfigV1 := do
  let field ← recordFields ["service_backend", "foreground", "service_scope"] v
  let serviceBackend ← readRequired field "service_backend" string.read
  let foreground ← readRequired field "foreground" bool.read
  let serviceScope ← readRequired field "service_scope" string.read
  return { serviceBackend, foreground, serviceScope }

/-- The derived reader of `LegacyAppConfigV1`. -/
def LegacyAppConfigV1.read (v : Toml) : Except String LegacyAppConfigV1 := do
  let field ← recordFields
    ["config_version", "engine", "ipc", "db", "updater", "daemon", "stations"] v
  let configVersion ← readRequired field "config_version" u32.read
  let engine ← readRequired field "engine" EngineConfig.codec.read
  let ipc ← readRequired field "ipc" LegacyIpcConfigV1.read
  let db ← readRequired field "db" LegacyDbConfigV1.read
  let updater ← readRequired field "updater" UpdaterConfig.codec.read
  let daemon ← readRequired field "daemon" LegacyDaemonConfigV1.read
  let stations ← readRequired field "stations" StationConfig.codec.list.read
  return { configVersion, engine, ipc, db, updater, daemon, stations }

/-! ## Migrations -/

/-- `anyhow::Context::context`. -/
def withContext {α : Type} (context : String) (x : Except String α) : Except String α :=
  x.mapError fun err => s!"{context}: {err}"

/-- `FIRST_CONFIG_VERSION`. -/
def firstConfigVersion : ℕ := 1

/-- `ConfigMigration`. -/
structure ConfigMigration where
  /-- Version produced by this migration. -/
  version : ℕ
  name : String
  apply : Toml → Except String Toml

/-- `config_version`. -/
def readConfigVersion : Toml → Except String ℕ
  | .table entries =>
    match entries.lookup "config_version" with
    | none => .error "missing required config_version"
    | some (.integer raw) =>
      if 0 ≤ raw.toInt ∧ raw.toInt < 2 ^ 32 then .ok raw.toInt.toNat
      else .error "config_version must fit in u32: out of range integral type conversion attempted"
    | some _ => .error "config_version must be a non-negative integer"
  | _ => .error "config root must be a TOML table"

/-- `set_config_version`. -/
def setConfigVersion (value : Toml) (version : ℕ) : Except String Toml :=
  match value with
  | .table entries =>
    .ok (.table (insertEntry entries "config_version" (.integer (Int64.ofNat version))))
  | _ => .error "config root must remain a TOML table"

/-- `migrate_v1_to_v2`. -/
def migrateV1ToV2 (value : Toml) : Except String Toml := do
  let legacy ← withContext "invalid v1 config shape" (LegacyAppConfigV1.read value)
  if legacy.ipc.transport ≠ "tcp" then
    .error "only legacy ipc.transport = \"tcp\" can be migrated"
  else
    let current : AppConfig :=
      { configVersion := legacy.configVersion
        engine := legacy.engine
        ipc :=
          { rpcEndpoint := legacy.ipc.rpcEndpoint
            pubEndpoint := legacy.ipc.pubEndpoint
            hmac := legacy.ipc.hmac
            hmacKey := legacy.ipc.hmacKey
            hmacEnvKeyName := legacy.ipc.hmacEnvKeyName }
        db := { path := legacy.db.path, timezone := legacy.db.timezone }
        updater := legacy.updater
        stations := legacy.stations }
    withContext "failed to construct v2 config" (AppConfig.codec.write current)

/-- `CONFIG_MIGRATIONS`. -/
def configMigrations : List ConfigMigration :=
  [⟨2, "remove legacy runtime fields", migrateV1ToV2⟩]

/-- The loop of `validate_migration_registry`, from the migration to a version on. -/
def validateMigrationVersions : ℕ → List ConfigMigration → Except String Unit
  | _, [] => .ok ()
  | expected, migration :: migrations =>
    if migration.version ≠ expected then
      .error s!"config migration registry gap: expected target v{expected}, found v{migration.version} ({migration.name})"
    else validateMigrationVersions (expected + 1) migrations

/-- `validate_migration_registry`. -/
def validateMigrationRegistry (targetVersion : ℕ) (migrations : List ConfigMigration) :
    Except String Unit :=
  if targetVersion < firstConfigVersion then
    .error s!"invalid target config version {targetVersion}"
  else if migrations.length ≠ targetVersion - firstConfigVersion then
    .error s!"config migration registry must contain {targetVersion - firstConfigVersion} steps through v{targetVersion}, found {migrations.length}"
  else validateMigrationVersions (firstConfigVersion + 1) migrations

/-- The step of `run_config_migrations` for one migration. -/
def ConfigMigration.run (migration : ConfigMigration) (value : Toml) : Except String Toml := do
  let value ← withContext
    s!"config migration to v{migration.version} ({migration.name}) failed" (migration.apply value)
  withContext
    s!"config migration to v{migration.version} ({migration.name}) produced an invalid document"
    (setConfigVersion value migration.version)

/-- `run_config_migrations`. -/
def runConfigMigrations (value : Toml) (targetVersion : ℕ) (migrations : List ConfigMigration) :
    Except String Toml := do
  validateMigrationRegistry targetVersion migrations
  let sourceVersion ← readConfigVersion value
  if sourceVersion < firstConfigVersion then
    .error s!"config_version {sourceVersion} predates the earliest supported version {firstConfigVersion}"
  else if sourceVersion > targetVersion then
    .error s!"config_version {sourceVersion} is newer than supported version {targetVersion}"
  else
    (migrations.filter (·.version > sourceVersion)).foldlM (fun value migration =>
      migration.run value) value

/-! ## Files -/

/-- The text of documents: `toml::from_str`, whose root is a table, and `toml::to_string_pretty`.
A configuration that has been written is read back. -/
class TomlFormat where
  fromStr : String → Except String (List (String × Toml))
  toStringPretty : AppConfig → Except String String
  fromStr_toStringPretty : ∀ {config text}, toStringPretty config = .ok text →
    ∃ entries, fromStr text = .ok entries ∧ AppConfig.codec.read (.table entries) = .ok config

/-- `LoadedConfig`. -/
structure LoadedConfig where
  config : AppConfig
  sourceVersion : ℕ
  deriving DecidableEq, Repr

section Files

variable [TomlFormat]

/-- `load_from_str`, from the parsed document on. -/
def loadFromValue (value : Toml) : Except String LoadedConfig := do
  let sourceVersion ← readConfigVersion value
  let migrated ← runConfigMigrations value supportedConfigVersion configMigrations
  let config ← withContext "failed to deserialize current config shape"
    (AppConfig.codec.read migrated)
  return { config, sourceVersion }

/-- `load_from_str`. -/
def loadFromStr (content : String) : Except String LoadedConfig := do
  let entries ← withContext "failed to parse TOML config" (TomlFormat.fromStr content)
  loadFromValue (.table entries)

/-- The first steps of both loaders, on the outcome of reading the file. -/
def loadContent (path : String) (file : Except String String) : Except String LoadedConfig := do
  let content ← withContext s!"failed to read config {path}" file
  withContext s!"config {path} is incompatible" (loadFromStr content)

/-- `write_config_atomic`: the new content of the file, unless an operation on the file system
fails. -/
def writeConfigAtomic (fault : Option String) (config : AppConfig) : Except String String := do
  let content ← withContext "failed to serialize config for persistence"
    (TomlFormat.toStringPretty config)
  match fault with
  | some err => .error err
  | none => .ok content

variable [Environment] (Tz : Type) [TzDatabase Tz]

/-- `load_from_path`. -/
def loadFromPath (path : String) (file : Except String String) : Except String AppConfig := do
  let loaded ← loadContent path file
  validate Tz loaded.config
  return loaded.config

/-- `load_for_engine_startup` up to its write, and whether it has one to make. -/
def startupConfig (path : String) (file : Except String String) :
    Except String (AppConfig × Bool) := do
  let loaded ← loadContent path file
  let (config, normalized) := normalizeConfigStations loaded.config
  validate Tz config
  return (config, loaded.sourceVersion ≠ supportedConfigVersion ∨ normalized)

/-- `load_for_engine_startup`: the configuration, and the new content of the file if it is
rewritten. -/
def loadForEngineStartup (path : String) (file : Except String String) (fault : Option String) :
    Except String (AppConfig × Option String) := do
  let (config, rewrite) ← startupConfig Tz path file
  if rewrite then
    let content ← writeConfigAtomic fault config
    return (config, some content)
  else return (config, none)

end Files

end WeatherApp
