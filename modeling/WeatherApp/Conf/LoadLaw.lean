import WeatherApp.Conf.Load

/-!
# Two ways to load the configuration

The clients and the daemon load the configuration as it is; the engine normalizes it and replaces
the file. Both accept the same documents, since the checks read the normalized station names, and
what the engine writes is a document that it loads again without a change.

## Main definitions

* `KeepsFields`: a configuration has the values of a document of the first version.
* `CanRewrite`: the engine can write the file that it wants to write.

## Main results

* `validate_normalize`: normalizing the station names changes no check.
* `runConfigMigrations_eq_ok`: what the migrations do.
* `config_loaders_agree`: both ways to load, and the next startup.
-/

namespace WeatherApp

open Serde

/-! ## Normalized configurations -/

section Normalized

variable [Environment] {Tz : Type} [TzDatabase Tz]

omit [Environment] in
theorem validateStations_map (seen : List String) (stations : List StationConfig) :
    validateStations seen (stations.map fun station =>
      { station with name := normalizeStationName station.name }) =
      validateStations seen stations := by
  induction stations generalizing seen with
  | nil => rfl
  | cons station stations ih =>
    simp only [List.map_cons, validateStations, normalizeStationName_idem, ih]

/-- The checks only read the normalized station names. -/
theorem validate_normalize (config : AppConfig) :
    validate Tz (normalizeConfigStations config).1 = validate Tz config := by
  simp only [validate, normalizeConfigStations, validateStations_map]
  rfl

end Normalized

/-! ## Migrations -/

/-- The value of every field that a document of the first version shares with the supported one,
a configuration has as well. -/
structure KeepsFields (legacy : LegacyAppConfigV1) (config : AppConfig) : Prop where
  engine : config.engine = legacy.engine
  rpcEndpoint : config.ipc.rpcEndpoint = legacy.ipc.rpcEndpoint
  pubEndpoint : config.ipc.pubEndpoint = legacy.ipc.pubEndpoint
  hmac : config.ipc.hmac = legacy.ipc.hmac
  hmacKey : config.ipc.hmacKey = legacy.ipc.hmacKey
  hmacEnvKeyName : config.ipc.hmacEnvKeyName = legacy.ipc.hmacEnvKeyName
  dbPath : config.db.path = legacy.db.path
  dbTimezone : config.db.timezone = legacy.db.timezone
  updater : config.updater = legacy.updater
  stations : config.stations = legacy.stations

theorem withContext_eq_ok {α : Type} {context : String} {x : Except String α} {a : α} :
    withContext context x = .ok a ↔ x = .ok a := by
  cases x with
  | error err => simp [withContext, Except.mapError]
  | ok a => simp [withContext, Except.mapError]

/-- The version of a document that has been written is set to another one. -/
theorem read_setConfigVersion {config : AppConfig} {v v' : Toml} {version : ℕ}
    (hversion : version < 2 ^ 32) (hwrite : AppConfig.codec.write config = .ok v)
    (hset : setConfigVersion v version = .ok v') :
    AppConfig.codec.read v' = .ok { config with configVersion := version } := by
  obtain ⟨entries, hentries, hv⟩ := bind_eq_ok.1 hwrite
  obtain rfl := Except.ok.inj hv
  obtain rfl := Except.ok.inj hset
  have hnumber : u32.write version = .ok (.integer (Int64.ofNat version)) := by
    apply if_pos
    omega
  obtain ⟨hnames, hread⟩ := Fields.read_insertEntry hentries hnumber
  apply bind_eq_ok.2
  exact ⟨_, if_pos hnames, bind_eq_ok.2 ⟨_, hread, rfl⟩⟩

/-- The migration of the first version keeps the fields, and leaves a document of the second. -/
theorem read_run_migrateV1ToV2 {name : String} {value migrated : Toml}
    (h : ConfigMigration.run ⟨2, name, migrateV1ToV2⟩ value = .ok migrated) :
    ∃ legacy config, LegacyAppConfigV1.read value = .ok legacy ∧
      AppConfig.codec.read migrated = .ok config ∧ config.configVersion = 2 ∧
      KeepsFields legacy config := by
  obtain ⟨current, hcurrent, hset⟩ := bind_eq_ok.1 h
  obtain ⟨legacy, hlegacy, hmigrate⟩ := bind_eq_ok.1 (withContext_eq_ok.1 hcurrent)
  split_ifs at hmigrate with htransport
  have hversion : 2 < 2 ^ 32 := by decide
  have hread := read_setConfigVersion hversion (withContext_eq_ok.1 hmigrate)
    (withContext_eq_ok.1 hset)
  exact ⟨legacy, _, withContext_eq_ok.1 hlegacy, hread, rfl,
    ⟨rfl, rfl, rfl, rfl, rfl, rfl, rfl, rfl, rfl, rfl⟩⟩

/-- The migrations take a document of the first version through theirs, and leave one of the
second as it is. -/
theorem runConfigMigrations_eq_ok {value migrated : Toml} {version : ℕ}
    (hversion : readConfigVersion value = .ok version)
    (h : runConfigMigrations value supportedConfigVersion configMigrations = .ok migrated) :
    (version = 2 ∧ migrated = value) ∨
      (version = 1 ∧ ConfigMigration.run ⟨2, "remove legacy runtime fields", migrateV1ToV2⟩ value =
        .ok migrated) := by
  obtain ⟨-, -, h⟩ := bind_eq_ok.1 h
  obtain ⟨source, hsource, h⟩ := bind_eq_ok.1 h
  obtain rfl := Except.ok.inj (hversion.symm.trans hsource)
  split_ifs at h with hold hnew
  obtain rfl | rfl : version = 1 ∨ version = 2 := by
    simp only [firstConfigVersion, supportedConfigVersion] at hold hnew
    omega
  · right
    exact ⟨rfl, by simpa [configMigrations] using h⟩
  · left
    refine ⟨rfl, ?_⟩
    simpa [configMigrations, pure, Except.pure, eq_comm] using h

/-- A document that is read as a configuration states the version of it. -/
theorem readConfigVersion_of_read {entries : List (String × Toml)} {config : AppConfig}
    (h : AppConfig.codec.read (.table entries) = .ok config) :
    readConfigVersion (.table entries) = .ok config.configVersion := by
  obtain ⟨field, hfield, h⟩ := bind_eq_ok.1 h
  obtain ⟨values, hvalues, h⟩ := bind_eq_ok.1 h
  obtain rfl := Except.ok.inj h
  obtain ⟨version, hversion, hrest⟩ := bind_eq_ok.1 hvalues
  obtain ⟨rest, -, hpair⟩ := bind_eq_ok.1 hrest
  obtain rfl := Except.ok.inj hpair
  rw [recordFields_table hfield] at hversion
  obtain ⟨v, hlookup, hread⟩ := Field.required_read hversion
  obtain ⟨raw, rfl, hnonneg, hle, hvalue⟩ := natUpTo_read hread
  have hrange : 0 ≤ raw.toInt ∧ raw.toInt < 2 ^ 32 := by omega
  have hentry : entries.lookup "config_version" = some (.integer raw) := hlookup
  show readConfigVersion (.table entries) = .ok version
  simp only [readConfigVersion, hentry, if_pos hrange, hvalue]

/-- A document of the first version is loaded with the values that it has. -/
theorem keepsFields_of_loadFromValue {value : Toml} {loaded : LoadedConfig}
    (hversion : readConfigVersion value = .ok 1) (h : loadFromValue value = .ok loaded) :
    ∃ legacy, LegacyAppConfigV1.read value = .ok legacy ∧ KeepsFields legacy loaded.config := by
  obtain ⟨source, -, h⟩ := bind_eq_ok.1 h
  obtain ⟨migrated, hmigrated, h⟩ := bind_eq_ok.1 h
  obtain ⟨config, hconfig, h⟩ := bind_eq_ok.1 h
  obtain rfl := Except.ok.inj h
  rcases runConfigMigrations_eq_ok hversion hmigrated with ⟨hsecond, -⟩ | ⟨-, hrun⟩
  · exact absurd hsecond (by decide)
  · obtain ⟨legacy, config', hlegacy, hread, -, hkeeps⟩ := read_run_migrateV1ToV2 hrun
    obtain rfl := Except.ok.inj (hread.symm.trans (withContext_eq_ok.1 hconfig))
    exact ⟨legacy, hlegacy, hkeeps⟩

/-! ## Loading -/

section Loading

variable [TomlFormat] [Environment] {Tz : Type} [TzDatabase Tz]

omit [Environment] in
/-- Of the text of a file only its entries matter. -/
theorem loadContent_eq_of_read (path : String) {text : String} {entries : List (String × Toml)}
    (h : TomlFormat.fromStr text = .ok entries) :
    loadContent path (.ok text) =
      withContext s!"config {path} is incompatible" (loadFromValue (.table entries)) := by
  show withContext _ (loadFromStr text) = _
  rw [loadFromStr, h]
  rfl

omit [Environment] in
/-- What has been written for a configuration of the supported version is loaded without a
migration. -/
theorem loadContent_written {config : AppConfig} {path text : String}
    (hversion : config.configVersion = supportedConfigVersion)
    (h : TomlFormat.toStringPretty config = .ok text) :
    loadContent path (.ok text) = .ok ⟨config, supportedConfigVersion⟩ := by
  obtain ⟨entries, hentries, hread⟩ := TomlFormat.fromStr_toStringPretty h
  have hsource := readConfigVersion_of_read hread
  rw [hversion] at hsource
  have hmigrated : runConfigMigrations (.table entries) supportedConfigVersion configMigrations =
      .ok (.table entries) := by
    apply bind_eq_ok.2
    refine ⟨(), by decide, bind_eq_ok.2 ⟨_, hsource, ?_⟩⟩
    rfl
  apply bind_eq_ok.2
  refine ⟨text, rfl, withContext_eq_ok.2 (bind_eq_ok.2 ⟨entries, ?_, bind_eq_ok.2 ⟨_, hsource, ?_⟩⟩)⟩
  · exact withContext_eq_ok.2 hentries
  · exact bind_eq_ok.2 ⟨_, hmigrated, bind_eq_ok.2 ⟨_, withContext_eq_ok.2 hread, rfl⟩⟩

theorem loadFromPath_eq_ok {path : String} {file : Except String String} {config : AppConfig} :
    loadFromPath Tz path file = .ok config ↔
      ∃ loaded, loadContent path file = .ok loaded ∧ validate Tz loaded.config = .ok ⟨⟩ ∧
        loaded.config = config := by
  constructor
  · intro h
    obtain ⟨loaded, hloaded, h⟩ := bind_eq_ok.1 h
    obtain ⟨_, hvalid, h⟩ := bind_eq_ok.1 h
    exact ⟨loaded, hloaded, hvalid, Except.ok.inj h⟩
  · rintro ⟨loaded, hloaded, hvalid, rfl⟩
    exact bind_eq_ok.2 ⟨loaded, hloaded, bind_eq_ok.2 ⟨_, hvalid, rfl⟩⟩

theorem startupConfig_eq_ok {path : String} {file : Except String String} {config : AppConfig}
    {rewrite : Bool} :
    startupConfig Tz path file = .ok (config, rewrite) ↔
      ∃ loaded, loadContent path file = .ok loaded ∧ validate Tz loaded.config = .ok ⟨⟩ ∧
        (normalizeConfigStations loaded.config).1 = config ∧
        decide (loaded.sourceVersion ≠ supportedConfigVersion ∨
          (normalizeConfigStations loaded.config).2 = true) = rewrite := by
  constructor
  · intro h
    obtain ⟨loaded, hloaded, h⟩ := bind_eq_ok.1 h
    obtain ⟨_, hvalid, h⟩ := bind_eq_ok.1 h
    obtain ⟨rfl, rfl⟩ := Prod.mk.inj (Except.ok.inj h)
    exact ⟨loaded, hloaded, (validate_normalize loaded.config).symm.trans hvalid, rfl, rfl⟩
  · rintro ⟨loaded, hloaded, hvalid, rfl, rfl⟩
    rw [← validate_normalize] at hvalid
    exact bind_eq_ok.2 ⟨loaded, hloaded, bind_eq_ok.2 ⟨_, hvalid, rfl⟩⟩

/-- A startup has written what it wanted to write. -/
theorem loadForEngineStartup_eq_ok {path : String} {file : Except String String}
    {fault : Option String} {config : AppConfig} {written : Option String} :
    loadForEngineStartup Tz path file fault = .ok (config, written) ↔
      (startupConfig Tz path file = .ok (config, false) ∧ written = none) ∨
        ∃ text, startupConfig Tz path file = .ok (config, true) ∧
          writeConfigAtomic fault config = .ok text ∧ written = some text := by
  constructor
  · intro h
    obtain ⟨⟨config', rewrite⟩, hstartup, h⟩ := bind_eq_ok.1 h
    cases rewrite with
    | false =>
      obtain ⟨rfl, rfl⟩ := Prod.mk.inj (Except.ok.inj h)
      exact .inl ⟨hstartup, rfl⟩
    | true =>
      obtain ⟨text, hwrite, h⟩ := bind_eq_ok.1 h
      obtain ⟨rfl, rfl⟩ := Prod.mk.inj (Except.ok.inj h)
      exact .inr ⟨text, hstartup, hwrite, rfl⟩
  · rintro (⟨hstartup, rfl⟩ | ⟨text, hstartup, hwrite, rfl⟩)
    · exact bind_eq_ok.2 ⟨_, hstartup, rfl⟩
    · exact bind_eq_ok.2 ⟨_, hstartup, bind_eq_ok.2 ⟨text, hwrite, rfl⟩⟩

theorem startupConfig_of_loaded {path : String} {file : Except String String}
    {fault : Option String} {config : AppConfig} {written : Option String}
    (h : loadForEngineStartup Tz path file fault = .ok (config, written)) :
    ∃ rewrite, startupConfig Tz path file = .ok (config, rewrite) := by
  rcases loadForEngineStartup_eq_ok.1 h with ⟨hstartup, -⟩ | ⟨_, hstartup, -⟩
  · exact ⟨_, hstartup⟩
  · exact ⟨_, hstartup⟩

omit [Environment] in
theorem writeConfigAtomic_eq_ok {fault : Option String} {config : AppConfig} {text : String}
    (h : writeConfigAtomic fault config = .ok text) :
    TomlFormat.toStringPretty config = .ok text := by
  obtain ⟨content, hcontent, h⟩ := bind_eq_ok.1 h
  cases fault with
  | some err => exact nomatch h
  | none =>
    obtain rfl := Except.ok.inj h
    exact withContext_eq_ok.1 hcontent

/-- If the startup wants to replace the file, it can. -/
def CanRewrite (Tz : Type) [TzDatabase Tz] (path : String) (file : Except String String)
    (fault : Option String) : Prop :=
  ∀ config, startupConfig Tz path file = .ok (config, true) →
    ∃ text, writeConfigAtomic fault config = .ok text

/-- The content of the file after a startup. -/
def contentAfter (file : Except String String) (written : Option String) : Except String String :=
  match written with
  | some text => .ok text
  | none => file

omit [TomlFormat] in
/-- The version of a valid configuration is supported. -/
theorem configVersion_of_validate {config : AppConfig} (h : validate Tz config = .ok ⟨⟩) :
    config.configVersion = supportedConfigVersion := by
  have hengine := (validate_eq_ok_iff.1 h).1
  unfold validateEngine at hengine
  split_ifs at hengine with hversion
  exact not_not.1 hversion

/-- What has been written for a valid configuration with normalized names is loaded as it is. -/
theorem startupConfig_written {config : AppConfig} {path text : String}
    (hvalid : validate Tz config = .ok ⟨⟩) (hnormalized : NormalizedStations config)
    (h : TomlFormat.toStringPretty config = .ok text) :
    startupConfig Tz path (.ok text) = .ok (config, false) := by
  have hloaded : loadContent path (.ok text) = .ok ⟨config, supportedConfigVersion⟩ :=
    loadContent_written (configVersion_of_validate hvalid) h
  refine startupConfig_eq_ok.2 ⟨_, hloaded, hvalid, hnormalized, ?_⟩
  rw [decide_eq_false_iff_not, not_or, not_not, Bool.not_eq_true, normalizeConfigStations_changed]
  exact ⟨rfl, hnormalized⟩

/-- What a startup does not want to rewrite is loaded by the other loader too. -/
theorem loadFromPath_of_startupConfig {config : AppConfig} {path : String}
    {file : Except String String} (h : startupConfig Tz path file = .ok (config, false)) :
    loadFromPath Tz path file = .ok config := by
  obtain ⟨loaded, hloaded, hvalid, rfl, hsame⟩ := startupConfig_eq_ok.1 h
  rw [decide_eq_false_iff_not, not_or, Bool.not_eq_true, normalizeConfigStations_changed] at hsame
  exact loadFromPath_eq_ok.2 ⟨loaded, hloaded, hvalid, hsame.2.symm⟩

/-- A startup leaves a file that the next one loads as it is. -/
theorem startup_again {path : String} {file : Except String String} {fault : Option String}
    {config : AppConfig} {written : Option String}
    (h : loadForEngineStartup Tz path file fault = .ok (config, written)) (fault' : Option String) :
    loadForEngineStartup Tz path (contentAfter file written) fault' = .ok (config, none) := by
  rw [loadForEngineStartup_eq_ok]
  left
  rcases loadForEngineStartup_eq_ok.1 h with ⟨hstartup, rfl⟩ | ⟨text, hstartup, hwrite, rfl⟩
  · exact ⟨hstartup, rfl⟩
  · obtain ⟨loaded, -, hvalid, rfl, -⟩ := startupConfig_eq_ok.1 hstartup
    rw [← validate_normalize] at hvalid
    -- what has been written has normalized names, and stays as it is
    exact ⟨startupConfig_written hvalid (normalizedStations_normalize loaded.config)
      (writeConfigAtomic_eq_ok hwrite), rfl⟩

/-- Both ways to load accept the same documents, if the engine can replace the file, and give the
same configuration up to the station names; a document of the first version keeps its values; and
the startup after one that succeeded loads the same configuration and leaves the file alone. -/
theorem config_loaders_agree (path : String) (file : Except String String) :
    (∀ fault, CanRewrite Tz path file fault →
      ((∃ config, loadFromPath Tz path file = .ok config) ↔
        ∃ config written, loadForEngineStartup Tz path file fault = .ok (config, written))) ∧
    (∀ fault config config' written, loadFromPath Tz path file = .ok config →
      loadForEngineStartup Tz path file fault = .ok (config', written) →
      config' = (normalizeConfigStations config).1) ∧
    (∀ text entries config, file = .ok text → TomlFormat.fromStr text = .ok entries →
      readConfigVersion (.table entries) = .ok 1 → loadFromPath Tz path file = .ok config →
      ∃ legacy, LegacyAppConfigV1.read (.table entries) = .ok legacy ∧
        KeepsFields legacy config) ∧
    (∀ fault config written, loadForEngineStartup Tz path file fault = .ok (config, written) →
      ∀ fault', loadForEngineStartup Tz path (contentAfter file written) fault' =
        .ok (config, none)) := by
  refine ⟨?_, ?_, ?_, fun _ _ _ => startup_again⟩
  · intro fault hcan
    constructor
    · rintro ⟨config, h⟩
      obtain ⟨loaded, hloaded, hvalid, rfl⟩ := loadFromPath_eq_ok.1 h
      have hstartup := startupConfig_eq_ok.2 ⟨loaded, hloaded, hvalid, rfl, rfl⟩
      cases hrewrite : decide (loaded.sourceVersion ≠ supportedConfigVersion ∨
          (normalizeConfigStations loaded.config).2 = true) with
      | false =>
        rw [hrewrite] at hstartup
        exact ⟨_, _, loadForEngineStartup_eq_ok.2 (.inl ⟨hstartup, rfl⟩)⟩
      | true =>
        rw [hrewrite] at hstartup
        obtain ⟨text, hwrite⟩ := hcan _ hstartup
        exact ⟨_, _, loadForEngineStartup_eq_ok.2 (.inr ⟨text, hstartup, hwrite, rfl⟩)⟩
    · rintro ⟨config, written, h⟩
      obtain ⟨rewrite, hstartup⟩ := startupConfig_of_loaded h
      obtain ⟨loaded, hloaded, hvalid, -⟩ := startupConfig_eq_ok.1 hstartup
      exact ⟨loaded.config, loadFromPath_eq_ok.2 ⟨loaded, hloaded, hvalid, rfl⟩⟩
  · intro fault config config' written hload hstartup
    obtain ⟨loaded, hloaded, -, rfl⟩ := loadFromPath_eq_ok.1 hload
    obtain ⟨rewrite, hconfig⟩ := startupConfig_of_loaded hstartup
    obtain ⟨loaded', hloaded', -, rfl, -⟩ := startupConfig_eq_ok.1 hconfig
    obtain rfl := Except.ok.inj (hloaded.symm.trans hloaded')
    rfl
  · rintro text entries config rfl hentries hversion hload
    obtain ⟨loaded, hloaded, -, rfl⟩ := loadFromPath_eq_ok.1 hload
    obtain ⟨_, hcontent, hstr⟩ := bind_eq_ok.1 hloaded
    obtain rfl := Except.ok.inj (withContext_eq_ok.1 hcontent)
    obtain ⟨_, hparsed, hvalue⟩ := bind_eq_ok.1 (withContext_eq_ok.1 hstr)
    obtain rfl := Except.ok.inj (hentries.symm.trans (withContext_eq_ok.1 hparsed))
    exact keepsFields_of_loadFromValue hversion hvalue

end Loading

/-! ## A document of the first version -/

/-- The default configuration as a document of the first version. -/
def sampleV1Text : String := "config_version = 1

[engine]
request_timeout_ms = 3000
startup_timeout_ms = 8000
lock_path = \"engine.lock\"
log_level = \"info\"

[ipc]
transport = \"tcp\"
rpc_endpoint = \"tcp://127.0.0.1:44445\"
pub_endpoint = \"tcp://127.0.0.1:44444\"
hmac = \"disabled\"
hmac_key = \"weather-dev-default-key\"
hmac_env_key_name = \"\"

[db]
path = \"weather.db\"
lock_path = \"weather.db.lock\"
timezone = \"Asia/Shanghai\"

[updater]
weather_ttl_seconds = 600
province_ttl_seconds = 86400
default_provider = \"nmc\"

[updater.network]
allow_insecure = false

[[updater.provider]]
name = \"nmc\"
base_url = \"https://www.nmc.cn\"
request_timeout_seconds = 20

[daemon]
service_backend = \"auto\"
foreground = true
service_scope = \"user\"

[[stations]]
name = \"北京-北京市\"
enabled = true
"

/-- The parsed document. -/
def sampleV1 : List (String × Toml) :=
  [("config_version", .integer 1),
    ("engine", .table [("request_timeout_ms", .integer 3000), ("startup_timeout_ms", .integer 8000),
      ("lock_path", .string "engine.lock"), ("log_level", .string "info")]),
    ("ipc", .table [("transport", .string "tcp"), ("rpc_endpoint", .string "tcp://127.0.0.1:44445"),
      ("pub_endpoint", .string "tcp://127.0.0.1:44444"), ("hmac", .string "disabled"),
      ("hmac_key", .string "weather-dev-default-key"), ("hmac_env_key_name", .string "")]),
    ("db", .table [("path", .string "weather.db"), ("lock_path", .string "weather.db.lock"),
      ("timezone", .string "Asia/Shanghai")]),
    ("updater", .table [("weather_ttl_seconds", .integer 600),
      ("province_ttl_seconds", .integer 86400), ("default_provider", .string "nmc"),
      ("network", .table [("allow_insecure", .boolean false)]),
      ("provider", .array [.table [("name", .string "nmc"),
        ("base_url", .string "https://www.nmc.cn"), ("request_timeout_seconds", .integer 20)]])]),
    ("daemon", .table [("service_backend", .string "auto"), ("foreground", .boolean true),
      ("service_scope", .string "user")]),
    ("stations", .array [.table [("name", .string "北京-北京市"), ("enabled", .boolean true)]])]

/-- The default configuration as a document, `default_config_toml`. -/
def sampleV2Text : String := "config_version = 2

[engine]
request_timeout_ms = 3000
startup_timeout_ms = 8000
lock_path = \"engine.lock\"
log_level = \"info\"

[ipc]
rpc_endpoint = \"tcp://127.0.0.1:44445\"
pub_endpoint = \"tcp://127.0.0.1:44444\"
hmac = \"disabled\"
hmac_key = \"weather-dev-default-key\"
hmac_env_key_name = \"\"

[db]
path = \"weather.db\"
timezone = \"Asia/Shanghai\"

[updater]
weather_ttl_seconds = 600
province_ttl_seconds = 86400
default_provider = \"nmc\"

[updater.network]
allow_insecure = false

[[updater.provider]]
name = \"nmc\"
base_url = \"https://www.nmc.cn\"
request_timeout_seconds = 20

[[stations]]
name = \"北京-北京市\"
enabled = true
"

/-- The entries that are written for the default configuration. -/
theorem exists_write_default :
    ∃ entries, AppConfig.codec.write .default = .ok (.table entries) := ⟨_, rfl⟩

theorem sampleV2Text_ne : sampleV2Text ≠ sampleV1Text := by simp [sampleV2Text, sampleV1Text]

/-- The text of the documents above, to run the model on. -/
@[reducible]
def sampleFormat : TomlFormat where
  fromStr text :=
    if text = sampleV1Text then .ok sampleV1
    else if text = sampleV2Text then
      match AppConfig.codec.write .default with
      | .ok (.table entries) => .ok entries
      | _ => .error "invalid document"
    else .error "invalid document"
  toStringPretty config :=
    if config = .default then .ok sampleV2Text else .error "not a sample"
  fromStr_toStringPretty := by
    intro config text h
    split_ifs at h with hconfig
    obtain rfl := Except.ok.inj h
    obtain ⟨entries, hentries⟩ := exists_write_default
    refine ⟨entries, ?_, ?_⟩
    · simp only [if_neg sampleV2Text_ne, if_true, hentries]
    · rw [hconfig]
      exact AppConfig.codec.read_write hentries

section Sample

attribute [local instance] sampleFormat sampleEnvironment

theorem fromStr_sampleV1 : sampleFormat.fromStr sampleV1Text = .ok sampleV1 := if_pos rfl

/-- The document of the first version is the default configuration. The text is recognized by
rewriting: to compare it with itself character by character takes the kernel long. -/
theorem startupConfig_sampleV1 :
    startupConfig SampleZone "weather.toml" (.ok sampleV1Text) = .ok (.default, true) := by
  rw [startupConfig, loadContent_eq_of_read "weather.toml" fromStr_sampleV1]
  decide +kernel

/-- The first startup migrates the document and the second one leaves it alone. -/
theorem config_loaders_agree_sampleV1 :
    (loadForEngineStartup SampleZone "weather.toml" (.ok sampleV1Text) none).toOption =
        some (.default, some sampleV2Text) ∧
      loadForEngineStartup SampleZone "weather.toml" (.ok sampleV2Text) none =
        .ok (.default, none) := by
  have hstartup : loadForEngineStartup SampleZone "weather.toml" (.ok sampleV1Text) none =
      .ok (.default, some sampleV2Text) := by
    have hwrite : TomlFormat.toStringPretty AppConfig.default = .ok sampleV2Text := if_pos rfl
    exact loadForEngineStartup_eq_ok.2
      (.inr ⟨sampleV2Text, startupConfig_sampleV1, by rw [writeConfigAtomic, hwrite]; rfl, rfl⟩)
  refine ⟨by rw [hstartup]; rfl, ?_⟩
  exact (config_loaders_agree "weather.toml" (.ok sampleV1Text)).2.2.2 none .default
    (some sampleV2Text) hstartup none

end Sample

end WeatherApp
