import WeatherApp.Conf.LoadLaw
import WeatherApp.Engine.Config

/-!
# What an update may change

Of an engine's live configuration, requests change the stations and the two times to live, and
nothing else. What a client reads and sends back as it is changes nothing.

## Main definitions

* `SameButHot`: two configurations that differ in no other field.
* `LiveInv`: the invariant of the live configuration.

## Main results

* `commitConfig_cases`: how a commit ends.
* `hot_update_frame`: what updates make of a startup configuration.
* `update_with_current_config`: an update with what was read is none.
-/

namespace WeatherApp

open Serde

/-! ## Fields that change online -/

/-- The configuration with other stations and times to live. -/
def AppConfig.withHot (config : AppConfig) (stations : List StationConfig)
    (weatherTtlSeconds provinceTtlSeconds : ℕ) : AppConfig :=
  { config with
    stations
    updater := { config.updater with weatherTtlSeconds, provinceTtlSeconds } }

/-- The second configuration differs from the first in no other field than the stations and the
times to live. -/
def SameButHot (config other : AppConfig) : Prop :=
  other = config.withHot other.stations other.updater.weatherTtlSeconds
    other.updater.provinceTtlSeconds

theorem sameButHot_iff {config other : AppConfig} :
    SameButHot config other ↔
      other.configVersion = config.configVersion ∧ other.engine = config.engine ∧
        other.ipc = config.ipc ∧ other.db = config.db ∧
        other.updater.defaultProvider = config.updater.defaultProvider ∧
        other.updater.network = config.updater.network ∧
        other.updater.provider = config.updater.provider := by
  obtain ⟨_, _, _, _, ⟨_, _, _, _, _⟩, _⟩ := config
  obtain ⟨_, _, _, _, ⟨_, _, _, _, _⟩, _⟩ := other
  simp only [SameButHot, AppConfig.withHot, AppConfig.mk.injEq, UpdaterConfig.mk.injEq, true_and,
    and_true]

theorem SameButHot.refl (config : AppConfig) : SameButHot config config := rfl

theorem SameButHot.trans {first second third : AppConfig} (h : SameButHot first second)
    (h' : SameButHot second third) : SameButHot first third := by
  unfold SameButHot at h h' ⊢
  rw [h', h]
  rfl

/-- The normalization of the station names changes no other field. -/
theorem sameButHot_normalize {config other : AppConfig} :
    SameButHot config (normalizeConfigStations other).1 ↔ SameButHot config other := by
  rw [sameButHot_iff, sameButHot_iff]
  rfl

/-- The comparison field by field leaves no field out but the version, which is always the
supported one. -/
theorem restartRequiredFields_eq_nil_iff {current new : AppConfig}
    (hversion : new.configVersion = current.configVersion) :
    restartRequiredFields current new = [] ↔ SameButHot current new := by
  rw [sameButHot_iff]
  constructor
  · intro h
    exact ⟨hversion, restartRequiredFields_eq_nil h⟩
  · rintro ⟨-, hengine, hipc, hdb, hdefault, hnetwork, hprovider⟩
    simp only [restartRequiredFields, hengine, hipc, hdb, hdefault, hnetwork, hprovider, ne_eq,
      not_true_eq_false, if_false, List.append_nil]

section Commits

variable [Environment] {Tz : Type} [TzDatabase Tz]

/-! ## Commits -/

/-- A commit ends in one of four ways: the candidate is invalid, it changes what needs a restart,
it is the live configuration already or cannot be persisted, or it becomes the live one. -/
theorem commitConfig_cases (store : ConfigStore) (candidate : AppConfig)
    (prepare : AppConfig → Prepare) :
    (∃ message, validate Tz candidate = .error message ∧
      store.commitConfig Tz candidate prepare = (.error (.invalid message), store)) ∨
    (validate Tz candidate = .ok ⟨⟩ ∧
      restartRequiredFields store.state.live (normalizeConfigStations candidate).1 ≠ [] ∧
      store.commitConfig Tz candidate prepare =
        (.error (.restartRequired
          (restartRequiredFields store.state.live (normalizeConfigStations candidate).1)), store)) ∨
    (validate Tz candidate = .ok ⟨⟩ ∧
      restartRequiredFields store.state.live (normalizeConfigStations candidate).1 = [] ∧
      (((normalizeConfigStations candidate).1 = store.state.live ∧
          store.commitConfig Tz candidate prepare = (.ok store.state.live, store)) ∨
        ((normalizeConfigStations candidate).1 ≠ store.state.live ∧
          ∃ message, store.commitConfig Tz candidate prepare = store.persistenceError message) ∨
        ((normalizeConfigStations candidate).1 ≠ store.state.live ∧
          store.commitConfig Tz candidate prepare =
            (.ok (normalizeConfigStations candidate).1,
              store.commit (normalizeConfigStations candidate).1)))) := by
  have hnormalized : validate Tz (normalizeConfigStations candidate).1 = validate Tz candidate :=
    validate_normalize candidate
  unfold ConfigStore.commitConfig
  simp only [hnormalized]
  cases hvalid : validate Tz candidate with
  | error message => exact .inl ⟨message, rfl, rfl⟩
  | ok =>
    by_cases hfields : restartRequiredFields store.state.live
        (normalizeConfigStations candidate).1 = []
    · right
      right
      refine ⟨rfl, hfields, ?_⟩
      simp only [hfields, ne_eq, not_true_eq_false, if_false]
      by_cases hsame : (normalizeConfigStations candidate).1 = store.state.live
      · exact .inl ⟨hsame, by rw [if_pos hsame]⟩
      · right
        simp only [hsame, not_false_eq_true, true_and, if_false]
        rcases prepare (normalizeConfigStations candidate).1 with (err | ⟨⟩) | err | err
        · exact .inl ⟨err, rfl⟩
        · exact .inr rfl
        · exact .inl ⟨err, rfl⟩
        · exact .inl ⟨_, rfl⟩
    · right
      left
      refine ⟨rfl, hfields, ?_⟩
      simp only [ne_eq, hfields, not_false_eq_true, if_true]

/-! ## Live configurations -/

omit [Environment] in
/-- The names of a valid configuration are distinct once they are normalized. -/
theorem nodup_of_validateStations {stations : List StationConfig} :
    ∀ {seen : List String}, validateStations seen stations = .ok ⟨⟩ →
      (stations.map fun station => normalizeStationName station.name).Nodup ∧
        ∀ station ∈ stations, normalizeStationName station.name ∉ seen := by
  induction stations with
  | nil => exact fun _ => ⟨List.nodup_nil, fun _ h => absurd h List.not_mem_nil⟩
  | cons station stations ih =>
    intro seen h
    simp only [validateStations] at h
    split_ifs at h with hempty hseen
    obtain ⟨hnodup, hfresh⟩ := ih h
    constructor
    · rw [List.map_cons, List.nodup_cons]
      refine ⟨?_, hnodup⟩
      intro hmem
      obtain ⟨other, hother, heq⟩ := List.mem_map.1 hmem
      exact hfresh other hother (heq ▸ List.mem_cons_self)
    · rintro other (_ | ⟨_, hother⟩)
      · exact hseen
      · exact fun hmem => hfresh other hother (List.mem_cons_of_mem _ hmem)

/-- What holds of every live configuration. -/
structure LiveInv (Tz : Type) [TzDatabase Tz] (config : AppConfig) : Prop where
  valid : validate Tz config = .ok ⟨⟩
  normalized : NormalizedStations config

theorem LiveInv.nodup {config : AppConfig} (h : LiveInv Tz config) :
    (config.stations.map (·.name)).Nodup := by
  have hnodup := (nodup_of_validateStations (validate_eq_ok_iff.1 h.valid).2.2.2.2).1
  have hnames : (config.stations.map fun station => normalizeStationName station.name) =
      config.stations.map (·.name) := by
    conv_rhs => rw [← congrArg AppConfig.stations h.normalized]
    simp only [normalizeConfigStations, List.map_map, Function.comp_def]
  rwa [hnames] at hnodup

theorem liveInv_normalize {config : AppConfig} (h : validate Tz config = .ok ⟨⟩) :
    LiveInv Tz (normalizeConfigStations config).1 :=
  ⟨(validate_normalize config).trans h, normalizedStations_normalize config⟩

/-- A startup loads a valid and normalized configuration. -/
theorem liveInv_startup [TomlFormat] {path : String} {file : Except String String}
    {fault : Option String} {config : AppConfig} {written : Option String}
    (h : loadForEngineStartup Tz path file fault = .ok (config, written)) : LiveInv Tz config := by
  obtain ⟨_, hstartup⟩ := startupConfig_of_loaded h
  obtain ⟨loaded, -, hvalid, rfl, -⟩ := startupConfig_eq_ok.1 hstartup
  exact liveInv_normalize hvalid

theorem LiveInv.withTimezone {config : AppConfig} (h : LiveInv Tz config) {timezone : String}
    (hvalid : validate Tz (config.withTimezone timezone) = .ok ⟨⟩) :
    LiveInv Tz (config.withTimezone timezone) :=
  ⟨hvalid, h.normalized.withTimezone timezone⟩

/-- A valid candidate changes what needs a restart if and only if it differs in another field. -/
theorem LiveInv.restartRequired_iff {store : ConfigStore} (h : LiveInv Tz store.state.live)
    {candidate : AppConfig} (hvalid : validate Tz candidate = .ok ⟨⟩) :
    restartRequiredFields store.state.live (normalizeConfigStations candidate).1 = [] ↔
      SameButHot store.state.live candidate := by
  have hversion : (normalizeConfigStations candidate).1.configVersion =
      store.state.live.configVersion :=
    (configVersion_of_validate hvalid).trans (configVersion_of_validate h.valid).symm
  rw [restartRequiredFields_eq_nil_iff hversion, sameButHot_normalize]

/-- A commit keeps the live configuration valid, normalized and the same in the other fields. -/
theorem LiveInv.commitConfig {store : ConfigStore} (h : LiveInv Tz store.state.live)
    (candidate : AppConfig) (prepare : AppConfig → Prepare) :
    LiveInv Tz (store.commitConfig Tz candidate prepare).2.state.live ∧
      SameButHot store.state.live (store.commitConfig Tz candidate prepare).2.state.live := by
  have hcases := @commitConfig_cases _ Tz _ store candidate prepare
  rcases hcases with ⟨message, -, hcommit⟩ | ⟨-, -, hcommit⟩ | ⟨hvalid, hfields, hcases⟩
  · rw [hcommit]
    exact ⟨h, .refl _⟩
  · rw [hcommit]
    exact ⟨h, .refl _⟩
  · rcases hcases with ⟨-, hcommit⟩ | ⟨-, message, hcommit⟩ | ⟨-, hcommit⟩
    · rw [hcommit]
      exact ⟨h, .refl _⟩
    · rw [hcommit]
      exact ⟨h, .refl _⟩
    · rw [hcommit]
      refine ⟨liveInv_normalize hvalid, ?_⟩
      exact sameButHot_normalize.2 ((h.restartRequired_iff hvalid).1 hfields)

theorem LiveInv.handleUpdateConfig {store : ConfigStore} (h : LiveInv Tz store.state.live)
    (decoded : Except String UpdateConfigRequest) (prepare : AppConfig → Prepare) :
    LiveInv Tz (WeatherApp.handleUpdateConfig Tz store decoded prepare).2.state.live ∧
      SameButHot store.state.live
        (WeatherApp.handleUpdateConfig Tz store decoded prepare).2.state.live := by
  rcases decoded with err | ⟨_ | schemaConfig⟩
  · exact ⟨h, .refl _⟩
  · exact ⟨h, .refl _⟩
  · exact h.commitConfig schemaConfig.toConfig prepare

theorem LiveInv.commitTimezone {store : ConfigStore} (h : LiveInv Tz store.state.live)
    (timezone : String) (persist : Except String Unit) :
    LiveInv Tz (store.commitTimezone Tz timezone persist).state.live := by
  simp only [ConfigStore.commitTimezone]
  split_ifs with hsame
  · exact h
  · cases hvalid : validate Tz (store.state.live.withTimezone timezone) with
    | error err => exact h
    | ok =>
      rcases persist with err | ⟨⟩
      · exact h
      · exact h.withTimezone hvalid

/-! ## Runs -/

variable [TomlFormat]

/-- After any updates the live configuration is valid and normalized, and differs from the one of
the startup only in what may change online. -/
theorem updateSystem_invariant {startup : AppConfig} {store : ConfigStore}
    (h : (updateSystem Tz startup).Reachable store) :
    LiveInv Tz store.state.live ∧ SameButHot startup store.state.live := by
  apply h.invariant (P := fun store => LiveInv Tz store.state.live ∧
    SameButHot startup store.state.live)
  · rintro store ⟨⟨path, file, fault, written, hloaded⟩, rfl⟩
    exact ⟨liveInv_startup hloaded, .refl _⟩
  · rintro store label store' ⟨hlive, hframe⟩ ⟨rfl, hlabel⟩
    cases label with
    | updateConfig decoded prepare =>
      obtain ⟨hlive', hframe'⟩ := hlive.handleUpdateConfig decoded prepare
      exact ⟨hlive', hframe.trans hframe'⟩
    | cancelUpdate => exact ⟨hlive, hframe⟩
    | migrateTimezone timezone persist => exact absurd rfl (hlabel timezone persist)

/-- The live configuration of an engine is always valid and normalized. -/
theorem configSystem_invariant {store : ConfigStore} (h : (configSystem Tz).Reachable store) :
    LiveInv Tz store.state.live := by
  apply h.invariant (P := fun store => LiveInv Tz store.state.live)
  · rintro store ⟨config, ⟨path, file, fault, loaded, written, hloaded, hconfig⟩, rfl⟩
    have hlive := liveInv_startup hloaded
    rcases hconfig with rfl | ⟨timezone, rfl, hvalid⟩
    · exact hlive
    · exact hlive.withTimezone hvalid
  · rintro store label store' hlive rfl
    cases label with
    | updateConfig decoded prepare => exact (hlive.handleUpdateConfig decoded prepare).1
    | cancelUpdate => exact hlive
    | migrateTimezone timezone persist => exact hlive.commitTimezone timezone persist

/-- Whatever updates an engine is sent, its live configuration stays valid, with distinct
normalized station names, and differs from that of the startup only in the stations and the times
to live. A valid candidate is refused for a restart if and only if it differs in another field, and
an accepted one is the live configuration afterwards, up to its station names. -/
theorem hot_update_frame {startup : AppConfig} {store : ConfigStore}
    (h : (updateSystem Tz startup).Reachable store) :
    validate Tz store.state.live = .ok ⟨⟩ ∧ NormalizedStations store.state.live ∧
      (store.state.live.stations.map (·.name)).Nodup ∧ SameButHot startup store.state.live ∧
      (∀ candidate prepare, validate Tz candidate = .ok ⟨⟩ →
        ((∃ fields, (store.commitConfig Tz candidate prepare).1 =
          .error (.restartRequired fields)) ↔ ¬ SameButHot store.state.live candidate)) ∧
      (∀ candidate prepare config, (store.commitConfig Tz candidate prepare).1 = .ok config →
        config = (normalizeConfigStations candidate).1 ∧
          (store.commitConfig Tz candidate prepare).2.state.live = config) := by
  obtain ⟨hlive, hframe⟩ := updateSystem_invariant h
  refine ⟨hlive.valid, hlive.normalized, hlive.nodup, hframe, ?_, ?_⟩
  · intro candidate prepare hvalid
    rw [← hlive.restartRequired_iff hvalid]
    have hcases := @commitConfig_cases _ Tz _ store candidate prepare
    rcases hcases with ⟨message, hinvalid, -⟩ | ⟨-, hfields, hcommit⟩ | ⟨-, hfields, hcases⟩
    · exact nomatch hvalid.symm.trans hinvalid
    · rw [hcommit]
      exact ⟨fun _ => hfields, fun _ => ⟨_, rfl⟩⟩
    · -- Nothing needs a restart, and no way to end here says so.
      refine ⟨?_, fun hne => absurd hfields hne⟩
      rintro ⟨fields, hresult⟩
      rcases hcases with ⟨-, hcommit⟩ | ⟨-, message, hcommit⟩ | ⟨-, hcommit⟩ <;>
        rw [hcommit] at hresult <;> exact nomatch hresult
  · intro candidate prepare config hresult
    have hcases := @commitConfig_cases _ Tz _ store candidate prepare
    rcases hcases with ⟨message, -, hcommit⟩ | ⟨-, -, hcommit⟩ | ⟨-, -, hcases⟩
    · rw [hcommit] at hresult
      exact nomatch hresult
    · rw [hcommit] at hresult
      exact nomatch hresult
    · rcases hcases with ⟨hsame, hcommit⟩ | ⟨-, message, hcommit⟩ | ⟨-, hcommit⟩
      · rw [hcommit] at hresult ⊢
        obtain rfl := Except.ok.inj hresult
        exact ⟨hsame.symm, rfl⟩
      · rw [hcommit] at hresult
        exact nomatch hresult
      · rw [hcommit] at hresult ⊢
        obtain rfl := Except.ok.inj hresult
        exact ⟨rfl, rfl⟩

omit [TomlFormat] in
/-- A live configuration has a log level. -/
theorem logLevel_ne_empty {config : AppConfig} (h : validate Tz config = .ok ⟨⟩) :
    config.engine.logLevel ≠ "" := by
  have hengine := (validate_eq_ok_iff.1 h).1
  unfold validateEngine at hengine
  split_ifs at hengine with hversion hlevel
  intro hempty
  rw [hempty] at hlevel
  exact absurd hlevel (by decide)

/-- A valid configuration survives the way to a client and back, so that a client that sends back
what it has read changes nothing: it is answered with the same configuration, nothing is written
and no subscriber is told. What the message holds for older peers never matters. -/
theorem update_with_current_config :
    (∀ config : AppConfig, validate Tz config = .ok ⟨⟩ → config.toWire.toConfig = config) ∧
    (∀ store, (configSystem Tz).Reachable store →
      ∃ wire, handleGetConfig store (.ok ⟨false⟩) = .ok ⟨some wire⟩ ∧
        ∀ prepare, handleUpdateConfig Tz store (.ok ⟨some wire⟩) prepare =
          (.ok ⟨some wire⟩, store)) ∧
    (∀ (wire : Wire.AppConfig) (legacy : Wire.Legacy),
      (wire.withLegacy legacy).toConfig = wire.toConfig) := by
  refine ⟨?_, ?_, Wire.toConfig_withLegacy⟩
  · intro config hvalid
    exact AppConfig.toConfig_toWire (logLevel_ne_empty hvalid)
  · intro store hstore
    obtain ⟨hvalid, hnormalized⟩ := configSystem_invariant hstore
    refine ⟨store.state.live.toWire, rfl, ?_⟩
    intro prepare
    have hcommit : store.commitConfig Tz store.state.live prepare = (.ok store.state.live, store) := by
      have hnone : restartRequiredFields store.state.live store.state.live = [] :=
        (restartRequiredFields_eq_nil_iff rfl).2 (.refl _)
      have hself : (normalizeConfigStations store.state.live).1 = store.state.live := hnormalized
      simp only [ConfigStore.commitConfig, hself, hvalid, hnone, ne_eq, not_true_eq_false,
        if_false, if_true]
    simp only [handleUpdateConfig, AppConfig.toConfig_toWire (logLevel_ne_empty hvalid), hcommit,
      updateAnswer]

end Commits

section Sample

attribute [local instance] sampleFormat sampleEnvironment

/-- The startup of a fresh install. -/
theorem startup_default : loadForEngineStartup SampleZone "weather.toml" (.ok sampleV2Text) none =
    .ok (.default, none) := by
  have hcontent : loadContent "weather.toml" (.ok sampleV2Text) =
      .ok ⟨AppConfig.default, supportedConfigVersion⟩ := loadContent_written rfl (if_pos rfl)
  have hstartup : startupConfig SampleZone "weather.toml" (.ok sampleV2Text) =
      .ok (AppConfig.default, false) := by
    rw [startupConfig, hcontent]
    decide +kernel
  exact loadForEngineStartup_eq_ok.2 (.inl ⟨hstartup, rfl⟩)

/-- An update of the fresh install's time to live for weather. -/
def sampleUpdate : ConfigLabel :=
  .updateConfig (.ok ⟨some (AppConfig.default.withHot AppConfig.default.stations 111 86400).toWire⟩)
    fun _ => .prepared (.ok ())

theorem hot_update_frame_default :
    (ConfigStore.step SampleZone ⟨.new .default, []⟩ sampleUpdate).state.live =
        AppConfig.default.withHot AppConfig.default.stations 111 86400 ∧
      SameButHot .default
        (ConfigStore.step SampleZone ⟨.new .default, []⟩ sampleUpdate).state.live := by
  have hstart : (updateSystem SampleZone .default).Reachable ⟨.new .default, []⟩ :=
    ⟨[], .start ⟨⟨_, _, _, _, startup_default⟩, rfl⟩⟩
  have hreachable : (updateSystem SampleZone .default).Reachable
      (ConfigStore.step SampleZone ⟨.new .default, []⟩ sampleUpdate) :=
    hstart.step ⟨rfl, fun _ _ h => nomatch h⟩
  exact ⟨by decide +kernel, (hot_update_frame hreachable).2.2.2.1⟩

/-- It does not even matter that the disk is full. -/
theorem update_with_current_config_default :
    handleUpdateConfig SampleZone ⟨.new .default, []⟩ (.ok ⟨some AppConfig.default.toWire⟩)
      (fun _ => .failed "disk full") =
        (.ok ⟨some AppConfig.default.toWire⟩, ⟨.new .default, []⟩) := by
  have hreachable : (configSystem SampleZone).Reachable ⟨.new .default, []⟩ :=
    ⟨[], .start ⟨_, ⟨_, _, _, _, _, startup_default, .inl rfl⟩, rfl⟩⟩
  obtain ⟨wire, hget, hupdate⟩ := update_with_current_config.2.1 ⟨.new .default, []⟩ hreachable
  obtain rfl : AppConfig.default.toWire = wire := by
    injection hget with hget
    injection hget with hget
    exact Option.some.inj hget
  exact hupdate _

end Sample

end WeatherApp
