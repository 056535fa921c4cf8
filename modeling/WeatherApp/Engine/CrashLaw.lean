import WeatherApp.Db.MigrationLaw
import WeatherApp.Engine.TimezoneLaw

/-!
# Crashes during timezone migrations

Engines that are sent timezone migrations, that crash at any step, and that are started again,
with further crashes on the way. At every moment the two files are such that a startup brings them
to one timezone, and keeps the history.

## Main definitions

* `LifeInv`: the invariant of an engine through its starts and ends.
* `migrationSystem`: engines that get no other requests for commits than migrations.

## Main results

* `LifeInv.step`: every step keeps the invariant.
* `timezone_change_crash_safe`: what the next startup leaves.
-/

namespace WeatherApp

open Serde

section Lives

variable [Environment] [TomlFormat] {Tz σ : Type} [TzDatabase Tz]

/-! ## Starts and ends -/

/-- What a startup has read agrees with the files. -/
def EngineStage.Agrees (path : String) (disk : Disk) (config : AppConfig) (tz : Tz) :
    EngineStage Tz → Prop
  | .ensured file => disk.config = some file
  | .loaded file config' => disk.config = some file ∧ config' = config ∧ Loads Tz path file config
  | .recovered file config' =>
    disk.config = some file ∧ config' = config ∧ Loads Tz path file config ∧
      config.db.timezone = TzDatabase.name tz
  | .down | .located | .running _ => True

/-- The invariant of an engine through its starts and ends. -/
def LifeInv (path : String) (s : EngineLife Tz) : Prop :=
  match s.stage with
  | .running run => TimezoneInv path s.origin s.earlier run
  | stage => ∃ (config : AppConfig) (tz : Tz),
      DiskInv path s.stored (keptRows s.origin s.earlier) config tz ∧
        stage.Agrees path s.stored config tz

namespace LifeInv

variable {path : String} {s s' : EngineLife Tz}

/-- The files are such that a startup can recover, at every moment. -/
theorem disk (h : LifeInv path s) :
    ∃ (config : AppConfig) (tz : Tz),
      DiskInv path s.disk (keptRows s.origin s.changes) config tz := by
  unfold LifeInv at h
  unfold EngineLife.disk EngineLife.changes
  cases hstage : s.stage with
  | running run =>
    rw [hstage] at h
    obtain ⟨filed, hloads, -⟩ := h.values.filed
    exact ⟨filed, run.db.timezone, h.disk filed hloads⟩
  | down | located | ensured | loaded | recovered =>
    rw [hstage] at h
    obtain ⟨config, tz, hdisk, -⟩ := h
    exact ⟨config, tz, hdisk⟩

/-- A crash leaves the files. -/
theorem crash (h : LifeInv path s) : LifeInv path s.crash := by
  obtain ⟨config, tz, hdisk⟩ := h.disk
  exact ⟨config, tz, hdisk, trivial⟩

section Startup

variable [DecidableEq Tz]

omit [DecidableEq Tz] in
theorem ensured {config : AppConfig} {tz : Tz}
    (hdisk : DiskInv path s.stored (keptRows s.origin s.earlier) config tz) {fault : Option String}
    {file : String} (hensure : ensureConfigFile Tz path fault s.stored.config = .ok file) :
    LifeInv path (s.replaceConfig file (.ensured file)) := by
  obtain ⟨rewrite, hloads, -⟩ := hdisk.loads
  cases hfile : s.stored.config with
  | some text =>
    rw [hfile] at hensure
    have hsame : file = text := by
      cases fault with
      | some err => cases hensure
      | none => exact (Except.ok.inj hensure).symm
    subst hsame
    have hstored : { s.stored with config := some file } = s.stored := by rw [← hfile]
    refine ⟨config, tz, ?_, rfl⟩
    show DiskInv path { s.stored with config := some file } _ config tz
    rw [hstored]
    exact hdisk
  | none =>
    rw [hfile] at hensure hloads
    obtain ⟨rfl, -, -⟩ := hloads
    obtain ⟨_, -, hwritten⟩ := bind_eq_ok.1 hensure
    have hwrite := writeConfigAtomic_eq_ok (withContext_eq_ok.1 hwritten)
    exact ⟨_, tz, hdisk.refile (hdisk.live.loads hwrite), rfl⟩

omit [DecidableEq Tz] in
theorem loaded {file : String} {config : AppConfig} {tz : Tz}
    (hdisk : DiskInv path s.stored (keptRows s.origin s.earlier) config tz)
    (hfile : s.stored.config = some file) {read write : Option String} {loaded : AppConfig}
    {written : Option String}
    (hload : loadForEngineStartup Tz path (readToString read (some file)) write =
      .ok (loaded, written)) :
    LifeInv path (s.replaceConfig (written.getD file) (.loaded (written.getD file) loaded)) := by
  obtain ⟨rewrite, hstartup, -⟩ := startupConfig_of_read hload
  obtain ⟨rewrite', hloads', -⟩ := hdisk.loads
  rw [hfile] at hloads'
  obtain rfl : loaded = config :=
    (Prod.mk.inj (Except.ok.inj (hstartup.symm.trans hloads'))).1
  have hloads := (loads_startup hload).1
  exact ⟨loaded, tz, hdisk.refile hloads, rfl, rfl, hloads⟩

theorem recovered {file : String} {config : AppConfig} {tz : Tz}
    (hdisk : DiskInv path s.stored (keptRows s.origin s.earlier) config tz)
    (hloads : Loads Tz path file config) {inspect : FaultPlan} {write : Option String}
    {recovered : AppConfig} {written : Option String}
    (hrecover : recoverPendingTimezone Tz s.stored.database config inspect write =
      .ok (recovered, written)) :
    LifeInv path
      (s.replaceConfig (written.getD file) (.recovered (written.getD file) recovered)) := by
  have hrecovered := loads_recovered hloads hdisk.live hrecover
  obtain ⟨pending, hinspect, hcases⟩ := recoverPendingTimezone_eq_ok hrecover
  obtain rfl := inspectPendingTimezone_ok hinspect
  rcases hcases with ⟨rfl, rfl, hsame⟩ | ⟨target, text, hpending, -, rfl, -, hwrite, rfl⟩
  · refine ⟨recovered, tz, hdisk.refile hloads, rfl, rfl, hloads, ?_⟩
    -- the configuration has the timezone that is marked, if one is
    cases hpending : s.stored.tables.pendingTimezone with
    | none => exact hdisk.config_eq hpending
    | some target => exact (hsame target hpending).trans (hdisk.pending_eq hpending)
  · have htimezone : (config.withTimezone target).db.timezone = TzDatabase.name tz :=
      hdisk.pending_eq hpending
    exact ⟨_, tz, hdisk.replace hrecovered.2 hwrite htimezone, rfl, rfl, hrecovered.1, htimezone⟩

theorem opened {file : String} {config : AppConfig} {tz : Tz}
    (hdisk : DiskInv path s.stored (keptRows s.origin s.earlier) config tz)
    (hloads : Loads Tz path file config) (hconfig : config.db.timezone = TzDatabase.name tz)
    {faults : OpenFaults} {db : DbInstance Tz} {database : Option Tables}
    (hopen : openDb s.stored.database config.db.timezone faults = (.ok db, database)) :
    TimezoneInv path s.origin s.earlier (.start config file db) := by
  obtain ⟨-, hensured⟩ := openDb_ok hopen
  have htimezone : db.timezone = tz := by
    have hknown := hensured.config
    rw [hconfig, TzDatabase.fromStr_name] at hknown
    exact (Option.some.inj hknown).symm
  refine ⟨ValueInv.start db hloads hdisk.live, (fun _ _ h => nomatch h), (fun _ _ h => nomatch h),
    (fun _ _ h => nomatch h), (fun _ _ _ h => nomatch h), (fun _ _ _ _ h => nomatch h), ?_⟩
  intro filed hfiled
  obtain rfl : config = filed := LoadsAs.config_eq hfiled hloads
  have hopened := hdisk.opened hconfig hensured.history hensured.settled (htimezone ▸ hensured.stored)
  show DiskInv path ⟨some file, some db.tables⟩ (keptRows s.origin (s.earlier ++ [])) config
    db.timezone
  rw [List.append_nil, htimezone]
  exact hopened.refile hloads

/-- Every step of a startup keeps the invariant, whether it fails or not. -/
theorem startupStep (h : LifeInv path s) {step : StartupStep}
    (hstep : s.startupStep path step = some s') : LifeInv path s' := by
  have hcrash := h.crash
  unfold LifeInv at h
  unfold EngineLife.startupStep at hstep
  split at hstep
  next hstage =>
    rw [hstage] at h
    split at hstep
    next =>
      cases hstep
      obtain ⟨config, tz, hdisk, -⟩ := h
      exact ⟨config, tz, hdisk, trivial⟩
    next =>
      cases hstep
      exact hcrash
  next hstage =>
    rw [hstage] at h
    obtain ⟨config, tz, hdisk, -⟩ := h
    split at hstep
    next hensure =>
      cases hstep
      exact ensured hdisk hensure
    next =>
      cases hstep
      exact hcrash
  next hstage =>
    rw [hstage] at h
    obtain ⟨config, tz, hdisk, hfile⟩ := h
    split at hstep
    next hload =>
      cases hstep
      exact loaded hdisk hfile hload
    next =>
      cases hstep
      exact hcrash
  next hstage =>
    rw [hstage] at h
    obtain ⟨config, tz, hdisk, -, rfl, hloads⟩ := h
    split at hstep
    next hrecover =>
      cases hstep
      exact recovered hdisk hloads hrecover
    next =>
      cases hstep
      exact hcrash
  next config _ hstage =>
    rw [hstage] at h
    obtain ⟨_, tz, hdisk, -, rfl, hloads, hconfig⟩ := h
    split at hstep
    next hopen =>
      cases hstep
      exact opened hdisk hloads hconfig hopen
    next hopen =>
      cases hstep
      have hchanges : s.changes = s.earlier := by rw [EngineLife.changes, hstage]
      refine ⟨config, tz, ?_, trivial⟩
      show DiskInv path _ (keptRows s.origin s.changes) config tz
      rw [hchanges]
      exact hdisk.reopen (openDb_error hopen)
  next => cases hstep

end Startup

variable [DecidableEq Tz] [Sha256] [SnapshotMessage σ]

/-- Every step keeps the invariant, if no update of the configuration is asked for. -/
theorem step (h : LifeInv path s) {label : EngineLabel σ}
    (hlabel : ∀ candidate, label ≠ .run (.request (.updateConfig candidate)))
    (hstep : s.step path label = some s') : LifeInv path s' := by
  cases label with
  | crash =>
    cases hstep
    exact h.crash
  | startup step => exact h.startupStep hstep
  | run label =>
    unfold LifeInv at h
    rw [EngineLife.step] at hstep
    split at hstep
    next run hstage =>
      rw [hstage] at h
      split at hstep
      next hrun =>
        cases hstep
        exact h.step (fun candidate hrequest => hlabel candidate (congrArg _ hrequest)) hrun
      next => cases hstep
    next => cases hstep

omit [Sha256] [SnapshotMessage σ] in
/-- What a startup that runs to its end leaves, whatever has failed before. -/
theorem recovered_of_opened (h : LifeInv path s) {faults : OpenFaults}
    (hstep : s.startupStep path (.openDatabase faults) = some s') {run : CommitRun Tz}
    (hrunning : s'.stage = .running run) :
    Recovered path (keptRows s.origin s.changes) run := by
  unfold LifeInv at h
  unfold EngineLife.startupStep at hstep
  cases hstage : s.stage with
  | recovered file config =>
    have hchanges : s.changes = s.earlier := by rw [EngineLife.changes, hstage]
    rw [hstage] at h hstep
    obtain ⟨_, tz, hdisk, -, rfl, hloads, hconfig⟩ := h
    dsimp only at hstep
    split at hstep
    next hopen =>
      cases hstep
      cases hrunning
      rw [hchanges]
      exact hdisk.recovered hloads hconfig hopen
    next =>
      cases hstep
      cases hrunning
  | down | located | ensured | loaded | running =>
    rw [hstage] at hstep
    cases hstep

end LifeInv

/-! ## Whole lives -/

/-- Files on which an engine starts, with no timezone change pending: the configuration file can be
loaded, and replaced if the startup wants to, the database has its timezone or none yet, and each
row of the history is under its local date. -/
structure Installed (path : String) (disk : Disk) (config : AppConfig) (tz : Tz) : Prop where
  loads : ∃ rewrite, LoadsAs Tz path disk.config config rewrite ∧
    (rewrite = true → Printable config)
  config : TzDatabase.fromStr config.db.timezone = some tz
  stored : ∀ stored, disk.tables.storedTimezone = some stored → TzDatabase.fromStr stored = some tz
  settled : disk.tables.pendingTimezone = none
  dated : ∀ row ∈ disk.tables.history, localDate tz row.fetchedAtUnixMs = some row.date

theorem Installed.diskInv {path : String} {disk : Disk} {config : AppConfig} {tz : Tz}
    (h : Installed path disk config tz) :
    DiskInv path disk (keptRows disk.tables.history.rows ([] : List (HistoryChange Tz))) config
      tz := by
  have hvalue : (disk.timezones config).value = config.db.timezone :=
    MarkedPair.value_of_unmarked h.settled
  refine ⟨h.loads, ⟨?_, fun hmarked => absurd h.settled hmarked⟩, ?_, ?_, h.dated, fun _ => .rfl⟩
  · intro stored hstored
    rw [hvalue, ← TzDatabase.name_of_fromStr (h.stored stored hstored),
      TzDatabase.name_of_fromStr h.config]
  · rw [hvalue]
    exact h.config
  · exact fun target hpending => nomatch h.settled.symm.trans hpending

variable [DecidableEq Tz] [Sha256] [SnapshotMessage σ] {path : String}

/-- Engines that are installed, and get no other requests for commits than migrations. -/
def migrationSystem (Tz σ : Type) [TzDatabase Tz] [DecidableEq Tz] [SnapshotMessage σ]
    (path : String) : LabelledSystem (EngineLife Tz) (EngineLabel σ) :=
  (engineSystem Tz σ path fun disk => ∃ (config : AppConfig) (tz : Tz),
    Installed path disk config tz).restrict fun _ label =>
      ∀ candidate, label ≠ .run (.request (.updateConfig candidate))

/-- A step of an engine that runs. -/
theorem reachable_running {disk : Disk} {origin : List HistoryRow}
    {earlier : List (HistoryChange Tz)} {s s' : CommitRun Tz} {label : CommitLabel σ}
    (h : (migrationSystem Tz σ path).Reachable ⟨disk, .running s, origin, earlier⟩)
    (hstep : s.step path label = some s')
    (hlabel : ∀ candidate, label ≠ .request (.updateConfig candidate)) :
    (migrationSystem Tz σ path).Reachable ⟨disk, .running s', origin, earlier⟩ := by
  refine h.step ⟨?_, fun candidate hrequest => hlabel candidate (EngineLabel.run.inj hrequest)⟩
  show EngineLife.step path _ (.run label) = _
  simp only [EngineLife.step, hstep]

theorem lifeInv_reachable {life : EngineLife Tz}
    (h : (migrationSystem Tz σ path).Reachable life) : LifeInv path life := by
  apply h.invariant (P := LifeInv path)
  · rintro _ ⟨disk, ⟨config, tz, hinstalled⟩, rfl⟩
    exact ⟨config, tz, hinstalled.diskInv, trivial⟩
  · intro s label s' hinv hstep
    exact hinv.step hstep.2 hstep.1

/-- After any timezone migrations in any interleaving, with failures and crashes at any step of them
and of the startups in between: if the process ends now, then a startup during which nothing fails
runs to its end; and every startup that runs to its end leaves the stored timezone, that of the
configuration file and the one in memory the same, without a marker, and every row that the
committed changes keep under its local date. -/
theorem timezone_change_crash_safe {life : EngineLife Tz}
    (h : (migrationSystem Tz σ path).Reachable life) :
    (∃ life' run, LabelledSystem.perform (EngineLife.step (σ := σ) path) (fun _ _ => true)
        life.crash (startupSteps.map .startup) = some life' ∧ life'.stage = .running run ∧
      Recovered path (keptRows life.origin life.changes) run) ∧
    ∀ faults life' run, life.startupStep path (.openDatabase faults) = some life' →
      life'.stage = .running run →
        Recovered path (keptRows life.origin life.changes) run := by
  have hinv := lifeInv_reachable h
  obtain ⟨config, tz, hdisk⟩ := hinv.disk
  refine ⟨hdisk.startup life.origin life.changes, ?_⟩
  intro faults life' run hstep hrunning
  exact hinv.recovered_of_opened hstep hrunning

end Lives

section Sample

/-- The document of the default configuration under another timezone. -/
def sampleUtcText : String := "config_version = 2

[engine]
request_timeout_ms = 3000
startup_timeout_ms = 8000
lock_path = \"engine.lock\"
log_level = \"info\"

[ipc]
rpc_endpoint = \"tcp://127.0.0.1:44445\"
pub_endpoint = \"tcp://127.0.0.1:44444\"
hmac = \"disabled\"
hmac_key = \"weather-dev-default-key\"
hmac_env_key_name = \"\"

[db]
path = \"weather.db\"
timezone = \"UTC\"

[updater]
weather_ttl_seconds = 600
province_ttl_seconds = 86400
default_provider = \"nmc\"

[updater.network]
allow_insecure = false

[[updater.provider]]
name = \"nmc\"
base_url = \"https://www.nmc.cn\"
request_timeout_seconds = 20

[[stations]]
name = \"北京-北京市\"
enabled = true
"

/-- The default configuration under another timezone. -/
def sampleUtcConfig : AppConfig := AppConfig.default.withTimezone "UTC"

/-- The entries that are written for it. -/
theorem exists_write_sampleUtcConfig :
    ∃ entries, AppConfig.codec.write sampleUtcConfig = .ok (.table entries) := ⟨_, rfl⟩

theorem sampleUtcText_ne : sampleUtcText ≠ sampleV2Text := by simp [sampleUtcText, sampleV2Text]

theorem sampleUtcConfig_ne : sampleUtcConfig ≠ .default := by decide

/-- The text of the two documents, to run the model on. -/
@[reducible]
def sampleZoneFormat : TomlFormat where
  fromStr text :=
    match AppConfig.codec.write (if text = sampleUtcText then sampleUtcConfig else .default) with
    | .ok (.table entries) =>
      if text = sampleUtcText ∨ text = sampleV2Text then .ok entries else .error "invalid document"
    | _ => .error "invalid document"
  toStringPretty config :=
    if config = sampleUtcConfig then .ok sampleUtcText
    else if config = .default then .ok sampleV2Text
    else .error "not a sample"
  fromStr_toStringPretty := by
    intro config text h
    split_ifs at h with hutc hdefault
    · obtain rfl := Except.ok.inj h
      obtain ⟨entries, hentries⟩ := exists_write_sampleUtcConfig
      refine ⟨entries, ?_, ?_⟩
      · simp only [if_true, hentries, true_or]
      · rw [hutc]
        exact AppConfig.codec.read_write hentries
    · obtain rfl := Except.ok.inj h
      obtain ⟨entries, hentries⟩ := exists_write_default
      refine ⟨entries, ?_, ?_⟩
      · simp only [if_neg sampleUtcText_ne.symm, hentries, or_true, if_true]
      · rw [hdefault]
        exact AppConfig.codec.read_write hentries

attribute [local instance] sampleZoneFormat sampleEnvironment sampleSha256

theorem liveInv_sample : LiveInv SampleZone .default ∧ LiveInv SampleZone sampleUtcConfig := by
  have hdefault : LiveInv SampleZone .default := ⟨by decide, normalizedStations_default⟩
  exact ⟨hdefault, hdefault.withTimezone (by decide)⟩

/-- A database that a startup in Shanghai has opened can be migrated to UTC. -/
theorem exists_migrate_sample {db : DbInstance SampleZone}
    (h : Ensured .initial "Asia/Shanghai" db.timezone db.tables) :
    ∃ rewritten db', db.migrateTimezone "Asia/Shanghai" "UTC" noFaults = (.ok rewritten, db') ∧
      db'.tables.pendingTimezone = some "UTC" := by
  have hshanghai : TzDatabase.fromStr "Asia/Shanghai" = some SampleZone.shanghai := by decide
  have hutc : TzDatabase.fromStr "UTC" = some SampleZone.utc := by decide
  have htimezone : db.timezone = .shanghai := Option.some.inj (h.config.symm.trans hshanghai)
  have hmigratable : Migratable db.tables SampleZone.shanghai := by
    refine ⟨h.settled, _, h.stored, ?_⟩
    rw [htimezone]
    exact hshanghai
  have hempty : ∀ row ∈ db.tables.history,
      (localDate SampleZone.utc row.fetchedAtUnixMs).isSome := by
    rw [h.history]
    exact fun row hrow => absurd hrow (KeyedTable.notMem_empty row)
  obtain ⟨rewritten, db', hmigrate⟩ :=
    migrateTimezone_succeeds hshanghai hutc hmigratable h.historySchema hempty
  refine ⟨rewritten, db', hmigrate, ?_⟩
  obtain ⟨old, new, hold, hnew, -, -, ⟨rfl, -⟩ | ⟨-, hmigrated⟩⟩ := migrateTimezone_ok hmigrate
  · have hsame : SampleZone.shanghai = .utc := by
      rw [← Option.some.inj (hold.symm.trans hshanghai), ← Option.some.inj (hnew.symm.trans hutc)]
    cases hsame
  · rw [hmigrated.pendingTimezone, TzDatabase.name_of_fromStr hnew]

/-- Nothing fails. -/
def sampleFaults : HolderFaults := ⟨none, false, noFaults⟩

/-- The bundle of the migration to UTC. -/
def sampleBundle : TimezoneBundle :=
  ⟨"Asia/Shanghai", "UTC", some (sampleUtcText, sampleUtcConfig)⟩

theorem arrive_sample (s : CommitRun SampleZone) :
    s.arrive (.migrateDbTimezone "UTC") =
      { s with
        requests := s.requests + 1
        waiting := s.waiting.set s.requests (.migrateDbTimezone "UTC") } := by
  have hutc : (TzDatabase.fromStr "UTC" : Option SampleZone) = some .utc := by decide
  simp only [CommitRun.arrive, hutc]

theorem lockMigration_sample {s : CommitRun SampleZone} (h : s.state.live = .default) :
    s.lockMigration 0 "UTC" =
      s.hold 0 (.preparingMigration "Asia/Shanghai" "UTC" sampleUtcConfig) := by
  have hdiffer : AppConfig.default.db.timezone ≠ "UTC" := by decide
  have hvalid : withContext "invalid timezone migration config"
      (validate SampleZone (AppConfig.default.withTimezone "UTC")) = .ok () := by
    have hcandidate : validate SampleZone (AppConfig.default.withTimezone "UTC") = .ok ⟨⟩ :=
      liveInv_sample.2.valid
    rw [hcandidate]
    rfl
  simp only [CommitRun.lockMigration, h, if_neg hdiffer, hvalid]
  rfl

theorem prepare_sample (s : CommitRun SampleZone) :
    s.holderStep "weather.toml" 0 sampleFaults
        (.preparingMigration "Asia/Shanghai" "UTC" sampleUtcConfig) =
      s.hold 0 (.admitting sampleBundle) := by
  have hprint : TomlFormat.toStringPretty sampleUtcConfig = .ok sampleUtcText := if_pos rfl
  have htask : prepareTask "timezone config prepare task failed" sampleFaults sampleUtcConfig =
      .ok sampleUtcText := by
    rw [prepareTask, sampleFaults, writeConfigAtomic, hprint]
    rfl
  rw [CommitRun.holderStep, htask]
  rfl

theorem executeBundle_sample (s : CommitRun SampleZone) (hterminal : s.terminal = none)
    {rewritten : ℕ} {db : DbInstance SampleZone}
    (hmigrate : s.db.migrateTimezone "Asia/Shanghai" "UTC" noFaults = (.ok rewritten, db)) :
    s.executeBundle 0 sampleBundle sampleFaults =
      { s.hold 0 (.finalizing sampleBundle rewritten) with
        db
        effects := s.effects ++ [0]
        changes := s.changes ++ [.migrate db.timezone] } := by
  simp only [CommitRun.executeBundle, hterminal, sampleFaults, sampleBundle, Option.none_or,
    hmigrate]
  rfl

/-- The database has been migrated and marked, and the process ends before the configuration file
is replaced. -/
theorem timezone_change_crash_safe_after_commit :
    ∃ life : EngineLife SampleZone,
      (migrationSystem SampleZone SampleSnapshot "weather.toml").Reachable life ∧
      life.stored.config = some sampleV2Text ∧ life.stored.tables.pendingTimezone = some "UTC" ∧
      ∃ life' run, LabelledSystem.perform
          (EngineLife.step (σ := SampleSnapshot) "weather.toml") (fun _ _ => true) life.crash
          (startupSteps.map .startup) = some life' ∧ life'.stage = .running run ∧
        Recovered "weather.toml" (keptRows life.origin life.changes) run := by
  have hprint : TomlFormat.toStringPretty AppConfig.default = .ok sampleV2Text :=
    (if_neg sampleUtcConfig_ne.symm).trans (if_pos rfl)
  have hloads : Loads SampleZone "weather.toml" sampleV2Text .default :=
    liveInv_sample.1.loads hprint
  have hshanghai : TzDatabase.fromStr AppConfig.default.db.timezone =
      some SampleZone.shanghai := by decide
  have hinstalled : Installed "weather.toml" ⟨some sampleV2Text, none⟩ .default
      SampleZone.shanghai :=
    ⟨⟨false, hloads, fun hrewrite => by cases hrewrite⟩, hshanghai,
      (fun _ hstored => by cases hstored), rfl,
      fun row hrow => absurd hrow (KeyedTable.notMem_empty row)⟩
  have hopen : ∃ db : DbInstance SampleZone,
      openDb none AppConfig.default.db.timezone .none = (.ok db, some db.tables) :=
    openDb_succeeds hshanghai (fun _ hstored => by cases hstored)
      (fun _ hpending => by cases hpending) (absurd rfl)
  obtain ⟨db, hopen⟩ := hopen
  obtain ⟨rewritten, db', hmigrate, hpending⟩ := exists_migrate_sample (openDb_ok hopen).2
  -- the request gets the lock, prepares its file, and its bundle is admitted and executed
  let s₀ : CommitRun SampleZone := .start .default sampleV2Text db
  let s₁ : CommitRun SampleZone :=
    { s₀ with requests := 1, waiting := s₀.waiting.set 0 (.migrateDbTimezone "UTC") }
  let s₂ : CommitRun SampleZone :=
    CommitRun.hold { s₁ with waiting := s₁.waiting.remove 0 } 0
      (.preparingMigration "Asia/Shanghai" "UTC" sampleUtcConfig)
  let s₃ : CommitRun SampleZone := s₂.hold 0 (.admitting sampleBundle)
  let s₄ : CommitRun SampleZone :=
    { s₃.hold 0 (.queued sampleBundle) with
      replies := s₃.replies.set 0 ⟨"Asia/Shanghai", "UTC", none⟩ }
  let s₅ : CommitRun SampleZone :=
    { s₄.hold 0 (.finalizing sampleBundle rewritten) with
      db := db'
      effects := [0]
      changes := [.migrate db'.timezone] }
  have hrequest : s₀.step "weather.toml"
      (.request (.migrateDbTimezone "UTC") : CommitLabel SampleSnapshot) = some s₁ :=
    congrArg some (arrive_sample s₀)
  have hlock : s₁.step "weather.toml" (.lock 0 : CommitLabel SampleSnapshot) = some s₂ :=
    congrArg some (lockMigration_sample rfl)
  have hprepare : s₂.step "weather.toml" (.guard sampleFaults : CommitLabel SampleSnapshot) =
      some s₃ := congrArg some (prepare_sample s₂)
  have hadmit : s₃.step "weather.toml" (.guard sampleFaults : CommitLabel SampleSnapshot) =
      some s₄ := rfl
  have hcommit : s₄.step "weather.toml" (.guard sampleFaults : CommitLabel SampleSnapshot) =
      some s₅ := congrArg some (executeBundle_sample s₄ rfl hmigrate)
  have hinit : ((migrationSystem SampleZone SampleSnapshot "weather.toml").Reachable
      ⟨⟨some sampleV2Text, none⟩, .down, [], []⟩) :=
    ⟨[], .start ⟨_, ⟨.default, .shanghai, hinstalled⟩, rfl⟩⟩
  have hstart : (migrationSystem SampleZone SampleSnapshot "weather.toml").Reachable
      ⟨⟨some sampleV2Text, none⟩, .running s₀, [], []⟩ := by
    refine LabelledSystem.reachable_of_perform_of_forall (fun _ _ _ h => h) ?_ hinit
      (perform_startupSteps_settled hloads rfl hopen)
    simp [startupSteps]
  have hrequested := reachable_running hstart hrequest fun _ h => by cases h
  have hlocked := reachable_running hrequested hlock fun _ h => by cases h
  have hprepared := reachable_running hlocked hprepare fun _ h => by cases h
  have hadmitted := reachable_running hprepared hadmit fun _ h => by cases h
  have hcommitted := reachable_running hadmitted hcommit fun _ h => by cases h
  let life : EngineLife SampleZone := ⟨⟨some sampleV2Text, none⟩, .running s₅, [], []⟩
  have hcrash : life.step "weather.toml" (.crash : EngineLabel SampleSnapshot) =
      some life.crash := rfl
  have hcrashed := hcommitted.step ⟨hcrash, fun _ h => by cases h⟩
  exact ⟨life.crash, hcrashed, rfl, hpending, (timezone_change_crash_safe hcrashed).1⟩

end Sample

end WeatherApp
