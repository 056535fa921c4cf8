import WeatherApp.Engine.StartupLaw
import WeatherApp.Foundation.MarkedPair

/-!
# One timezone in two files

The database file and the configuration file of an engine, at any moment. The timezone is kept in
both, as one value in two stores with a marker beside the first: whatever is written to one of the
files leaves a pair from which a startup can tell the timezone, and only the migration of the
database changes it.

## Main definitions

* `Disk.timezones`: the timezones of the two files.
* `DiskInv`: what holds of the files at any moment.
* `Recovered`: what a startup leaves.

## Main results

* `DiskInv.refile`, `DiskInv.replace`: writes of the configuration file.
* `DiskInv.migrate`, `DiskInv.clear`, `DiskInv.opened`, `DiskInv.put`: changes of the database.
* `DiskInv.startup`: from such files a startup succeeds.
-/

namespace WeatherApp

variable [Environment] [TomlFormat] {Tz : Type} [TzDatabase Tz]

/-- What a startup loads from the file, and whether it has to write it: the default configuration
where there is none. -/
def LoadsAs (Tz : Type) [TzDatabase Tz] (path : String) (file : Option String) (config : AppConfig)
    (rewrite : Bool) : Prop :=
  match file with
  | some text => startupConfig Tz path (.ok text) = .ok (config, rewrite)
  | none => config = .default ∧ validate Tz config = .ok ⟨⟩ ∧ rewrite = true

/-- The configuration can be written. -/
def Printable (config : AppConfig) : Prop := ∃ text, TomlFormat.toStringPretty config = .ok text

/-- The timezones of the two files: the configuration file is the second store. -/
def Disk.timezones (disk : Disk) (config : AppConfig) : MarkedPair String :=
  ⟨disk.tables.storedTimezone, disk.tables.pendingTimezone, config.db.timezone⟩

/-- What holds of the files at any moment: the configuration file can be loaded and has what is to
be written for it, the two stores of the timezone can be brought to one value, and the history has
the rows that have been kept, each under its local date in that timezone. -/
structure DiskInv (path : String) (disk : Disk) (kept : Set HistoryRow) (config : AppConfig)
    (tz : Tz) : Prop where
  loads : ∃ rewrite, LoadsAs Tz path disk.config config rewrite ∧
    (rewrite = true → Printable config)
  coherent : (disk.timezones config).Coherent
  known : TzDatabase.fromStr (disk.timezones config).value = some tz
  recoverable : ∀ target, disk.tables.pendingTimezone = some target →
    Printable (config.withTimezone target)
  dated : ∀ row ∈ disk.tables.history, localDate tz row.fetchedAtUnixMs = some row.date
  kept : ∀ row, row ∈ disk.tables.history ↔ row ∈ kept

omit [Environment] [TomlFormat] in
/-- The names of the default configuration are normalized. -/
theorem normalizedStations_default : NormalizedStations .default := by
  unfold NormalizedStations
  decide +kernel

theorem LoadsAs.live {path : String} {file : Option String} {config : AppConfig} {rewrite : Bool}
    (h : LoadsAs Tz path file config rewrite) : LiveInv Tz config := by
  cases file with
  | some text =>
    obtain ⟨loaded, -, hvalid, rfl, -⟩ := startupConfig_eq_ok.1 h
    exact liveInv_normalize hvalid
  | none =>
    obtain ⟨rfl, hvalid, -⟩ := h
    exact ⟨hvalid, normalizedStations_default⟩

/-- A file loads as one configuration. -/
theorem LoadsAs.config_eq {path file : String} {config config' : AppConfig} {rewrite : Bool}
    (h : LoadsAs Tz path (some file) config rewrite) (hloads : Loads Tz path file config') :
    config' = config := by
  have hsame := hloads.symm.trans h
  exact (Prod.mk.inj (Except.ok.inj hsame)).1

namespace DiskInv

variable {path : String} {disk : Disk} {kept : Set HistoryRow} {config : AppConfig} {tz : Tz}

theorem live (h : DiskInv path disk kept config tz) : LiveInv Tz config := by
  obtain ⟨rewrite, hloads, -⟩ := h.loads
  exact hloads.live

/-- The value of the two stores has the name of its timezone. -/
theorem value_eq (h : DiskInv path disk kept config tz) :
    (disk.timezones config).value = TzDatabase.name tz :=
  (TzDatabase.name_of_fromStr h.known).symm

/-- A marker has the name of the timezone. -/
theorem pending_eq (h : DiskInv path disk kept config tz) {target : String}
    (hpending : disk.tables.pendingTimezone = some target) : target = TzDatabase.name tz := by
  have hmarker : (disk.timezones config).marker = some target := hpending
  rw [← h.value_eq, MarkedPair.value_of_marker hmarker]

/-- So has what is stored. -/
theorem stored_eq (h : DiskInv path disk kept config tz) {stored : String}
    (hstored : disk.tables.storedTimezone = some stored) : stored = TzDatabase.name tz := by
  rw [← h.value_eq]
  exact h.coherent.stored stored hstored

/-- Without a marker the configuration file has the timezone. -/
theorem config_eq (h : DiskInv path disk kept config tz)
    (hsettled : disk.tables.pendingTimezone = none) : config.db.timezone = TzDatabase.name tz := by
  have hmarker : (disk.timezones config).marker = none := hsettled
  rw [← h.value_eq, MarkedPair.value_of_unmarked hmarker]
  rfl

/-! ## The configuration file -/

/-- The file is replaced with one that is loaded as the old one was. -/
theorem refile (h : DiskInv path disk kept config tz) {file : String}
    (hloads : Loads Tz path file config) :
    DiskInv path { disk with config := some file } kept config tz where
  loads := ⟨false, hloads, nofun⟩
  coherent := h.coherent
  known := h.known
  recoverable := h.recoverable
  dated := h.dated
  kept := h.kept

/-- The file is replaced with one that has the timezone. -/
theorem replace (h : DiskInv path disk kept config tz) {file : String} {config' : AppConfig}
    (hlive : LiveInv Tz config') (hwritten : TomlFormat.toStringPretty config' = .ok file)
    (htimezone : config'.db.timezone = TzDatabase.name tz) :
    DiskInv path { disk with config := some file } kept config' tz := by
  have hvalue : config'.db.timezone = (disk.timezones config).value := by
    rw [htimezone, h.value_eq]
  refine ⟨⟨false, hlive.loads hwritten, nofun⟩, ?_, ?_, ?_, h.dated, h.kept⟩
  · exact MarkedPair.coherent_replace h.coherent hvalue
  · have hreplaced : (({ disk with config := some file } : Disk).timezones config').value =
        (disk.timezones config).value := MarkedPair.value_replace hvalue
    rw [hreplaced]
    exact h.known
  · intro target hpending
    -- the marker names the timezone that the configuration has already
    rw [h.pending_eq hpending, ← htimezone, AppConfig.withTimezone_self]
    exact ⟨file, hwritten⟩

/-! ## The database -/

/-- The tables of the file are the same. -/
theorem reopen (h : DiskInv path disk kept config tz) {database : Option Tables}
    (hsame : database.getD .initial = disk.tables) :
    DiskInv path { disk with database } kept config tz := by
  have htables : ({ disk with database } : Disk).tables = disk.tables := hsame
  refine ⟨h.loads, ?_, ?_, ?_, ?_, ?_⟩
  · rw [Disk.timezones, htables]
    exact h.coherent
  · rw [Disk.timezones, htables]
    exact h.known
  · rw [htables]
    exact h.recoverable
  · rw [htables]
    exact h.dated
  · rw [htables]
    exact h.kept

/-- A migration of the database changes the timezone. -/
theorem migrate (h : DiskInv path disk kept config tz) {tz' : Tz} {tables' : Tables}
    {rewritten : ℕ} (hmigrated : Migrated tz' disk.tables rewritten tables')
    (hprintable : Printable (config.withTimezone (TzDatabase.name tz'))) :
    DiskInv path { disk with database := some tables' }
      ((HistoryChange.migrate tz').keep kept) config tz' := by
  have hcommit : ({ disk with database := some tables' } : Disk).timezones config =
      (disk.timezones config).commit (TzDatabase.name tz') := by
    ext1
    · exact hmigrated.storedTimezone
    · exact hmigrated.pendingTimezone
    · rfl
  refine ⟨h.loads, ?_, ?_, ?_, ?_, hmigrated.mem_keep h.kept⟩
  · rw [hcommit]
    exact MarkedPair.coherent_commit _ _
  · rw [hcommit, MarkedPair.value_commit]
    exact TzDatabase.fromStr_name tz'
  · intro target hpending
    obtain rfl := Option.some.inj (hmigrated.pendingTimezone.symm.trans hpending)
    exact hprintable
  · intro row hrow
    obtain ⟨source, hsource, rfl⟩ := (hmigrated.history row).1 hrow
    exact hmigrated.valid source hsource.1

/-- Other tables with the same history, which stand for the same timezone without a marker. -/
theorem settle (h : DiskInv path disk kept config tz) {tables' : Tables}
    (hhistory : tables'.history = disk.tables.history) (hsettled : tables'.pendingTimezone = none)
    (hcoherent : (({ disk with database := some tables' } : Disk).timezones config).Coherent)
    (hvalue : (({ disk with database := some tables' } : Disk).timezones config).value =
      (disk.timezones config).value) :
    DiskInv path { disk with database := some tables' } kept config tz := by
  refine ⟨h.loads, hcoherent, ?_, ?_, ?_, ?_⟩
  · rw [hvalue]
    exact h.known
  · exact fun target hpending => nomatch hsettled.symm.trans hpending
  · exact fun row hrow => h.dated row (hhistory ▸ hrow)
  · intro row
    rw [← h.kept row, ← hhistory]
    rfl

/-- The marker is dropped once the configuration file has the timezone. -/
theorem clear (h : DiskInv path disk kept config tz)
    (htimezone : config.db.timezone = TzDatabase.name tz) {tables' : Tables}
    (hhistory : tables'.history = disk.tables.history) (hsettled : tables'.pendingTimezone = none)
    (hstored : tables'.storedTimezone = disk.tables.storedTimezone) :
    DiskInv path { disk with database := some tables' } kept config tz := by
  have hsecond : (disk.timezones config).second = (disk.timezones config).value := by
    rw [h.value_eq, ← htimezone]
    rfl
  have hclear : ({ disk with database := some tables' } : Disk).timezones config =
      (disk.timezones config).clear := by
    ext1
    · exact hstored
    · exact hsettled
    · rfl
  apply h.settle hhistory hsettled
  · rw [hclear]
    exact MarkedPair.coherent_clear h.coherent hsecond
  · rw [hclear]
    exact MarkedPair.value_clear hsecond

/-- The database is opened once the configuration file has the timezone. -/
theorem opened (h : DiskInv path disk kept config tz)
    (htimezone : config.db.timezone = TzDatabase.name tz) {tables' : Tables}
    (hhistory : tables'.history = disk.tables.history) (hsettled : tables'.pendingTimezone = none)
    (hstored : StoredIs tables' tz) :
    DiskInv path { disk with database := some tables' } kept config tz := by
  have hsettle : ({ disk with database := some tables' } : Disk).timezones config =
      (disk.timezones config).settle := by
    ext1
    · show tables'.storedTimezone = some (disk.timezones config).value
      rw [h.value_eq]
      exact hstored
    · exact hsettled
    · show config.db.timezone = (disk.timezones config).value
      rw [h.value_eq, htimezone]
  apply h.settle hhistory hsettled
  · rw [hsettle]
    exact MarkedPair.coherent_settle _
  · rw [hsettle]
    exact MarkedPair.value_settle _

/-- A put adds its row under its local date. -/
theorem put (h : DiskInv path disk kept config tz) {row : HistoryRow}
    (hdate : localDate tz row.fetchedAtUnixMs = some row.date) :
    DiskInv path { disk with database := some (disk.tables.upsertHistory row) }
      ((HistoryChange.put row : HistoryChange Tz).keep kept) config tz where
  loads := h.loads
  coherent := h.coherent
  known := h.known
  recoverable := h.recoverable
  dated other hother := by
    rcases KeyedTable.mem_upsertMax.1 hother with ⟨hold, -⟩ | ⟨rfl, -⟩
    · exact h.dated other hold
    · exact hdate
  kept other := mem_keep_put h.kept row other

end DiskInv

/-! ## Startups -/

section Startup

variable {path : String} {disk : Disk} {kept : Set HistoryRow} {config : AppConfig} {tz : Tz}

omit [Environment] in
theorem writeConfigAtomic_of_printable (h : Printable config) :
    ∃ text, TomlFormat.toStringPretty config = .ok text ∧
      writeConfigAtomic none config = .ok text := by
  obtain ⟨text, htext⟩ := h
  refine ⟨text, htext, ?_⟩
  rw [writeConfigAtomic, htext]
  rfl

/-- The first steps of a startup leave a file that is loaded as the one that was there, or as the
default configuration. -/
theorem DiskInv.ensure (h : DiskInv path disk kept config tz) :
    ∃ located file rewrite, loadOrDefault Tz path none disk.config = .ok located ∧
      ensureConfigFile Tz path none disk.config = .ok file ∧
      startupConfig Tz path (.ok file) = .ok (config, rewrite) ∧
      (rewrite = true → Printable config) := by
  obtain ⟨rewrite, hloads, hprintable⟩ := h.loads
  cases hfile : disk.config with
  | some file =>
    rw [hfile] at hloads
    obtain ⟨loaded, hcontent, hvalid, -⟩ := startupConfig_eq_ok.1 hloads
    have hlocate : loadFromPath Tz path (.ok file) = .ok loaded.config :=
      loadFromPath_eq_ok.2 ⟨loaded, hcontent, hvalid, rfl⟩
    exact ⟨loaded.config, file, rewrite, hlocate, rfl, hloads, hprintable⟩
  | none =>
    rw [hfile] at hloads
    obtain ⟨rfl, hvalid, rfl⟩ := hloads
    obtain ⟨file, htext, hwrite⟩ := writeConfigAtomic_of_printable (hprintable rfl)
    refine ⟨.default, file, false, ?_, ?_, h.live.loads htext, nofun⟩
    · rw [loadOrDefault, hvalid]
      rfl
    · rw [ensureConfigFile, hvalid, hwrite]
      rfl

variable [DecidableEq Tz]

/-- The inspection reports the marker. -/
theorem DiskInv.inspect (h : DiskInv path disk kept config tz) :
    inspectPendingTimezone Tz disk.database noFaults = .ok disk.tables.pendingTimezone := by
  apply inspectPendingTimezone_succeeds
  intro pending hpending
  obtain rfl := h.pending_eq hpending
  obtain ⟨stored, hstored⟩ := Option.ne_none_iff_exists'.1
    (h.coherent.marked fun hnone => nomatch hpending.symm.trans hnone)
  refine ⟨tz, TzDatabase.fromStr_name tz, ?_⟩
  show disk.tables.storedTimezone = some (TzDatabase.name tz)
  rw [← h.stored_eq hstored]
  exact hstored

/-- The recovery goes on with the timezone of the two files. -/
theorem DiskInv.recover (h : DiskInv path disk kept config tz) :
    ∃ recovered replaced,
      recoverPendingTimezone Tz disk.database config noFaults none = .ok (recovered, replaced) ∧
        recovered.db.timezone = TzDatabase.name tz := by
  unfold recoverPendingTimezone
  rw [h.inspect]
  cases hpending : disk.tables.pendingTimezone with
  | none => exact ⟨config, none, rfl, h.config_eq hpending⟩
  | some target =>
    have htarget := h.pending_eq hpending
    by_cases hsame : config.db.timezone = target
    · refine ⟨config, none, ?_, hsame.trans htarget⟩
      show (if config.db.timezone = target then _ else _) = _
      rw [if_pos hsame]
      rfl
    · have hvalid : validate Tz (config.withTimezone target) = .ok ⟨⟩ := by
        rw [htarget]
        exact validate_withTimezone h.live.valid (TzDatabase.fromStr_name tz)
      obtain ⟨text, -, hwrite⟩ := writeConfigAtomic_of_printable (h.recoverable target hpending)
      refine ⟨config.withTimezone target, some text, ?_, htarget⟩
      show (if config.db.timezone = target then _ else _) = _
      rw [if_neg hsame, hvalid, hwrite]
      rfl

/-- The timezone of an engine that has been started, and its history: the stored timezone, that of
the configuration file and the one in memory are the same, nothing is pending, and the history has
the rows that have been kept, each under its local date. -/
structure Recovered (path : String) (kept : Set HistoryRow) (run : CommitRun Tz) : Prop where
  stored : run.db.tables.storedTimezone = some run.state.live.db.timezone
  file : loadFromPath Tz path (.ok run.file) = .ok run.state.live
  running : TzDatabase.fromStr run.state.live.db.timezone = some run.db.timezone
  settled : run.db.tables.pendingTimezone = none
  history : ∀ row, row ∈ run.db.tables.history ↔ row ∈ kept
  dated : ∀ row ∈ run.db.tables.history,
    localDate run.db.timezone row.fetchedAtUnixMs = some row.date

/-- What the opening of the database leaves, once the configuration file has the timezone. -/
theorem DiskInv.recovered (h : DiskInv path disk kept config tz) {file : String}
    {config' : AppConfig} (hloads : Loads Tz path file config')
    (hconfig : config'.db.timezone = TzDatabase.name tz) {faults : OpenFaults}
    {db : DbInstance Tz} {database : Option Tables}
    (hopen : openDb disk.database config'.db.timezone faults = (.ok db, database)) :
    Recovered path kept (.start config' file db) := by
  obtain ⟨-, hensured⟩ := openDb_ok hopen
  have htimezone : db.timezone = tz := by
    have hknown := hensured.config
    rw [hconfig, TzDatabase.fromStr_name] at hknown
    exact (Option.some.inj hknown).symm
  have hhistory : ∀ row, row ∈ db.tables.history ↔ row ∈ disk.tables.history := by
    intro row
    rw [hensured.history]
    rfl
  refine ⟨?_, loadFromPath_of_startupConfig hloads, hensured.config, hensured.settled, ?_, ?_⟩
  · show db.tables.storedTimezone = some config'.db.timezone
    rw [hconfig, ← htimezone]
    exact hensured.stored
  · exact fun row => (hhistory row).trans (h.kept row)
  · intro row hrow
    show localDate db.timezone row.fetchedAtUnixMs = some row.date
    rw [htimezone]
    exact h.dated row ((hhistory row).1 hrow)

/-- From files that satisfy the invariant a startup during which nothing fails runs to its end. -/
theorem DiskInv.startup {σ : Type} [Sha256] [SnapshotMessage σ]
    (h : DiskInv path disk kept config tz) (origin : List HistoryRow)
    (earlier : List (HistoryChange Tz)) :
    ∃ life run, LabelledSystem.perform (EngineLife.step (σ := σ) path) (fun _ _ => true)
        ⟨disk, .down, origin, earlier⟩ (startupSteps.map .startup) = some life ∧
      life.stage = .running run ∧ Recovered path kept run := by
  obtain ⟨located, file, rewrite, hlocate, hensure, hloads, hprintable⟩ := h.ensure
  have hload : ∃ written, loadForEngineStartup Tz path (.ok file) none = .ok (config, written) := by
    cases rewrite with
    | false => exact ⟨none, loadForEngineStartup_eq_ok.2 (.inl ⟨hloads, rfl⟩)⟩
    | true =>
      obtain ⟨text, -, hwrite⟩ := writeConfigAtomic_of_printable (hprintable rfl)
      exact ⟨some text, loadForEngineStartup_eq_ok.2 (.inr ⟨text, hloads, hwrite, rfl⟩)⟩
  obtain ⟨written, hload⟩ := hload
  obtain ⟨recovered, replaced, hrecover, htimezone⟩ := h.recover
  have hread : loadForEngineStartup Tz path (readToString none (some file)) none =
      .ok (config, written) := hload
  have hrecovered := (loads_recovered (loads_startup hread).1 h.live hrecover).1
  have hopen : ∃ db : DbInstance Tz,
      openDb disk.database recovered.db.timezone .none = (.ok db, some db.tables) := by
    have hknown : TzDatabase.fromStr (TzDatabase.name tz) = some tz := TzDatabase.fromStr_name tz
    rw [htimezone]
    refine openDb_succeeds hknown ?_ ?_ h.coherent.marked
    · exact fun stored hstored => h.stored_eq hstored ▸ hknown
    · exact fun pending hpending => h.pending_eq hpending ▸ hknown
  obtain ⟨db, hopen⟩ := hopen
  exact ⟨_, _, perform_startupSteps rfl hlocate hensure hload hrecover hopen, rfl,
    h.recovered hrecovered htimezone hopen⟩

end Startup

end WeatherApp
