import WeatherApp.Engine.CommitLock

/-!
# The startup of the engine

`start_with_provider_factory` and `recover_pending_timezone` of `runtime.rs`, with `load_or_default`
and `ensure_config_file` of `conf/src/load.rs`: the part of a startup that reads and writes the
configuration file and the database. The singleton locks, the component manifest and the provider
are left out: they change neither file, and a startup that fails at one of them ends as one does at
any other step.

The process can end anywhere: a crash leaves the two files. A write of one of them is atomic.

## Main definitions

* `Disk`: the two files.
* `loadOrDefault`, `ensureConfigFile`, `recoverPendingTimezone`: the steps of a startup.
* `EngineLife`: an engine that is started, runs and ends, again and again.
* `engineSystem`: its runs, from any disk that satisfies a condition.
-/

namespace WeatherApp

/-- The configuration file, unless there is none, and the database file, unless it is empty. -/
structure Disk where
  config : Option String
  database : Option Tables
  deriving DecidableEq

/-- The tables that the next opening of the database finds. -/
def Disk.tables (disk : Disk) : Tables := disk.database.getD .initial

/-- `std::fs::read_to_string`. -/
def readToString (fault : Option String) (file : Option String) : Except String String :=
  match fault, file with
  | some err, _ => .error err
  | none, none => .error "No such file or directory (os error 2)"
  | none, some text => .ok text

section Steps

variable [Environment] [TomlFormat] (Tz : Type) [TzDatabase Tz]

/-- `load_or_default`. -/
def loadOrDefault (path : String) (fault : Option String) (file : Option String) :
    Except String AppConfig :=
  match file with
  | some text => loadFromPath Tz path (readToString fault (some text))
  | none =>
    match fault with
    | some err => .error s!"failed to inspect config {path}: {err}"
    | none => do
      validate Tz .default
      return .default

/-- `ensure_config_file`: the content of the file afterwards. -/
def ensureConfigFile (path : String) (fault : Option String) (file : Option String) :
    Except String String :=
  match file with
  | some text =>
    match fault with
    | some err => .error s!"failed to inspect config {path}: {err}"
    | none => .ok text
  | none => do
    validate Tz .default
    withContext s!"failed to write default config {path}" (writeConfigAtomic fault .default)

variable [DecidableEq Tz]

/-- `recover_pending_timezone`: the configuration to go on with, and the new content of the file if
it is replaced. -/
def recoverPendingTimezone (database : Option Tables) (config : AppConfig) (inspect : FaultPlan)
    (fault : Option String) : Except String (AppConfig × Option String) := do
  let pending ← (inspectPendingTimezone Tz database inspect).mapError dbErrorText
  match pending with
  | none => return (config, none)
  | some target =>
    if config.db.timezone = target then return (config, none)
    else
      let recovered := config.withTimezone target
      validate Tz recovered
      let content ← writeConfigAtomic fault recovered
      return (recovered, some content)

end Steps

/-! ## The life of an engine -/

/-- How far an engine is. -/
inductive EngineStage (Tz : Type) where
  | down
  /-- The lock path is known. -/
  | located
  /-- There is a configuration file. -/
  | ensured (file : String)
  | loaded (file : String) (config : AppConfig)
  /-- The file has the timezone of the database. -/
  | recovered (file : String) (config : AppConfig)
  | running (run : CommitRun Tz)

/-- An engine with its files. -/
structure EngineLife (Tz : Type) where
  /-- The files, while the engine is not running. -/
  stored : Disk
  stage : EngineStage Tz
  /-- The history at first. -/
  origin : List HistoryRow
  /-- What the earlier runs have committed to the history. -/
  earlier : List (HistoryChange Tz)

namespace EngineLife

variable {Tz : Type}

/-- The files. -/
def disk (s : EngineLife Tz) : Disk :=
  match s.stage with
  | .running run => ⟨some run.file, some run.db.tables⟩
  | _ => s.stored

/-- What has been committed to the history. -/
def changes (s : EngineLife Tz) : List (HistoryChange Tz) :=
  match s.stage with
  | .running run => s.earlier ++ run.changes
  | _ => s.earlier

/-- The process has ended. -/
def crash (s : EngineLife Tz) : EngineLife Tz :=
  { s with stored := s.disk, stage := .down, earlier := s.changes }

/-- The startup has replaced the configuration file. -/
def replaceConfig (s : EngineLife Tz) (file : String) (stage : EngineStage Tz) : EngineLife Tz :=
  { s with stored := { s.stored with config := some file }, stage }

end EngineLife

/-- A step of a startup, with what fails during it. -/
inductive StartupStep where
  | locate (fault : Option String)
  | ensure (fault : Option String)
  | load (read write : Option String)
  | recover (inspect : FaultPlan) (write : Option String)
  | openDatabase (faults : OpenFaults)

/-- A startup during which nothing fails. -/
def startupSteps : List StartupStep :=
  [.locate none, .ensure none, .load none none, .recover noFaults none, .openDatabase .none]

/-- What happens to an engine. -/
inductive EngineLabel (σ : Type) where
  | crash
  | startup (step : StartupStep)
  | run (label : CommitLabel σ)

namespace EngineLife

variable {Tz σ : Type} [Environment] [TomlFormat] [TzDatabase Tz] [DecidableEq Tz]

/-- The next step of a startup. The startup ends with the first that fails. -/
def startupStep (path : String) (s : EngineLife Tz) (step : StartupStep) :
    Option (EngineLife Tz) :=
  match s.stage, step with
  | .down, .locate fault =>
    match loadOrDefault Tz path fault s.stored.config with
    | .ok _ => some { s with stage := .located }
    | .error _ => some s.crash
  | .located, .ensure fault =>
    match ensureConfigFile Tz path fault s.stored.config with
    | .ok file => some (s.replaceConfig file (.ensured file))
    | .error _ => some s.crash
  | .ensured file, .load read write =>
    match loadForEngineStartup Tz path (readToString read (some file)) write with
    | .ok (config, written) =>
      some (s.replaceConfig (written.getD file) (.loaded (written.getD file) config))
    | .error _ => some s.crash
  | .loaded file config, .recover inspect write =>
    match recoverPendingTimezone Tz s.stored.database config inspect write with
    | .ok (config, written) =>
      some (s.replaceConfig (written.getD file) (.recovered (written.getD file) config))
    | .error _ => some s.crash
  | .recovered file config, .openDatabase faults =>
    match openDb s.stored.database config.db.timezone faults with
    | (.ok db, _) => some { s with stage := .running (.start config file db) }
    | (.error _, database) =>
      some { s.crash with stored := { s.stored with database } }
  | _, _ => none

variable [Sha256] [SnapshotMessage σ]

/-- One step. -/
def step (path : String) (s : EngineLife Tz) : EngineLabel σ → Option (EngineLife Tz)
  | .crash => some s.crash
  | .startup step => s.startupStep path step
  | .run label =>
    match s.stage with
    | .running run =>
      match run.step path label with
      | some run => some { s with stage := .running run }
      | none => none
    | _ => none

end EngineLife

/-- An engine whose first startup finds a disk that satisfies `start`. -/
def engineSystem (Tz σ : Type) [Environment] [TomlFormat] [TzDatabase Tz] [DecidableEq Tz] [Sha256]
    [SnapshotMessage σ] (path : String) (start : Disk → Prop) :
    LabelledSystem (EngineLife Tz) (EngineLabel σ) where
  init s := ∃ disk, start disk ∧ s = ⟨disk, .down, disk.tables.history.rows, []⟩
  step s label s' := s.step path label = some s'

end WeatherApp
