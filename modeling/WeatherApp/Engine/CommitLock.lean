import WeatherApp.Db.HistoryChange
import WeatherApp.Db.Open
import WeatherApp.Engine.Config
import WeatherApp.Foundation.KeyedMap

/-!
# The commit lock

`UPDATE_CONFIG` and `MIGRATE_DB_TIMEZONE` requests of one engine in any interleaving:
`commit_config_with_preparer` of `engine/src/handlers/config.rs`, `migrate_db_timezone` of
`engine/src/handlers/migrate_tz.rs` with the bundle that it hands to the database actor, and what
the actor does with the bundle (`db/src/actor.rs`).

One step is what a party does without yielding to another. The guard of the lock is moved: from the
future of a request into the bundle, and with the bundle into the actor, so that it is where the
work is. A future can be dropped wherever it awaits. What is put on the channel of the actor may be
dropped, or executed later, after other commands.

Of the other commands of the database only puts into the history are modelled: no other one touches
the history or the stored timezone.

## Main definitions

* `GuardHolder`: where the guard is, and what has been prepared.
* `CommitRun`: the engine, as far as its configuration and its timezone are concerned.
* `CommitRun.step`: one step of a party.
* `CommitRun.commits`, `CommitRun.effects`, `CommitRun.changes`: what has happened, for the
  statements about runs.
-/

namespace WeatherApp

/-! ## Requests -/

/-- `TimezoneMigration`. -/
structure TimezoneMigration where
  oldTimezone : String
  newTimezone : String
  rowsRewritten : ℕ
  deriving DecidableEq, Repr

/-- A request for a commit, decoded. -/
inductive CommitRequest where
  | updateConfig (candidate : AppConfig)
  | migrateDbTimezone (newTimezone : String)

/-- What comes of a request. -/
inductive CommitOutcome where
  | updated (result : Except ConfigCommitError AppConfig)
  | migrated (result : Except String TimezoneMigration)
  | updateCancelled
  | migrationCancelled

/-- What comes of a request whose future is dropped. -/
def CommitRequest.cancelled : CommitRequest → CommitOutcome
  | updateConfig _ => .updateCancelled
  | migrateDbTimezone _ => .migrationCancelled

/-- What a commit does to the live configuration. -/
inductive ConfigCommit where
  | replace (config : AppConfig)
  | setTimezone (timezone : String)
  deriving DecidableEq

/-- The configuration after a commit. -/
def ConfigCommit.applyTo (config : AppConfig) : ConfigCommit → AppConfig
  | .replace config => config
  | .setTimezone timezone => config.withTimezone timezone

/-- `DbCommand::MigrateTimezoneBundle`. Its finalizer has the prepared file and the configuration to
apply; there is none where the timezone is the same. -/
structure TimezoneBundle where
  oldTimezone : String
  newTimezone : String
  finalize : Option (String × AppConfig)
  deriving DecidableEq

/-- Who has the guard of the commit lock, and what is next. -/
inductive GuardHolder where
  /-- `commit_config` awaits its prepared file. -/
  | preparingUpdate (candidate : AppConfig)
  /-- The file is prepared; next it replaces the old one. -/
  | persistingUpdate (candidate : AppConfig) (content : String)
  /-- The file is replaced; next is the live configuration. -/
  | applyingUpdate (candidate : AppConfig)
  /-- `migrate_db_timezone` awaits its prepared file. -/
  | preparingMigration (oldTimezone newTimezone : String) (candidate : AppConfig)
  /-- It awaits the admission of its bundle. -/
  | admitting (bundle : TimezoneBundle)
  /-- The bundle is on the channel of the actor. -/
  | queued (bundle : TimezoneBundle)
  /-- The database has been migrated; next is the finalizer. -/
  | finalizing (bundle : TimezoneBundle) (rewritten : ℕ)
  /-- The finalizer has replaced the file; next is the live configuration. -/
  | applyingBundle (bundle : TimezoneBundle) (candidate : AppConfig) (rewritten : ℕ)
  /-- Finalized; next is the marker. -/
  | clearing (bundle : TimezoneBundle) (rewritten : ℕ)
  /-- Next is the callback for a post-commit failure. -/
  | failing (message : String)

namespace GuardHolder

/-- The future of a request has the guard, and can be dropped here. -/
def isAwaiting : GuardHolder → Option CommitOutcome
  | preparingUpdate _ => some .updateCancelled
  | preparingMigration _ _ _ | admitting _ => some .migrationCancelled
  | _ => none

/-- The worker of the database actor is executing the bundle. -/
def isOnWorker : GuardHolder → Bool
  | finalizing _ _ | applyingBundle _ _ _ | clearing _ _ | failing _ => true
  | _ => false

/-- Nothing durable has been done for the request yet. -/
def isBeforeEffect : GuardHolder → Bool
  | preparingUpdate _ | persistingUpdate _ _ | preparingMigration _ _ _ | admitting _ | queued _ =>
    true
  | _ => false

end GuardHolder

/-- A caller that waits for the reply to its bundle, with the reply once it has been sent. -/
structure AwaitedReply where
  oldTimezone : String
  newTimezone : String
  reply : Option (Except String ℕ)

/-! ## The engine -/

/-- The configuration, its file and the database of an engine, with its commit lock and the requests
in progress. -/
structure CommitRun (Tz : Type) where
  state : ConfigState
  file : String
  db : DbInstance Tz
  /-- The request that has the guard of the lock. -/
  guard : Option (ℕ × GuardHolder)
  /-- The requests that wait for the lock, by their number. -/
  waiting : KeyedMap ℕ CommitRequest
  replies : KeyedMap ℕ AwaitedReply
  /-- How many requests there were. -/
  requests : ℕ
  outcomes : List (ℕ × CommitOutcome)
  /-- The post-commit failure for which the engine asked to be restarted; the actor rejects
  everything from then on. -/
  terminal : Option String
  /-- The configuration of the startup. -/
  startup : AppConfig
  /-- The commits so far, each with its request. -/
  commits : List (ℕ × ConfigCommit)
  /-- The requests that have replaced the file or committed in the database. -/
  effects : List ℕ
  /-- What has been committed to the history. -/
  changes : List (HistoryChange Tz)

/-- How the surroundings let the holder of the guard down: a task that fails or panics, an operation
on the file system, an admission or a command that the actor refuses, the storage engine. -/
structure HolderFaults where
  error : Option String
  panics : Bool
  db : FaultPlan

/-- A step of a party. -/
inductive CommitLabel (σ : Type) where
  /-- A request comes in. -/
  | request (request : CommitRequest)
  /-- A request gets the lock, and runs to its next await. -/
  | lock (number : ℕ)
  /-- The next step of the holder of the guard. -/
  | guard (faults : HolderFaults)
  /-- A caller receives the reply to its bundle. -/
  | reply (number : ℕ)
  /-- The future of a request is dropped. -/
  | cancel (number : ℕ)
  /-- The actor executes another command: a put into the history. -/
  | put (snapshot : σ) (fetchedAtUnixMs : ℤ) (faults : FaultPlan)

/-- The text of a database error. -/
def dbErrorText : DbError → String
  | .engine reason => reason
  | .raised error => error

/-- `prepare_config_atomic` in its blocking task: the content of the prepared file. -/
def prepareTask [TomlFormat] (panicContext : String) (faults : HolderFaults) (config : AppConfig) :
    Except String String :=
  match faults.error with
  | some err =>
    if faults.panics then .error s!"{panicContext}: {err}"
    else writeConfigAtomic (some err) config
  | none => writeConfigAtomic none config

/-- `PreparedConfig::persist`. -/
def persistError (path err : String) : String := s!"failed to replace config {path}: {err}"

namespace CommitRun

variable {Tz σ : Type}

/-- An engine after its startup. -/
def start (config : AppConfig) (file : String) (db : DbInstance Tz) : CommitRun Tz where
  state := .new config
  file := file
  db := db
  guard := none
  waiting := .empty
  replies := .empty
  requests := 0
  outcomes := []
  terminal := none
  startup := config
  commits := []
  effects := []
  changes := []

/-- The guard goes on. -/
def hold (s : CommitRun Tz) (number : ℕ) (holder : GuardHolder) : CommitRun Tz :=
  { s with guard := some (number, holder) }

/-- The future that has the guard ends. -/
def finish (s : CommitRun Tz) (number : ℕ) (outcome : CommitOutcome) : CommitRun Tz :=
  { s with guard := none, outcomes := s.outcomes ++ [(number, outcome)] }

/-- `persistence_error`. -/
def persistenceError (s : CommitRun Tz) (number : ℕ) (message : String) : CommitRun Tz :=
  { s.finish number (.updated (.error (.persistence message))) with
    state := s.state.recordError message }

/-- The bundle is dropped after a reply, which is lost if nobody waits for it. -/
def dropBundle (s : CommitRun Tz) (number : ℕ) (reply : Except String ℕ) : CommitRun Tz :=
  { s with
    guard := none
    replies :=
      match s.replies.get number with
      | some awaited => s.replies.set number { awaited with reply := some reply }
      | none => s.replies }

/-- A commit is applied. -/
def applyCommit (s : CommitRun Tz) (number : ℕ) (candidate : AppConfig) (commit : ConfigCommit) :
    CommitRun Tz :=
  { s with state := s.state.apply candidate, commits := s.commits ++ [(number, commit)] }

/-- Nothing is in progress. -/
def Idle (s : CommitRun Tz) : Prop :=
  s.guard = none ∧ (∀ number, s.waiting.get number = none) ∧ ∀ number, s.replies.get number = none

/-- The request on whose behalf a step is taken. -/
def behalf (s : CommitRun Tz) : CommitLabel σ → Option ℕ
  | .request _ => some s.requests
  | .lock number | .reply number | .cancel number => some number
  | .guard _ => s.guard.map Prod.fst
  | .put _ _ _ => none

variable [Environment] [TomlFormat] [TzDatabase Tz]

/-- A request arrives; `handle_migrate_db_timezone` refuses a timezone that is not known. -/
def arrive (s : CommitRun Tz) (request : CommitRequest) : CommitRun Tz :=
  let number := s.requests
  let s := { s with requests := number + 1 }
  match request with
  | .updateConfig _ => { s with waiting := s.waiting.set number request }
  | .migrateDbTimezone newTimezone =>
    match (TzDatabase.fromStr newTimezone : Option Tz) with
    | some _ => { s with waiting := s.waiting.set number request }
    | none =>
      { s with
        outcomes :=
          s.outcomes ++ [(number, .migrated (.error s!"invalid timezone `{newTimezone}`"))] }

/-- `commit_config_with_preparer` from the lock to its next await. -/
def lockUpdate (s : CommitRun Tz) (number : ℕ) (candidate : AppConfig) : CommitRun Tz :=
  let current := s.state.live
  let candidate := (normalizeConfigStations candidate).1
  match validate Tz candidate with
  | .error err => s.finish number (.updated (.error (.invalid err)))
  | .ok () =>
    let restartFields := restartRequiredFields current candidate
    if restartFields ≠ [] then
      s.finish number (.updated (.error (.restartRequired restartFields)))
    else if candidate = current then
      { s.finish number (.updated (.ok current)) with
        commits := s.commits ++ [(number, .replace candidate)] }
    else s.hold number (.preparingUpdate candidate)

/-- `migrate_db_timezone` from the lock to its next await. -/
def lockMigration (s : CommitRun Tz) (number : ℕ) (newTimezone : String) : CommitRun Tz :=
  let current := s.state.live
  let oldTimezone := current.db.timezone
  if oldTimezone = newTimezone then
    s.hold number (.admitting ⟨oldTimezone, newTimezone, none⟩)
  else
    let candidate := current.withTimezone newTimezone
    match withContext "invalid timezone migration config" (validate Tz candidate) with
    | .error err => s.finish number (.migrated (.error err))
    | .ok () => s.hold number (.preparingMigration oldTimezone newTimezone candidate)

variable [DecidableEq Tz]

/-- The actor takes the bundle from the channel: it rejects it after a post-commit failure, drops it
when it closes, or calls `migrate_timezone`. -/
def executeBundle (s : CommitRun Tz) (number : ℕ) (bundle : TimezoneBundle)
    (faults : HolderFaults) : CommitRun Tz :=
  match s.terminal.or faults.error with
  | some err => s.dropBundle number (.error err)
  | none =>
    match s.db.migrateTimezone bundle.oldTimezone bundle.newTimezone faults.db with
    | (.error err, db) => { s.dropBundle number (.error (dbErrorText err)) with db }
    | (.ok rewritten, db) =>
      { s.hold number (.finalizing bundle rewritten) with
        db
        effects := s.effects ++ [number]
        changes :=
          if bundle.oldTimezone = bundle.newTimezone then s.changes
          else s.changes ++ [.migrate db.timezone] }

/-- The next step of the holder of the guard. -/
def holderStep (path : String) (s : CommitRun Tz) (number : ℕ) (faults : HolderFaults) :
    GuardHolder → CommitRun Tz
  | .preparingUpdate candidate =>
    match prepareTask "config prepare task failed" faults candidate with
    | .error err => s.persistenceError number err
    | .ok content => s.hold number (.persistingUpdate candidate content)
  | .persistingUpdate candidate content =>
    match faults.error with
    | some err => s.persistenceError number (persistError path err)
    | none =>
      { s.hold number (.applyingUpdate candidate) with
        file := content
        effects := s.effects ++ [number] }
  | .applyingUpdate candidate =>
    (s.applyCommit number candidate (.replace candidate)).finish number (.updated (.ok candidate))
  | .preparingMigration oldTimezone newTimezone candidate =>
    match prepareTask "timezone config prepare task failed" faults candidate with
    | .error err => s.finish number (.migrated (.error err))
    | .ok content =>
      s.hold number (.admitting ⟨oldTimezone, newTimezone, some (content, candidate)⟩)
  | .admitting bundle =>
    match faults.error with
    | some err => s.finish number (.migrated (.error err))
    | none =>
      { s.hold number (.queued bundle) with
        replies := s.replies.set number ⟨bundle.oldTimezone, bundle.newTimezone, none⟩ }
  | .queued bundle => s.executeBundle number bundle faults
  | .finalizing bundle rewritten =>
    match bundle.finalize with
    | none =>
      { s.hold number (.clearing bundle rewritten) with
        commits := s.commits ++ [(number, .setTimezone bundle.newTimezone)] }
    | some (content, candidate) =>
      match faults.error with
      | some err =>
        s.hold number
          (.failing ("failed to finalize timezone config: " ++ persistError path err))
      | none =>
        { s.hold number (.applyingBundle bundle candidate rewritten) with file := content }
  | .applyingBundle bundle candidate rewritten =>
    match faults.error with
    | some err =>
      s.hold number (.failing
        s!"failed to finalize timezone config: timezone config finalizer panicked: {err}")
    | none =>
      (s.applyCommit number candidate (.setTimezone bundle.newTimezone)).hold number
        (.clearing bundle rewritten)
  | .clearing bundle rewritten =>
    match s.db.clearPendingTimezone bundle.newTimezone faults.db with
    | (.ok (), db) => { s.dropBundle number (.ok rewritten) with db }
    | (.error err, db) =>
      { s.hold number
          (.failing ("failed to clear timezone sync marker: " ++ dbErrorText err)) with db }
  | .failing message =>
    let poison := s!"database actor poisoned after timezone post-commit failure: {message}"
    { s.dropBundle number (.error poison) with
      state := s.state.recordError poison
      terminal := some (s.terminal.getD poison) }

/-- A caller receives its reply. -/
def receive (s : CommitRun Tz) (number : ℕ) : Option (CommitRun Tz) :=
  match s.replies.get number with
  | some ⟨oldTimezone, newTimezone, some reply⟩ =>
    some { s with
      replies := s.replies.remove number
      outcomes := s.outcomes ++
        [(number, .migrated (reply.map fun rows => ⟨oldTimezone, newTimezone, rows⟩))] }
  | _ => none

/-- What comes of the holder of the guard if its future is dropped, if it can be dropped. -/
def droppedGuard (s : CommitRun Tz) (number : ℕ) : Option CommitOutcome :=
  match s.guard with
  | some (holding, holder) => if holding = number then holder.isAwaiting else none
  | none => none

/-- The future of a request is dropped: it leaves the queue of the lock, or drops the guard, or
nobody waits for the reply any more. -/
def cancel (s : CommitRun Tz) (number : ℕ) : Option (CommitRun Tz) :=
  match s.waiting.get number with
  | some request =>
    some { s with
      waiting := s.waiting.remove number
      outcomes := s.outcomes ++ [(number, request.cancelled)] }
  | none =>
    match s.droppedGuard number with
    | some outcome => some (s.finish number outcome)
    | none =>
      match s.replies.get number with
      | some _ =>
        some { s with
          replies := s.replies.remove number
          outcomes := s.outcomes ++ [(number, .migrationCancelled)] }
      | none => none

variable [Sha256] [SnapshotMessage σ]

/-- The actor executes a put. -/
def putHistory (s : CommitRun Tz) (snapshot : σ) (fetchedAtUnixMs : ℤ) (faults : FaultPlan) :
    CommitRun Tz :=
  match s.db.putHistorySnapshot snapshot fetchedAtUnixMs faults,
      historyRow s.db.timezone snapshot fetchedAtUnixMs with
  | (.ok _, db), .ok row => { s with db, changes := s.changes ++ [.put row] }
  | (_, db), _ => { s with db }

/-- One step. -/
def step (path : String) (s : CommitRun Tz) : CommitLabel σ → Option (CommitRun Tz)
  | .request request => some (s.arrive request)
  | .lock number =>
    match s.guard, s.waiting.get number with
    | none, some request =>
      let s := { s with waiting := s.waiting.remove number }
      match request with
      | .updateConfig candidate => some (s.lockUpdate number candidate)
      | .migrateDbTimezone newTimezone => some (s.lockMigration number newTimezone)
    | _, _ => none
  | .guard faults =>
    match s.guard with
    | some (number, holder) => some (s.holderStep path number faults holder)
    | none => none
  | .reply number => s.receive number
  | .cancel number => s.cancel number
  | .put snapshot fetchedAtUnixMs faults =>
    -- the worker executes one command at a time, and none after a post-commit failure
    if s.guard.any (fun held => held.2.isOnWorker) || s.terminal.isSome then none
    else some (s.putHistory snapshot fetchedAtUnixMs faults)

end CommitRun

end WeatherApp
