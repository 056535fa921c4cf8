import WeatherApp.Conf.Load
import WeatherApp.Conf.Wire
import WeatherApp.Foundation.Run
import WeatherApp.Schema.Rpc

/-!
# Reading and updating the configuration

The engine's live configuration (`conf/src/state.rs`) and the handlers of
`engine/src/handlers/config.rs` and `engine/src/handlers/migrate_tz.rs` that read and change it.
Changes are made one after the other under a lock; what they do to the file is recorded.

## Main definitions

* `ConfigState`, `ConfigStore`: the live configuration and the file.
* `commitConfig`: `commit_config_with_preparer`.
* `handleGetConfig`, `handleUpdateConfig`: the handlers, on decoded messages.
* `configSystem`: an engine from its startup on, under any requests.
-/

namespace WeatherApp

/-! ## The live configuration -/

/-- `ConfigState`: the live configuration, the last error, and what has been sent to the
subscribers. -/
structure ConfigState where
  live : AppConfig
  lastError : Option String
  sent : List AppConfig
  deriving DecidableEq, Repr

namespace ConfigState

/-- `ConfigState::new`. -/
def new (config : AppConfig) : ConfigState := ⟨config, none, []⟩

/-- `apply`. -/
def apply (state : ConfigState) (config : AppConfig) : ConfigState :=
  ⟨config, none, state.sent ++ [config]⟩

/-- `record_error`. -/
def recordError (state : ConfigState) (err : String) : ConfigState :=
  { state with lastError := some err }

end ConfigState

/-- The configuration of an engine: its state, and what its file has been replaced with. -/
structure ConfigStore where
  state : ConfigState
  persisted : List AppConfig
  deriving DecidableEq, Repr

/-! ## Updates -/

/-- How `prepare_config_atomic` ends in its blocking task: it has prepared a file, which then
replaces the old one or not, or it fails. -/
inductive Prepare where
  | prepared (persist : Except String Unit)
  | failed (err : String)
  | panicked (err : String)

/-- `ConfigCommitError`. -/
inductive ConfigCommitError where
  | invalid (message : String)
  | restartRequired (fields : List String)
  | persistence (message : String)
  deriving DecidableEq, Repr

/-- `restart_required_message`. -/
def restartRequiredMessage (fields : List String) : String :=
  "configuration changes require an engine restart: " ++ ", ".intercalate fields

namespace ConfigStore

/-- `persistence_error`. -/
def persistenceError (store : ConfigStore) (message : String) :
    Except ConfigCommitError AppConfig × ConfigStore :=
  (.error (.persistence message), { store with state := store.state.recordError message })

/-- The replaced file and the matching live configuration. -/
def commit (store : ConfigStore) (config : AppConfig) : ConfigStore :=
  ⟨store.state.apply config, store.persisted ++ [config]⟩

variable [Environment] (Tz : Type) [TzDatabase Tz]

/-- `commit_config_with_preparer`, from the lock on. -/
def commitConfig (store : ConfigStore) (candidate : AppConfig) (prepare : AppConfig → Prepare) :
    Except ConfigCommitError AppConfig × ConfigStore :=
  let current := store.state.live
  let candidate := (normalizeConfigStations candidate).1
  match validate Tz candidate with
  | .error err => (.error (.invalid err), store)
  | .ok () =>
    let restartFields := restartRequiredFields current candidate
    if restartFields ≠ [] then (.error (.restartRequired restartFields), store)
    else if candidate = current then (.ok current, store)
    else
      match prepare candidate with
      | .failed err => store.persistenceError err
      | .panicked err => store.persistenceError s!"config prepare task failed: {err}"
      | .prepared (.error err) => store.persistenceError err
      | .prepared (.ok ()) => (.ok candidate, store.commit candidate)

/-- The part of `migrate_db_timezone` that changes the configuration: after the database has
migrated, the file is replaced and the configuration applied, or the error is recorded. -/
def commitTimezone (store : ConfigStore) (timezone : String) (persist : Except String Unit) :
    ConfigStore :=
  let current := store.state.live
  let candidate := current.withTimezone timezone
  if current.db.timezone = timezone then store
  else
    match validate Tz candidate, persist with
    | .error _, _ => store
    | .ok (), .error err => { store with state := store.state.recordError err }
    | .ok (), .ok () => store.commit candidate

end ConfigStore

/-! ## Handlers -/

/-- `GetConfigRequest`. -/
structure GetConfigRequest where
  defaults : Bool

/-- `GetConfigResponse`. -/
structure GetConfigResponse where
  config : Option Wire.AppConfig
  deriving DecidableEq, Repr

/-- `UpdateConfigRequest`. -/
structure UpdateConfigRequest where
  config : Option Wire.AppConfig

/-- `UpdateConfigResponse`. -/
structure UpdateConfigResponse where
  config : Option Wire.AppConfig
  deriving DecidableEq, Repr

/-- What a handler answers: an ok response with its payload, or an error response. -/
abbrev HandlerAnswer (α : Type) := Except (RpcErrorCode × String) α

/-- `handle_get_config`, on the outcome of decoding the payload. -/
def handleGetConfig (store : ConfigStore) (decoded : Except String GetConfigRequest) :
    HandlerAnswer GetConfigResponse :=
  match decoded with
  | .error err => .error (.badRequest, err)
  | .ok req =>
    let config := if req.defaults then AppConfig.default else store.state.live
    .ok ⟨some config.toWire⟩

section Handlers

variable [Environment] (Tz : Type) [TzDatabase Tz]

/-- The response to the outcome of `commit_config`. -/
def updateAnswer : Except ConfigCommitError AppConfig → HandlerAnswer UpdateConfigResponse
  | .ok config => .ok ⟨some config.toWire⟩
  | .error (.invalid message) => .error (.badRequest, message)
  | .error (.restartRequired fields) => .error (.restartRequired, restartRequiredMessage fields)
  | .error (.persistence message) => .error (.config, message)

/-- `handle_update_config`, on the outcome of decoding the payload. -/
def handleUpdateConfig (store : ConfigStore) (decoded : Except String UpdateConfigRequest)
    (prepare : AppConfig → Prepare) : HandlerAnswer UpdateConfigResponse × ConfigStore :=
  match decoded with
  | .error err => (.error (.badRequest, err), store)
  | .ok req =>
    match req.config with
    | none => (.error (.badRequest, "missing config field"), store)
    | some schemaConfig =>
      let (result, store) := store.commitConfig Tz schemaConfig.toConfig prepare
      (updateAnswer result, store)

/-! ## Runs -/

/-- What happens to the configuration of an engine. -/
inductive ConfigLabel where
  /-- An `UPDATE_CONFIG` request is handled. -/
  | updateConfig (decoded : Except String UpdateConfigRequest) (prepare : AppConfig → Prepare)
  /-- An `UPDATE_CONFIG` request is dropped before its file has been prepared. -/
  | cancelUpdate
  /-- A timezone migration of the database has been committed. -/
  | migrateTimezone (timezone : String) (persist : Except String Unit)

/-- A step of the configuration. -/
def ConfigStore.step (store : ConfigStore) : ConfigLabel → ConfigStore
  | .updateConfig decoded prepare => (handleUpdateConfig Tz store decoded prepare).2
  | .cancelUpdate => store
  | .migrateTimezone timezone persist => store.commitTimezone Tz timezone persist

/-- The configuration an engine starts with: what `load_for_engine_startup` returns, unless
`recover_pending_timezone` gives it the timezone that the database has been migrated to. -/
def Started [TomlFormat] (config : AppConfig) : Prop :=
  ∃ path file fault loaded written,
    loadForEngineStartup Tz path file fault = .ok (loaded, written) ∧
      (config = loaded ∨
        ∃ timezone, config = loaded.withTimezone timezone ∧ validate Tz config = .ok ⟨⟩)

/-- The configuration of an engine from its startup on. -/
def configSystem [TomlFormat] : LabelledSystem ConfigStore ConfigLabel where
  init store := ∃ config, Started Tz config ∧ store = ⟨.new config, []⟩
  step store label store' := store.step Tz label = store'

/-- The configuration of an engine under `UPDATE_CONFIG` requests only, from one that
`load_for_engine_startup` returns. -/
def updateSystem [TomlFormat] (startup : AppConfig) : LabelledSystem ConfigStore ConfigLabel where
  init store := (∃ path file fault written,
    loadForEngineStartup Tz path file fault = .ok (startup, written)) ∧ store = ⟨.new startup, []⟩
  step store label store' :=
    store.step Tz label = store' ∧ ∀ timezone persist, label ≠ .migrateTimezone timezone persist

end Handlers

end WeatherApp
