import WeatherApp.Foundation.KeyedTable
import WeatherApp.Foundation.Transaction
import WeatherApp.Schema.Station
import WeatherApp.Schema.Time

/-!
# The database

The tables of `weather-db` (`migration.rs`, `apply_initial_schema`) with their primary keys,
and the open connection `DbInstance` (`storage.rs`). Columns that no modelled function reads
(`updated_at_unix_ms` of the catalog and state tables) and the fetch log are left out.

A text column compares as SQLite's `BINARY` collation does, byte by byte in UTF-8, which is
the order of Lean's strings.
-/

namespace WeatherApp

/-- `SCHEMA_VERSION`. -/
def schemaVersion : String := "weather.schema.v1"

/-- A row of `weather_snapshots_history`. -/
structure HistoryRow where
  unifiedUuid : String
  date : String
  snapshotSchemaVersion : String
  snapshotProto : List UInt8
  fetchedAtUnixMs : ℤ
  deriving DecidableEq, Repr

/-- `PRIMARY KEY(unified_uuid, date)`. -/
def HistoryRow.key (row : HistoryRow) : String × String := (row.unifiedUuid, row.date)

/-- A row of `provider_provinces`. -/
structure ProvinceRow where
  provider : String
  providerCode : String
  name : String
  url : String
  deriving DecidableEq, Repr

/-- `PRIMARY KEY(provider, provider_code)`. -/
def ProvinceRow.key (row : ProvinceRow) : String × String := (row.provider, row.providerCode)

/-- A row of `provider_cities`. -/
structure CityRow where
  provider : String
  providerCode : String
  providerProvinceCode : String
  province : String
  city : String
  url : String
  deriving DecidableEq, Repr

/-- `PRIMARY KEY(provider, provider_code)`: the key spans all province scopes. -/
def CityRow.key (row : CityRow) : String × String := (row.provider, row.providerCode)

/-- `CHECK(catalog_kind IN ('provinces', 'cities'))`. -/
inductive CatalogKind where
  | provinces
  | cities
  deriving DecidableEq, Repr

/-- The column text of a catalog kind. -/
def CatalogKind.text : CatalogKind → String
  | provinces => "provinces"
  | cities => "cities"

/-- A row of `catalog_cache_state`. -/
structure CatalogStateRow where
  provider : String
  catalogKind : CatalogKind
  scope : String
  fetchedAtUnixMs : ℤ
  rowCount : ℤ
  deriving DecidableEq, Repr

/-- `PRIMARY KEY(provider, catalog_kind, scope)`. -/
def CatalogStateRow.key (row : CatalogStateRow) : String × CatalogKind × String :=
  (row.provider, row.catalogKind, row.scope)

/-- A row of `provider_station_mappings`; `ProviderStation` in `actor.rs`. -/
structure ProviderStation where
  providerName : String
  displayName : String
  providerStationId : String
  providerProvinceCode : String
  province : String
  city : String
  url : String
  name : String
  unifiedUuid : String
  deriving DecidableEq, Repr

/-- `PRIMARY KEY(provider, display_name)`. -/
def ProviderStation.key (row : ProviderStation) : String × String :=
  (row.providerName, row.displayName)

/-- A row of `engine_state`. -/
structure EngineStateRow where
  key : String
  value : String
  deriving DecidableEq, Repr

/-- `HISTORY_TABLE_SQL`. -/
def historyTableSql : String :=
  "CREATE TABLE weather_snapshots_history(\n" ++
  "    unified_uuid TEXT NOT NULL CHECK(length(trim(unified_uuid)) > 0),\n" ++
  "    date TEXT NOT NULL,\n    snapshot_schema_version TEXT NOT NULL,\n" ++
  "    snapshot_proto BLOB NOT NULL,\n    fetched_at_unix_ms INTEGER NOT NULL,\n" ++
  "    PRIMARY KEY(unified_uuid, date)\n)"

/-- `HISTORY_INDEX_SQL`. -/
def historyIndexSql : String :=
  "CREATE INDEX idx_history_uuid_fetched\n" ++
  "    ON weather_snapshots_history(unified_uuid, fetched_at_unix_ms DESC)"

/-- What `sqlite_schema` says about the history table: the statements that created the table
and its index, and the kind and name of every other object that mentions the table. -/
structure HistorySchema where
  tableSql : Option String
  indexSql : Option String
  otherObjects : List (String × String)
  deriving DecidableEq, Repr

/-- The schema `create_history_table` and `create_history_index` produce. -/
def HistorySchema.canonical : HistorySchema := ⟨some historyTableSql, some historyIndexSql, []⟩

/-- The tables of the database file. -/
structure Tables where
  historySchema : HistorySchema
  history : KeyedTable HistoryRow.key
  provinces : KeyedTable ProvinceRow.key
  cities : KeyedTable CityRow.key
  catalogState : KeyedTable CatalogStateRow.key
  mappings : KeyedTable ProviderStation.key
  engineState : KeyedTable EngineStateRow.key
  deriving DecidableEq

/-- The tables `apply_initial_schema` creates. -/
def Tables.initial : Tables :=
  ⟨.canonical, .empty, .empty, .empty, .empty, .empty, .empty⟩

/-- An open database: the connection's tables and the timezone kept in memory. -/
structure DbInstance (Tz : Type) where
  tables : Tables
  timezone : Tz
  deriving DecidableEq

/-- Why a database call failed: SQLite rejected a statement, or the code raised an error with
this text. -/
abbrev DbError := TxError String

/-- A computation over the tables. -/
abbrev DbTx (α : Type) := Tx String Tables α

/-- `DB_TIMEZONE_KEY`. -/
def dbTimezoneKey : String := "db_timezone"

/-- `TIMEZONE_SYNC_PENDING_KEY`. -/
def timezoneSyncPendingKey : String := "timezone_config_sync_pending"

namespace Tables

/-- `SELECT value FROM engine_state WHERE key = ?1`. -/
def engineValue (tables : Tables) (key : String) : Option String :=
  (tables.engineState.lookup key).map (·.value)

/-- Write a value into `engine_state`, replacing the one stored under the key. -/
def setEngineValue (tables : Tables) (key value : String) : Tables :=
  { tables with engineState := tables.engineState.upsert ⟨key, value⟩ fun _ => true }

/-- `DELETE FROM engine_state WHERE key = ?1`. -/
def deleteEngineValue (tables : Tables) (key : String) : Tables :=
  { tables with engineState := tables.engineState.deleteWhere fun row => row.key = key }

/-- The stored timezone. -/
abbrev storedTimezone (tables : Tables) : Option String := tables.engineValue dbTimezoneKey

/-- The marker of a timezone change whose config file is not confirmed yet. -/
abbrev pendingTimezone (tables : Tables) : Option String :=
  tables.engineValue timezoneSyncPendingKey

theorem engineValue_eq_some_iff {tables : Tables} {key value : String} :
    tables.engineValue key = some value ↔ ⟨key, value⟩ ∈ tables.engineState := by
  constructor
  · intro h
    obtain ⟨row, hrow, rfl⟩ := Option.map_eq_some_iff.1 h
    obtain ⟨hmem, rfl⟩ := KeyedTable.lookup_eq_some_iff.1 hrow
    exact hmem
  · intro h
    have hrow : tables.engineState.lookup key = some ⟨key, value⟩ :=
      KeyedTable.lookup_eq_some_iff.2 ⟨h, rfl⟩
    rw [engineValue, hrow, Option.map_some]

/-- A written value is read back. -/
@[simp]
theorem engineValue_setEngineValue (tables : Tables) (key value : String) :
    (tables.setEngineValue key value).engineValue key = some value := by
  rw [engineValue_eq_some_iff, setEngineValue, KeyedTable.mem_upsert_true]
  exact Or.inr rfl

/-- Writing one key leaves the values under the other keys. -/
theorem engineValue_setEngineValue_of_ne {tables : Tables} {key key' value : String}
    (h : key' ≠ key) :
    (tables.setEngineValue key value).engineValue key' = tables.engineValue key' := by
  ext value'
  rw [engineValue_eq_some_iff, engineValue_eq_some_iff, setEngineValue,
    KeyedTable.mem_upsert_true]
  simp [h]

@[simp]
theorem engineValue_deleteEngineValue (tables : Tables) (key : String) :
    (tables.deleteEngineValue key).engineValue key = none := by
  cases h : (tables.deleteEngineValue key).engineValue key with
  | none => rfl
  | some value =>
    rw [engineValue_eq_some_iff, deleteEngineValue, KeyedTable.mem_deleteWhere] at h
    simp at h

theorem engineValue_deleteEngineValue_of_ne {tables : Tables} {key key' : String}
    (h : key' ≠ key) :
    (tables.deleteEngineValue key).engineValue key' = tables.engineValue key' := by
  ext value'
  rw [engineValue_eq_some_iff, engineValue_eq_some_iff, deleteEngineValue,
    KeyedTable.mem_deleteWhere]
  simp [h]

@[simp]
theorem history_setEngineValue (tables : Tables) (key value : String) :
    (tables.setEngineValue key value).history = tables.history := rfl

@[simp]
theorem history_deleteEngineValue (tables : Tables) (key : String) :
    (tables.deleteEngineValue key).history = tables.history := rfl

end Tables

end WeatherApp
