import WeatherApp.Db.Tables
import WeatherApp.Foundation.Serde
import WeatherApp.Foundation.SortedMap
import WeatherApp.Foundation.TransactionSequence

/-!
# The runner of schema migrations

`run_migrations` of `db/src/migration.rs` brings a database to the latest version: it checks the
registry and the recorded history, and takes the missing migrations one after the other, each in a
transaction together with its record. What a database holds besides the history is a parameter.

## Main definitions

* `Migration`: a migration of the registry, with any effect on the database.
* `validateAvailable`, `validateApplied`: the checks of the registry and of the history.
* `runMigrations`: the runner, under any failures of the storage engine.
* `migrations`: the registry, with the names of the tables for the rest of a database.

## Main results

* `validateAvailable_split`: the versions of a registry that is accepted.
* `validateApplied_iff`: the histories that are accepted are the prefixes of the registry.
-/

namespace WeatherApp

namespace SchemaMigration

/-! ## The database -/

/-- A row of `schema_migrations`, without its version. -/
structure StoredMigration where
  name : String
  appliedAtUnixMs : ℤ
  deriving DecidableEq, Repr

/-- The rows of `schema_migrations`, by their versions. -/
abbrev History := SortedMap ℤ StoredMigration

/-- A database: the history, if there is such a table, and everything else. -/
structure Database (Rest : Type) where
  history : Option History
  rest : Rest

/-- The names of the tables in the rest of a database. -/
class OtherTables (Rest : Type) where
  tables : Rest → List String
  history_not_mem : ∀ rest, "schema_migrations" ∉ tables rest

/-- `LIKE 'sqlite_%'`: the case of letters does not count, and `_` stands for any character. -/
def isSqliteName (name : String) : Bool :=
  (name.toList.take 6).map Char.toLower = "sqlite".toList ∧ 7 ≤ name.toList.length

/-- `AppliedMigration`. -/
structure AppliedMigration where
  version : ℤ
  name : String
  deriving DecidableEq, Repr

/-- `Migration`. A failure of the storage engine makes it fail, and does nothing else. -/
structure Migration (Rest : Type) where
  version : ℤ
  name : String
  apply : Tx String (Database Rest) Unit
  steady : apply.Steady

variable {Rest : Type}

/-- The version and the name of a migration, as they are recorded. -/
def Migration.applied (migration : Migration Rest) : AppliedMigration :=
  ⟨migration.version, migration.name⟩

/-- The rows of `load_applied`, in the order of their versions. -/
def loadApplied (history : History) : List AppliedMigration :=
  history.entries.map fun (version, row) => ⟨version, row.name⟩

/-- What is recorded, if there is a history. -/
def Database.recorded (db : Database Rest) : Option (List AppliedMigration) :=
  db.history.map loadApplied

/-- `user_tables`. -/
def userTables [OtherTables Rest] (db : Database Rest) : List String :=
  ((if db.history.isSome then ["schema_migrations"] else []) ++ OtherTables.tables db.rest).filter
    (fun table => ¬ isSqliteName table) |>.mergeSort (· ≤ ·)

/-- `INSERT INTO schema_migrations`. The version and the name are unique. -/
def Database.insertMigration (migration : Migration Rest) (appliedAtUnixMs : ℤ)
    (db : Database Rest) : Except String (Unit × Database Rest) :=
  match db.history with
  | none => .error "no such table: schema_migrations"
  | some rows =>
    if migration.version ∈ rows.entries.map (·.1) then
      .error "UNIQUE constraint failed: schema_migrations.version"
    else if migration.name ∈ rows.entries.map (·.2.name) then
      .error "UNIQUE constraint failed: schema_migrations.name"
    else
      let row : StoredMigration := ⟨migration.name, appliedAtUnixMs⟩
      .ok (⟨⟩, { db with history := some (rows.insert migration.version row) })

/-! ## The checks -/

/-- The greatest `i64`. -/
def maxI64 : ℤ := 2 ^ 63 - 1

/-- `i64::try_from(index + 1)`. -/
def expectedVersion (index : ℕ) : Except String ℤ :=
  if (index + 1 : ℤ) ≤ maxI64 then .ok (index + 1) else .error "migration index overflow"

/-- The loop of `validate_available`. -/
def validateAvailableFrom : ℕ → List (Migration Rest) → Except String Unit
  | _, [] => .ok ⟨⟩
  | index, migration :: rest => do
    let expectedVersion ← expectedVersion index
    if migration.version ≠ expectedVersion then
      .error (s!"migration registry has a gap: expected version {expectedVersion}, " ++
        s!"found {migration.version}")
    else if trim migration.name = "" then
      .error s!"migration {expectedVersion} has an empty name"
    else validateAvailableFrom (index + 1) rest

/-- `validate_available`. -/
def validateAvailable (available : List (Migration Rest)) : Except String Unit :=
  validateAvailableFrom 0 available

/-- The loop of `validate_applied`. -/
def validateAppliedFrom (available : List (Migration Rest)) (latest : ℤ) :
    ℕ → List AppliedMigration → Except String Unit
  | _, [] => .ok ⟨⟩
  | index, record :: applied => do
    let expectedVersion ← expectedVersion index
    if record.version > latest then
      .error (s!"database migration version {record.version} is newer than supported version " ++
        s!"{latest}")
    else if record.version ≠ expectedVersion then
      .error (s!"database migration history has a gap: expected version {expectedVersion}, " ++
        s!"found {record.version}")
    else
      match available.find? fun migration => migration.version = record.version with
      | none => .error s!"migration version {record.version} is not supported"
      | some expected =>
        if record.name ≠ expected.name then
          .error (s!"database migration {record.version} name mismatch: stored `{record.name}`, " ++
            s!"expected `{expected.name}`")
        else validateAppliedFrom available latest (index + 1) applied

/-- `validate_applied`. -/
def validateApplied (applied : List AppliedMigration) (available : List (Migration Rest)) :
    Except String Unit :=
  let latest := (available.getLast?.map (·.version)).getD 0
  validateAppliedFrom available latest 0 applied

/-! ## The runner -/

/-- `with_context`, for the errors of a computation on the database. -/
def withErrorContext (context : String) : TxError String → TxError String
  | .engine reason => .engine s!"{context}: {reason}"
  | .raised error => .raised s!"{context}: {error}"

/-- `run_one`: the transaction is dropped, and so rolled back, when one of its steps fails. -/
def runOne (faults : FaultPlan) (nowUnixMs : ℤ) (migration : Migration Rest) :
    Database Rest → StepResult DbError (Database Rest) :=
  atomically (do
    (Tx.execute id).mapError (withErrorContext s!"failed to begin migration {migration.name}")
    migration.apply.mapError (withErrorContext s!"failed to apply migration {migration.name}")
    (Tx.statement (Database.insertMigration migration nowUnixMs)).mapError
      (withErrorContext s!"failed to record migration {migration.name}")
    (Tx.execute id).mapError (withErrorContext s!"failed to commit migration {migration.name}"))
    faults

/-- What the storage engine fails in a run: the list of the tables, the history, and statements of
the migrations. -/
structure RunFaults where
  tables : Option String
  history : Option String
  migrations : ℤ → FaultPlan

/-- The run in which the storage engine fails nothing. -/
def RunFaults.none : RunFaults := ⟨.none, .none, fun _ => noFaults⟩

/-- The loop of `run_migrations`. The clock tells when a version is recorded. -/
def runPending (faults : RunFaults) (clock : ℤ → ℤ) :
    List (Migration Rest) → Database Rest → StepResult DbError (Database Rest) :=
  runAll fun migration => runOne (faults.migrations migration.version) (clock migration.version)
    migration

/-- The history that `run_migrations` reads: none only in a database without tables. -/
def readHistory [OtherTables Rest] (faults : RunFaults) (db : Database Rest) :
    Except DbError (List AppliedMigration) :=
  match faults.tables with
  | some reason => .error (.engine reason)
  | none =>
    let tables := userTables db
    if tables.any (· = "schema_migrations") then
      match faults.history with
      | some reason =>
        .error (.engine s!"failed to read database migration history: {reason}")
      | none =>
        let applied := (db.history.map loadApplied).getD []
        if applied.isEmpty then
          .error (.raised ("database has an empty migration history; " ++
            "remove the pre-release database and restart"))
        else .ok applied
    else if ¬ tables.isEmpty then
      .error (.raised ("database is non-empty but has no migration history; " ++
        "remove the pre-release database and restart"))
    else .ok []

/-- `run_migrations`. -/
def runMigrations [OtherTables Rest] (faults : RunFaults) (clock : ℤ → ℤ)
    (available : List (Migration Rest)) (db : Database Rest) :
    StepResult DbError (Database Rest) :=
  match validateAvailable available with
  | .error error => (.error (.raised error), db)
  | .ok _ =>
    match readHistory faults db with
    | .error error => (.error error, db)
    | .ok applied =>
      match validateApplied applied available with
      | .error error => (.error (.raised error), db)
      | .ok _ => runPending faults clock (available.drop applied.length) db

/-! ## The registry -/

/-- The name of a table other than the history. -/
abbrev TableName := {name : String // name ≠ "schema_migrations"}

instance : OtherTables (List TableName) where
  tables names := names.map (·.val)
  history_not_mem names hmem := by
    obtain ⟨name, -, hname⟩ := List.mem_map.1 hmem
    exact name.property hname

/-- `CREATE TABLE schema_migrations`. -/
def createHistory : Tx String (Database Rest) Unit := Tx.statement fun db =>
  match db.history with
  | some _ => .error "table schema_migrations already exists"
  | none => .ok (⟨⟩, { db with history := some .empty })

/-- `CREATE TABLE`, for other tables. -/
def createTable (name : TableName) : Tx String (List TableName) Unit := Tx.statement fun names =>
  if name ∈ names then .error s!"table {name} already exists" else .ok (⟨⟩, names ++ [name])

/-- A computation on the rest of a database. -/
def onRest (tx : Tx String Rest Unit) : Tx String (Database Rest) Unit := fun faults (n, db) =>
  (tx faults (n, db.rest)).map fun (a, n, rest) => (a, n, { db with rest })

theorem steady_onRest {tx : Tx String Rest Unit} (h : tx.Steady) : (onRest tx).Steady := by
  rintro ⟨history, rest⟩ a db' ⟨faults, n, n', hrun⟩
  simp only [onRest] at hrun
  cases hresult : tx faults (n, rest) with
  | error error =>
    rw [hresult] at hrun
    cases hrun
  | ok result =>
    obtain ⟨b, m, rest'⟩ := result
    rw [hresult] at hrun
    cases hrun
    intro start
    obtain ⟨stop, hstop⟩ := h ⟨faults, n, _, hresult⟩ start
    exact ⟨stop, by simp only [onRest, hstop, Except.map]⟩

/-- The tables of the initial schema besides the history. -/
def initialTables : List TableName :=
  [⟨"provider_provinces", by decide⟩, ⟨"provider_cities", by decide⟩,
    ⟨"catalog_cache_state", by decide⟩, ⟨"provider_station_mappings", by decide⟩,
    ⟨"upstream_fetch_log", by decide⟩, ⟨"engine_state", by decide⟩,
    ⟨"weather_snapshots_history", by decide⟩]

/-- `apply_initial_schema`. -/
def applyInitialSchema : Tx String (Database (List TableName)) Unit := do
  createHistory
  onRest (initialTables.forM createTable)

theorem steady_applyInitialSchema : applyInitialSchema.Steady :=
  (Tx.steady_statement _).bind fun _ =>
    steady_onRest (Tx.steady_forM (fun _ => Tx.steady_statement _) _)

/-- `MIGRATIONS`. -/
def migrations : List (Migration (List TableName)) :=
  [⟨1, "0001_initial_schema", applyInitialSchema, steady_applyInitialSchema⟩]

/-! ## What the checks accept -/

/-- The versions of a registry that is accepted, from an index on. -/
theorem expectedVersion_of_split {index : ℕ} {available : List (Migration Rest)}
    (h : validateAvailableFrom index available = .ok ⟨⟩) {before after : List (Migration Rest)}
    {migration : Migration Rest} (hsplit : available = before ++ migration :: after) :
    expectedVersion (index + before.length) = .ok migration.version := by
  induction before generalizing index available with
  | nil =>
    subst hsplit
    obtain ⟨expected, hexpected, hrest⟩ := Serde.bind_eq_ok.1 h
    split_ifs at hrest with hversion
    rw [not_not] at hversion
    rw [List.length_nil, Nat.add_zero, hexpected, hversion]
  | cons first before ih =>
    subst hsplit
    obtain ⟨expected, -, hrest⟩ := Serde.bind_eq_ok.1 h
    split_ifs at hrest
    have hshift : index + (first :: before).length = index + 1 + before.length := by
      rw [List.length_cons]
      omega
    rw [hshift]
    exact ih hrest rfl

theorem expectedVersion_eq_ok {index : ℕ} {version : ℤ} (h : expectedVersion index = .ok version) :
    version = index + 1 := by
  simp only [expectedVersion] at h
  split_ifs at h
  exact (Except.ok.inj h).symm

section Registry

variable {available : List (Migration Rest)} (hvalid : validateAvailable available = .ok ⟨⟩)
include hvalid

/-- The version of a migration is its place in the registry. -/
theorem version_of_split {before after : List (Migration Rest)} {migration : Migration Rest}
    (hsplit : available = before ++ migration :: after) :
    migration.version = before.length + 1 := by
  have hexpected := expectedVersion_of_split hvalid hsplit
  rw [Nat.zero_add] at hexpected
  exact expectedVersion_eq_ok hexpected

/-- The versions of the migrations before a place are below that place. -/
theorem version_le_of_mem {before after : List (Migration Rest)}
    (hsplit : available = before ++ after) {migration : Migration Rest}
    (hmem : migration ∈ before) : migration.version ≤ before.length := by
  obtain ⟨first, second, rfl⟩ := List.append_of_mem hmem
  have hplace : available = first ++ migration :: (second ++ after) := by
    rw [hsplit, List.append_assoc, List.cons_append]
  have hversion := version_of_split hvalid hplace
  rw [hversion, List.length_append, List.length_cons]
  omega

/-- The greatest version of the registry is its length. -/
theorem latest_eq : (available.getLast?.map (·.version)).getD 0 = available.length := by
  rcases List.eq_nil_or_concat available with hnil | ⟨before, migration, hconcat⟩
  · rw [hnil]
    rfl
  · have hplace : available = before ++ [migration] := by
      rw [hconcat, List.concat_eq_append]
    have hversion := version_of_split hvalid hplace
    rw [hconcat, List.concat_eq_append, List.getLast?_append_of_ne_nil _ (List.cons_ne_nil _ _),
      List.length_append]
    simpa using hversion

/-- A migration is found by its version. -/
theorem find?_version {before after : List (Migration Rest)} {migration : Migration Rest}
    (hsplit : available = before ++ migration :: after) :
    (available.find? fun other => decide (other.version = migration.version)) = some migration := by
  have hversion := version_of_split hvalid hsplit
  have hbefore : before.find? (fun other => decide (other.version = migration.version)) = none := by
    rw [List.find?_eq_none]
    intro other hother
    have hle := version_le_of_mem hvalid hsplit hother
    simp only [decide_eq_true_eq]
    omega
  rw [hsplit, List.find?_append, hbefore, Option.none_or, List.find?_cons_of_pos (by simp)]

/-- The histories that are accepted are the prefixes of the registry, from an index on. -/
theorem validateAppliedFrom_iff (applied : List AppliedMigration)
    {before rest : List (Migration Rest)} (hsplit : available = before ++ rest) :
    validateAppliedFrom available available.length before.length applied = .ok ⟨⟩ ↔
      applied <+: rest.map Migration.applied := by
  induction applied generalizing before rest with
  | nil => exact iff_of_true rfl List.nil_prefix
  | cons record applied ih =>
    cases rest with
    | nil =>
      -- the version would be beyond the registry
      refine iff_of_false (fun h => ?_) (by simp)
      obtain ⟨expected, hexpected, hrest⟩ := Serde.bind_eq_ok.1 h
      obtain rfl := expectedVersion_eq_ok hexpected
      split_ifs at hrest with hnewer hgap
      rw [hsplit, List.append_nil] at hnewer
      omega
    | cons migration rest =>
      have hexpected := expectedVersion_of_split hvalid hsplit
      rw [Nat.zero_add] at hexpected
      have hversion := version_of_split hvalid hsplit
      have hplace : available = before ++ [migration] ++ rest := by simpa using hsplit
      have hnext := ih hplace
      rw [List.length_append, List.length_singleton] at hnext
      rw [List.map_cons, List.cons_prefix_cons, ← hnext, validateAppliedFrom, hexpected]
      show (if record.version > available.length then _ else _) = _ ↔ _
      constructor
      · intro h
        split_ifs at h with hnewer hgap
        rw [not_not] at hgap
        rw [hgap, find?_version hvalid hsplit] at h
        dsimp only at h
        split_ifs at h with hname
        rw [not_not] at hname
        refine ⟨?_, h⟩
        cases record
        exact congrArg₂ AppliedMigration.mk hgap hname
      · rintro ⟨rfl, h⟩
        have hle : ¬ migration.applied.version > available.length := by
          show ¬ migration.version > available.length
          rw [hversion, hsplit, List.length_append, List.length_cons]
          omega
        have hfind : (available.find? fun other =>
            decide (other.version = migration.applied.version)) = some migration :=
          find?_version hvalid hsplit
        have hgap : ¬ migration.applied.version ≠ migration.version := not_not.2 rfl
        have hname : ¬ migration.applied.name ≠ migration.name := not_not.2 rfl
        rw [if_neg hle, if_neg hgap, hfind]
        dsimp only
        rw [if_neg hname]
        exact h

/-- The histories that are accepted are the prefixes of the registry. -/
theorem validateApplied_iff (applied : List AppliedMigration) :
    validateApplied applied available = .ok ⟨⟩ ↔ applied <+: available.map Migration.applied := by
  rw [validateApplied, latest_eq hvalid]
  exact validateAppliedFrom_iff hvalid applied (List.nil_append available).symm

end Registry

end SchemaMigration

end WeatherApp
