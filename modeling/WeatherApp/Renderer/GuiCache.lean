import WeatherApp.Engine.WeatherSystem
import WeatherApp.Foundation.KeyedTable
import WeatherApp.Foundation.Transaction

/-!
# The cache of the window

The window keeps the snapshots of the day in a database of its own
(`weather-renderer/gui/src-tauri/src/gui_cache.rs`), so that it can show them before the engine
answers.

## Main definitions

* `prepareForCache`: what is kept of a snapshot, and under which name.
* `loadForDate`, `storeSnapshot`: the two transactions.
* `CacheCall.perform`: a load or a store of the window.
-/

namespace WeatherApp

namespace GuiCache

open Weather

/-- `MAX_SNAPSHOT_BYTES`. -/
def maxSnapshotBytes : ℕ := 4 * 1024 * 1024

/-- The station name of a snapshot, as it stands there. -/
def stationNameOf (snapshot : WeatherSnapshot) : String :=
  (snapshot.station.map (·.name)).getD ""

/-- An alert without the links to its icon and its page. -/
def withoutAlertLinks (alert : WeatherAlert) : WeatherAlert :=
  { alert with url := none, iconUrl := none, iconResourceId := none }

/-- The copy of a snapshot that is kept. -/
def cacheCopy (snapshot : WeatherSnapshot) : WeatherSnapshot :=
  { snapshot with
    radar := none
    debug := none
    real := snapshot.real.map fun real => ⟨real.alerts.map withoutAlertLinks⟩
    stale := true }

/-- A row of `weather_snapshot_cache`. -/
structure CacheRow where
  stationName : String
  localDate : String
  cachedAtUnixMs : ℤ
  snapshot : List UInt8
  deriving DecidableEq, Repr

/-- `weather_snapshot_cache`, whose primary key is the station name. -/
abbrev CacheTable := KeyedTable CacheRow.stationName

/-- A computation over the table. -/
abbrev CacheTx (α : Type) := Tx String CacheTable α

section Operations

variable [WeatherCodec]

/-- `prepare_for_cache`: the name and the copy, unless the snapshot is not kept. -/
def prepareForCache (snapshot : WeatherSnapshot) :
    Except String (Option (String × WeatherSnapshot)) :=
  if snapshot.stale then .ok none
  else
    match (snapshot.station.map fun station => trim station.name).filter (· ≠ "") with
    | none => .ok none
    | some stationName =>
      let copy := cacheCopy snapshot
      if (WeatherCodec.encodeMessage copy).length > maxSnapshotBytes then
        .error s!"GUI weather snapshot for `{stationName}` exceeds {maxSnapshotBytes} bytes"
      else .ok (some (stationName, copy))

/-- What `load_for_date` makes of a row: its snapshot, unless the row is pruned. -/
def cachedSnapshot (stationNames : Finset String) (row : CacheRow) : Option WeatherSnapshot :=
  if row.stationName ∉ stationNames then none
  else if row.snapshot.length > maxSnapshotBytes then none
  else
    match WeatherCodec.decodeMessage row.snapshot with
    | .error _ => none
    | .ok snapshot =>
      if stationNameOf snapshot ≠ row.stationName then none
      else some { snapshot with stale := true, radar := none, debug := none }

/-- The body of `load_for_date`. -/
def loadForDate (localDate : String) (stationNames : Finset String) :
    CacheTx (List WeatherSnapshot) := do
  Tx.execute fun table => table.deleteWhere (·.localDate ≠ localDate)
  let rows ← Tx.query fun table =>
    table.select (fun a b => a.stationName ≤ b.stationName) (·.localDate = localDate)
  let snapshots := rows.filterMap (cachedSnapshot stationNames)
  let prune := (rows.filter fun row => (cachedSnapshot stationNames row).isNone).map (·.stationName)
  prune.foldlM (fun _ stationName =>
    Tx.execute fun table => table.deleteWhere (·.stationName = stationName)) ⟨⟩
  return snapshots

/-- The body of `store`. A row that would not change keeps its time. -/
def storeSnapshot (localDate stationName : String) (snapshot : WeatherSnapshot)
    (cachedAtUnixMs : ℤ) : CacheTx PUnit := do
  let row : CacheRow :=
    ⟨stationName, localDate, cachedAtUnixMs, WeatherCodec.encodeMessage snapshot⟩
  Tx.execute fun table => table.deleteWhere (·.localDate ≠ localDate)
  Tx.execute fun table => table.upsert row fun old =>
    old.localDate ≠ row.localDate ∨ old.snapshot ≠ row.snapshot

/-- A call of the window, with what it meets: the local date, the outcomes of opening the database
and of reading the clock, and the statements that fail. -/
inductive CacheCall where
  | loadToday (localDate : String) (stationNames : Finset String) (opened : Except String Unit)
      (faults : FaultPlan)
  | store (localDate : String) (snapshot : WeatherSnapshot) (opened : Except String Unit)
      (clock : Except String ℤ) (faults : FaultPlan)

/-- What a call returns. -/
inductive CacheReply where
  | loaded (snapshots : List WeatherSnapshot)
  | stored (kept : Bool)
  | failed
  deriving DecidableEq, Repr

/-- `load_today` and `store`, on the table. -/
def CacheCall.perform (table : CacheTable) : CacheCall → CacheReply × CacheTable
  | .loadToday localDate stationNames opened faults =>
    match opened with
    | .error _ => (.failed, table)
    | .ok _ =>
      match transaction (loadForDate localDate stationNames) faults table with
      | (.ok snapshots, table) => (.loaded snapshots, table)
      | (.error _, table) => (.failed, table)
  | .store localDate snapshot opened clock faults =>
    match prepareForCache snapshot with
    | .error _ => (.failed, table)
    | .ok none => (.stored false, table)
    | .ok (some (stationName, copy)) =>
      match opened, clock with
      | .ok _, .ok cachedAtUnixMs =>
        match transaction (storeSnapshot localDate stationName copy cachedAtUnixMs) faults table with
        | (.ok _, table) => (.stored true, table)
        | (.error _, table) => (.failed, table)
      | _, _ => (.failed, table)

end Operations

end GuiCache

end WeatherApp
