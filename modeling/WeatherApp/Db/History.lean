import WeatherApp.Db.Tables

/-!
# Weather history

`put_history_snapshot` and `get_latest_snapshot` of `storage.rs`. A snapshot is a protobuf
message: the code reads its station and otherwise only encodes and decodes it.
-/

namespace WeatherApp

/-- A weather snapshot, as the database layer uses it. -/
class SnapshotMessage (σ : Type) where
  /-- The `station` field. -/
  station : σ → Option StationRef
  /-- `encode_message`. -/
  encodeMessage : σ → List UInt8
  /-- `decode_message`. -/
  decodeMessage : List UInt8 → Except String σ
  /-- Protobuf round trip. -/
  decode_encode : ∀ snapshot, decodeMessage (encodeMessage snapshot) = .ok snapshot

/-- Two snapshots of one station that differ in their `stale` flag, to run the model on. -/
inductive SampleSnapshot where
  | fresh
  | stale
  deriving DecidableEq, Repr

/-- A length-delimited protobuf field of less than 128 bytes. -/
def protoField (tag : UInt8) (bytes : List UInt8) : List UInt8 :=
  [tag, UInt8.ofNat bytes.length] ++ bytes

/-- The protobuf encoding of a sample snapshot. -/
def SampleSnapshot.encode (snapshot : SampleSnapshot) : List UInt8 :=
  let station := protoField 0x0A (asBytes sampleStation.province) ++
    protoField 0x12 (asBytes sampleStation.city) ++ protoField 0x1A (asBytes sampleStation.name) ++
      protoField 0x22 (asBytes sampleStation.unifiedUuid)
  protoField 0x0A station ++ match snapshot with
    | .fresh => []
    | .stale => [0x48, 0x01]

instance : SnapshotMessage SampleSnapshot where
  station _ := some sampleStation
  encodeMessage := SampleSnapshot.encode
  decodeMessage bytes :=
    if bytes = SampleSnapshot.encode .fresh then .ok .fresh
    else if bytes = SampleSnapshot.encode .stale then .ok .stale
    else .error "failed to decode Protobuf message"
  decode_encode := by
    have hdiffer : SampleSnapshot.encode .stale ≠ SampleSnapshot.encode .fresh := by
      simp [SampleSnapshot.encode]
    intro snapshot
    cases snapshot with
    | fresh => simp
    | stale => simp [hdiffer]

/-- A snapshot read back from the history. -/
structure StoredSnapshot (σ : Type) where
  date : String
  snapshot : σ
  fetchedAtUnixMs : ℤ
  deriving DecidableEq, Repr

variable {Tz σ : Type}

/-- Run a computation on the tables of an open database. -/
def DbInstance.onTables {α : Type} (db : DbInstance Tz)
    (run : FaultPlan → Tables → Except DbError α × Tables) (faults : FaultPlan) :
    Except DbError α × DbInstance Tz :=
  let (result, tables) := run faults db.tables
  (result, { db with tables })

/-- Only the tables change. -/
theorem DbInstance.onTables_eq_iff {α : Type} {db db' : DbInstance Tz}
    {run : FaultPlan → Tables → Except DbError α × Tables} {faults : FaultPlan}
    {result : Except DbError α} :
    db.onTables run faults = (result, db') ↔
      run faults db.tables = (result, db'.tables) ∧ db'.timezone = db.timezone := by
  unfold onTables
  rcases run faults db.tables with ⟨r, tables⟩
  rcases db' with ⟨tables', timezone'⟩
  simp only [Prod.mk.injEq, DbInstance.mk.injEq]
  tauto

/-- A failed computation leaves the database as it was. -/
theorem DbInstance.onTables_error {α : Type} {db db' : DbInstance Tz} {statement : DbTx α}
    {faults : FaultPlan} {e : DbError}
    (h : db.onTables (atomically statement) faults = (.error e, db')) : db' = db := by
  obtain ⟨hrun, htimezone⟩ := onTables_eq_iff.1 h
  have htables := (atomically_error hrun).1
  cases db
  cases db'
  simp_all

section Put

variable [Sha256] [TzDatabase Tz] [SnapshotMessage σ]

/-- The checks of `put_history_snapshot`, and the row they let through. -/
def historyRow (timezone : Tz) (snapshot : σ) (fetchedAtUnixMs : ℤ) :
    Except String HistoryRow :=
  match fromTimestampMillis fetchedAtUnixMs with
  | none => .error s!"invalid fetched_at_unix_ms {fetchedAtUnixMs}"
  | some fetchedAt =>
    let date := dateInTimezone timezone fetchedAt
    match SnapshotMessage.station snapshot with
    | none => .error "weather snapshot is missing station"
    | some station =>
      if isBlank station.name then
        .error "weather snapshot station name must not be empty"
      else if isBlank station.unifiedUuid then
        .error "weather snapshot station unified_uuid must not be empty"
      else if station.unifiedUuid ≠ unifiedStationUuid station.name then
        let uuid := station.unifiedUuid
        let name := station.name
        .error s!"weather snapshot station unified_uuid `{uuid}` is not canonical for `{name}`"
      else
        .ok ⟨station.unifiedUuid, date, schemaVersion, SnapshotMessage.encodeMessage snapshot,
          fetchedAtUnixMs⟩

/-- What an accepted put writes. -/
theorem historyRow_eq_ok {timezone : Tz} {snapshot : σ} {ms : ℤ} {row : HistoryRow}
    (h : historyRow timezone snapshot ms = .ok row) :
    localDate timezone ms = some row.date ∧ row.fetchedAtUnixMs = ms ∧
      row.snapshotSchemaVersion = schemaVersion ∧
      row.snapshotProto = SnapshotMessage.encodeMessage snapshot ∧
      (SnapshotMessage.station snapshot).map (·.unifiedUuid) = some row.unifiedUuid := by
  unfold historyRow at h
  split at h
  next => cases h
  next fetchedAt hfetched =>
    split at h
    next => cases h
    next station hstation =>
      split_ifs at h
      cases h
      have hsame : fetchedAt = ms := by
        unfold fromTimestampMillis at hfetched
        split_ifs at hfetched
        exact (Option.some.inj hfetched).symm
      subst hsame
      simp [localDate, hfetched, hstation]

/-- The upsert of `put_history_snapshot`: a stored row with the same key is replaced unless it
was fetched later. -/
def Tables.upsertHistory (tables : Tables) (row : HistoryRow) : Tables :=
  { tables with history := tables.history.upsertMax HistoryRow.fetchedAtUnixMs row }

/-- `put_history_snapshot`. -/
def DbInstance.putHistorySnapshot (db : DbInstance Tz) (snapshot : σ) (fetchedAtUnixMs : ℤ)
    (faults : FaultPlan) : Except DbError Unit × DbInstance Tz :=
  let statement : DbTx Unit := do
    let row ← Tx.ofExcept (historyRow db.timezone snapshot fetchedAtUnixMs)
    Tx.execute fun tables => tables.upsertHistory row
  db.onTables (atomically statement) faults

/-- A put that returns has written the row the checks let through. -/
theorem putHistorySnapshot_ok {db db' : DbInstance Tz} {snapshot : σ} {ms : ℤ}
    {faults : FaultPlan} {result : Unit}
    (h : db.putHistorySnapshot snapshot ms faults = (.ok result, db')) :
    ∃ row, historyRow db.timezone snapshot ms = .ok row ∧
      db'.tables = db.tables.upsertHistory row ∧ db'.timezone = db.timezone := by
  rw [DbInstance.putHistorySnapshot, DbInstance.onTables_eq_iff] at h
  obtain ⟨row, tables, hchecks, hexecute⟩ := Tx.returns_bind (atomically_ok h.1)
  obtain ⟨hrow, rfl⟩ := Tx.returns_ofExcept hchecks
  have htables := Tx.returns_execute hexecute
  exact ⟨row, hrow, htables, h.2⟩

/-- A put that fails leaves the database as it was. -/
theorem putHistorySnapshot_error {db db' : DbInstance Tz} {snapshot : σ} {ms : ℤ}
    {faults : FaultPlan} {e : DbError}
    (h : db.putHistorySnapshot snapshot ms faults = (.error e, db')) : db' = db := by
  rw [DbInstance.putHistorySnapshot] at h
  exact DbInstance.onTables_error h

end Put

section Latest

variable [SnapshotMessage σ]

/-- `decode_stored_snapshot`. -/
def decodeStoredSnapshot (row : HistoryRow) : Except String (StoredSnapshot σ) :=
  let uuid := row.unifiedUuid
  let date := row.date
  if row.snapshotSchemaVersion ≠ schemaVersion then
    let found := row.snapshotSchemaVersion
    .error s!"snapshot cache row {uuid}/{date} uses unsupported schema `{found}`; expected `{schemaVersion}`"
  else
    match SnapshotMessage.decodeMessage row.snapshotProto with
    | .error cause => .error s!"failed to decode snapshot cache row {uuid}/{date}: {cause}"
    | .ok snapshot => .ok ⟨row.date, snapshot, row.fetchedAtUnixMs⟩

/-- `SELECT .. WHERE unified_uuid = ?1 ORDER BY fetched_at_unix_ms DESC LIMIT 1`. Rows fetched
at the same time come in storage order. -/
def Tables.latestHistoryRow (tables : Tables) (uuid : String) : Option HistoryRow :=
  tables.history.selectFirst (fun a b => b.fetchedAtUnixMs ≤ a.fetchedAtUnixMs)
    fun row => row.unifiedUuid = uuid

/-- `row` is the row of a station fetched after all its other rows. -/
def UniqueLatest (history : KeyedTable HistoryRow.key) (uuid : String) (row : HistoryRow) : Prop :=
  row ∈ history ∧ row.unifiedUuid = uuid ∧ ∀ other ∈ history, other.unifiedUuid = uuid →
    row.fetchedAtUnixMs ≤ other.fetchedAtUnixMs → other = row

/-- A row fetched after all the others of its station is the latest row. -/
theorem latestHistoryRow_of_uniqueLatest {tables : Tables} {uuid : String} {row : HistoryRow}
    (h : UniqueLatest tables.history uuid row) : tables.latestHistoryRow uuid = some row := by
  have : Std.Total fun a b : HistoryRow => b.fetchedAtUnixMs ≤ a.fetchedAtUnixMs :=
    ⟨fun a b => le_total b.fetchedAtUnixMs a.fetchedAtUnixMs⟩
  have : IsTrans HistoryRow fun a b => b.fetchedAtUnixMs ≤ a.fetchedAtUnixMs :=
    ⟨fun _ _ _ hab hbc => le_trans hbc hab⟩
  obtain ⟨hmem, huuid, hlatest⟩ := h
  apply KeyedTable.selectFirst_eq_some_of_least hmem (by simpa using huuid)
  intro other hother hsame hlater
  exact hlatest other hother (by simpa using hsame) hlater

/-- `get_latest_snapshot`. -/
def DbInstance.getLatestSnapshot (db : DbInstance Tz) (uuid : String) (faults : FaultPlan) :
    Except DbError (Option (StoredSnapshot σ)) :=
  let statement : DbTx (Option (StoredSnapshot σ)) := do
    let row ← Tx.query fun tables => tables.latestHistoryRow uuid
    match row with
    | none => return none
    | some row => Tx.ofExcept ((decodeStoredSnapshot row).map some)
  (atomically statement faults db.tables).1

/-- A snapshot that is read was decoded from a row of its station. -/
theorem getLatestSnapshot_ok {db : DbInstance Tz} {uuid : String} {faults : FaultPlan}
    {stored : StoredSnapshot σ} (h : db.getLatestSnapshot uuid faults = .ok (some stored)) :
    ∃ row ∈ db.tables.history, row.unifiedUuid = uuid ∧ decodeStoredSnapshot row = .ok stored := by
  obtain ⟨found, tables, hquery, hdecode⟩ := Tx.returns_bind (atomically_ok (Prod.ext h rfl))
  obtain ⟨rfl, rfl⟩ := Tx.returns_query hquery
  cases hrow : db.tables.latestHistoryRow uuid with
  | none =>
    rw [hrow] at hdecode
    cases (Tx.returns_pure hdecode).1
  | some row =>
    rw [hrow] at hdecode
    have hselected := KeyedTable.mem_select.1 (List.mem_of_mem_head? hrow)
    refine ⟨row, hselected.1, of_decide_eq_true hselected.2, ?_⟩
    have hdecoded := (Tx.returns_ofExcept hdecode).1
    cases hresult : (decodeStoredSnapshot row : Except String (StoredSnapshot σ)) with
    | error e => simp [hresult, Except.map] at hdecoded
    | ok stored' =>
      simp only [hresult, Except.map, Except.ok.injEq, Option.some.injEq] at hdecoded
      rw [hdecoded]

/-- A decoded row. -/
theorem decodeStoredSnapshot_eq_ok {row : HistoryRow} {stored : StoredSnapshot σ}
    (h : decodeStoredSnapshot row = .ok stored) :
    SnapshotMessage.decodeMessage row.snapshotProto = .ok stored.snapshot := by
  unfold decodeStoredSnapshot at h
  split_ifs at h
  split at h
  next => cases h
  next hdecode =>
    cases h
    exact hdecode

/-- Without engine failures, the latest snapshot is the decoded latest row. -/
theorem getLatestSnapshot_noFaults (db : DbInstance Tz) (uuid : String) :
    (db.getLatestSnapshot uuid noFaults : Except DbError (Option (StoredSnapshot σ))) =
      match db.tables.latestHistoryRow uuid with
      | none => .ok none
      | some row =>
        match decodeStoredSnapshot row with
        | .ok stored => .ok (some stored)
        | .error e => .error (.raised e) := by
  have hquery : ∀ {α : Type} (f : Tables → α) (k : α → DbTx (Option (StoredSnapshot σ))),
      (Tx.query f >>= k) noFaults (0, db.tables) = k (f db.tables) noFaults (1, db.tables) :=
    fun _ _ => rfl
  rw [DbInstance.getLatestSnapshot, atomically, hquery]
  cases db.tables.latestHistoryRow uuid with
  | none => rfl
  | some row =>
    cases hdecode : (decodeStoredSnapshot row : Except String (StoredSnapshot σ)) with
    | ok stored => simp [Except.map, Tx.ofExcept, pure, hdecode]
    | error e => simp [Except.map, Tx.ofExcept, Tx.raise, hdecode]

end Latest

end WeatherApp
