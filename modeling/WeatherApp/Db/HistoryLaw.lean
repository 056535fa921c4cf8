import WeatherApp.Db.MigrationLaw
import WeatherApp.Db.Open
import WeatherApp.Foundation.Run

/-!
# The history over whole runs

Any sequence of puts, timezone migrations and marker clearings on a database that was opened
with an empty history. Each operation carries the fault plan of the storage engine, so that
rejected and failed calls are part of the runs.

## Main definitions

* `latestPut`: of the accepted puts of a station, the last one with the greatest fetch time.
* `historySystem`: the operations as a labelled system. Its state also records the accepted
  puts, oldest first.
* `HistoryInv`: how the stored rows relate to the accepted puts.

## Main results

* `historyInv_reachable`: the invariant holds after every run.
* `historyStore_law`: the latest snapshot is the latest put, and never goes back in time.
-/

namespace WeatherApp

variable {Tz σ : Type} [TzDatabase Tz] [SnapshotMessage σ]

/-! ## Puts -/

/-- The arguments of a put. -/
structure Put (σ : Type) where
  snapshot : σ
  fetchedAtUnixMs : ℤ

namespace Put

/-- The station of the put snapshot. -/
def uuid (put : Put σ) : Option String :=
  (SnapshotMessage.station put.snapshot).map (·.unifiedUuid)

/-- The row a put writes in a timezone. -/
def row (tz : Tz) (put : Put σ) : HistoryRow where
  unifiedUuid := put.uuid.getD ""
  date := dateInTimezone tz put.fetchedAtUnixMs
  snapshotSchemaVersion := schemaVersion
  snapshotProto := SnapshotMessage.encodeMessage put.snapshot
  fetchedAtUnixMs := put.fetchedAtUnixMs

/-- What a read of the latest snapshot returns for a put. -/
def stored (tz : Tz) (put : Put σ) : StoredSnapshot σ :=
  ⟨dateInTimezone tz put.fetchedAtUnixMs, put.snapshot, put.fetchedAtUnixMs⟩

end Put

/-- Of the puts of a station, the last one with the greatest fetch time. -/
noncomputable def latestPut (puts : List (Put σ)) (uuid : String) : Option (Put σ) :=
  (puts.reverse.filter fun put => put.uuid = some uuid).argmax Put.fetchedAtUnixMs

theorem latestPut_append (puts : List (Put σ)) (put : Put σ) (uuid : String) :
    latestPut (puts ++ [put]) uuid =
      if put.uuid = some uuid then
        match latestPut puts uuid with
        | none => some put
        | some best => if put.fetchedAtUnixMs < best.fetchedAtUnixMs then some best else some put
      else latestPut puts uuid := by
  rw [latestPut, List.reverse_append, List.reverse_singleton, List.singleton_append,
    List.filter_cons]
  by_cases h : put.uuid = some uuid
  · rw [if_pos (by simpa using h), if_pos h, List.argmax_cons, ← latestPut]
    cases latestPut puts uuid <;> rfl
  · rw [if_neg (by simpa using h), if_neg h, ← latestPut]

theorem mem_of_latestPut {puts : List (Put σ)} {uuid : String} {put : Put σ}
    (h : latestPut puts uuid = some put) : put ∈ puts ∧ put.uuid = some uuid := by
  have hmem := List.argmax_mem h
  rw [List.mem_filter, List.mem_reverse] at hmem
  exact ⟨hmem.1, by simpa using hmem.2⟩

theorem le_latestPut {puts : List (Put σ)} {uuid : String} {put other : Put σ}
    (h : latestPut puts uuid = some put) (hmem : other ∈ puts) (huuid : other.uuid = some uuid) :
    other.fetchedAtUnixMs ≤ put.fetchedAtUnixMs := by
  apply List.le_of_mem_argmax _ h
  rw [List.mem_filter, List.mem_reverse]
  exact ⟨hmem, by simpa using huuid⟩

theorem latestPut_eq_none {puts : List (Put σ)} {uuid : String} (h : latestPut puts uuid = none)
    {put : Put σ} (hmem : put ∈ puts) : put.uuid ≠ some uuid := by
  intro huuid
  rw [latestPut, List.argmax_eq_none, List.filter_eq_nil_iff] at h
  exact h put (List.mem_reverse.2 hmem) (by simpa using huuid)

/-! ## The invariant -/

/-- An open database and the puts it has accepted, oldest first. -/
structure HistoryState (Tz σ : Type) where
  db : DbInstance Tz
  accepted : List (Put σ)

/-- How the stored rows relate to the accepted puts. -/
structure HistoryInv (s : HistoryState Tz σ) : Prop where
  stored : StoredIs s.db.tables s.db.timezone
  dated : ∀ row ∈ s.db.tables.history,
    localDate s.db.timezone row.fetchedAtUnixMs = some row.date
  fromPut : ∀ row ∈ s.db.tables.history, ∃ put ∈ s.accepted,
    put.uuid = some row.unifiedUuid ∧ put.row s.db.timezone = row
  latest : ∀ uuid put, latestPut s.accepted uuid = some put →
    put.row s.db.timezone ∈ s.db.tables.history

theorem date_of_localDate {tz : Tz} {ms : ℤ} {date : String} (h : localDate tz ms = some date) :
    date = dateInTimezone tz ms := by
  obtain ⟨dt, hdt, rfl⟩ := Option.map_eq_some_iff.1 h
  rw [fromTimestampMillis_eq_some hdt]

/-- The row of the latest put is the latest row. -/
theorem HistoryInv.uniqueLatest {s : HistoryState Tz σ} (h : HistoryInv s) {uuid : String}
    {put : Put σ} (hlatest : latestPut s.accepted uuid = some put) :
    UniqueLatest s.db.tables.history uuid (put.row s.db.timezone) := by
  obtain ⟨-, huuid⟩ := mem_of_latestPut hlatest
  have hrow := h.latest uuid put hlatest
  have hrowUuid : (put.row s.db.timezone).unifiedUuid = uuid := by
    rw [Put.row, huuid, Option.getD_some]
  refine ⟨hrow, hrowUuid, fun other hother hotherUuid hlater => ?_⟩
  obtain ⟨source, hsource, hsourceUuid, rfl⟩ := h.fromPut other hother
  -- rows fetched at the same time fall on the same day, so they share the primary key
  have hsame : source.fetchedAtUnixMs = put.fetchedAtUnixMs :=
    le_antisymm (le_latestPut hlatest hsource (hotherUuid ▸ hsourceUuid)) hlater
  refine KeyedTable.eq_of_key_eq hother hrow (Prod.ext (hotherUuid.trans hrowUuid.symm) ?_)
  show dateInTimezone _ source.fetchedAtUnixMs = dateInTimezone _ put.fetchedAtUnixMs
  rw [hsame]

/-- A station without puts has no row. -/
theorem HistoryInv.no_row {s : HistoryState Tz σ} (h : HistoryInv s) {uuid : String}
    (hnone : latestPut s.accepted uuid = none) :
    ∀ row ∈ s.db.tables.history, row.unifiedUuid ≠ uuid := by
  rintro row hrow rfl
  obtain ⟨put, hput, huuid, -⟩ := h.fromPut row hrow
  exact latestPut_eq_none hnone hput huuid

/-! ## The operations -/

variable [DecidableEq Tz]

/-- An operation on the history, with the faults of the storage engine. -/
inductive HistoryOp (σ : Type) where
  | put (put : Put σ) (faults : FaultPlan)
  | migrate (oldTz newTz : String) (faults : FaultPlan)
  | clearPending (expected : String) (faults : FaultPlan)

/-- Perform an operation. A put that returns is recorded. -/
def HistoryState.perform [Sha256] (s : HistoryState Tz σ) :
    HistoryOp σ → HistoryState Tz σ
  | .put put faults =>
    match s.db.putHistorySnapshot put.snapshot put.fetchedAtUnixMs faults with
    | (.ok _, db) => ⟨db, s.accepted ++ [put]⟩
    | (.error _, db) => ⟨db, s.accepted⟩
  | .migrate oldTz newTz faults => ⟨(s.db.migrateTimezone oldTz newTz faults).2, s.accepted⟩
  | .clearPending expected faults => ⟨(s.db.clearPendingTimezone expected faults).2, s.accepted⟩

/-- A database that was opened with an empty history. -/
def OpenedEmpty (db : DbInstance Tz) : Prop :=
  (∃ file configTz faults file', openDb file configTz faults = (.ok db, file')) ∧
    db.tables.history = .empty

/-- Runs of operations on a database that was opened with an empty history. -/
def historySystem (Tz σ : Type) [TzDatabase Tz] [DecidableEq Tz] [SnapshotMessage σ] [Sha256] :
    LabelledSystem (HistoryState Tz σ) (HistoryOp σ) where
  init s := OpenedEmpty s.db ∧ s.accepted = []
  step s op s' := s' = s.perform op

/-! ## The steps keep the invariant -/

theorem historyInv_init [Sha256] {s : HistoryState Tz σ} (h : (historySystem Tz σ).init s) :
    HistoryInv s := by
  obtain ⟨⟨⟨file, configTz, faults, file', hopen⟩, hempty⟩, haccepted⟩ := h
  refine ⟨(openDb_ok hopen).2.stored, ?_, ?_, ?_⟩
  · simp [hempty]
  · simp [hempty]
  · simp [haccepted, latestPut]

omit [DecidableEq Tz] in
/-- An accepted put keeps the invariant. -/
theorem historyInv_put [Sha256] {s : HistoryState Tz σ} {put : Put σ} {db : DbInstance Tz}
    {faults : FaultPlan} (h : HistoryInv s)
    (hput : s.db.putHistorySnapshot put.snapshot put.fetchedAtUnixMs faults = (.ok ⟨⟩, db)) :
    HistoryInv ⟨db, s.accepted ++ [put]⟩ := by
  obtain ⟨row, hrow, htables, htimezone⟩ := putHistorySnapshot_ok hput
  obtain ⟨hdate, hms, hversion, hproto, huuid⟩ := historyRow_eq_ok hrow
  have hput_uuid : put.uuid = some row.unifiedUuid := huuid
  have hput_row : put.row s.db.timezone = row := by
    rcases row with ⟨uuid, date, version, proto, ms⟩
    simp only at hdate hms hversion hproto hput_uuid
    simp only [Put.row, hput_uuid, Option.getD_some, HistoryRow.mk.injEq]
    exact ⟨trivial, (date_of_localDate hdate).symm, hversion.symm, hproto.symm, hms.symm⟩
  have hmem : ∀ x, x ∈ db.tables.history ↔
      (x ∈ s.db.tables.history ∧
        (x.key = row.key → row.fetchedAtUnixMs < x.fetchedAtUnixMs)) ∨
      (x = row ∧ ∀ old ∈ s.db.tables.history, old.key = row.key →
        old.fetchedAtUnixMs ≤ row.fetchedAtUnixMs) := by
    intro x
    rw [htables, Tables.upsertHistory]
    exact KeyedTable.mem_upsertMax
  refine ⟨?_, fun x hx => ?_, fun x hx => ?_, fun uuid best hbest => ?_⟩
  · rw [htables, htimezone]
    exact h.stored
  · rw [htimezone]
    rcases (hmem x).1 hx with ⟨hold, -⟩ | ⟨rfl, -⟩
    · exact h.dated x hold
    · rwa [hms]
  · rw [htimezone]
    rcases (hmem x).1 hx with ⟨hold, -⟩ | ⟨rfl, -⟩
    · obtain ⟨source, hsource, heq⟩ := h.fromPut x hold
      exact ⟨source, List.mem_append_left _ hsource, heq⟩
    · exact ⟨put, by simp, hput_uuid, hput_row⟩
  · rw [htimezone, hmem]
    rw [latestPut_append] at hbest
    by_cases hstation : put.uuid = some uuid
    · rw [if_pos hstation] at hbest
      -- the new put wins unless the best one so far was fetched later
      have hnew : (∀ old, latestPut s.accepted uuid = some old →
          old.fetchedAtUnixMs ≤ put.fetchedAtUnixMs) → best = put →
          best.row s.db.timezone = row ∧ ∀ old ∈ s.db.tables.history, old.key = row.key →
            old.fetchedAtUnixMs ≤ row.fetchedAtUnixMs := by
        rintro hall rfl
        refine ⟨hput_row, fun old hold hkey => ?_⟩
        obtain ⟨source, hsource, hsourceUuid, rfl⟩ := h.fromPut old hold
        have hsame : (source.row s.db.timezone).unifiedUuid = row.unifiedUuid :=
          (Prod.ext_iff.1 hkey).1
        have hsourceStation : source.uuid = some uuid := by
          rw [hsourceUuid, hsame, ← hput_uuid, hstation]
        cases hprevious : latestPut s.accepted uuid with
        | none => exact absurd hsourceStation (latestPut_eq_none hprevious hsource)
        | some previous =>
          rw [hms]
          exact le_trans (le_latestPut hprevious hsource hsourceStation) (hall previous hprevious)
      cases hprevious : latestPut s.accepted uuid with
      | none =>
        rw [hprevious] at hbest
        exact Or.inr (hnew (by simp [hprevious]) (Option.some.inj hbest).symm)
      | some previous =>
        simp only [hprevious] at hbest
        split_ifs at hbest with hlt
        · obtain rfl := Option.some.inj hbest
          exact Or.inl ⟨h.latest uuid previous hprevious, fun _ => hms ▸ hlt⟩
        · refine Or.inr (hnew (fun old hold => ?_) (Option.some.inj hbest).symm)
          rw [hprevious] at hold
          rw [← Option.some.inj hold]
          exact not_lt.1 hlt
    · rw [if_neg hstation] at hbest
      refine Or.inl ⟨h.latest uuid best hbest, fun hkey => absurd ?_ hstation⟩
      obtain ⟨-, hbestUuid⟩ := mem_of_latestPut hbest
      have hsame : (best.row s.db.timezone).unifiedUuid = row.unifiedUuid :=
        (Prod.ext_iff.1 hkey).1
      rw [Put.row, hbestUuid, Option.getD_some] at hsame
      rw [hput_uuid, ← hsame]

/-- A migration keeps the invariant. -/
theorem historyInv_migrate {s : HistoryState Tz σ} {oldTz newTz : String} {rewritten : ℕ}
    {db : DbInstance Tz} {faults : FaultPlan} (h : HistoryInv s)
    (hmigrate : s.db.migrateTimezone oldTz newTz faults = (.ok rewritten, db)) :
    HistoryInv ⟨db, s.accepted⟩ := by
  obtain ⟨oldTimezone, newTimezone, -, -, hmigratable, rfl, heffect⟩ := migrateTimezone_ok hmigrate
  -- the timezone in memory was the stored one
  have hcurrent : s.db.timezone = oldTimezone := by
    obtain ⟨stored, hstored, hparse⟩ := hmigratable.stored
    rw [show s.db.tables.storedTimezone = _ from h.stored, Option.some.injEq] at hstored
    rw [← hstored, TzDatabase.fromStr_name] at hparse
    exact Option.some.inj hparse
  rcases heffect with ⟨rfl, -, htables⟩ | ⟨-, hmigrated⟩
  · rcases db with ⟨tables, timezone⟩
    simp only at hcurrent htables
    rw [htables, ← hcurrent]
    exact h
  · refine ⟨hmigrated.storedTimezone, fun x hx => ?_, fun x hx => ?_, fun uuid put hput => ?_⟩
    · obtain ⟨row, hrow, rfl⟩ := (hmigrated.history x).1 hx
      exact hmigrated.valid row hrow.1
    · obtain ⟨row, hrow, rfl⟩ := (hmigrated.history x).1 hx
      obtain ⟨put, hput, huuid, rfl⟩ := h.fromPut row hrow.1
      exact ⟨put, hput, huuid, rfl⟩
    · exact (hmigrated.history _).2 ⟨_, (h.uniqueLatest hput).kept, rfl⟩

/-- Clearing the marker keeps the invariant. -/
theorem historyInv_clearPending {s : HistoryState Tz σ} {expected : String}
    {db : DbInstance Tz} {faults : FaultPlan} (h : HistoryInv s)
    (hclear : s.db.clearPendingTimezone expected faults = (.ok ⟨⟩, db)) :
    HistoryInv ⟨db, s.accepted⟩ := by
  obtain ⟨htimezone, -, hstored, hhistory, -⟩ := clearPendingTimezone_ok hclear
  refine ⟨?_, ?_, ?_, ?_⟩
  · show db.tables.storedTimezone = _
    rw [hstored, htimezone]
    exact h.stored
  · simpa only [hhistory, htimezone] using h.dated
  · simpa only [hhistory, htimezone] using h.fromPut
  · simpa only [hhistory, htimezone] using h.latest

/-- Every operation keeps the invariant; a failing one leaves the database as it was. -/
theorem historyInv_perform [Sha256] {s : HistoryState Tz σ} (op : HistoryOp σ)
    (h : HistoryInv s) : HistoryInv (s.perform op) := by
  cases op with
  | put put faults =>
    rw [HistoryState.perform]
    split
    next hrun => exact historyInv_put h hrun
    next hrun =>
      rw [putHistorySnapshot_error hrun]
      exact h
  | migrate oldTz newTz faults =>
    rw [HistoryState.perform]
    cases hrun : s.db.migrateTimezone oldTz newTz faults with
    | mk result db =>
      cases result with
      | ok rewritten => exact historyInv_migrate h hrun
      | error e =>
        rw [migrateTimezone_error hrun]
        exact h
  | clearPending expected faults =>
    rw [HistoryState.perform]
    cases hrun : s.db.clearPendingTimezone expected faults with
    | mk result db =>
      cases result with
      | ok => exact historyInv_clearPending h hrun
      | error e =>
        rw [clearPendingTimezone_error hrun]
        exact h

/-- The invariant holds after every run. -/
theorem historyInv_reachable [Sha256] {s : HistoryState Tz σ}
    (h : (historySystem Tz σ).Reachable s) : HistoryInv s :=
  h.invariant (fun _ => historyInv_init) fun s op s' hs hstep => by
    rw [show s' = s.perform op from hstep]
    exact historyInv_perform op hs

/-! ## The latest snapshot -/

omit [DecidableEq Tz] in
/-- A read of the latest snapshot returns the latest put. -/
theorem HistoryInv.getLatestSnapshot {s : HistoryState Tz σ} (h : HistoryInv s) (uuid : String) :
    s.db.getLatestSnapshot uuid noFaults =
      .ok ((latestPut s.accepted uuid).map fun put => put.stored s.db.timezone) := by
  rw [getLatestSnapshot_noFaults]
  cases hlatest : latestPut s.accepted uuid with
  | none =>
    have hnone : s.db.tables.latestHistoryRow uuid = none :=
      KeyedTable.selectFirst_eq_none_iff.2 fun row hrow => by simpa using h.no_row hlatest row hrow
    rw [hnone, Option.map_none]
  | some put =>
    rw [latestHistoryRow_of_uniqueLatest (h.uniqueLatest hlatest), Option.map_some]
    simp [decodeStoredSnapshot, Put.row, SnapshotMessage.decode_encode, Put.stored]

/-- The latest put never goes back in time. -/
theorem latestPut_perform [Sha256] {s : HistoryState Tz σ} (op : HistoryOp σ) {uuid : String}
    {put : Put σ} (h : latestPut s.accepted uuid = some put) :
    ∃ put', latestPut (s.perform op).accepted uuid = some put' ∧
      put.fetchedAtUnixMs ≤ put'.fetchedAtUnixMs := by
  cases op with
  | put new faults =>
    rw [HistoryState.perform]
    split
    next =>
      rw [latestPut_append, h]
      split_ifs with hstation
      · simp only
        split_ifs with hlt
        · exact ⟨put, rfl, le_rfl⟩
        · exact ⟨new, rfl, not_lt.1 hlt⟩
      · exact ⟨put, rfl, le_rfl⟩
    next => exact ⟨put, h, le_rfl⟩
  | migrate => exact ⟨put, h, le_rfl⟩
  | clearPending => exact ⟨put, h, le_rfl⟩

/-! ## The order of puts -/

section Order

variable [Sha256]

/-- The row a put call writes, unless it is rejected or the engine fails it. -/
def acceptedRow (tz : Tz) (call : Put σ × FaultPlan) : Option HistoryRow :=
  match call.2 0 with
  | some _ => none
  | none => (historyRow tz call.1.snapshot call.1.fetchedAtUnixMs).toOption

omit [DecidableEq Tz] in
theorem putHistorySnapshot_snd (db : DbInstance Tz) (call : Put σ × FaultPlan) :
    (db.putHistorySnapshot call.1.snapshot call.1.fetchedAtUnixMs call.2).2 =
      { db with
        tables := ((acceptedRow db.timezone call).map db.tables.upsertHistory).getD db.tables } := by
  unfold acceptedRow
  cases hrow : historyRow db.timezone call.1.snapshot call.1.fetchedAtUnixMs with
  | error e =>
    simp only [DbInstance.putHistorySnapshot, DbInstance.onTables, atomically, bind, hrow,
      Tx.ofExcept, Tx.raise]
    cases call.2 0 <;> rfl
  | ok row =>
    simp only [DbInstance.putHistorySnapshot, DbInstance.onTables, atomically, bind, hrow,
      Tx.ofExcept, pure, Tx.execute, Tx.statement]
    cases call.2 0 <;> rfl

/-- Perform put calls in order. -/
def performPuts (s : HistoryState Tz σ) (calls : List (Put σ × FaultPlan)) : HistoryState Tz σ :=
  calls.foldl (fun s call => s.perform (.put call.1 call.2)) s

/-- Put calls insert their rows in order, each guarded by the fetch time. -/
theorem history_performPuts (s : HistoryState Tz σ) (calls : List (Put σ × FaultPlan)) :
    (performPuts s calls).db.timezone = s.db.timezone ∧
      (performPuts s calls).db.tables.history =
        (calls.filterMap (acceptedRow s.db.timezone)).foldl
          (KeyedTable.upsertMax HistoryRow.fetchedAtUnixMs) s.db.tables.history := by
  induction calls generalizing s with
  | nil => exact ⟨rfl, rfl⟩
  | cons call calls ih =>
    have hdb : (s.perform (.put call.1 call.2)).db =
        (s.db.putHistorySnapshot call.1.snapshot call.1.fetchedAtUnixMs call.2).2 := by
      rw [HistoryState.perform]
      split
      next hrun => rw [hrun]
      next hrun => rw [hrun]
    obtain ⟨htimezone, hhistory⟩ := ih (s.perform (.put call.1 call.2))
    rw [performPuts, List.foldl_cons, ← performPuts, htimezone, hhistory, hdb,
      putHistorySnapshot_snd]
    refine ⟨rfl, ?_⟩
    cases hrow : acceptedRow s.db.timezone call with
    | none => simp [hrow]
    | some row => simp [hrow, Tables.upsertHistory]

omit [DecidableEq Tz] in
/-- The rows of calls with pairwise distinct timestamps have pairwise distinct timestamps. -/
theorem nodup_acceptedRows {tz : Tz} {calls : List (Put σ × FaultPlan)}
    (hdistinct : (calls.map fun call => call.1.fetchedAtUnixMs).Nodup) :
    ((calls.filterMap (acceptedRow tz)).map HistoryRow.fetchedAtUnixMs).Nodup := by
  have hms : ∀ (call : Put σ × FaultPlan) row, acceptedRow tz call = some row →
      row.fetchedAtUnixMs = call.1.fetchedAtUnixMs := by
    intro call row hrow
    unfold acceptedRow at hrow
    split at hrow
    next => cases hrow
    next =>
      cases hchecks : historyRow tz call.1.snapshot call.1.fetchedAtUnixMs with
      | error e =>
        rw [hchecks] at hrow
        cases hrow
      | ok accepted =>
        rw [hchecks] at hrow
        cases hrow
        exact (historyRow_eq_ok hchecks).2.1
  refine hdistinct.sublist ?_
  clear hdistinct
  induction calls with
  | nil => simp
  | cons call calls ih =>
    cases hrow : acceptedRow tz call with
    | none => simpa [hrow] using ih.cons _
    | some row => simpa [hrow, hms call row hrow] using ih

/-- Puts with pairwise distinct timestamps end in the same rows in any order. -/
theorem performPuts_perm {s : HistoryState Tz σ} {calls calls' : List (Put σ × FaultPlan)}
    (hempty : s.db.tables.history = .empty) (hperm : calls.Perm calls')
    (hdistinct : (calls.map fun call => call.1.fetchedAtUnixMs).Nodup) :
    (performPuts s calls).db.tables.history.rows.Perm
      (performPuts s calls').db.tables.history.rows := by
  rw [(history_performPuts s calls).2, (history_performPuts s calls').2, hempty]
  exact KeyedTable.foldl_upsertMax_perm (hperm.filterMap _) (nodup_acceptedRows hdistinct)

end Order

/-! ## The store law -/

/-- In every run of puts, migrations and marker clearings on a database opened with an empty
history, each station has at most one row a day, every row is dated by its fetch time in the
current timezone, and the latest snapshot is the latest put and never goes back in time. Puts
alone, with pairwise distinct timestamps, end in the same rows in any order. -/
theorem historyStore_law (Tz σ : Type) [TzDatabase Tz] [DecidableEq Tz] [SnapshotMessage σ]
    [Sha256] :
    (∀ s, (historySystem Tz σ).Reachable s →
      (∀ a ∈ s.db.tables.history, ∀ b ∈ s.db.tables.history,
        a.unifiedUuid = b.unifiedUuid → a.date = b.date → a = b) ∧
      (∀ row ∈ s.db.tables.history,
        localDate s.db.timezone row.fetchedAtUnixMs = some row.date) ∧
      (∀ uuid, s.db.getLatestSnapshot uuid noFaults =
        .ok ((latestPut s.accepted uuid).map fun put => put.stored s.db.timezone)) ∧
      (∀ op s' uuid (old : StoredSnapshot σ), (historySystem Tz σ).step s op s' →
        s.db.getLatestSnapshot uuid noFaults = .ok (some old) →
        ∃ new : StoredSnapshot σ, s'.db.getLatestSnapshot uuid noFaults = .ok (some new) ∧
          old.fetchedAtUnixMs ≤ new.fetchedAtUnixMs)) ∧
    (∀ s, (historySystem Tz σ).init s → ∀ calls calls' : List (Put σ × FaultPlan),
      calls.Perm calls' → (calls.map fun call => call.1.fetchedAtUnixMs).Nodup →
      (performPuts s calls).db.tables.history.rows.Perm
        (performPuts s calls').db.tables.history.rows) := by
  refine ⟨fun s hs => ?_, fun s hinit calls calls' => performPuts_perm hinit.1.2⟩
  have hinv := historyInv_reachable hs
  refine ⟨fun a ha b hb huuid hdate => ?_, hinv.dated, hinv.getLatestSnapshot, ?_⟩
  · exact KeyedTable.eq_of_key_eq ha hb (Prod.ext huuid hdate)
  · rintro op s' uuid old rfl hold
    rw [hinv.getLatestSnapshot, Except.ok.injEq] at hold
    obtain ⟨put, hput, rfl⟩ := Option.map_eq_some_iff.1 hold
    obtain ⟨put', hput', hle⟩ := latestPut_perform op hput
    refine ⟨put'.stored (s.perform op).db.timezone, ?_, hle⟩
    rw [(historyInv_perform op hinv).getLatestSnapshot, hput', Option.map_some]

end WeatherApp
