import WeatherApp.Db.Timezone

/-!
# What a timezone migration guarantees

A migration keeps, for each station and each local day in the new timezone, the row fetched
last, and reads of the latest snapshot do not notice it. A migration that fails changes
nothing, and none fails because the number of copied rows is wrong.

## Main results

* `KeptRow.uniqueLatest`: the latest row of a station survives a migration.
* `migrateTimezone_not_isStagedCountError`: no failure is the one of the count check.
* `migrateTimezone_correct`: the guarantees together.
-/

namespace WeatherApp

variable {Tz : Type} [TzDatabase Tz]

/-! ## The latest row -/

/-- The latest row of a station is kept: nothing on its day was fetched later. -/
theorem UniqueLatest.kept {tz : Tz} {history : KeyedTable HistoryRow.key} {uuid : String}
    {row : HistoryRow} (h : UniqueLatest history uuid row) : KeptRow tz history row := by
  obtain ⟨hmem, rfl, hlatest⟩ := h
  refine ⟨hmem, fun other hother hday => ?_⟩
  by_cases hlater : row.fetchedAtUnixMs ≤ other.fetchedAtUnixMs
  · rw [hlatest other hother hday.1 hlater]
  · rw [not_le] at hlater
    exact le_of_lt (Prod.Lex.toLex_lt_toLex.2 (Or.inl hlater))

/-- The latest row of a station is the latest row after the migration. -/
theorem Migrated.uniqueLatest {tz : Tz} {tables tables' : Tables} {rewritten : ℕ}
    (hmigrated : Migrated tz tables rewritten tables') {uuid : String} {row : HistoryRow}
    (h : UniqueLatest tables.history uuid row) :
    UniqueLatest tables'.history uuid (row.rekeyed tz) := by
  refine ⟨(hmigrated.history _).2 ⟨row, h.kept, rfl⟩, h.2.1, ?_⟩
  intro other hother huuid hlater
  obtain ⟨source, hsource, rfl⟩ := (hmigrated.history other).1 hother
  rw [h.2.2 source hsource.1 huuid hlater]

/-- The snapshot and the timestamp that a read of the latest snapshot returns. -/
def latestReading {σ : Type} [SnapshotMessage σ] (db : DbInstance Tz) (uuid : String) :
    Option (Option (σ × ℤ)) :=
  (db.getLatestSnapshot uuid noFaults).toOption.map fun stored =>
    stored.map fun snapshot => (snapshot.snapshot, snapshot.fetchedAtUnixMs)

omit [TzDatabase Tz] in
/-- A read of the latest snapshot depends on everything in the row but its date. -/
theorem latestReading_congr {σ : Type} [SnapshotMessage σ] {db db' : DbInstance Tz}
    {uuid : String} {row : HistoryRow} {date : String}
    (h : db.tables.latestHistoryRow uuid = some row)
    (h' : db'.tables.latestHistoryRow uuid = some { row with date }) :
    (latestReading db' uuid : Option (Option (σ × ℤ))) = latestReading db uuid := by
  rw [latestReading, latestReading, getLatestSnapshot_noFaults, getLatestSnapshot_noFaults, h, h']
  simp only [decodeStoredSnapshot]
  split_ifs
  · rfl
  · cases (SnapshotMessage.decodeMessage row.snapshotProto : Except String σ) <;> rfl

/-! ## One row a day -/

/-- After a migration each station has one row for each day on which it had one. -/
theorem Migrated.existsUnique {tz : Tz} {tables tables' : Tables} {rewritten : ℕ}
    (hmigrated : Migrated tz tables rewritten tables') {row : HistoryRow}
    (hrow : row ∈ tables.history) :
    ∃! x, x ∈ tables'.history ∧ x.key = (row.rekeyed tz).key := by
  obtain ⟨kept, hkept, hday⟩ := exists_keptRow tz hrow
  refine ⟨kept.rekeyed tz, ⟨(hmigrated.history _).2 ⟨kept, hkept, rfl⟩, ?_⟩, ?_⟩
  · exact Prod.ext hday.1 hday.2
  · rintro x ⟨hx, hkey⟩
    obtain ⟨source, hsource, rfl⟩ := (hmigrated.history x).1 hx
    have hsame : source.SameDay tz row := Prod.ext_iff.1 hkey
    rw [hsource.eq_of_sameDay hkept (hsame.trans hday.symm)]

/-! ## The count check -/

/-- The error of the count check, for some counts. -/
def IsStagedCountError (text : String) : Prop :=
  ∃ stagedCount expectedCount, text = stagedCountError stagedCount expectedCount

/-- How the error of the count check starts. -/
def stagedCountPrefix : String := "timezone migration staged "

theorem take_toList_append {text rest : String} {n : ℕ} (hn : n ≤ text.toList.length) :
    (text ++ rest).toList.take n = text.toList.take n := by
  rw [String.toList_append, List.take_append_of_le_length hn]

/-- A text that starts in another way is not the error of the count check. -/
theorem not_isStagedCountError_of_take {text : String} (n : ℕ) (hn : n ≤ 26)
    (h : text.toList.take n ≠ stagedCountPrefix.toList.take n) : ¬ IsStagedCountError text := by
  rintro ⟨stagedCount, expectedCount, rfl⟩
  have hsplit : stagedCountError stagedCount expectedCount = stagedCountPrefix ++
      (toString stagedCount ++ " history rows; expected " ++ toString expectedCount) := by
    show stagedCountPrefix ++ toString stagedCount ++ " history rows; expected " ++
      toString expectedCount = _
    rw [String.append_assoc, String.append_assoc, String.append_assoc]
  have hlength : stagedCountPrefix.toList.length = 26 := by decide
  rw [hsplit, take_toList_append (hlength ▸ hn)] at h
  exact h rfl

/-- The same for a text with a variable part after its start. -/
theorem not_isStagedCountError_of_prefix {start rest : String} (n : ℕ) (hn : n ≤ 26)
    (hstart : n ≤ start.toList.length)
    (h : start.toList.take n ≠ stagedCountPrefix.toList.take n) :
    ¬ IsStagedCountError (start ++ rest) := by
  apply not_isStagedCountError_of_take n hn
  rwa [take_toList_append hstart]

/-- A failed parse is not the error of the count check. -/
theorem parseTimezone_not_isStagedCountError {value label text : String}
    (h : (parseTimezone value label : Except String Tz) = .error text) : ¬ IsStagedCountError text := by
  unfold parseTimezone at h
  split at h
  next => cases h
  next =>
    cases h
    show ¬ IsStagedCountError ("invalid " ++ label ++ " `" ++ value ++ "`")
    rw [String.append_assoc, String.append_assoc, String.append_assoc]
    exact not_isStagedCountError_of_prefix 1 (by decide) (by decide) (by decide)

/-- A refused history schema is not the error of the count check. -/
theorem validateHistoryRebuildSchema_not_isStagedCountError {schema : HistorySchema}
    {text : String} (h : validateHistoryRebuildSchema schema = .error text) :
    ¬ IsStagedCountError text := by
  unfold validateHistoryRebuildSchema at h
  split at h
  next =>
    cases h
    exact not_isStagedCountError_of_take 1 (by decide) (by decide)
  next tableSql _ =>
    split at h
    next =>
      cases h
      exact not_isStagedCountError_of_take 1 (by decide) (by decide)
    next =>
      split at h
      next =>
        cases h
        exact not_isStagedCountError_of_take 1 (by decide) (by decide)
      next indexSql _ =>
        split_ifs at h
        · cases h
          exact not_isStagedCountError_of_take 1 (by decide) (by decide)
        · cases h
          exact not_isStagedCountError_of_prefix 20 (by decide) (by decide) (by decide)

variable [DecidableEq Tz]

/-- The body of a migration never fails at the count check. -/
theorem migrateTimezoneBody_fails {oldTz : String} {oldTimezone newTimezone : Tz}
    {tables : Tables} {text : String}
    (h : (migrateTimezoneBody oldTz oldTimezone newTimezone).Fails tables (.raised text)) :
    ¬ IsStagedCountError text := by
  have hengine : ∀ {P : Prop}, (∃ reason, TxError.raised text = .engine reason) → P := by
    rintro P ⟨reason, hreason⟩
    cases hreason
  rcases Tx.fails_bind h with hquery | ⟨pending, s₁, hpending, hrest₁⟩
  · exact hengine (Tx.fails_statement hquery)
  obtain ⟨rfl, rfl⟩ := Tx.returns_query hpending
  split at hrest₁
  next pending _ =>
    cases Tx.fails_raise hrest₁
    show ¬ IsStagedCountError ("timezone config sync to `" ++ pending ++ "` is already pending")
    rw [String.append_assoc]
    exact not_isStagedCountError_of_prefix 10 (by decide) (by decide) (by decide)
  next =>
    rcases Tx.fails_bind hrest₁ with hquery | ⟨stored, s₂, hstored, hrest₂⟩
    · exact hengine (Tx.fails_statement hquery)
    obtain ⟨rfl, rfl⟩ := Tx.returns_query hstored
    split at hrest₂
    next =>
      cases Tx.fails_raise hrest₂
      exact not_isStagedCountError_of_take 1 (by decide) (by decide)
    next stored _ =>
      rcases Tx.fails_bind hrest₂ with hparse | ⟨storedTimezone, s₃, hparse, hrest₃⟩
      · obtain ⟨e₀, hinvalid, htext⟩ := Tx.fails_ofExcept hparse
        cases htext
        exact parseTimezone_not_isStagedCountError hinvalid
      obtain ⟨-, rfl⟩ := Tx.returns_ofExcept hparse
      split_ifs at hrest₃
      · cases Tx.fails_raise hrest₃
        show ¬ IsStagedCountError ("DB timezone `" ++ stored ++
          "` does not match requested old timezone `" ++ oldTz ++ "`")
        rw [String.append_assoc, String.append_assoc, String.append_assoc]
        exact not_isStagedCountError_of_prefix 1 (by decide) (by decide) (by decide)
      · exact absurd hrest₃ Tx.not_fails_pure
      · rcases Tx.fails_bind hrest₃ with hstage | ⟨⟨mapping, counted⟩, s₄, hstage, hrest₄⟩
        · rcases stageHistory_fails hstage with hreason | ⟨invalid, hinvalid, htext⟩ |
            ⟨row, -, htext⟩
          · exact hengine hreason
          · cases htext
            exact validateHistoryRebuildSchema_not_isStagedCountError hinvalid
          · cases htext
            exact not_isStagedCountError_of_prefix 1 (by decide) (by decide) (by decide)
        obtain ⟨rfl, hstaged⟩ := stageHistory_returns hstage
        rcases Tx.fails_bind hrest₄ with hswap | ⟨_, s₅, -, hrest₅⟩
        · exact hengine (swapHistory_fails hstaged.staging hswap)
        rcases Tx.fails_bind hrest₅ with hwrite | ⟨_, s₆, -, hrest₆⟩
        · exact hengine (Tx.fails_statement hwrite)
        rcases Tx.fails_bind hrest₆ with hwrite | ⟨_, s₇, -, hreturn⟩
        · exact hengine (Tx.fails_statement hwrite)
        · exact absurd hreturn Tx.not_fails_pure

/-- No migration fails at the count check. -/
theorem migrateTimezone_not_isStagedCountError {db db' : DbInstance Tz} {oldTz newTz : String}
    {faults : FaultPlan} {text : String}
    (h : db.migrateTimezone oldTz newTz faults = (.error (.raised text), db')) :
    ¬ IsStagedCountError text := by
  unfold DbInstance.migrateTimezone at h
  split at h
  next hold =>
    cases h
    exact parseTimezone_not_isStagedCountError hold
  next hnew =>
    cases h
    exact parseTimezone_not_isStagedCountError hnew
  next =>
    split at h
    next => cases h
    next e tables hrun =>
      cases h
      rcases (transaction_error hrun).2 with hbody | ⟨reason, hreason⟩
      · exact migrateTimezoneBody_fails hbody
      · cases hreason

/-! ## A migration without engine failures -/

omit [DecidableEq Tz] in
/-- Staging succeeds on a history of the canonical schema with representable fetch times. -/
theorem stageHistory_succeeds (tz : Tz) {tables : Tables}
    (hschema : tables.historySchema = .canonical)
    (hvalid : ∀ row ∈ tables.history,
      fromTimestampMillis row.fetchedAtUnixMs = some row.fetchedAtUnixMs) :
    ∃ acc, (stageHistory tz).Succeeds tables acc tables := by
  have hloop : ∃ acc s', Tx.Succeeds (tables.timezoneEntries.foldlM (stageEntry tz) (.empty, 0))
      tables acc s' ∧ StagedSoFar tz tables tables.timezoneEntries acc s' := by
    apply Tx.succeeds_foldlM (StagedSoFar tz tables) (stagedSoFar_init tz tables)
    intro done entry rest acc s hsplit hdone
    obtain ⟨mapping, hmapping⟩ : ∃ mapping, acc.1.insert (entry.staged tz) = some mapping := by
      -- the keys of the entries are those of the history, which has no key twice
      have hkeys : (tables.timezoneEntries.map HistoryRow.key).Nodup :=
        ((KeyedTable.select_all_perm _ _).map _).nodup_iff.2 tables.history.nodup
      rw [hsplit, List.map_append, List.map_cons, List.nodup_append] at hkeys
      have hfresh : (entry.staged tz).key ∉ acc.1.rows.map TimezoneMapRow.key := by
        rw [hdone.staged, List.map_map]
        intro hmem
        exact hkeys.2.2 _ hmem _ List.mem_cons_self rfl
      exact ⟨_, dif_neg hfresh⟩
    have hentry : fromTimestampMillis entry.fetchedAtUnixMs = some entry.fetchedAtUnixMs := by
      apply hvalid
      have hmem : entry ∈ tables.timezoneEntries := by simp [hsplit]
      simpa [Tables.timezoneEntries] using hmem
    have hrun : (stageEntry tz acc entry).Succeeds s
        (mapping, acc.2 + if dateInTimezone tz entry.fetchedAtUnixMs ≠ entry.date then 1 else 0)
        s := by
      simp only [stageEntry, hentry]
      apply Tx.succeeds_statement
      rw [HistoryRow.staged] at hmapping
      rw [hmapping]
    exact ⟨_, _, hrun, stagedSoFar_step hdone hrun.returns⟩
  obtain ⟨acc, s', hrun, hstaged⟩ := hloop
  rw [hstaged.unchanged] at hrun
  refine ⟨acc, Tx.succeeds_bind Tx.succeeds_query ?_⟩
  have hcanonical : validateHistoryRebuildSchema tables.historySchema = .ok ⟨⟩ := by
    rw [hschema]
    simp [validateHistoryRebuildSchema, HistorySchema.canonical]
  refine Tx.succeeds_bind (Tx.succeeds_ofExcept hcanonical) ?_
  exact Tx.succeeds_bind Tx.succeeds_query (Tx.succeeds_bind Tx.succeeds_execute hrun)

omit [DecidableEq Tz] in
/-- The copy into the new history table succeeds and passes the count check. -/
theorem swapHistory_succeeds {tz : Tz} {tables : Tables}
    {mapping : KeyedTable TimezoneMapRow.key} (hstaging : StagingOf tz tables.history mapping) :
    ∃ tables', (swapHistory mapping).Succeeds tables ⟨⟩ tables' := by
  have hcopy : (KeyedTable.empty.insertAll (stagedRows tables.history mapping)).isSome :=
    KeyedTable.insertAll_isSome (nodup_stagedRows hstaging) (by simp)
  obtain ⟨rebuilt, hrebuilt⟩ := Option.isSome_iff_exists.1 hcopy
  have hrows : rebuilt.rows = stagedRows tables.history mapping :=
    KeyedTable.insertAll_eq_some_iff.1 hrebuilt
  have hcopied : (KeyedTable.empty.insertAll (stagedRows tables.history mapping)).map
      (fun history => { tables with history }) = some { tables with history := rebuilt } := by
    rw [hrebuilt, Option.map_some]
  refine ⟨{ tables with history := rebuilt, historySchema := .canonical },
    Tx.succeeds_bind Tx.succeeds_query (Tx.succeeds_bind Tx.succeeds_query ?_)⟩
  refine Tx.succeeds_bind Tx.succeeds_execute ?_
  refine Tx.succeeds_bind (Tx.succeeds_executeOr hcopied) ?_
  refine Tx.succeeds_bind Tx.succeeds_query ?_
  rw [if_neg (not_not.2 (length_stagedRows hstaging hrows))]
  exact Tx.succeeds_execute

/-- Without engine failures a migration of a settled database succeeds. -/
theorem migrateTimezone_succeeds {db : DbInstance Tz} {oldTz newTz : String}
    {oldTimezone newTimezone : Tz} (hold : TzDatabase.fromStr oldTz = some oldTimezone)
    (hnew : TzDatabase.fromStr newTz = some newTimezone)
    (hmigratable : Migratable db.tables oldTimezone)
    (hschema : db.tables.historySchema = .canonical)
    (hvalid : ∀ row ∈ db.tables.history, (localDate newTimezone row.fetchedAtUnixMs).isSome) :
    ∃ rewritten db', db.migrateTimezone oldTz newTz noFaults = (.ok rewritten, db') := by
  obtain ⟨hsettled, stored, hstored, hparse⟩ := hmigratable
  have hbody : ∃ rewritten tables', (migrateTimezoneBody oldTz oldTimezone newTimezone).Succeeds
      db.tables rewritten tables' := by
    by_cases hsame : oldTimezone = newTimezone
    · refine ⟨0, db.tables, Tx.succeeds_bind Tx.succeeds_query ?_⟩
      rw [hsettled]
      refine Tx.succeeds_bind Tx.succeeds_query ?_
      rw [hstored]
      refine Tx.succeeds_bind (Tx.succeeds_ofExcept (parseTimezone_eq_ok.2 hparse)) ?_
      rw [if_neg (not_not.2 rfl), if_pos hsame]
      exact Tx.succeeds_pure
    · have hinstants : ∀ row ∈ db.tables.history,
          fromTimestampMillis row.fetchedAtUnixMs = some row.fetchedAtUnixMs := by
        intro row hrow
        obtain ⟨date, hdate⟩ := Option.isSome_iff_exists.1 (hvalid row hrow)
        obtain ⟨dt, hdt, -⟩ := Option.map_eq_some_iff.1 hdate
        rw [hdt, fromTimestampMillis_eq_some hdt]
      obtain ⟨acc, hstage⟩ := stageHistory_succeeds newTimezone hschema hinstants
      have hstaged := (stageHistory_returns hstage.returns).2
      obtain ⟨tables', hswap⟩ := swapHistory_succeeds hstaged.staging
      refine ⟨acc.2, (tables'.setEngineValue dbTimezoneKey
        (TzDatabase.name newTimezone)).setEngineValue timezoneSyncPendingKey
          (TzDatabase.name newTimezone), Tx.succeeds_bind Tx.succeeds_query ?_⟩
      rw [hsettled]
      refine Tx.succeeds_bind Tx.succeeds_query ?_
      rw [hstored]
      refine Tx.succeeds_bind (Tx.succeeds_ofExcept (parseTimezone_eq_ok.2 hparse)) ?_
      rw [if_neg (not_not.2 rfl), if_neg hsame]
      refine Tx.succeeds_bind hstage (Tx.succeeds_bind hswap ?_)
      exact Tx.succeeds_bind Tx.succeeds_execute
        (Tx.succeeds_bind Tx.succeeds_execute Tx.succeeds_pure)
  obtain ⟨rewritten, tables', hbody⟩ := hbody
  refine ⟨rewritten, ⟨tables', newTimezone⟩, ?_⟩
  rw [DbInstance.migrateTimezone, parseTimezone_eq_ok.2 hold, parseTimezone_eq_ok.2 hnew]
  simp only [transaction_noFaults hbody]

/-! ## The guarantees together -/

/-- A migration to another timezone that returns leaves one row for each station and local
day, the one fetched last of the rows of that day, with its payload; it leaves the latest
snapshot of a station alone when one row was fetched last; and it reports the number of moved
rows. A migration that fails has changed neither the tables nor the timezone in memory, and it
has not failed the count check. Without engine failures it returns. -/
theorem migrateTimezone_correct {σ : Type} [SnapshotMessage σ] (db : DbInstance Tz)
    {oldTz newTz : String} {oldTimezone newTimezone : Tz}
    (hold : TzDatabase.fromStr oldTz = some oldTimezone)
    (hnew : TzDatabase.fromStr newTz = some newTimezone) (hdistinct : oldTimezone ≠ newTimezone)
    (faults : FaultPlan) :
    (∀ rewritten db', db.migrateTimezone oldTz newTz faults = (.ok rewritten, db') →
      (∀ x, x ∈ db'.tables.history ↔
        ∃ row, KeptRow newTimezone db.tables.history row ∧ row.rekeyed newTimezone = x) ∧
      (∀ row ∈ db.tables.history, localDate newTimezone row.fetchedAtUnixMs =
        some (row.rekeyed newTimezone).date ∧
        ∃! x, x ∈ db'.tables.history ∧ x.key = (row.rekeyed newTimezone).key) ∧
      (∀ uuid row, UniqueLatest db.tables.history uuid row →
        (latestReading db' uuid : Option (Option (σ × ℤ))) = latestReading db uuid) ∧
      rewritten = db.tables.history.rows.countP fun row =>
        decide ((row.rekeyed newTimezone).date ≠ row.date)) ∧
    (∀ e db', db.migrateTimezone oldTz newTz faults = (.error e, db') →
      db' = db ∧ ∀ stagedCount expectedCount,
        e ≠ .raised (stagedCountError stagedCount expectedCount)) ∧
    (Migratable db.tables oldTimezone → db.tables.historySchema = .canonical →
      (∀ row ∈ db.tables.history, (localDate newTimezone row.fetchedAtUnixMs).isSome) →
      ∃ rewritten db', db.migrateTimezone oldTz newTz noFaults = (.ok rewritten, db')) := by
  refine ⟨?_, ?_, migrateTimezone_succeeds hold hnew⟩
  · intro rewritten db' h
    obtain ⟨tz, tz', hold', hnew', -, -, heffect⟩ := migrateTimezone_ok h
    obtain rfl : oldTimezone = tz := Option.some.inj (hold.symm.trans hold')
    obtain rfl : newTimezone = tz' := Option.some.inj (hnew.symm.trans hnew')
    rcases heffect with ⟨hsame, -⟩ | ⟨-, hmigrated⟩
    · exact absurd hsame hdistinct
    refine ⟨hmigrated.history, fun row hrow => ?_, fun uuid row hlatest => ?_, hmigrated.counted⟩
    · exact ⟨hmigrated.valid row hrow, hmigrated.existsUnique hrow⟩
    · have hbefore := latestHistoryRow_of_uniqueLatest hlatest
      have hafter := latestHistoryRow_of_uniqueLatest (hmigrated.uniqueLatest hlatest)
      exact latestReading_congr hbefore hafter
  · intro e db' h
    refine ⟨migrateTimezone_error h, ?_⟩
    rintro stagedCount expectedCount rfl
    exact migrateTimezone_not_isStagedCountError h ⟨stagedCount, expectedCount, rfl⟩

/-- Two days in Adak that are one day in UTC. -/
def sampleHistory : KeyedTable HistoryRow.key where
  rows :=
    [⟨sampleStation.unifiedUuid, "2026-06-23", schemaVersion, SampleSnapshot.encode .stale,
        1782288000000⟩,
      ⟨sampleStation.unifiedUuid, "2026-06-24", schemaVersion, SampleSnapshot.encode .fresh,
        1782295200000⟩]
  nodup := by decide

/-- A settled database in Adak. -/
def sampleDb : DbInstance SampleZone where
  tables := { Tables.initial.setEngineValue dbTimezoneKey "America/Adak" with
    history := sampleHistory }
  timezone := .adak

/-- The migration of `sampleDb` to UTC moves one row and leaves the latest snapshot alone. -/
theorem migrateTimezone_sampleDb :
    ∃ db', sampleDb.migrateTimezone "America/Adak" "UTC" noFaults = (.ok 1, db') ∧
      latestReading db' sampleStation.unifiedUuid =
        some (some (SampleSnapshot.fresh, 1782295200000)) := by
  have hrun : (sampleDb.migrateTimezone "America/Adak" "UTC" noFaults).1 = .ok 1 := by
    decide +kernel
  have hlatest : UniqueLatest sampleDb.tables.history sampleStation.unifiedUuid
      ⟨sampleStation.unifiedUuid, "2026-06-24", schemaVersion, SampleSnapshot.encode .fresh,
        1782295200000⟩ := by
    refine ⟨by decide, rfl, ?_⟩
    show ∀ other ∈ sampleHistory.rows, _
    simp [sampleHistory]
  cases hresult : sampleDb.migrateTimezone "America/Adak" "UTC" noFaults with
  | mk result db' =>
    rw [hresult] at hrun
    cases hrun
    have hcorrect : _ ∧ _ := @migrateTimezone_correct SampleZone _ _ SampleSnapshot _ sampleDb
      "America/Adak" "UTC" .adak .utc (by decide) (by decide) (by decide) noFaults
    refine ⟨db', rfl, ?_⟩
    rw [(hcorrect.1 1 db' hresult).2.2.1 _ _ hlatest]
    decide +kernel

end WeatherApp
