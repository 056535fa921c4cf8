import WeatherApp.Db.History

/-!
# Timezone migration

`migrate_timezone` of `storage.rs`, with `validate_history_rebuild_schema` of `migration.rs`.

The migration re-keys every history row by its local date in the new timezone. Several old
days can fall on one new day, and of these rows the one fetched last is kept.

## Main definitions

* `DbInstance.migrateTimezone`: the migration as the code performs it.
* `KeptRow`: the rows a migration keeps, stated without the staging table.
* `Migrated`: what a migration that moved the history has made of the tables.

## Main results

* `stagedRows_eq`: the anti-join on the staging table selects exactly the kept rows.
* `length_stagedRows`: there is one for each day, so the count check passes.
* `migrateTimezone_ok`, `migrateTimezone_error`: what a migration does to the database.
-/

namespace WeatherApp

variable {Tz : Type} [TzDatabase Tz]

/-- `parse_timezone`. -/
def parseTimezone (value label : String) : Except String Tz :=
  match TzDatabase.fromStr value with
  | some tz => .ok tz
  | none => .error s!"invalid {label} `{value}`"

theorem parseTimezone_eq_ok {value label : String} {tz : Tz} :
    parseTimezone value label = .ok tz ↔ TzDatabase.fromStr value = some tz := by
  unfold parseTimezone
  cases (TzDatabase.fromStr value : Option Tz) <;> simp

/-! ## The staging table -/

/-- A row of `temp.weather_history_timezone_map`. -/
structure TimezoneMapRow where
  unifiedUuid : String
  oldDate : String
  newDate : String
  fetchedAtUnixMs : ℤ
  deriving DecidableEq, Repr

/-- `PRIMARY KEY(unified_uuid, old_date)`. -/
def TimezoneMapRow.key (row : TimezoneMapRow) : String × String := (row.unifiedUuid, row.oldDate)

/-- The day a mapped row falls on, `GROUP BY unified_uuid, new_date`. -/
def TimezoneMapRow.group (row : TimezoneMapRow) : String × String :=
  (row.unifiedUuid, row.newDate)

/-- The condition of the anti-join: `newer` falls on the same day as `mapping` and was fetched
later, or at the same time under a later old date. -/
def TimezoneMapRow.supersededBy (mapping newer : TimezoneMapRow) : Bool :=
  newer.unifiedUuid = mapping.unifiedUuid ∧ newer.newDate = mapping.newDate ∧
    (mapping.fetchedAtUnixMs < newer.fetchedAtUnixMs ∨
      (newer.fetchedAtUnixMs = mapping.fetchedAtUnixMs ∧ mapping.oldDate < newer.oldDate))

/-- The rows to re-key: `SELECT unified_uuid, date, fetched_at_unix_ms ..`. -/
def Tables.timezoneEntries (tables : Tables) : List HistoryRow :=
  tables.history.select (fun a b => toLex a.key ≤ toLex b.key) fun _ => true

/-- The rows the rebuilt history receives: the old rows joined with the staging table, less
those a newer row of their day supersedes. -/
def stagedRows (source : KeyedTable HistoryRow.key)
    (mapping : KeyedTable TimezoneMapRow.key) : List HistoryRow :=
  source.rows.flatMap fun row =>
    (mapping.rows.filter fun m =>
      (m.unifiedUuid = row.unifiedUuid ∧ m.oldDate = row.date) ∧
        !mapping.rows.any m.supersededBy).map fun m => { row with date := m.newDate }

/-- The error of the count check after the copy. -/
def stagedCountError (stagedCount expectedCount : ℕ) : String :=
  s!"timezone migration staged {stagedCount} history rows; expected {expectedCount}"

/-- The error of a row whose fetch time is no representable instant. -/
def invalidFetchedAtError (fetchedAt : ℤ) : String :=
  s!"invalid fetched_at_unix_ms {fetchedAt}"

/-- One iteration of the loop that fills the staging table and counts the moved rows. -/
def stageEntry (newTimezone : Tz) (acc : KeyedTable TimezoneMapRow.key × ℕ)
    (entry : HistoryRow) : DbTx (KeyedTable TimezoneMapRow.key × ℕ) :=
  let fetchedAt := entry.fetchedAtUnixMs
  match fromTimestampMillis fetchedAt with
  | none => Tx.raise (invalidFetchedAtError fetchedAt)
  | some dt =>
    let newDate := dateInTimezone newTimezone dt
    let rewritten := acc.2 + if newDate ≠ entry.date then 1 else 0
    Tx.statement fun tables =>
      match acc.1.insert ⟨entry.unifiedUuid, entry.date, newDate, fetchedAt⟩ with
      | some mapping => .ok ((mapping, rewritten), tables)
      | none => .error "UNIQUE constraint failed: weather_history_timezone_map"

/-- `validate_history_rebuild_schema`. -/
def validateHistoryRebuildSchema (schema : HistorySchema) : Except String Unit :=
  match schema.tableSql with
  | none => .error "canonical weather history table is missing"
  | some tableSql =>
    if tableSql ≠ historyTableSql then
      .error "weather history table schema is not supported by timezone migration; run a compatible database migration first"
    else
      match schema.indexSql with
      | none => .error "canonical weather history index is missing"
      | some indexSql =>
        if indexSql ≠ historyIndexSql then
          .error "weather history index schema is not supported by timezone migration; run a compatible database migration first"
        else if schema.otherObjects ≠ [] then
          let objects := ", ".intercalate (schema.otherObjects.map fun o => o.1 ++ " `" ++ o.2 ++ "`")
          .error s!"timezone migration does not support extra schema objects referencing `weather_snapshots_history`: {objects}"
        else .ok ⟨⟩

/-- The first half of the rebuild: check the schema, then fill the staging table and count the
moved rows. -/
def stageHistory (newTimezone : Tz) : DbTx (KeyedTable TimezoneMapRow.key × ℕ) := do
  let schema ← Tx.query Tables.historySchema
  Tx.ofExcept (validateHistoryRebuildSchema schema)
  let entries ← Tx.query Tables.timezoneEntries
  Tx.execute id -- create the staging table and its index
  entries.foldlM (stageEntry newTimezone) (.empty, 0)

/-- The second half of the rebuild: copy the kept rows into a new history table, check their
number, and drop the old table and the staging table. -/
def swapHistory (mapping : KeyedTable TimezoneMapRow.key) : DbTx Unit := do
  let expectedCount ← Tx.query fun _ => (mapping.rows.map TimezoneMapRow.group).dedup.length
  -- the old table keeps its rows under another name
  let source ← Tx.query Tables.history
  Tx.execute fun tables => { tables with history := .empty }
  Tx.executeOr "UNIQUE constraint failed: weather_snapshots_history" fun tables =>
    (tables.history.insertAll (stagedRows source mapping)).map fun history =>
      { tables with history }
  let stagedCount ← Tx.query fun tables => tables.history.rows.length
  if stagedCount ≠ expectedCount then
    Tx.raise (stagedCountError stagedCount expectedCount)
  else
    Tx.execute fun tables => { tables with historySchema := .canonical }

/-! ## The kept rows -/

/-- The row under its local date in a timezone. -/
def HistoryRow.rekeyed (tz : Tz) (row : HistoryRow) : HistoryRow :=
  { row with date := dateInTimezone tz row.fetchedAtUnixMs }

/-- Two rows fall on one day of one station in a timezone. -/
def HistoryRow.SameDay (tz : Tz) (a b : HistoryRow) : Prop :=
  a.unifiedUuid = b.unifiedUuid ∧
    dateInTimezone tz a.fetchedAtUnixMs = dateInTimezone tz b.fetchedAtUnixMs

/-- Fetch time and stored date of a row, ordered lexicographically. -/
def HistoryRow.rank (row : HistoryRow) : ℤ ×ₗ String := toLex (row.fetchedAtUnixMs, row.date)

/-- A migration to `tz` keeps `row`: no row of its new day has a greater rank. -/
def KeptRow (tz : Tz) (history : KeyedTable HistoryRow.key) (row : HistoryRow) : Prop :=
  row ∈ history ∧ ∀ other ∈ history, other.SameDay tz row → other.rank ≤ row.rank

theorem HistoryRow.SameDay.symm {tz : Tz} {a b : HistoryRow} (h : a.SameDay tz b) :
    b.SameDay tz a := ⟨h.1.symm, h.2.symm⟩

theorem HistoryRow.SameDay.trans {tz : Tz} {a b c : HistoryRow} (hab : a.SameDay tz b)
    (hbc : b.SameDay tz c) : a.SameDay tz c := ⟨hab.1.trans hbc.1, hab.2.trans hbc.2⟩

/-- Rows of one station with the same rank share the primary key. -/
theorem HistoryRow.eq_of_rank_eq {history : KeyedTable HistoryRow.key} {a b : HistoryRow}
    (ha : a ∈ history) (hb : b ∈ history) (huuid : a.unifiedUuid = b.unifiedUuid)
    (hrank : a.rank = b.rank) : a = b := by
  have hpair : (a.fetchedAtUnixMs, a.date) = (b.fetchedAtUnixMs, b.date) := toLex.injective hrank
  rw [Prod.mk.injEq] at hpair
  exact KeyedTable.eq_of_key_eq ha hb (Prod.ext huuid hpair.2)

/-- Every row has a kept row on its day. -/
theorem exists_keptRow (tz : Tz) {history : KeyedTable HistoryRow.key} {row : HistoryRow}
    (hrow : row ∈ history) : ∃ kept, KeptRow tz history kept ∧ kept.SameDay tz row := by
  classical
  let day := history.rows.toFinset.filter fun other => other.SameDay tz row
  have hmem : ∀ {other}, other ∈ day ↔ other ∈ history ∧ other.SameDay tz row := by
    intro other
    simp [day]
  obtain ⟨kept, hkept, hmax⟩ := day.exists_max_image HistoryRow.rank ⟨row, hmem.2 ⟨hrow, rfl, rfl⟩⟩
  rw [hmem] at hkept
  refine ⟨kept, ⟨hkept.1, fun other hother hday => ?_⟩, hkept.2⟩
  exact hmax other (hmem.2 ⟨hother, hday.trans hkept.2⟩)

/-- A day has one kept row. -/
theorem KeptRow.eq_of_sameDay {tz : Tz} {history : KeyedTable HistoryRow.key}
    {a b : HistoryRow} (ha : KeptRow tz history a) (hb : KeptRow tz history b)
    (hday : a.SameDay tz b) : a = b :=
  HistoryRow.eq_of_rank_eq ha.1 hb.1 hday.1
    (le_antisymm (hb.2 a ha.1 hday) (ha.2 b hb.1 hday.symm))

/-! ## The staging table selects the kept rows -/

/-- The staging row of a history row. -/
def HistoryRow.staged (tz : Tz) (row : HistoryRow) : TimezoneMapRow :=
  ⟨row.unifiedUuid, row.date, dateInTimezone tz row.fetchedAtUnixMs, row.fetchedAtUnixMs⟩

/-- The anti-join compares the ranks of two rows of one day. -/
theorem supersededBy_staged {tz : Tz} {row other : HistoryRow} :
    (row.staged tz).supersededBy (other.staged tz) = true ↔
      other.SameDay tz row ∧ row.rank < other.rank := by
  rw [TimezoneMapRow.supersededBy, decide_eq_true_iff]
  simp only [HistoryRow.staged, HistoryRow.SameDay, HistoryRow.rank, Prod.Lex.toLex_lt_toLex]
  rw [and_assoc, @eq_comm _ other.fetchedAtUnixMs]

/-- The staging table holds exactly the staging rows of a history. -/
def StagingOf (tz : Tz) (history : KeyedTable HistoryRow.key)
    (mapping : KeyedTable TimezoneMapRow.key) : Prop :=
  ∀ m, m ∈ mapping ↔ ∃ row ∈ history, row.staged tz = m

/-- The anti-join finds no superseding row exactly for the kept rows. -/
theorem any_supersededBy_staged {tz : Tz} {history : KeyedTable HistoryRow.key}
    {mapping : KeyedTable TimezoneMapRow.key} (hstaging : StagingOf tz history mapping)
    {row : HistoryRow} (hrow : row ∈ history) :
    mapping.rows.any (row.staged tz).supersededBy = false ↔ KeptRow tz history row := by
  rw [List.any_eq_false, KeptRow]
  constructor
  · intro h
    refine ⟨hrow, fun other hother hday => not_lt.1 fun hlt => ?_⟩
    exact h _ ((hstaging _).2 ⟨other, hother, rfl⟩) (supersededBy_staged.2 ⟨hday, hlt⟩)
  · rintro ⟨-, hmax⟩ m hm hsuperseded
    obtain ⟨other, hother, rfl⟩ := (hstaging m).1 hm
    obtain ⟨hday, hlt⟩ := supersededBy_staged.1 hsuperseded
    exact absurd hlt (not_lt.2 (hmax other hother hday))

/-- The rebuilt history receives the kept rows under their new dates, in the order of the old
table. -/
theorem stagedRows_eq {tz : Tz} {history : KeyedTable HistoryRow.key}
    {mapping : KeyedTable TimezoneMapRow.key} (hstaging : StagingOf tz history mapping) :
    stagedRows history mapping =
      (history.rows.filter fun row => !mapping.rows.any (row.staged tz).supersededBy).map
        (HistoryRow.rekeyed tz) := by
  have hjoin : ∀ row ∈ history.rows,
      (mapping.rows.filter fun m => (m.unifiedUuid = row.unifiedUuid ∧ m.oldDate = row.date) ∧
        !mapping.rows.any m.supersededBy).map (fun m => { row with date := m.newDate }) =
      if !mapping.rows.any (row.staged tz).supersededBy then [row.rekeyed tz] else [] := by
    intro row hrow
    have hstaged : row.staged tz ∈ mapping := (hstaging _).2 ⟨row, hrow, rfl⟩
    have hmatch : (mapping.rows.filter fun m =>
        m.unifiedUuid = row.unifiedUuid ∧ m.oldDate = row.date) = [row.staged tz] := by
      rw [← KeyedTable.filter_key_eq hstaged]
      refine List.filter_congr fun m _ => decide_eq_decide.2 ?_
      rw [TimezoneMapRow.key, TimezoneMapRow.key, Prod.mk.injEq]
      rfl
    simp only [Bool.decide_and, Bool.decide_eq_true]
    rw [← List.filter_filter, List.filter_comm]
    simp only [Bool.decide_and] at hmatch
    rw [hmatch, List.filter_singleton]
    cases mapping.rows.any (row.staged tz).supersededBy <;> rfl
  rw [stagedRows, List.flatMap_congr hjoin]
  induction history.rows with
  | nil => rfl
  | cons row rows ih =>
    rw [List.flatMap_cons, ih, List.filter_cons]
    split_ifs <;> rfl

theorem mem_stagedRows {tz : Tz} {history : KeyedTable HistoryRow.key}
    {mapping : KeyedTable TimezoneMapRow.key} (hstaging : StagingOf tz history mapping)
    {x : HistoryRow} :
    x ∈ stagedRows history mapping ↔ ∃ row, KeptRow tz history row ∧ row.rekeyed tz = x := by
  rw [stagedRows_eq hstaging, List.mem_map]
  refine exists_congr fun row => and_congr_left fun _ => ?_
  rw [List.mem_filter, Bool.not_eq_true', KeyedTable.mem_rows]
  constructor
  · rintro ⟨hrow, hany⟩
    exact (any_supersededBy_staged hstaging hrow).1 hany
  · intro hkept
    exact ⟨hkept.1, (any_supersededBy_staged hstaging hkept.1).2 hkept⟩

/-- The rebuilt rows respect the primary key. -/
theorem nodup_stagedRows {tz : Tz} {history : KeyedTable HistoryRow.key}
    {mapping : KeyedTable TimezoneMapRow.key} (hstaging : StagingOf tz history mapping) :
    ((stagedRows history mapping).map HistoryRow.key).Nodup := by
  rw [stagedRows_eq hstaging, List.map_map]
  refine (history.rows_nodup.filter _).map_on ?_
  intro a ha b hb hkey
  rw [List.mem_filter, Bool.not_eq_true'] at ha hb
  have hkeptA := (any_supersededBy_staged hstaging ha.1).1 ha.2
  have hkeptB := (any_supersededBy_staged hstaging hb.1).1 hb.2
  exact hkeptA.eq_of_sameDay hkeptB (Prod.ext_iff.1 hkey)

/-- The rebuilt history has one row for each day of the staging table, so that the count check
after the copy passes. -/
theorem length_stagedRows {tz : Tz} {history rebuilt : KeyedTable HistoryRow.key}
    {mapping : KeyedTable TimezoneMapRow.key} (hstaging : StagingOf tz history mapping)
    (hrows : rebuilt.rows = stagedRows history mapping) :
    rebuilt.rows.length = (mapping.rows.map TimezoneMapRow.group).dedup.length := by
  rw [← List.length_map HistoryRow.key]
  refine List.Perm.length_eq ((List.perm_ext_iff_of_nodup rebuilt.nodup (List.nodup_dedup _)).2 ?_)
  intro day
  rw [List.mem_dedup, List.mem_map, List.mem_map]
  constructor
  · rintro ⟨x, hx, rfl⟩
    rw [hrows, mem_stagedRows hstaging] at hx
    obtain ⟨row, hkept, rfl⟩ := hx
    exact ⟨row.staged tz, (hstaging _).2 ⟨row, hkept.1, rfl⟩, rfl⟩
  · rintro ⟨m, hm, rfl⟩
    obtain ⟨row, hrow, rfl⟩ := (hstaging m).1 hm
    obtain ⟨kept, hkept, hday⟩ := exists_keptRow tz hrow
    refine ⟨kept.rekeyed tz, ?_, Prod.ext hday.1 hday.2⟩
    rw [hrows, mem_stagedRows hstaging]
    exact ⟨kept, hkept, rfl⟩

/-! ## The rebuild -/

/-- What the staging loop has done with the entries `done`. -/
structure StagedSoFar (tz : Tz) (tables₀ : Tables) (done : List HistoryRow)
    (acc : KeyedTable TimezoneMapRow.key × ℕ) (tables : Tables) : Prop where
  unchanged : tables = tables₀
  staged : acc.1.rows = done.map fun row => row.staged tz
  counted : acc.2 = done.countP fun row => dateInTimezone tz row.fetchedAtUnixMs ≠ row.date
  valid : ∀ row ∈ done, fromTimestampMillis row.fetchedAtUnixMs = some row.fetchedAtUnixMs

theorem fromTimestampMillis_eq_some {ms dt : ℤ} (h : fromTimestampMillis ms = some dt) :
    dt = ms := by
  unfold fromTimestampMillis at h
  split_ifs at h
  exact (Option.some.inj h).symm

theorem stagedSoFar_step {tz : Tz} {tables₀ tables tables' : Tables} {done : List HistoryRow}
    {entry : HistoryRow} {acc acc' : KeyedTable TimezoneMapRow.key × ℕ}
    (h : StagedSoFar tz tables₀ done acc tables)
    (hrun : (stageEntry tz acc entry).Returns tables acc' tables') :
    StagedSoFar tz tables₀ (done ++ [entry]) acc' tables' := by
  simp only [stageEntry] at hrun
  split at hrun
  next => exact absurd hrun Tx.not_returns_raise
  next dt hdt =>
    obtain rfl := fromTimestampMillis_eq_some hdt
    have hinsert := Tx.returns_statement hrun
    split at hinsert
    next mapping hmapping =>
      cases hinsert
      refine ⟨h.unchanged, ?_, ?_, ?_⟩
      · simp [KeyedTable.insert_eq_some_iff.1 hmapping, h.staged, HistoryRow.staged]
      · simp [h.counted, List.countP_append, List.countP_singleton]
      · intro row hrow
        rcases List.mem_append.1 hrow with hdone | hentry
        · exact h.valid row hdone
        · rw [List.mem_singleton.1 hentry, hdt]
    next => cases hinsert

/-- The staging loop started on the entries of the history. -/
theorem stagedSoFar_init (tz : Tz) (tables : Tables) :
    StagedSoFar tz tables [] (.empty, 0) tables :=
  ⟨rfl, rfl, rfl, by simp⟩

/-- The staging table filled from the whole history. -/
structure Staged (tz : Tz) (tables : Tables) (mapping : KeyedTable TimezoneMapRow.key)
    (rewritten : ℕ) : Prop where
  staging : StagingOf tz tables.history mapping
  counted : rewritten =
    tables.history.rows.countP fun row => dateInTimezone tz row.fetchedAtUnixMs ≠ row.date
  valid : ∀ row ∈ tables.history, localDate tz row.fetchedAtUnixMs = some (row.rekeyed tz).date

theorem StagedSoFar.staged_all {tz : Tz} {tables₀ tables : Tables}
    {acc : KeyedTable TimezoneMapRow.key × ℕ}
    (h : StagedSoFar tz tables₀ tables₀.timezoneEntries acc tables) :
    Staged tz tables₀ acc.1 acc.2 := by
  refine ⟨fun m => ?_, ?_, fun row hrow => ?_⟩
  · rw [← KeyedTable.mem_rows, h.staged, List.mem_map]
    simp [Tables.timezoneEntries]
  · rw [h.counted]
    exact (KeyedTable.select_all_perm _ _).countP_eq _
  · have hmem : row ∈ tables₀.timezoneEntries := by simpa [Tables.timezoneEntries] using hrow
    rw [localDate, h.valid row hmem, Option.map_some, HistoryRow.rekeyed]

theorem stageHistory_returns {tz : Tz} {tables tables' : Tables}
    {acc : KeyedTable TimezoneMapRow.key × ℕ}
    (h : (stageHistory tz).Returns tables acc tables') :
    tables' = tables ∧ Staged tz tables acc.1 acc.2 := by
  obtain ⟨schema, s₁, hschema, hrest₁⟩ := Tx.returns_bind h
  obtain ⟨-, rfl⟩ := Tx.returns_query hschema
  obtain ⟨_, s₂, hvalid, hrest₂⟩ := Tx.returns_bind hrest₁
  obtain ⟨-, rfl⟩ := Tx.returns_ofExcept hvalid
  obtain ⟨entries, s₃, hentries, hrest₃⟩ := Tx.returns_bind hrest₂
  obtain ⟨rfl, rfl⟩ := Tx.returns_query hentries
  obtain ⟨_, s₄, hcreate, hloop⟩ := Tx.returns_bind hrest₃
  obtain rfl : s₄ = s₃ := Tx.returns_execute hcreate
  have hstaged : StagedSoFar tz s₄ s₄.timezoneEntries acc tables' :=
    Tx.returns_foldlM (StagedSoFar tz s₄) (stagedSoFar_init tz s₄)
      (fun _ _ _ _ _ _ => stagedSoFar_step) hloop
  exact ⟨hstaged.unchanged, hstaged.staged_all⟩

/-- What a rebuild that returns has made of the tables. -/
structure Rebuilt (tz : Tz) (tables tables' : Tables) : Prop where
  history : ∀ x, x ∈ tables'.history ↔ ∃ row, KeptRow tz tables.history row ∧ row.rekeyed tz = x
  others : tables' = { tables with history := tables'.history, historySchema := .canonical }

theorem swapHistory_returns {tz : Tz} {tables tables' : Tables} {result : Unit}
    {mapping : KeyedTable TimezoneMapRow.key} (hstaging : StagingOf tz tables.history mapping)
    (h : (swapHistory mapping).Returns tables result tables') : Rebuilt tz tables tables' := by
  obtain ⟨expectedCount, s₁, hexpected, hrest₁⟩ := Tx.returns_bind h
  obtain ⟨-, rfl⟩ := Tx.returns_query hexpected
  obtain ⟨source, s₂, hsource, hrest₂⟩ := Tx.returns_bind hrest₁
  obtain ⟨rfl, rfl⟩ := Tx.returns_query hsource
  obtain ⟨_, s₃, hrename, hrest₃⟩ := Tx.returns_bind hrest₂
  obtain rfl := Tx.returns_execute hrename
  obtain ⟨_, s₄, hcopy, hrest₄⟩ := Tx.returns_bind hrest₃
  have hcopied := Tx.returns_executeOr hcopy
  obtain ⟨rebuilt, hinsert, rfl⟩ := Option.map_eq_some_iff.1 hcopied
  obtain ⟨stagedCount, s₅, hstaged, hrest₅⟩ := Tx.returns_bind hrest₄
  obtain ⟨-, rfl⟩ := Tx.returns_query hstaged
  split_ifs at hrest₅ with hcount
  · exact absurd hrest₅ Tx.not_returns_raise
  · obtain rfl := Tx.returns_execute hrest₅
    refine ⟨fun x => ?_, rfl⟩
    have hrows := KeyedTable.insertAll_eq_some_iff.1 hinsert
    rw [← mem_stagedRows hstaging, ← KeyedTable.mem_rows, hrows]
    simp

/-! ## Failing rebuilds -/

/-- A failing staging names a schema error or a row without a representable fetch time. -/
theorem stageHistory_fails {tz : Tz} {tables : Tables} {e : DbError}
    (h : (stageHistory tz).Fails tables e) :
    (∃ reason, e = .engine reason) ∨
      (∃ text, validateHistoryRebuildSchema tables.historySchema = .error text ∧
        e = .raised text) ∨
      ∃ row ∈ tables.history, e = .raised (invalidFetchedAtError row.fetchedAtUnixMs) := by
  rcases Tx.fails_bind h with hquery | ⟨schema, s₁, hschema, hrest₁⟩
  · exact Or.inl (Tx.fails_statement hquery)
  obtain ⟨rfl, rfl⟩ := Tx.returns_query hschema
  rcases Tx.fails_bind hrest₁ with hinvalid | ⟨_, s₂, hvalid, hrest₂⟩
  · exact Or.inr (Or.inl (Tx.fails_ofExcept hinvalid))
  obtain ⟨-, rfl⟩ := Tx.returns_ofExcept hvalid
  rcases Tx.fails_bind hrest₂ with hquery | ⟨entries, s₃, hentries, hrest₃⟩
  · exact Or.inl (Tx.fails_statement hquery)
  obtain ⟨rfl, rfl⟩ := Tx.returns_query hentries
  rcases Tx.fails_bind hrest₃ with hcreate | ⟨_, s₄, hcreate, hloop⟩
  · exact Or.inl (Tx.fails_statement hcreate)
  obtain ⟨done, entry, rest, acc, s₅, hsplit, -, hfails⟩ :=
    Tx.fails_foldlM (fun _ _ _ => True) trivial (fun _ _ _ _ _ _ _ _ => trivial) hloop
  simp only [stageEntry] at hfails
  split at hfails
  next =>
    have hentry : entry ∈ s₃.timezoneEntries := by simp [hsplit]
    refine Or.inr (Or.inr ⟨entry, ?_, Tx.fails_raise hfails⟩)
    simpa [Tables.timezoneEntries] using hentry
  next => exact Or.inl (Tx.fails_statement hfails)

/-- The rebuild cannot fail its count check: only the engine can stop it. -/
theorem swapHistory_fails {tz : Tz} {tables : Tables} {e : DbError}
    {mapping : KeyedTable TimezoneMapRow.key} (hstaging : StagingOf tz tables.history mapping)
    (h : (swapHistory mapping).Fails tables e) : ∃ reason, e = .engine reason := by
  rcases Tx.fails_bind h with hquery | ⟨expectedCount, s₁, hexpected, hrest₁⟩
  · exact Tx.fails_statement hquery
  obtain ⟨rfl, rfl⟩ := Tx.returns_query hexpected
  rcases Tx.fails_bind hrest₁ with hquery | ⟨source, s₂, hsource, hrest₂⟩
  · exact Tx.fails_statement hquery
  obtain ⟨rfl, rfl⟩ := Tx.returns_query hsource
  rcases Tx.fails_bind hrest₂ with hrename | ⟨_, s₃, hrename, hrest₃⟩
  · exact Tx.fails_statement hrename
  obtain rfl := Tx.returns_execute hrename
  rcases Tx.fails_bind hrest₃ with hcopy | ⟨_, s₄, hcopy, hrest₄⟩
  · exact Tx.fails_statement hcopy
  have hcopied := Tx.returns_executeOr hcopy
  obtain ⟨rebuilt, hinsert, rfl⟩ := Option.map_eq_some_iff.1 hcopied
  rcases Tx.fails_bind hrest₄ with hquery | ⟨stagedCount, s₅, hstaged, hrest₅⟩
  · exact Tx.fails_statement hquery
  obtain ⟨rfl, rfl⟩ := Tx.returns_query hstaged
  have hrows : rebuilt.rows = stagedRows s₂.history mapping := by
    simpa using KeyedTable.insertAll_eq_some_iff.1 hinsert
  split_ifs at hrest₅ with hcount
  · exact absurd (length_stagedRows hstaging hrows) hcount
  · exact Tx.fails_statement hrest₅

/-! ## The migration -/

variable [DecidableEq Tz]

/-- The transaction of `migrate_timezone`, after the two arguments are parsed. -/
def migrateTimezoneBody (oldTz : String) (oldTimezone newTimezone : Tz) : DbTx ℕ := do
  let pending ← Tx.query Tables.pendingTimezone
  match pending with
  | some pending => Tx.raise s!"timezone config sync to `{pending}` is already pending"
  | none =>
    let stored ← Tx.query Tables.storedTimezone
    match stored with
    | none => Tx.raise "database timezone metadata is missing"
    | some stored =>
      let storedTimezone : Tz ← Tx.ofExcept (parseTimezone stored "stored database timezone")
      if storedTimezone ≠ oldTimezone then
        Tx.raise s!"DB timezone `{stored}` does not match requested old timezone `{oldTz}`"
      else if oldTimezone = newTimezone then return 0
      else
        let (mapping, rewritten) ← stageHistory newTimezone
        swapHistory mapping
        Tx.execute fun tables =>
          tables.setEngineValue dbTimezoneKey (TzDatabase.name newTimezone)
        Tx.execute fun tables =>
          tables.setEngineValue timezoneSyncPendingKey (TzDatabase.name newTimezone)
        return rewritten

/-- `migrate_timezone`. The timezone in memory follows the commit. -/
def DbInstance.migrateTimezone (db : DbInstance Tz) (oldTz newTz : String)
    (faults : FaultPlan) : Except DbError ℕ × DbInstance Tz :=
  match (parseTimezone oldTz "old database timezone" : Except String Tz),
      (parseTimezone newTz "new database timezone" : Except String Tz) with
  | .error e, _ => (.error (.raised e), db)
  | .ok _, .error e => (.error (.raised e), db)
  | .ok oldTimezone, .ok newTimezone =>
    match transaction (migrateTimezoneBody oldTz oldTimezone newTimezone) faults db.tables with
    | (.ok rewritten, tables) => (.ok rewritten, ⟨tables, newTimezone⟩)
    | (.error e, tables) => (.error e, { db with tables })

/-- What a migration that moved the history has made of the tables: the kept rows under their
new dates, and the new timezone both stored and marked as pending. -/
structure Migrated (tz : Tz) (tables : Tables) (rewritten : ℕ) (tables' : Tables) : Prop where
  history : ∀ x, x ∈ tables'.history ↔ ∃ row, KeptRow tz tables.history row ∧ row.rekeyed tz = x
  counted : rewritten =
    tables.history.rows.countP fun row => dateInTimezone tz row.fetchedAtUnixMs ≠ row.date
  valid : ∀ row ∈ tables.history, localDate tz row.fetchedAtUnixMs = some (row.rekeyed tz).date
  others : tables' =
    ({ tables with history := tables'.history, historySchema := .canonical }.setEngineValue
      dbTimezoneKey (TzDatabase.name tz)).setEngineValue timezoneSyncPendingKey
        (TzDatabase.name tz)

omit [DecidableEq Tz] in
/-- A migration stores the new timezone. -/
theorem Migrated.storedTimezone {tz : Tz} {tables tables' : Tables} {rewritten : ℕ}
    (h : Migrated tz tables rewritten tables') :
    tables'.storedTimezone = some (TzDatabase.name tz) := by
  rw [h.others, Tables.storedTimezone, Tables.engineValue_setEngineValue_of_ne (by decide)]
  exact Tables.engineValue_setEngineValue _ _ _

omit [DecidableEq Tz] in
/-- A migration marks the new timezone as pending. -/
theorem Migrated.pendingTimezone {tz : Tz} {tables tables' : Tables} {rewritten : ℕ}
    (h : Migrated tz tables rewritten tables') :
    tables'.pendingTimezone = some (TzDatabase.name tz) := by
  rw [h.others]
  exact Tables.engineValue_setEngineValue _ _ _

/-- The checks before the rebuild let a migration through. -/
structure Migratable (tables : Tables) (oldTimezone : Tz) : Prop where
  settled : tables.pendingTimezone = none
  stored : ∃ stored, tables.storedTimezone = some stored ∧
    TzDatabase.fromStr stored = some oldTimezone

theorem migrateTimezoneBody_returns {oldTz : String} {oldTimezone newTimezone : Tz}
    {tables tables' : Tables} {rewritten : ℕ}
    (h : (migrateTimezoneBody oldTz oldTimezone newTimezone).Returns tables rewritten tables') :
    Migratable tables oldTimezone ∧
      ((oldTimezone = newTimezone ∧ rewritten = 0 ∧ tables' = tables) ∨
        (oldTimezone ≠ newTimezone ∧ Migrated newTimezone tables rewritten tables')) := by
  obtain ⟨pending, s₁, hpending, hrest₁⟩ := Tx.returns_bind h
  obtain ⟨rfl, rfl⟩ := Tx.returns_query hpending
  split at hrest₁
  next => exact absurd hrest₁ Tx.not_returns_raise
  next hsettled =>
    obtain ⟨stored, s₂, hstored, hrest₂⟩ := Tx.returns_bind hrest₁
    obtain ⟨rfl, rfl⟩ := Tx.returns_query hstored
    split at hrest₂
    next => exact absurd hrest₂ Tx.not_returns_raise
    next stored hstored =>
      obtain ⟨storedTimezone, s₃, hparse, hrest₃⟩ := Tx.returns_bind hrest₂
      obtain ⟨hparsed, rfl⟩ := Tx.returns_ofExcept hparse
      split_ifs at hrest₃ with hmatches hsame
      · exact absurd hrest₃ Tx.not_returns_raise
      · rw [not_not] at hmatches
        subst hmatches
        obtain ⟨rfl, rfl⟩ := Tx.returns_pure hrest₃
        exact ⟨⟨hsettled, stored, hstored, parseTimezone_eq_ok.1 hparsed⟩,
          Or.inl ⟨hsame, rfl, rfl⟩⟩
      · rw [not_not] at hmatches
        subst hmatches
        refine ⟨⟨hsettled, stored, hstored, parseTimezone_eq_ok.1 hparsed⟩, Or.inr ⟨hsame, ?_⟩⟩
        obtain ⟨⟨mapping, counted⟩, s₄, hstage, hrest₄⟩ := Tx.returns_bind hrest₃
        obtain ⟨rfl, hstaged⟩ := stageHistory_returns hstage
        obtain ⟨_, s₅, hswap, hrest₅⟩ := Tx.returns_bind hrest₄
        have hrebuilt := swapHistory_returns hstaged.staging hswap
        obtain ⟨_, s₆, htimezone, hrest₆⟩ := Tx.returns_bind hrest₅
        obtain rfl := Tx.returns_execute htimezone
        obtain ⟨_, s₇, hmarker, hreturn⟩ := Tx.returns_bind hrest₆
        obtain rfl := Tx.returns_execute hmarker
        obtain ⟨rfl, rfl⟩ := Tx.returns_pure hreturn
        refine ⟨hrebuilt.history, hstaged.counted, hstaged.valid, ?_⟩
        conv_lhs => rw [hrebuilt.others]
        rfl

/-- What a migration that returns has done. -/
theorem migrateTimezone_ok {db db' : DbInstance Tz} {oldTz newTz : String}
    {faults : FaultPlan} {rewritten : ℕ}
    (h : db.migrateTimezone oldTz newTz faults = (.ok rewritten, db')) :
    ∃ oldTimezone newTimezone : Tz, TzDatabase.fromStr oldTz = some oldTimezone ∧
      TzDatabase.fromStr newTz = some newTimezone ∧ Migratable db.tables oldTimezone ∧
      db'.timezone = newTimezone ∧
      ((oldTimezone = newTimezone ∧ rewritten = 0 ∧ db'.tables = db.tables) ∨
        (oldTimezone ≠ newTimezone ∧ Migrated newTimezone db.tables rewritten db'.tables)) := by
  unfold DbInstance.migrateTimezone at h
  split at h
  next => cases h
  next => cases h
  next oldTimezone newTimezone hold hnew =>
    split at h
    next rewritten' tables hrun =>
      cases h
      obtain ⟨hmigratable, heffect⟩ := migrateTimezoneBody_returns (transaction_ok hrun)
      exact ⟨oldTimezone, newTimezone, parseTimezone_eq_ok.1 hold, parseTimezone_eq_ok.1 hnew,
        hmigratable, rfl, heffect⟩
    next => cases h

/-- A migration that fails leaves the database as it was. -/
theorem migrateTimezone_error {db db' : DbInstance Tz} {oldTz newTz : String}
    {faults : FaultPlan} {e : DbError}
    (h : db.migrateTimezone oldTz newTz faults = (.error e, db')) : db' = db := by
  unfold DbInstance.migrateTimezone at h
  split at h
  next => exact (Prod.ext_iff.1 h).2.symm
  next => exact (Prod.ext_iff.1 h).2.symm
  next =>
    split at h
    next => cases h
    next e' tables hrun =>
      cases h
      rw [(transaction_error hrun).1]

end WeatherApp
