import WeatherApp.Db.Timezone

/-!
# Opening the database

`DbInstance::open`, `ensure_timezone`, `clear_pending_timezone` and `inspect_pending_timezone`
of `storage.rs`. The database file is `none` while it holds no table.

## Main results

* `openDb_ok`, `openDb_error`: what opening the file does to it.
* `openDb_succeeds`: opening succeeds when the file agrees with the configured timezone.
* `inspectPendingTimezone_ok`, `inspectPendingTimezone_succeeds`: what the read-only inspection
  reports.
-/

namespace WeatherApp

variable {Tz : Type} [TzDatabase Tz] [DecidableEq Tz]

/-! ## The pending marker -/

/-- The transaction of `clear_pending_timezone`, after the argument is parsed. -/
def clearPendingTimezoneBody (expected : Tz) : DbTx Unit := do
  let pending ← Tx.query Tables.pendingTimezone
  match pending with
  | none => return ⟨⟩
  | some pending =>
    let pendingTimezone : Tz ← Tx.ofExcept (parseTimezone pending "pending database timezone")
    if pendingTimezone ≠ expected then
      let expectedName := TzDatabase.name expected
      Tx.raise s!"pending database timezone `{pending}` does not match expected `{expectedName}`"
    else
      Tx.execute fun tables => tables.deleteEngineValue timezoneSyncPendingKey

/-- `clear_pending_timezone`. -/
def DbInstance.clearPendingTimezone (db : DbInstance Tz) (expected : String)
    (faults : FaultPlan) : Except DbError Unit × DbInstance Tz :=
  match (parseTimezone expected "expected pending database timezone" : Except String Tz) with
  | .error e => (.error (.raised e), db)
  | .ok expected => db.onTables (transaction (clearPendingTimezoneBody expected)) faults

/-- The marker names this timezone, or there is none. -/
def PendingIs (tables : Tables) (tz : Tz) : Prop :=
  ∀ pending, tables.pendingTimezone = some pending → TzDatabase.fromStr pending = some tz

/-- Deleting a missing marker changes nothing, so clearing always deletes. -/
theorem clearPendingTimezoneBody_returns {expected : Tz} {tables tables' : Tables}
    (h : (clearPendingTimezoneBody expected).Returns tables ⟨⟩ tables') :
    PendingIs tables expected ∧ tables'.pendingTimezone = none ∧
      tables'.storedTimezone = tables.storedTimezone ∧ tables'.history = tables.history ∧
      tables'.historySchema = tables.historySchema := by
  obtain ⟨pending, s₁, hpending, hrest₁⟩ := Tx.returns_bind h
  obtain ⟨rfl, rfl⟩ := Tx.returns_query hpending
  split at hrest₁
  next hnone =>
    obtain ⟨-, rfl⟩ := Tx.returns_pure hrest₁
    refine ⟨fun pending hsome => ?_, hnone, rfl, rfl, rfl⟩
    rw [hnone] at hsome
    cases hsome
  next pending hsome =>
    obtain ⟨pendingTimezone, s₂, hparse, hrest₂⟩ := Tx.returns_bind hrest₁
    obtain ⟨hparsed, rfl⟩ := Tx.returns_ofExcept hparse
    split_ifs at hrest₂ with hmatches
    · exact absurd hrest₂ Tx.not_returns_raise
    · rw [not_not] at hmatches
      subst hmatches
      obtain rfl := Tx.returns_execute hrest₂
      refine ⟨fun pending' hsome' => ?_, ?_, ?_, rfl, rfl⟩
      · rw [hsome, Option.some.injEq] at hsome'
        rw [← hsome']
        exact parseTimezone_eq_ok.1 hparsed
      · exact Tables.engineValue_deleteEngineValue _ _
      · exact Tables.engineValue_deleteEngineValue_of_ne (by decide)

/-- Clearing a marker that names the expected timezone succeeds. -/
theorem clearPendingTimezoneBody_succeeds {expected : Tz} {tables : Tables}
    (h : PendingIs tables expected) :
    ∃ tables', (clearPendingTimezoneBody expected).Succeeds tables ⟨⟩ tables' := by
  cases hpending : tables.pendingTimezone with
  | none =>
    refine ⟨tables, Tx.succeeds_bind Tx.succeeds_query ?_⟩
    rw [hpending]
    exact Tx.succeeds_pure
  | some pending =>
    refine ⟨tables.deleteEngineValue timezoneSyncPendingKey,
      Tx.succeeds_bind Tx.succeeds_query ?_⟩
    rw [hpending]
    refine Tx.succeeds_bind (Tx.succeeds_ofExcept (parseTimezone_eq_ok.2 (h pending hpending))) ?_
    rw [if_neg (not_not.2 rfl)]
    exact Tx.succeeds_execute

theorem clearPendingTimezone_ok {db db' : DbInstance Tz} {expected : String}
    {faults : FaultPlan} (h : db.clearPendingTimezone expected faults = (.ok ⟨⟩, db')) :
    db'.timezone = db.timezone ∧ db'.tables.pendingTimezone = none ∧
      db'.tables.storedTimezone = db.tables.storedTimezone ∧
      db'.tables.history = db.tables.history ∧
      db'.tables.historySchema = db.tables.historySchema := by
  unfold DbInstance.clearPendingTimezone at h
  split at h
  next => cases h
  next =>
    obtain ⟨hrun, htimezone⟩ := DbInstance.onTables_eq_iff.1 h
    exact ⟨htimezone, (clearPendingTimezoneBody_returns (transaction_ok hrun)).2⟩

/-- A failed clearing leaves the database as it was. -/
theorem clearPendingTimezone_error {db db' : DbInstance Tz} {expected : String}
    {faults : FaultPlan} {e : DbError}
    (h : db.clearPendingTimezone expected faults = (.error e, db')) : db' = db := by
  unfold DbInstance.clearPendingTimezone at h
  split at h
  next => exact (Prod.ext_iff.1 h).2.symm
  next => exact DbInstance.onTables_error h

/-! ## Opening the file -/

/-- `ensure_timezone`. It returns the timezone to keep in memory. -/
def ensureTimezone (configTz : String) : DbTx Tz := do
  let configTimezone : Tz ← Tx.ofExcept (parseTimezone configTz "configured database timezone")
  let stored ← Tx.query Tables.storedTimezone
  let pending ← Tx.query Tables.pendingTimezone
  match pending with
  | some pending =>
    let pendingTimezone : Tz ← Tx.ofExcept (parseTimezone pending "pending database timezone")
    match stored with
    | none =>
      Tx.raise "database timezone metadata is missing while timezone sync is pending"
    | some stored =>
      let storedTimezone : Tz ← Tx.ofExcept (parseTimezone stored "stored database timezone")
      if storedTimezone ≠ pendingTimezone ∨ configTimezone ≠ pendingTimezone then
        Tx.raise s!"timezone sync pending `{pending}` does not match DB `{stored}` and config `{configTz}`"
      else
        Tx.execute id -- open the transaction of clear_pending_timezone
        clearPendingTimezoneBody pendingTimezone
        Tx.execute id
        return pendingTimezone
  | none =>
    match stored with
    | none =>
      -- set_db_timezone
      Tx.execute fun tables =>
        tables.setEngineValue dbTimezoneKey (TzDatabase.name configTimezone)
      return configTimezone
    | some stored =>
      let storedTimezone : Tz ← Tx.ofExcept (parseTimezone stored "stored database timezone")
      if storedTimezone ≠ configTimezone then
        Tx.raise s!"DB timezone `{stored}` != config `{configTz}`; call MIGRATE_DB_TIMEZONE RPC to migrate"
      else return storedTimezone

/-- Where the storage engine fails an opening: at the connection, in the transaction of the
schema migration, at the validation of the schema, or in a statement of `ensure_timezone`. -/
structure OpenFaults where
  connection : Option String
  migration : FaultPlan
  validation : Option String
  timezone : FaultPlan

/-- The opening during which the storage engine fails nothing. -/
def OpenFaults.none : OpenFaults := ⟨.none, noFaults, .none, noFaults⟩

/-- `migration::migrate`: a file without tables receives the initial schema. -/
def migrateSchema (faults : FaultPlan) (file : Option Tables) :
    Except DbError Unit × Option Tables :=
  transaction (Tx.execute fun file => some (file.getD Tables.initial)) faults file

/-- `DbInstance::open`. It returns the open database, and the file. -/
def openDb (file : Option Tables) (configTz : String) (faults : OpenFaults) :
    Except DbError (DbInstance Tz) × Option Tables :=
  match (parseTimezone configTz "configured database timezone" : Except String Tz) with
  | .error e => (.error (.raised e), file)
  | .ok _ =>
    match faults.connection with
    | some reason => (.error (.engine reason), file)
    | none =>
      match migrateSchema faults.migration file with
      | (.error e, file) => (.error e, file)
      | (.ok _, file) =>
        match faults.validation with
        | some reason => (.error (.engine reason), file)
        | none =>
          match atomically (ensureTimezone configTz) faults.timezone (file.getD .initial) with
          | (.ok timezone, tables) => (.ok ⟨tables, timezone⟩, some tables)
          | (.error e, tables) => (.error e, some tables)

/-- The timezone stored in the tables is `tz`. -/
def StoredIs (tables : Tables) (tz : Tz) : Prop :=
  tables.storedTimezone = some (TzDatabase.name tz)

/-- What `ensure_timezone` requires of the tables, and what it leaves. -/
structure Ensured (tables : Tables) (configTz : String) (tz : Tz) (tables' : Tables) : Prop where
  config : TzDatabase.fromStr configTz = some tz
  wasStored : ∀ stored, tables.storedTimezone = some stored → TzDatabase.fromStr stored = some tz
  wasPending : PendingIs tables tz
  stored : StoredIs tables' tz
  settled : tables'.pendingTimezone = none
  history : tables'.history = tables.history
  historySchema : tables'.historySchema = tables.historySchema

theorem ensureTimezone_returns {configTz : String} {tz : Tz} {tables tables' : Tables}
    (h : (ensureTimezone configTz).Returns tables tz tables') :
    Ensured tables configTz tz tables' := by
  obtain ⟨configTimezone, s₁, hparseConfig, hrest₁⟩ := Tx.returns_bind h
  obtain ⟨hparsedConfig, rfl⟩ := Tx.returns_ofExcept hparseConfig
  have hconfig := parseTimezone_eq_ok.1 hparsedConfig
  obtain ⟨stored, s₂, hqueryStored, hrest₂⟩ := Tx.returns_bind hrest₁
  obtain ⟨rfl, rfl⟩ := Tx.returns_query hqueryStored
  obtain ⟨pending, s₃, hqueryPending, hrest₃⟩ := Tx.returns_bind hrest₂
  obtain ⟨rfl, rfl⟩ := Tx.returns_query hqueryPending
  split at hrest₃
  next pending hpending =>
    obtain ⟨pendingTimezone, s₄, hparsePending, hrest₄⟩ := Tx.returns_bind hrest₃
    obtain ⟨-, rfl⟩ := Tx.returns_ofExcept hparsePending
    split at hrest₄
    next => exact absurd hrest₄ Tx.not_returns_raise
    next stored hstored =>
      obtain ⟨storedTimezone, s₅, hparseStored, hrest₅⟩ := Tx.returns_bind hrest₄
      obtain ⟨hparsedStored, rfl⟩ := Tx.returns_ofExcept hparseStored
      split_ifs at hrest₅ with hdiffer
      · exact absurd hrest₅ Tx.not_returns_raise
      rw [not_or, not_not, not_not] at hdiffer
      obtain ⟨rfl, rfl⟩ := hdiffer
      obtain ⟨_, s₆, hbegin, hrest₆⟩ := Tx.returns_bind hrest₅
      obtain rfl : s₆ = s₅ := Tx.returns_execute hbegin
      obtain ⟨_, s₇, hclear, hrest₇⟩ := Tx.returns_bind hrest₆
      obtain ⟨hwasPending, hsettled, hkept, hhistory, hschema⟩ :=
        clearPendingTimezoneBody_returns hclear
      obtain ⟨_, s₈, hcommit, hreturn⟩ := Tx.returns_bind hrest₇
      obtain rfl : s₈ = s₇ := Tx.returns_execute hcommit
      obtain ⟨rfl, rfl⟩ := Tx.returns_pure hreturn
      have hstoredTz := parseTimezone_eq_ok.1 hparsedStored
      refine ⟨hconfig, fun stored' hstored' => ?_, hwasPending, ?_, hsettled, hhistory, hschema⟩
      · rw [hstored, Option.some.injEq] at hstored'
        rw [← hstored', hstoredTz]
      · rw [StoredIs, hkept, hstored, TzDatabase.name_of_fromStr hstoredTz]
  next hpending =>
    have hwasPending : ∀ tz : Tz, PendingIs s₃ tz := by
      intro tz pending hsome
      rw [hpending] at hsome
      cases hsome
    split at hrest₃
    next hstored =>
      obtain ⟨_, s₄, hwrite, hreturn⟩ := Tx.returns_bind hrest₃
      obtain rfl := Tx.returns_execute hwrite
      obtain ⟨rfl, rfl⟩ := Tx.returns_pure hreturn
      refine ⟨hconfig, fun stored hsome => ?_, hwasPending _, ?_, ?_, rfl, rfl⟩
      · rw [hstored] at hsome
        cases hsome
      · exact Tables.engineValue_setEngineValue _ _ _
      · rw [Tables.pendingTimezone, Tables.engineValue_setEngineValue_of_ne (by decide)]
        exact hpending
    next stored hstored =>
      obtain ⟨storedTimezone, s₄, hparseStored, hrest₄⟩ := Tx.returns_bind hrest₃
      obtain ⟨hparsedStored, rfl⟩ := Tx.returns_ofExcept hparseStored
      split_ifs at hrest₄ with hdiffer
      · exact absurd hrest₄ Tx.not_returns_raise
      rw [not_not] at hdiffer
      obtain rfl := hdiffer
      obtain ⟨rfl, rfl⟩ := Tx.returns_pure hrest₄
      have hstoredTz := parseTimezone_eq_ok.1 hparsedStored
      refine ⟨hconfig, fun stored' hsome => ?_, hwasPending _, ?_, hpending, rfl, rfl⟩
      · rw [hstored, Option.some.injEq] at hsome
        rw [← hsome, hstoredTz]
      · rw [StoredIs, hstored, TzDatabase.name_of_fromStr hstoredTz]

/-- `ensure_timezone` succeeds when the stored timezone and the marker agree with the
configuration and a marker only stands beside a stored timezone. -/
theorem ensureTimezone_succeeds {configTz : String} {tz : Tz} {tables : Tables}
    (hconfig : TzDatabase.fromStr configTz = some tz)
    (hstored : ∀ stored, tables.storedTimezone = some stored →
      TzDatabase.fromStr stored = some tz)
    (hpending : PendingIs tables tz)
    (hmarked : tables.pendingTimezone ≠ none → tables.storedTimezone ≠ none) :
    ∃ tables', (ensureTimezone configTz).Succeeds tables tz tables' := by
  have hparse : ∀ label, parseTimezone configTz label = .ok tz := fun label =>
    parseTimezone_eq_ok.2 hconfig
  cases hpendingValue : tables.pendingTimezone with
  | some pending =>
    rw [hpendingValue] at hmarked
    obtain ⟨stored, hstoredValue⟩ := Option.ne_none_iff_exists'.1 (hmarked (by simp))
    obtain ⟨tables', hclear⟩ := clearPendingTimezoneBody_succeeds hpending
    refine ⟨tables', Tx.succeeds_bind (Tx.succeeds_ofExcept (hparse _)) ?_⟩
    refine Tx.succeeds_bind Tx.succeeds_query (Tx.succeeds_bind Tx.succeeds_query ?_)
    rw [hpendingValue, hstoredValue]
    refine Tx.succeeds_bind
      (Tx.succeeds_ofExcept (parseTimezone_eq_ok.2 (hpending _ hpendingValue))) ?_
    refine Tx.succeeds_bind
      (Tx.succeeds_ofExcept (parseTimezone_eq_ok.2 (hstored _ hstoredValue))) ?_
    rw [if_neg (by simp)]
    exact Tx.succeeds_bind Tx.succeeds_execute
      (Tx.succeeds_bind hclear (Tx.succeeds_bind Tx.succeeds_execute Tx.succeeds_pure))
  | none =>
    cases hstoredValue : tables.storedTimezone with
    | none =>
      refine ⟨tables.setEngineValue dbTimezoneKey (TzDatabase.name tz),
        Tx.succeeds_bind (Tx.succeeds_ofExcept (hparse _)) ?_⟩
      refine Tx.succeeds_bind Tx.succeeds_query (Tx.succeeds_bind Tx.succeeds_query ?_)
      rw [hpendingValue, hstoredValue]
      exact Tx.succeeds_bind Tx.succeeds_execute Tx.succeeds_pure
    | some stored =>
      refine ⟨tables, Tx.succeeds_bind (Tx.succeeds_ofExcept (hparse _)) ?_⟩
      refine Tx.succeeds_bind Tx.succeeds_query (Tx.succeeds_bind Tx.succeeds_query ?_)
      rw [hpendingValue, hstoredValue]
      refine Tx.succeeds_bind
        (Tx.succeeds_ofExcept (parseTimezone_eq_ok.2 (hstored _ hstoredValue))) ?_
      rw [if_neg (not_not.2 rfl)]
      exact Tx.succeeds_pure

/-- The schema migration only gives an empty file the initial tables. -/
theorem migrateSchema_eq {faults : FaultPlan} {file file' : Option Tables}
    {result : Except DbError Unit} (h : migrateSchema faults file = (result, file')) :
    (file'.getD .initial = file.getD .initial) ∧ (result = .ok ⟨⟩ → file'.isSome) := by
  cases result with
  | error e => simp [(transaction_error h).1]
  | ok a =>
    obtain rfl := Tx.returns_execute (transaction_ok h)
    exact ⟨rfl, fun _ => rfl⟩

/-- A successful opening has checked the stored timezone and the marker against the
configuration, and leaves no marker. -/
theorem openDb_ok {file file' : Option Tables} {configTz : String} {faults : OpenFaults}
    {db : DbInstance Tz} (h : openDb file configTz faults = (.ok db, file')) :
    file' = some db.tables ∧ Ensured (file.getD .initial) configTz db.timezone db.tables := by
  unfold openDb at h
  split at h
  next => cases h
  next =>
    split at h
    next => cases h
    next =>
      split at h
      next => cases h
      next file₁ hschema =>
        split at h
        next => cases h
        next =>
          split at h
          next timezone tables hrun =>
            cases h
            have hensured := ensureTimezone_returns (atomically_ok hrun)
            rw [(migrateSchema_eq hschema).1] at hensured
            exact ⟨rfl, hensured⟩
          next => cases h

/-- A failed opening leaves the tables as they were, or an empty file with the initial
tables. -/
theorem openDb_error {file file' : Option Tables} {configTz : String} {faults : OpenFaults}
    {e : DbError} (h : (openDb file configTz faults : Except DbError (DbInstance Tz) × _) =
      (.error e, file')) : file'.getD .initial = file.getD .initial := by
  unfold openDb at h
  split at h
  next =>
    cases h
    rfl
  next =>
    split at h
    next =>
      cases h
      rfl
    next =>
      split at h
      next hschema =>
        cases h
        exact (migrateSchema_eq hschema).1
      next file₁ hschema =>
        split at h
        next =>
          cases h
          exact (migrateSchema_eq hschema).1
        next =>
          split at h
          next => cases h
          next hrun =>
            cases h
            rw [(atomically_error hrun).1]
            exact (migrateSchema_eq hschema).1

/-- Without engine failures an opening succeeds when the file agrees with the configuration. -/
theorem openDb_succeeds {file : Option Tables} {configTz : String} {tz : Tz}
    (hconfig : TzDatabase.fromStr configTz = some tz)
    (hstored : ∀ stored, (file.getD .initial).storedTimezone = some stored →
      TzDatabase.fromStr stored = some tz)
    (hpending : PendingIs (file.getD .initial) tz)
    (hmarked : (file.getD .initial).pendingTimezone ≠ none →
      (file.getD .initial).storedTimezone ≠ none) :
    ∃ db : DbInstance Tz, openDb file configTz .none = (.ok db, some db.tables) := by
  obtain ⟨tables', hensure⟩ := ensureTimezone_succeeds hconfig hstored hpending hmarked
  refine ⟨⟨tables', tz⟩, ?_⟩
  have hschema : migrateSchema noFaults file = (.ok ⟨⟩, some (file.getD .initial)) :=
    transaction_noFaults Tx.succeeds_execute
  rw [openDb, parseTimezone_eq_ok.2 hconfig]
  simp only [OpenFaults.none, hschema, Option.getD_some, atomically_noFaults hensure]

/-! ## The inspection before opening -/

/-- The queries of `inspect_pending_timezone` on a file that holds tables. -/
def inspectPendingTimezoneBody (Tz : Type) [TzDatabase Tz] [DecidableEq Tz] :
    DbTx (Option String) := do
  Tx.execute id -- open the connection and look for the table engine_state
  let pending ← Tx.query Tables.pendingTimezone
  match pending with
  | none => return none
  | some pending =>
    let stored ← Tx.query Tables.storedTimezone
    match stored with
    | none => Tx.raise "database timezone metadata is missing while timezone sync is pending"
    | some stored =>
      let pendingTimezone : Tz ← Tx.ofExcept (parseTimezone pending "pending database timezone")
      let storedTimezone : Tz ← Tx.ofExcept (parseTimezone stored "stored database timezone")
      if pendingTimezone ≠ storedTimezone then
        Tx.raise s!"timezone sync pending `{pending}` does not match DB `{stored}`"
      else return some (TzDatabase.name pendingTimezone)

/-- `inspect_pending_timezone`. -/
def inspectPendingTimezone (Tz : Type) [TzDatabase Tz] [DecidableEq Tz] (file : Option Tables)
    (faults : FaultPlan) : Except DbError (Option String) :=
  match file with
  | none => .ok none
  | some tables => (atomically (inspectPendingTimezoneBody Tz) faults tables).1

/-- The inspection reports the marker, and only when it agrees with the stored timezone. -/
theorem inspectPendingTimezone_ok {file : Option Tables} {faults : FaultPlan}
    {pending : Option String} (h : inspectPendingTimezone Tz file faults = .ok pending) :
    pending = (file.getD .initial).pendingTimezone := by
  unfold inspectPendingTimezone at h
  split at h
  next =>
    cases h
    rfl
  next tables =>
    have hrun : atomically (inspectPendingTimezoneBody Tz) faults tables =
        (.ok pending, (atomically (inspectPendingTimezoneBody Tz) faults tables).2) :=
      Prod.ext h rfl
    obtain ⟨_, s₁, hopen, hrest₁⟩ := Tx.returns_bind (atomically_ok hrun)
    obtain rfl : s₁ = tables := Tx.returns_execute hopen
    obtain ⟨marker, s₂, hquery, hrest₂⟩ := Tx.returns_bind hrest₁
    obtain ⟨rfl, rfl⟩ := Tx.returns_query hquery
    rw [Option.getD_some]
    split at hrest₂
    next hnone =>
      rw [(Tx.returns_pure hrest₂).1, hnone]
    next marker hmarker =>
      obtain ⟨stored, s₃, hqueryStored, hrest₃⟩ := Tx.returns_bind hrest₂
      obtain ⟨rfl, rfl⟩ := Tx.returns_query hqueryStored
      split at hrest₃
      next => exact absurd hrest₃ Tx.not_returns_raise
      next =>
        obtain ⟨pendingTimezone, s₄, hparse, hrest₄⟩ := Tx.returns_bind hrest₃
        obtain ⟨hparsed, rfl⟩ := Tx.returns_ofExcept hparse
        obtain ⟨storedTimezone, s₅, -, hrest₅⟩ := Tx.returns_bind hrest₄
        split_ifs at hrest₅
        · exact absurd hrest₅ Tx.not_returns_raise
        · rw [(Tx.returns_pure hrest₅).1, hmarker,
            TzDatabase.name_of_fromStr (parseTimezone_eq_ok.1 hparsed)]

/-- Without engine failures the inspection succeeds when the marker agrees with the stored
timezone. -/
theorem inspectPendingTimezone_succeeds {file : Option Tables}
    (h : ∀ pending, (file.getD .initial).pendingTimezone = some pending →
      ∃ tz : Tz, TzDatabase.fromStr pending = some tz ∧ StoredIs (file.getD .initial) tz) :
    inspectPendingTimezone Tz file noFaults = .ok (file.getD .initial).pendingTimezone := by
  cases file with
  | none => rfl
  | some tables =>
    rw [Option.getD_some] at h ⊢
    have hbody : (inspectPendingTimezoneBody Tz).Succeeds tables tables.pendingTimezone
        tables := by
      refine Tx.succeeds_bind Tx.succeeds_execute (Tx.succeeds_bind Tx.succeeds_query ?_)
      rw [id_eq]
      cases hpending : tables.pendingTimezone with
      | none => exact Tx.succeeds_pure
      | some pending =>
        obtain ⟨tz, hparse, hstored⟩ := h pending hpending
        refine Tx.succeeds_bind Tx.succeeds_query ?_
        rw [show tables.storedTimezone = _ from hstored]
        refine Tx.succeeds_bind (Tx.succeeds_ofExcept (parseTimezone_eq_ok.2 hparse)) ?_
        refine Tx.succeeds_bind
          (Tx.succeeds_ofExcept (parseTimezone_eq_ok.2 (TzDatabase.fromStr_name tz))) ?_
        rw [if_neg (not_not.2 rfl), TzDatabase.name_of_fromStr hparse]
        exact Tx.succeeds_pure
    rw [inspectPendingTimezone, atomically_noFaults hbody]

end WeatherApp
