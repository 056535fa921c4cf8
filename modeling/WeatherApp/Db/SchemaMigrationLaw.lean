import WeatherApp.Db.SchemaMigration

/-!
# Schema migrations can be resumed

A registry whose first migration creates the history, while the others leave it alone, is applied in
its order, each migration as a whole. A run that stops has recorded what it has done, and another
one goes on from there.

## Main definitions

* `RegistryLaw`: which migrations touch the history.
* `Recorded`: the history holds exactly some migrations, in their order.
* `Interrupted`: a run that has failed.

## Main results

* `runOne_ok`, `runOne_noFaults_congr`: one migration, and two runs of it.
* `runPending_resumes`: what is left of a run ends as the whole run does.
* `migrations_resumable`: the guarantees together.
-/

namespace WeatherApp

namespace SchemaMigration

variable {Rest : Type}

/-! ## The registry and the history -/

/-- The migration creates an empty history. -/
def CreatesHistory (migration : Migration Rest) : Prop :=
  ∃ effect : Tx String Rest Unit, ∀ faults n rest,
    migration.apply faults (n, ⟨none, rest⟩) =
      (effect faults (n, rest)).map fun (a, n, rest) => (a, n, ⟨some .empty, rest⟩)

/-- The migration neither reads nor changes the history. -/
def LeavesHistory (migration : Migration Rest) : Prop :=
  ∃ effect : Tx String Rest Unit, ∀ faults n history rest,
    migration.apply faults (n, ⟨history, rest⟩) =
      (effect faults (n, rest)).map fun (a, n, rest) => (a, n, ⟨history, rest⟩)

/-- The first migration of a registry creates the history, and the others leave it alone. -/
structure RegistryLaw (available : List (Migration Rest)) : Prop where
  first : ∀ migration ∈ available.head?, CreatesHistory migration
  others : ∀ migration ∈ available.tail, LeavesHistory migration

/-- The history holds exactly some migrations. Without any there is no history. -/
def Recorded (done : List (Migration Rest)) (db : Database Rest) : Prop :=
  db.recorded = if done = [] then none else some (done.map Migration.applied)

/-- The rows of the history, or those of a new one. -/
def Database.rows (db : Database Rest) : History :=
  db.history.getD .empty

theorem Recorded.loadApplied_rows {done : List (Migration Rest)} {db : Database Rest}
    (h : Recorded done db) : loadApplied db.rows = done.map Migration.applied := by
  rw [Recorded, Database.recorded] at h
  rw [Database.rows]
  cases hhistory : db.history with
  | none =>
    rw [hhistory] at h
    split_ifs at h with hdone
    · rw [hdone]
      rfl
    · cases h
  | some history =>
    rw [hhistory] at h
    split_ifs at h
    · cases h
    · exact Option.some.inj h

/-- A migration at its place has the same effect on the rest of all databases, and leaves the rows
that there are. -/
theorem RegistryLaw.exists_effect {available : List (Migration Rest)} (h : RegistryLaw available)
    {done rest : List (Migration Rest)} {migration : Migration Rest}
    (hsplit : available = done ++ migration :: rest) :
    ∃ effect : Tx String Rest Unit, ∀ faults n db, Recorded done db →
      migration.apply faults (n, db) =
        (effect faults (n, db.rest)).map fun (a, n, rest) => (a, n, ⟨some db.rows, rest⟩) := by
  cases done with
  | nil =>
    obtain ⟨effect, heffect⟩ := h.first migration (by rw [hsplit]; rfl)
    refine ⟨effect, fun faults n db hrecorded => ?_⟩
    obtain ⟨history, rest⟩ := db
    cases history with
    | none => exact heffect faults n rest
    | some history => cases hrecorded
  | cons first done =>
    obtain ⟨effect, heffect⟩ := h.others migration (by simp [hsplit])
    refine ⟨effect, fun faults n db hrecorded => ?_⟩
    obtain ⟨history, rest⟩ := db
    cases history with
    | none => cases hrecorded
    | some history => exact heffect faults n (some history) rest

section Valid

variable {available : List (Migration Rest)} (hvalid : validateAvailable available = .ok ⟨⟩)
  {done rest : List (Migration Rest)} {migration : Migration Rest}
  (hsplit : available = done ++ migration :: rest)
include hvalid hsplit

/-- The record of a migration at its place is refused only for its name, and is the last one. -/
theorem insertMigration_of_split {rows : History}
    (hrows : loadApplied rows = done.map Migration.applied) (nowUnixMs : ℤ) (others : Rest) :
    ∃ rows' : History, loadApplied rows' = (done ++ [migration]).map Migration.applied ∧
      Database.insertMigration migration nowUnixMs ⟨some rows, others⟩ =
        if migration.name ∈ done.map (·.name) then
          .error "UNIQUE constraint failed: schema_migrations.name"
        else .ok (⟨⟩, ⟨some rows', others⟩) := by
  have hversions : rows.entries.map (·.1) = done.map (·.version) := by
    have hmap := congrArg (List.map AppliedMigration.version) hrows
    simpa [loadApplied, Function.comp_def, Migration.applied] using hmap
  have hnames : rows.entries.map (·.2.name) = done.map (·.name) := by
    have hmap := congrArg (List.map AppliedMigration.name) hrows
    simpa [loadApplied, Function.comp_def, Migration.applied] using hmap
  -- all versions of the history are below the new one
  have hbelow : ∀ version ∈ rows.entries.map (·.1), version < migration.version := by
    intro version hmem
    rw [hversions] at hmem
    obtain ⟨other, hother, rfl⟩ := List.mem_map.1 hmem
    have hle := version_le_of_mem hvalid hsplit hother
    have hversion := version_of_split hvalid hsplit
    omega
  have hnew : migration.version ∉ rows.entries.map (·.1) := fun hmem =>
    absurd (hbelow _ hmem) (lt_irrefl _)
  have hentries := SortedMap.entries_insert_of_lt (m := rows)
    (a := (⟨migration.name, nowUnixMs⟩ : StoredMigration)) fun entry hentry =>
      hbelow _ (List.mem_map_of_mem hentry)
  refine ⟨rows.insert migration.version ⟨migration.name, nowUnixMs⟩, ?_, ?_⟩
  · rw [loadApplied, hentries, List.map_append, List.map_append]
    exact congrArg (· ++ _) hrows
  · simp only [Database.insertMigration, if_neg hnew, hnames]

end Valid

/-! ## One migration -/

/-- A migration that fails has no effect. -/
theorem runOne_error {faults : FaultPlan} {nowUnixMs : ℤ} {migration : Migration Rest}
    {db db' : Database Rest} {error : DbError}
    (h : runOne faults nowUnixMs migration db = (.error error, db')) : db' = db :=
  (atomically_error h).1

/-- A migration that succeeds has been applied and recorded. -/
theorem runOne_returns {faults : FaultPlan} {nowUnixMs : ℤ} {migration : Migration Rest}
    {db db' : Database Rest} (h : runOne faults nowUnixMs migration db = (.ok ⟨⟩, db')) :
    ∃ db₁, migration.apply.Returns db ⟨⟩ db₁ ∧
      Database.insertMigration migration nowUnixMs db₁ = .ok (⟨⟩, db') := by
  obtain ⟨_, s₁, hbegin, hrest₁⟩ := Tx.returns_bind (atomically_ok h)
  obtain rfl : s₁ = db := Tx.returns_execute (Tx.returns_mapError hbegin)
  obtain ⟨_, s₂, happly, hrest₂⟩ := Tx.returns_bind hrest₁
  obtain ⟨_, s₃, hrecord, hcommit⟩ := Tx.returns_bind hrest₂
  obtain rfl : db' = s₃ := Tx.returns_execute (Tx.returns_mapError hcommit)
  exact ⟨s₂, Tx.returns_mapError happly, Tx.returns_statement (Tx.returns_mapError hrecord)⟩

/-- Without failures of the storage engine, a migration succeeds if it can be applied and
recorded. -/
theorem runOne_noFaults {nowUnixMs : ℤ} {migration : Migration Rest} {db db₁ db' : Database Rest}
    (happly : migration.apply.Succeeds db ⟨⟩ db₁)
    (hrecord : Database.insertMigration migration nowUnixMs db₁ = .ok (⟨⟩, db')) :
    runOne noFaults nowUnixMs migration db = (.ok ⟨⟩, db') := by
  apply atomically_noFaults
  refine Tx.succeeds_bind (Tx.succeeds_mapError Tx.succeeds_execute) ?_
  refine Tx.succeeds_bind (Tx.succeeds_mapError happly) ?_
  refine Tx.succeeds_bind (Tx.succeeds_mapError (Tx.succeeds_statement hrecord)) ?_
  exact Tx.succeeds_mapError Tx.succeeds_execute

/-- What succeeds under failures of the storage engine succeeds without them. -/
theorem runOne_of_faults {faults : FaultPlan} {nowUnixMs : ℤ} {migration : Migration Rest}
    {db db' : Database Rest} (h : runOne faults nowUnixMs migration db = (.ok ⟨⟩, db')) :
    runOne noFaults nowUnixMs migration db = (.ok ⟨⟩, db') := by
  obtain ⟨db₁, happly, hrecord⟩ := runOne_returns h
  exact runOne_noFaults (migration.steady happly) hrecord

/-- The outcome of a migration without failures of the storage engine. -/
theorem runOne_noFaults_eq (nowUnixMs : ℤ) (migration : Migration Rest) (db : Database Rest) :
    runOne noFaults nowUnixMs migration db =
      match migration.apply noFaults (1, db) with
      | .error error =>
        (.error (withErrorContext s!"failed to apply migration {migration.name}" error), db)
      | .ok (_, _, db₁) =>
        match Database.insertMigration migration nowUnixMs db₁ with
        | .error reason => (.error (withErrorContext
            s!"failed to record migration {migration.name}" (.engine reason)), db)
        | .ok (_, db') => (.ok ⟨⟩, db') := by
  have hno : ∀ n, noFaults n = none := fun _ => rfl
  simp only [runOne, atomically, bind, Tx.mapError, Tx.execute, Tx.statement, hno, Except.mapError,
    id, Nat.zero_add]
  cases migration.apply noFaults (1, db) with
  | error error => rfl
  | ok applied =>
    obtain ⟨-, n, db₁⟩ := applied
    cases hinsert : Database.insertMigration migration nowUnixMs db₁ <;> simp only [hinsert]

section Step

variable {available : List (Migration Rest)} (hvalid : validateAvailable available = .ok ⟨⟩)
  (hlaw : RegistryLaw available) {done rest : List (Migration Rest)} {migration : Migration Rest}
  (hsplit : available = done ++ migration :: rest)
include hvalid hlaw hsplit

/-- A migration that succeeds at its place is recorded after the others. -/
theorem runOne_ok {faults : FaultPlan} {nowUnixMs : ℤ} {db db' : Database Rest}
    (hrecorded : Recorded done db)
    (h : runOne faults nowUnixMs migration db = (.ok ⟨⟩, db')) :
    Recorded (done ++ [migration]) db' := by
  obtain ⟨db₁, ⟨plan, n, n', happly⟩, hinsert⟩ := runOne_returns h
  obtain ⟨effect, heffect⟩ := hlaw.exists_effect hsplit
  rw [heffect plan n db hrecorded] at happly
  cases hrest : effect plan (n, db.rest) with
  | error error =>
    rw [hrest] at happly
    cases happly
  | ok applied =>
    obtain ⟨value, m, others⟩ := applied
    rw [hrest] at happly
    cases happly
    obtain ⟨rows, hrows, hrow⟩ :=
      insertMigration_of_split hvalid hsplit hrecorded.loadApplied_rows nowUnixMs others
    rw [hrow] at hinsert
    split_ifs at hinsert
    cases hinsert
    show (some rows).map loadApplied = _
    rw [Option.map_some, hrows, if_neg (by simp)]

/-- Two runs of a migration on databases that differ in times at most. -/
theorem runOne_noFaults_congr {nowUnixMs nowUnixMs' : ℤ} {db db' : Database Rest}
    (hdb : Recorded done db) (hdb' : Recorded done db') (hrest : db.rest = db'.rest) :
    (∃ after after', runOne noFaults nowUnixMs migration db = (.ok ⟨⟩, after) ∧
      runOne noFaults nowUnixMs' migration db' = (.ok ⟨⟩, after') ∧ after.rest = after'.rest) ∨
    ∃ error, runOne noFaults nowUnixMs migration db = (.error error, db) ∧
      runOne noFaults nowUnixMs' migration db' = (.error error, db') := by
  obtain ⟨effect, heffect⟩ := hlaw.exists_effect hsplit
  rw [runOne_noFaults_eq, runOne_noFaults_eq, heffect noFaults 1 db hdb,
    heffect noFaults 1 db' hdb', hrest]
  cases effect noFaults (1, db'.rest) with
  | error error => exact .inr ⟨_, rfl, rfl⟩
  | ok applied =>
    obtain ⟨-, n, others⟩ := applied
    obtain ⟨rows, -, hrow⟩ :=
      insertMigration_of_split hvalid hsplit hdb.loadApplied_rows nowUnixMs others
    obtain ⟨rows', -, hrow'⟩ :=
      insertMigration_of_split hvalid hsplit hdb'.loadApplied_rows nowUnixMs' others
    simp only [Except.map, hrow, hrow']
    split_ifs
    · exact .inr ⟨_, rfl, rfl⟩
    · exact .inl ⟨_, _, rfl, rfl, rfl⟩

/-- A migration that can be applied and has a name of its own succeeds. -/
theorem runOne_succeeds (nowUnixMs : ℤ) {db after : Database Rest} (hrecorded : Recorded done db)
    (happly : migration.apply.Succeeds db ⟨⟩ after) (hname : migration.name ∉ done.map (·.name)) :
    ∃ db', runOne noFaults nowUnixMs migration db = (.ok ⟨⟩, db') := by
  obtain ⟨effect, heffect⟩ := hlaw.exists_effect hsplit
  obtain ⟨n, hrun⟩ := happly 0
  rw [heffect noFaults 0 db hrecorded] at hrun
  have hafter : ∃ others, after = ⟨some db.rows, others⟩ := by
    cases hresult : effect noFaults (0, db.rest) with
    | error error =>
      rw [hresult] at hrun
      cases hrun
    | ok applied =>
      rw [hresult] at hrun
      cases hrun
      exact ⟨_, rfl⟩
  obtain ⟨others, rfl⟩ := hafter
  obtain ⟨rows, -, hrow⟩ :=
    insertMigration_of_split hvalid hsplit hrecorded.loadApplied_rows nowUnixMs others
  rw [if_neg hname] at hrow
  exact ⟨_, runOne_noFaults happly hrow⟩

end Step

/-! ## The pending migrations -/

/-- The run of some migrations has stopped where one of them failed. -/
theorem runPending_error {faults : RunFaults} {clock : ℤ → ℤ} {pending : List (Migration Rest)}
    {db db' : Database Rest} {error : DbError}
    (h : runPending faults clock pending db = (.error error, db')) :
    ∃ done migration rest, pending = done ++ migration :: rest ∧
      runPending faults clock done db = (.ok ⟨⟩, db') ∧
      runOne (faults.migrations migration.version) (clock migration.version) migration db' =
        (.error error, db') :=
  runAll_error (fun _ _ _ _ hstep => runOne_error hstep) h

section Run

variable {available : List (Migration Rest)} (hvalid : validateAvailable available = .ok ⟨⟩)
  (hlaw : RegistryLaw available) {before pending : List (Migration Rest)}
include hvalid hlaw

/-- What is recorded after some more migrations, and that they succeed without failures of the
storage engine too. -/
theorem runPending_ok {after : List (Migration Rest)}
    (hsplit : available = before ++ (pending ++ after)) {faults : RunFaults} {clock : ℤ → ℤ}
    {db db' : Database Rest} (hdb : Recorded before db)
    (h : runPending faults clock pending db = (.ok ⟨⟩, db')) :
    Recorded (before ++ pending) db' ∧ runPending .none clock pending db = (.ok ⟨⟩, db') := by
  induction pending generalizing before db with
  | nil =>
    cases h
    rw [List.append_nil]
    exact ⟨hdb, rfl⟩
  | cons migration pending ih =>
    obtain ⟨db₁, hstep, hrest⟩ := runAll_cons_eq_ok h
    have hfirst := runOne_ok hvalid hlaw hsplit hdb hstep
    have hsplit' : available = (before ++ [migration]) ++ (pending ++ after) := by
      rw [hsplit, List.append_assoc, List.singleton_append, List.cons_append]
    obtain ⟨hrecorded, hrun⟩ := ih hsplit' hfirst hrest
    rw [List.append_assoc, List.singleton_append] at hrecorded
    refine ⟨hrecorded, ?_⟩
    have hstep' : runOne (RunFaults.none.migrations migration.version)
        (clock migration.version) migration db = (.ok ⟨⟩, db₁) := runOne_of_faults hstep
    rw [runPending, runAll, hstep']
    exact hrun

/-- Two databases that differ in times at most. -/
structure SameState (db db' : Database Rest) : Prop where
  recorded : db.recorded = db'.recorded
  rest : db.rest = db'.rest

/-- Two runs on databases that differ in times at most end alike. -/
theorem runPending_congr {after : List (Migration Rest)}
    (hsplit : available = before ++ (pending ++ after)) (clock clock' : ℤ → ℤ)
    {db db' : Database Rest} (hdb : Recorded before db) (hdb' : Recorded before db')
    (hrest : db.rest = db'.rest) :
    (runPending .none clock pending db).1 = (runPending .none clock' pending db').1 ∧
      SameState (runPending .none clock pending db).2 (runPending .none clock' pending db').2 := by
  have hends : (runPending .none clock pending db).1 = (runPending .none clock' pending db').1 ∧
      ∃ done, Recorded done (runPending .none clock pending db).2 ∧
        Recorded done (runPending .none clock' pending db').2 ∧
        (runPending .none clock pending db).2.rest =
          (runPending .none clock' pending db').2.rest := by
    refine runAll_simulates
      (fun done s t => Recorded done s ∧ Recorded done t ∧ s.rest = t.rest)
      (fun done migration rest s t hpart ⟨hs, ht, hsame⟩ => ?_)
      (rfl : before ++ pending = before ++ pending) ⟨hdb, hdb', hrest⟩
    have hplace : available = done ++ migration :: (rest ++ after) := by
      rw [hsplit, ← List.append_assoc, hpart, List.append_assoc, List.cons_append]
    rcases runOne_noFaults_congr hvalid hlaw hplace hs ht hsame with
      ⟨s', t', hstep, hstep', hnext⟩ | ⟨error, hstep, hstep'⟩
    · exact .inl ⟨s', t', hstep, hstep', runOne_ok hvalid hlaw hplace hs hstep,
        runOne_ok hvalid hlaw hplace ht hstep', hnext⟩
    · exact .inr ⟨error, s, t, hstep, hstep', hs, ht, hsame⟩
  obtain ⟨hresult, done, hleft, hright, hsame⟩ := hends
  refine ⟨hresult, ?_, hsame⟩
  rw [Recorded] at hleft hright
  exact hleft.trans hright.symm

/-- A run that stops has recorded what it has done, and what is left ends as the whole run does. -/
theorem runPending_resumes (hsplit : available = before ++ pending) {faults : RunFaults}
    {clock₁ : ℤ → ℤ} {db db' : Database Rest} {error : DbError} (hdb : Recorded before db)
    (h : runPending faults clock₁ pending db = (.error error, db')) :
    ∃ done rest, pending = done ++ rest ∧ Recorded (before ++ done) db' ∧ (done = [] → db' = db) ∧
      ∀ clock clock', (runPending .none clock' rest db').1 = (runPending .none clock pending db).1 ∧
        SameState (runPending .none clock' rest db').2 (runPending .none clock pending db).2 := by
  obtain ⟨done, migration, rest, rfl, hdone, -⟩ := runPending_error h
  obtain ⟨hrecorded, hwithout⟩ := runPending_ok hvalid hlaw hsplit hdb hdone
  refine ⟨done, migration :: rest, rfl, hrecorded, ?_, fun clock clock' => ?_⟩
  · rintro rfl
    cases hdone
    rfl
  · -- the first part of the whole run is the run that stopped, up to times
    obtain ⟨hresult, hsame⟩ := runPending_congr hvalid hlaw hsplit clock₁ clock hdb hdb rfl
    rw [hwithout] at hresult hsame
    cases hfirst : runPending .none clock done db with
    | mk result db'' =>
      rw [hfirst] at hresult hsame
      dsimp only at hresult hsame
      subst hresult
      have hwhole : runPending .none clock (done ++ migration :: rest) db =
          runPending .none clock (migration :: rest) db'' := runAll_append hfirst
      rw [hwhole]
      have hplace : available = (before ++ done) ++ ((migration :: rest) ++ []) := by
        rw [hsplit, List.append_nil, List.append_assoc]
      exact runPending_congr hvalid hlaw hplace clock' clock hrecorded
        (runPending_ok hvalid hlaw hsplit hdb hfirst).1 hsame.rest

end Run

/-! ## The whole run -/

section Runner

variable [OtherTables Rest]

/-- The history is a table like the others. -/
theorem any_userTables (db : Database Rest) :
    (userTables db).any (fun table => decide (table = "schema_migrations")) =
      db.history.isSome := by
  have hname : isSqliteName "schema_migrations" = false := by decide
  have hother := OtherTables.history_not_mem db.rest
  rw [Bool.eq_iff_iff, List.any_eq_true]
  simp only [decide_eq_true_eq, exists_eq_right, userTables, List.mem_mergeSort, List.mem_filter,
    List.mem_append]
  cases db.history <;> simp [hname, hother]

/-- What `run_migrations` starts from: some recorded migrations, or a database without tables. -/
def Accepted (before : List (Migration Rest)) (db : Database Rest) : Prop :=
  Recorded before db ∧ (before = [] → userTables db = [])

/-- The history of a database that is accepted is read, unless the storage engine fails. -/
theorem Accepted.readHistory {before : List (Migration Rest)} {db : Database Rest}
    (h : Accepted before db) (faults : RunFaults) :
    SchemaMigration.readHistory faults db = .ok (before.map Migration.applied) ∨
      (faults.tables ≠ none ∨ faults.history ≠ none) ∧
        ∃ error, SchemaMigration.readHistory faults db = .error error := by
  obtain ⟨hrecorded, htables⟩ := h
  unfold SchemaMigration.readHistory
  cases hlist : faults.tables with
  | some reason => exact .inr ⟨.inl (Option.some_ne_none reason), _, rfl⟩
  | none =>
    dsimp only
    rw [any_userTables]
    rw [Recorded, Database.recorded] at hrecorded
    cases hhistory : db.history with
    | none =>
      rw [hhistory] at hrecorded
      split_ifs at hrecorded with hbefore
      · subst hbefore
        rw [htables rfl]
        exact .inl rfl
      · cases hrecorded
    | some history =>
      rw [hhistory] at hrecorded
      split_ifs at hrecorded with hbefore
      · cases hrecorded
      · cases hread : faults.history with
        | some reason => exact .inr ⟨.inr (Option.some_ne_none reason), _, rfl⟩
        | none =>
          rw [hrecorded, Option.getD_some]
          refine .inl ?_
          rw [if_pos (by rfl)]
          dsimp only
          rw [if_neg (by simpa using hbefore)]

/-- A history that is read is one of a database that is accepted, if it passes the check. -/
theorem accepted_of_readHistory {faults : RunFaults} {db : Database Rest}
    {applied : List AppliedMigration}
    (h : SchemaMigration.readHistory faults db = .ok applied) {before : List (Migration Rest)}
    (happlied : applied = before.map Migration.applied) : Accepted before db := by
  unfold SchemaMigration.readHistory at h
  split at h
  next => cases h
  next =>
    dsimp only at h
    rw [any_userTables] at h
    cases hhistory : db.history with
    | none =>
      rw [hhistory] at h
      rw [if_neg (by simp)] at h
      split_ifs at h with htables
      obtain rfl := Except.ok.inj h
      rw [eq_comm, List.map_eq_nil_iff] at happlied
      subst happlied
      refine ⟨?_, fun _ => List.isEmpty_iff.1 htables⟩
      rw [Recorded, Database.recorded, hhistory, if_pos rfl]
      rfl
    | some history =>
      rw [hhistory] at h
      rw [if_pos (by rfl)] at h
      split at h
      next => cases h
      next =>
        split_ifs at h with hempty
        obtain rfl := Except.ok.inj h
        have hbefore : before ≠ [] := by
          rintro rfl
          rw [happlied] at hempty
          exact hempty rfl
        refine ⟨?_, fun hnil => absurd hnil hbefore⟩
        rw [Recorded, Database.recorded, hhistory, if_neg hbefore, ← happlied]
        rfl

/-- A run that has failed. -/
def Interrupted (available : List (Migration Rest)) (db db' : Database Rest) : Prop :=
  ∃ faults clock error, runMigrations faults clock available db = (.error error, db')

variable {available : List (Migration Rest)} (hvalid : validateAvailable available = .ok ⟨⟩)
include hvalid

/-- A database that is not accepted is refused, and not changed. -/
theorem runMigrations_of_not_accepted {db : Database Rest}
    (h : ∀ before, before <+: available → ¬ Accepted before db) (faults : RunFaults)
    (clock : ℤ → ℤ) : ∃ error, runMigrations faults clock available db = (.error error, db) := by
  rw [runMigrations, hvalid]
  dsimp only
  cases hread : SchemaMigration.readHistory faults db with
  | error error => exact ⟨error, rfl⟩
  | ok applied =>
    dsimp only
    cases hcheck : validateApplied applied available with
    | error error => exact ⟨.raised error, rfl⟩
    | ok value =>
      obtain ⟨after, hafter⟩ := (validateApplied_iff hvalid applied).1 hcheck
      obtain ⟨before, rest, hsplit, hbefore, -⟩ := List.map_eq_append_iff.1 hafter.symm
      exact absurd (accepted_of_readHistory hread hbefore.symm) (h before ⟨rest, hsplit.symm⟩)

/-- A run on a database that is accepted takes the migrations that are missing. -/
theorem runMigrations_of_accepted {before pending : List (Migration Rest)}
    (hsplit : available = before ++ pending) {db : Database Rest} (h : Accepted before db)
    (faults : RunFaults) (clock : ℤ → ℤ) :
    runMigrations faults clock available db = runPending faults clock pending db ∨
      (faults.tables ≠ none ∨ faults.history ≠ none) ∧
        ∃ error, runMigrations faults clock available db = (.error error, db) := by
  rw [runMigrations, hvalid]
  dsimp only
  rcases h.readHistory faults with hread | ⟨hfaults, error, hread⟩
  · have hcheck : validateApplied (before.map Migration.applied) available = .ok ⟨⟩ := by
      rw [validateApplied_iff hvalid, hsplit, List.map_append]
      exact List.prefix_append _ _
    refine .inl ?_
    rw [hread]
    dsimp only
    rw [hcheck]
    dsimp only
    rw [List.length_map, hsplit, List.drop_left]
  · refine .inr ⟨hfaults, error, ?_⟩
    rw [hread]

/-- The same without failures of the storage engine. -/
theorem runMigrations_none {before pending : List (Migration Rest)}
    (hsplit : available = before ++ pending) {db : Database Rest} (h : Accepted before db)
    (clock : ℤ → ℤ) :
    runMigrations .none clock available db = runPending .none clock pending db := by
  rcases runMigrations_of_accepted hvalid hsplit h .none clock with hrun | ⟨hfaults, -⟩
  · exact hrun
  · exact absurd hfaults (by simp [RunFaults.none])

/-- After failed runs, what is left ends as the whole run would have. -/
theorem interrupted_resumes (hlaw : RegistryLaw available) {before pending : List (Migration Rest)}
    (hsplit : available = before ++ pending) {db db' : Database Rest} (h : Accepted before db)
    (hruns : Relation.ReflTransGen (Interrupted available) db db') :
    ∃ done rest, pending = done ++ rest ∧ Accepted (before ++ done) db' ∧ ∀ clock clock',
      (runPending .none clock' rest db').1 = (runPending .none clock pending db).1 ∧
        SameState (runPending .none clock' rest db').2 (runPending .none clock pending db).2 := by
  induction hruns with
  | refl =>
    refine ⟨[], pending, rfl, by rwa [List.append_nil], fun clock clock' => ?_⟩
    have hplace : available = before ++ (pending ++ []) := by rwa [List.append_nil]
    exact runPending_congr hvalid hlaw hplace clock' clock h.1 h.1 rfl
  | @tail mid after _ hlast ih =>
    obtain ⟨done, rest, rfl, hmid, hsame⟩ := ih
    obtain ⟨faults, clock₁, error, hrun⟩ := hlast
    have hplace : available = (before ++ done) ++ rest := by rw [hsplit, List.append_assoc]
    rcases runMigrations_of_accepted hvalid hplace hmid faults clock₁ with
      hpending | ⟨-, error', hrefused⟩
    · rw [hpending] at hrun
      obtain ⟨more, left, rfl, hrecorded, hnothing, hnext⟩ :=
        runPending_resumes hvalid hlaw hplace hmid.1 hrun
      refine ⟨done ++ more, left, by rw [List.append_assoc], ?_, fun clock clock' => ?_⟩
      · rw [← List.append_assoc]
        refine ⟨hrecorded, fun hnil => ?_⟩
        obtain ⟨hbefore, hmore⟩ := List.append_eq_nil_iff.1 hnil
        rw [hnothing hmore]
        exact hmid.2 hbefore
      · obtain ⟨hresult, hstate⟩ := hsame clock clock
        obtain ⟨hresult', hstate'⟩ := hnext clock clock'
        exact ⟨hresult'.trans hresult, hstate'.recorded.trans hstate.recorded,
          hstate'.rest.trans hstate.rest⟩
    · obtain rfl : after = mid := (Prod.ext_iff.1 (hrun.symm.trans hrefused)).2
      exact ⟨done, rest, rfl, hmid, hsame⟩

end Runner

theorem leavesHistory_onRest {version : ℤ} {name : String} {tx : Tx String Rest Unit}
    (hsteady : (onRest tx).Steady) : LeavesHistory ⟨version, name, onRest tx, hsteady⟩ :=
  ⟨tx, fun _ _ _ _ => rfl⟩

/-- The initial schema creates the history. -/
theorem createsHistory_applyInitialSchema :
    CreatesHistory ⟨1, "0001_initial_schema", applyInitialSchema, steady_applyInitialSchema⟩ := by
  refine ⟨Tx.execute id >>= fun _ => initialTables.forM createTable, fun faults n rest => ?_⟩
  show applyInitialSchema faults (n, ⟨none, rest⟩) = _
  simp only [applyInitialSchema, createHistory, onRest, bind, Tx.execute, Tx.statement, id]
  cases faults n <;> rfl

theorem registryLaw_migrations : RegistryLaw migrations where
  first migration hmem := by
    obtain rfl := Option.some.inj hmem
    exact createsHistory_applyInitialSchema
  others migration hmem := absurd hmem List.not_mem_nil

/-- The registry of the application, with a second migration that adds a table. -/
def extendedMigrations : List (Migration (List TableName)) :=
  migrations ++ [⟨2, "0002_test_data", onRest (createTable ⟨"v2_data", by decide⟩),
    steady_onRest (Tx.steady_statement _)⟩]

theorem registryLaw_extendedMigrations : RegistryLaw extendedMigrations where
  first migration hmem := by
    obtain rfl := Option.some.inj hmem
    exact createsHistory_applyInitialSchema
  others migration hmem := by
    obtain rfl := List.mem_singleton.1 hmem
    exact leavesHistory_onRest _

end SchemaMigration

end WeatherApp
