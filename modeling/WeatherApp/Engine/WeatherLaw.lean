import WeatherApp.Engine.WeatherContract

/-!
# Fresh history, clean answers

Whatever the weather requests and the scheduled refreshes of an engine do at the same time, the
history holds only what the provider answered for the station itself, and the snapshots that
leave the engine are those of the station that was asked for, without links to the upstream
service. The programs keep their promises (`keeps_program`); here every step of the machine keeps
those of the engine.

## Main definitions

* `RowFresh`: a stored snapshot and where it comes from.
* `WeatherInv`: the invariant of the runs.

## Main results

* `execute_cases`, `answered_execute`: the execution of a command.
* `weatherInv_step`: every step keeps the invariant.
* `history_holds_fresh_data`, `answers_keep_identity`: the properties of the runs.
-/

namespace WeatherApp.Weather

open Process

section Law

variable [Sha256] [WeatherCodec] {Tz : Type}

/-! ## The database -/

section Database

variable [TzDatabase Tz]

/-- The execution of a command leaves the database as it is, or stores a snapshot. -/
theorem execute_cases (provider : String) (faults : FaultPlan) (db : DbInstance Tz)
    (thread : ℕ) (command : DbCommand) :
    ((command.execute provider faults db).2 = db ∧
      State.stored thread command (command.execute provider faults db).1 = []) ∨
    ∃ snapshot ms row, command = .putHistorySnapshot snapshot ms ∧
      historyRow db.timezone snapshot ms = .ok row ∧
      (command.execute provider faults db).2.tables = db.tables.upsertHistory row ∧
      State.stored thread command (command.execute provider faults db).1 =
        [(thread, snapshot)] := by
  have hreads {α : Type} {tx : DbTx α} (h : ∀ a tables', tx.Returns db.tables a tables' →
      tables' = db.tables) : (onTables tx faults db).2 = db := by
    have htables : (atomically tx faults db.tables).2 = db.tables := Engine.atomically_tables_eq h
    unfold onTables Engine.replyOf
    rw [htables]
  cases command with
  | getLatestSnapshot uuid => exact Or.inl ⟨rfl, rfl⟩
  | logFetch => exact Or.inl ⟨hreads fun _ _ h => Tx.returns_execute h, rfl⟩
  | getProviderStationByUuid => exact Or.inl ⟨hreads fun _ _ h => (Tx.returns_query h).2, rfl⟩
  | getProviderStationByName => exact Or.inl ⟨hreads fun _ _ h => (Tx.returns_query h).2, rfl⟩
  | putHistorySnapshot snapshot ms =>
    have hexecute : (DbCommand.putHistorySnapshot snapshot ms).execute provider faults db =
        ((db.putHistorySnapshot snapshot ms faults).1.mapError Engine.describe,
          (db.putHistorySnapshot snapshot ms faults).2) := rfl
    rw [hexecute]
    cases hput : db.putHistorySnapshot snapshot ms faults with
    | mk result db' =>
      cases result with
      | error e => exact Or.inl ⟨putHistorySnapshot_error hput, rfl⟩
      | ok =>
        obtain ⟨row, hrow, htables, -⟩ := putHistorySnapshot_ok hput
        exact Or.inr ⟨snapshot, ms, row, rfl, hrow, htables, rfl⟩

/-- A reply of the database is as promised, when the stored snapshots have no debug payload. -/
theorem answered_execute {provider : String} {faults : FaultPlan} {db : DbInstance Tz}
    (hmappings : CanonicalMappings db.tables)
    (hhistory : ∀ row ∈ db.tables.history, ∃ snapshot,
      WeatherCodec.decodeMessage row.snapshotProto = .ok snapshot ∧ snapshot.debug = none)
    (command : DbCommand) :
    Answered (.db command) (command.execute provider faults db).1 := by
  cases hreply : (command.execute provider faults db).1 with
  | error e => cases command <;> trivial
  | ok reply =>
    cases command with
    | putHistorySnapshot => trivial
    | logFetch => trivial
    | getProviderStationByName => trivial
    | getProviderStationByUuid uuid =>
      cases reply with
      | none => trivial
      | some station =>
        cases hrun : atomically (WeatherApp.getProviderStationByUuid provider uuid) faults
          db.tables with
        | mk result tables' =>
          rw [DbCommand.execute, onTables, Engine.replyOf, hrun] at hreply
          cases result with
          | error e => cases hreply
          | ok found =>
            cases hreply
            obtain ⟨hmem, huuid⟩ := getProviderStationByUuid_returns (atomically_ok hrun)
            exact ⟨huuid, hmappings station hmem⟩
    | getLatestSnapshot uuid =>
      cases reply with
      | none => trivial
      | some stored =>
        obtain ⟨row, hrow, hdecode⟩ : ∃ row ∈ db.tables.history,
            WeatherCodec.decodeMessage row.snapshotProto = .ok stored.snapshot := by
          cases hget : (db.getLatestSnapshot uuid faults :
              Except DbError (Option (StoredSnapshot WeatherSnapshot))) with
          | error e =>
            rw [DbCommand.execute, hget] at hreply
            cases hreply
          | ok found =>
            rw [DbCommand.execute, hget] at hreply
            cases hreply
            obtain ⟨row, hrow, -, hdecode⟩ := getLatestSnapshot_ok hget
            exact ⟨row, hrow, decodeStoredSnapshot_eq_ok hdecode⟩
        obtain ⟨snapshot, hsnapshot, hdebug⟩ := hhistory row hrow
        obtain rfl := Except.ok.inj (hdecode.symm.trans hsnapshot)
        exact hdebug

omit [WeatherCodec] in
/-- A catalog request leaves the history alone and the mappings canonical. -/
theorem execute_catalog (provider : String) (now : ℤ) (faults : FaultPlan) {tables : Tables}
    (hmappings : CanonicalMappings tables) (command : Engine.DbCommand) :
    (command.execute provider now faults tables).2.history = tables.history ∧
      CanonicalMappings (command.execute provider now faults tables).2 := by
  obtain hsame | ⟨items, rfl, hreplaced⟩ | ⟨code, items, rfl, hreplaced⟩ |
    ⟨index, station, rfl, -⟩ := Engine.execute_cases provider now faults tables command
  · rw [hsame]
    exact ⟨rfl, hmappings⟩
  · exact ⟨history_replaceProviderProvinces provider items now faults tables,
      hmappings.provincesReplaced hreplaced⟩
  · exact ⟨history_replaceProviderCities provider code items now faults tables,
      hmappings.citiesReplaced hreplaced⟩
  · refine ⟨?_, hmappings.put⟩
    cases hrun : putProviderStationMapping station faults tables with
    | mk result tables' =>
      rw [Engine.DbCommand.execute, Engine.replyOf, hrun]
      cases result with
      | error e => rw [putProviderStationMapping_error hrun]
      | ok => rw [(putProviderStationMapping_ok hrun).2]

omit [Sha256] [WeatherCodec] in
/-- A timezone migration keeps the mappings, and moves rows to other dates. -/
theorem migrateTimezone_frame [DecidableEq Tz] (db : DbInstance Tz) (oldTz newTz : String)
    (faults : FaultPlan) :
    (db.migrateTimezone oldTz newTz faults).2.tables.mappings = db.tables.mappings ∧
    ∀ row ∈ (db.migrateTimezone oldTz newTz faults).2.tables.history,
      ∃ old ∈ db.tables.history, row.unifiedUuid = old.unifiedUuid ∧
        row.snapshotProto = old.snapshotProto := by
  cases hrun : db.migrateTimezone oldTz newTz faults with
  | mk result db' =>
    cases result with
    | error e =>
      rw [migrateTimezone_error hrun]
      exact ⟨rfl, fun row hrow => ⟨row, hrow, rfl, rfl⟩⟩
    | ok rewritten =>
      obtain ⟨old, new, -, -, -, -, ⟨-, -, htables⟩ | ⟨-, hmigrated⟩⟩ := migrateTimezone_ok hrun
      · rw [htables]
        exact ⟨rfl, fun row hrow => ⟨row, hrow, rfl, rfl⟩⟩
      · refine ⟨?_, fun row hrow => ?_⟩
        · show db'.tables.mappings = db.tables.mappings
          rw [hmigrated.others]
          rfl
        obtain ⟨kept, hkept, rfl⟩ := (hmigrated.history row).1 hrow
        exact ⟨kept, hkept.1, rfl, rfl⟩

end Database

/-! ## The invariant of the runs -/

/-- The snapshot of a row was stored for its station by a thread that asked the provider. -/
def RowFresh (s : State Tz) (row : HistoryRow) : Prop :=
  ∃ i thread snapshot, s.threads i = some thread ∧
    WeatherCodec.decodeMessage row.snapshotProto = .ok snapshot ∧
    FreshData thread.events snapshot ∧ OfStation row.unifiedUuid snapshot

/-- The program of a thread keeps its promises, and what it has published has no links. -/
structure ThreadKeeps (thread : Thread) : Prop where
  keeps : Keeps (contract thread.request.namedUuid)
    (fun _ _ outcome => Returned thread.request outcome) thread.rest ⟨⟩ thread.events
  published : ∀ event ∈ thread.events, ∀ snapshot, event.call = .publishSnapshot snapshot →
    NoLinks snapshot

/-- A thread has stored the snapshot as it has promised. -/
def PersistedBy (s : State Tz) (i : ℕ) (snapshot : WeatherSnapshot) : Prop :=
  ∃ thread, s.threads i = some thread ∧ FreshData thread.events snapshot ∧
    ∀ uuid, thread.request.namedUuid = some uuid → OfStation uuid snapshot

/-- Stored snapshots are fresh and mappings canonical; the commands in the queue and the results
of the flights were promised; and every thread keeps its promises. -/
structure WeatherInv (s : State Tz) : Prop where
  history : ∀ row ∈ s.db.tables.history, RowFresh s row
  mappings : CanonicalMappings s.db.tables
  queue : ∀ pending ∈ s.queue, ∃ thread, s.threads pending.thread = some thread ∧
    Promised thread.request.namedUuid thread.events (.db pending.command)
  flights : ∀ key flight result, s.flights.result key flight = some result → ResultFor key result
  threads : ∀ i thread, s.threads i = some thread → ThreadKeeps thread
  persisted : ∀ entry ∈ s.persisted, PersistedBy s entry.1 entry.2
  unstarted : ∀ i, s.started ≤ i → s.threads i = none

section Steps

variable {s s' : State Tz}

/-- Threads only add calls to those they have made. -/
def Extends (s s' : State Tz) : Prop :=
  ∀ i thread, s.threads i = some thread → ∃ thread', s'.threads i = some thread' ∧
    thread'.request = thread.request ∧ thread.events <+: thread'.events

omit [Sha256] [WeatherCodec] in
theorem Extends.refl (s : State Tz) : Extends s s :=
  fun _ thread hthread => ⟨thread, hthread, rfl, List.prefix_rfl⟩

theorem RowFresh.mono {row row' : HistoryRow} (h : RowFresh s row) (hextends : Extends s s')
    (huuid : row'.unifiedUuid = row.unifiedUuid) (hproto : row'.snapshotProto = row.snapshotProto) :
    RowFresh s' row' := by
  obtain ⟨i, thread, snapshot, hthread, hdecode, hfresh, hof⟩ := h
  obtain ⟨thread', hthread', -, hbefore⟩ := hextends i thread hthread
  refine ⟨i, thread', snapshot, hthread', ?_, hfresh.mono hbefore, ?_⟩
  · rwa [hproto]
  · rwa [huuid]

omit [WeatherCodec] in
theorem PersistedBy.mono {i : ℕ} {snapshot : WeatherSnapshot} (h : PersistedBy s i snapshot)
    (hextends : Extends s s') : PersistedBy s' i snapshot := by
  obtain ⟨thread, hthread, hfresh, hrequested⟩ := h
  obtain ⟨thread', hthread', hrequest, hbefore⟩ := hextends i thread hthread
  exact ⟨thread', hthread', hfresh.mono hbefore, hrequest.symm ▸ hrequested⟩

omit [WeatherCodec] in
/-- A thread that is replied to as promised keeps its promises. -/
theorem ThreadKeeps.resume {thread : Thread} {c : Call}
    {k : Reply c → Process Call Reply Outcome} {reply : Reply c} (h : ThreadKeeps thread)
    (hrest : thread.rest = .call c k) (hanswered : Answered c reply) (guards : List Guard) :
    ThreadKeeps ({ thread with guards }.resume c k reply) := by
  have hkeeps := h.keeps
  rw [hrest] at hkeeps
  refine ⟨hkeeps.2 ⟨⟩ reply trivial hanswered, fun event hmem snapshot hcall => ?_⟩
  obtain hold | hnew := List.mem_append.1 hmem
  · exact h.published event hold snapshot hcall
  · -- the call that was made last
    obtain rfl := List.mem_singleton.1 hnew
    have hpromised := hkeeps.1
    rw [show c = .publishSnapshot snapshot from hcall] at hpromised
    exact hpromised

omit [WeatherCodec] in
theorem ThreadKeeps.promised {thread : Thread} {c : Call}
    {k : Reply c → Process Call Reply Outcome} (h : ThreadKeeps thread)
    (hrest : thread.rest = .call c k) :
    Promised thread.request.namedUuid thread.events c := by
  have hkeeps := h.keeps
  rw [hrest] at hkeeps
  exact hkeeps.1

/-- What a step has to show that leaves the database alone. -/
theorem WeatherInv.next (h : WeatherInv s) (hextends : Extends s s') (hdb : s'.db = s.db)
    (hpersisted : s'.persisted = s.persisted)
    (hqueue : ∀ pending ∈ s'.queue, pending ∈ s.queue ∨
      ∃ thread, s'.threads pending.thread = some thread ∧
        Promised thread.request.namedUuid thread.events (.db pending.command))
    (hflights : ∀ key flight result, s'.flights.result key flight = some result →
      s.flights.result key flight = some result ∨ ResultFor key result)
    (hthreads : ∀ i thread', s'.threads i = some thread' →
      s.threads i = some thread' ∨ ThreadKeeps thread')
    (hunstarted : ∀ i, s'.started ≤ i → s'.threads i = none) : WeatherInv s' := by
  refine ⟨fun row hrow => ?_, ?_, fun pending hpending => ?_, fun key flight result hresult => ?_,
    fun i thread' hthread' => ?_, fun entry hentry => ?_, hunstarted⟩
  · rw [hdb] at hrow
    exact (h.history row hrow).mono hextends rfl rfl
  · rw [hdb]
    exact h.mappings
  · obtain hold | hnew := hqueue pending hpending
    · obtain ⟨thread, hthread, hpromised⟩ := h.queue pending hold
      obtain ⟨thread', hthread', hrequest, hbefore⟩ := hextends _ thread hthread
      exact ⟨thread', hthread', hrequest.symm ▸ hpromised.mono hbefore⟩
    · exact hnew
  · obtain hold | hnew := hflights key flight result hresult
    · exact h.flights key flight result hold
    · exact hnew
  · obtain hold | hnew := hthreads i thread' hthread'
    · exact h.threads i thread' hold
    · exact hnew
  · rw [hpersisted] at hentry
    exact (h.persisted entry hentry).mono hextends

/-- A step that moves one thread, and leaves the database alone. -/
theorem WeatherInv.moveThread {i : ℕ} {thread thread' : Thread} {flights : Flights}
    (queue : List Pending) (h : WeatherInv s) (hthread : s.threads i = some thread)
    (hrequest : thread'.request = thread.request) (hbefore : thread.events <+: thread'.events)
    (hkeeps : ThreadKeeps thread')
    (hqueue : ∀ pending ∈ queue, pending ∈ s.queue ∨ pending.thread = i ∧
      Promised thread'.request.namedUuid thread'.events (.db pending.command))
    (hflights : ∀ key flight result, flights.result key flight = some result →
      s.flights.result key flight = some result ∨ ResultFor key result) :
    WeatherInv { s.setThread i thread' with queue, flights } := by
  have hself : { s.setThread i thread' with queue, flights }.threads i = some thread' :=
    Function.update_self ..
  have hother (j : ℕ) (hj : j ≠ i) :
      { s.setThread i thread' with queue, flights }.threads j = s.threads j :=
    Function.update_of_ne hj ..
  refine h.next (fun j found hfound => ?_) rfl rfl (fun pending hpending => ?_) hflights
    (fun j found hfound => ?_) fun j hj => ?_
  · by_cases hji : j = i
    · subst hji
      obtain rfl := Option.some.inj (hthread.symm.trans hfound)
      exact ⟨thread', hself, hrequest, hbefore⟩
    · exact ⟨found, (hother j hji).trans hfound, rfl, List.prefix_rfl⟩
  · obtain hold | ⟨rfl, hpromised⟩ := hqueue pending hpending
    · exact Or.inl hold
    · exact Or.inr ⟨thread', hself, hpromised⟩
  · by_cases hji : j = i
    · subst hji
      obtain rfl := Option.some.inj (hself.symm.trans hfound)
      exact Or.inr hkeeps
    · exact Or.inl ((hother j hji).symm.trans hfound)
  · -- a thread that runs was started
    have hji : j ≠ i := by
      rintro rfl
      rw [h.unstarted j hj] at hthread
      cases hthread
    exact (hother j hji).trans (h.unstarted j hj)

/-- A step in which a thread gets a reply. -/
theorem WeatherInv.reply {i : ℕ} {thread : Thread} {c : Call}
    {k : Reply c → Process Call Reply Outcome} {reply : Reply c} {flights : Flights}
    (h : WeatherInv s) (hthread : s.threads i = some thread) (hrest : thread.rest = .call c k)
    (hanswered : Answered c reply) (guards : List Guard)
    (hflights : ∀ key flight result, flights.result key flight = some result →
      s.flights.result key flight = some result ∨ ResultFor key result) :
    WeatherInv { s.setThread i ({ thread with guards }.resume c k reply) with flights } :=
  h.moveThread s.queue hthread rfl (List.prefix_append _ _)
    ((h.threads i thread hthread).resume hrest hanswered guards)
    (fun _ hpending => Or.inl hpending) hflights

/-! ### The steps -/

omit [Sha256] [WeatherCodec] in
theorem runnable_threads {i : ℕ} {thread : Thread} (h : s.runnable i = some thread) :
    s.threads i = some thread := by
  rw [State.runnable, Option.filter_eq_some_iff] at h
  exact h.1

omit [Sha256] [WeatherCodec] in
theorem result_release (guards : List Guard) (flights : Flights) (key : FlightKey)
    (flight : ℕ) :
    (guards.foldl State.release flights).result key flight = flights.result key flight := by
  induction guards generalizing flights with
  | nil => rfl
  | cons guard guards ih =>
    rw [List.foldl_cons, ih]
    cases guard with
    | lease => exact Singleflight.result_leave _ _ _ _ _
    | permit => exact Singleflight.result_abandon _ _ _ _ _

/-- Cancelling a thread moves no program and changes no result. -/
theorem WeatherInv.cancel {i : ℕ} {thread : Thread} (h : WeatherInv s)
    (hthread : s.threads i = some thread) : WeatherInv (s.cancel i thread) := by
  have hkeeps := h.threads i thread hthread
  refine h.moveThread s.queue hthread rfl List.prefix_rfl
    ⟨hkeeps.keeps, hkeeps.published⟩ (fun _ hpending => Or.inl hpending)
    fun key flight result hresult => Or.inl ?_
  rwa [result_release] at hresult

theorem WeatherInv.proceed {i : ℕ} {thread : Thread} (h : WeatherInv s)
    (hthread : s.threads i = some thread) (hstep : s.proceed i thread = some s') :
    WeatherInv s' := by
  have hsame : ∀ key flight result, s.flights.result key flight = some result →
      s.flights.result key flight = some result ∨ ResultFor key result :=
    fun _ _ _ hresult => Or.inl hresult
  unfold State.proceed at hstep
  split at hstep
  next key k hrest =>
    cases hstep
    have hresults (other : FlightKey) (number : ℕ) : (s.flights.join key).2.result other number =
        s.flights.result other number := Singleflight.result_join _ _ _ _
    exact h.reply hthread hrest trivial _ fun other number result hresult =>
      Or.inl ((hresults other number).symm.trans hresult)
  next key flight k hrest =>
    split at hstep
    next => cases hstep
    next found flights henter =>
      cases hstep
      obtain ⟨hfound, hresults⟩ := Singleflight.result_enter henter
      have hanswered : Answered (.enter key flight) (some found) :=
        h.flights key flight found hfound.symm
      exact h.reply hthread hrest hanswered thread.guards fun other number result hresult =>
        Or.inl ((hresults other number).symm.trans hresult)
    next flights henter =>
      cases hstep
      obtain ⟨-, hresults⟩ := Singleflight.result_enter henter
      have hanswered : Answered (.enter key flight) none := trivial
      exact h.reply hthread hrest hanswered _ fun other number result hresult =>
        Or.inl ((hresults other number).symm.trans hresult)
  next key flight result k hrest =>
    cases hcomplete : s.flights.complete key flight result with
    | mk found flights =>
      rw [hcomplete] at hstep
      cases hstep
      obtain ⟨hfound, -, hadded⟩ := Singleflight.result_complete hcomplete
      -- the flight keeps its first result
      have hresults : ∀ other number result, flights.result other number = some result →
          s.flights.result other number = some result ∨ ResultFor other result := by
        intro other number added hadd
        obtain hold | ⟨rfl, rfl, heq⟩ := hadded other number added hadd
        · exact Or.inl hold
        · obtain rfl := eq_of_heq heq
          exact Or.inr ((h.threads i thread hthread).promised hrest)
      have hanswered : Answered (.complete key flight result) found := by
        obtain hold | hnew := hresults key flight found hfound
        · exact h.flights key flight found hold
        · exact hnew
      exact h.reply hthread hrest hanswered _ hresults
  next key flight k hrest =>
    cases hstep
    have hresults (other : FlightKey) (number : ℕ) :
        (s.flights.leave key flight).result other number = s.flights.result other number :=
      Singleflight.result_leave _ _ _ _ _
    exact h.reply hthread hrest trivial _ fun other number result hresult =>
      Or.inl ((hresults other number).symm.trans hresult)
  next uuid k hrest =>
    cases hstep
    exact h.reply hthread hrest trivial thread.guards hsame
  next uuid k hrest =>
    cases hstep
    exact h.reply hthread hrest trivial thread.guards hsame
  next outcome k hrest =>
    cases hstep
    exact h.reply hthread hrest trivial thread.guards hsame
  next k hrest =>
    cases hstep
    exact h.reply hthread hrest trivial thread.guards hsame
  next snapshot k hrest =>
    cases hstep
    exact h.reply hthread hrest trivial thread.guards hsame
  next event k hrest =>
    cases hstep
    exact h.reply hthread hrest trivial thread.guards hsame
  next => cases hstep

/-- A step that only writes the database: mappings stay canonical and snapshots those of their
stations. -/
theorem WeatherInv.withDb {db : DbInstance Tz} (h : WeatherInv s)
    (hhistory : ∀ row ∈ db.tables.history, ∃ old ∈ s.db.tables.history,
      row.unifiedUuid = old.unifiedUuid ∧ row.snapshotProto = old.snapshotProto)
    (hmappings : CanonicalMappings db.tables) : WeatherInv { s with db } := by
  refine ⟨fun row hrow => ?_, hmappings, h.queue, h.flights, h.threads, h.persisted,
    h.unstarted⟩
  obtain ⟨old, hold, huuid, hproto⟩ := hhistory row hrow
  exact (h.history old hold).mono (Extends.refl s) huuid hproto

section Execute

variable [TzDatabase Tz]

/-- The row of a snapshot that was stored as promised. -/
theorem rowFresh_historyRow {tz : Tz} {i : ℕ} {thread : Thread} {snapshot : WeatherSnapshot}
    {ms : ℤ} {row : HistoryRow} (hthread : s.threads i = some thread)
    (hfresh : FreshData thread.events snapshot) (hrow : historyRow tz snapshot ms = .ok row) :
    RowFresh s row := by
  obtain ⟨-, -, -, hproto, hstation⟩ := historyRow_eq_ok hrow
  obtain ⟨station, document, includeDebug, -, ⟨ref, href, huuid, hname⟩, -, -⟩ := hfresh.air
  refine ⟨i, thread, snapshot, hthread, ?_, hfresh, ref, href, ?_, ?_⟩
  · rw [hproto]
    exact WeatherCodec.decode_encode snapshot
  · -- the row has the uuid of the snapshot's station
    have hsame : snapshot.station.map (·.unifiedUuid) = some row.unifiedUuid := hstation
    rw [href] at hsame
    exact Option.some.inj hsame
  · have hsame : snapshot.station.map (·.unifiedUuid) = some row.unifiedUuid := hstation
    rw [href] at hsame
    rw [hname, ← huuid]
    exact Option.some.inj hsame

/-- The execution of the first command of the queue. -/
theorem WeatherInv.executed {provider : String} {faults : FaultPlan} {pending : Pending}
    {queue : List Pending} (h : WeatherInv s) (hqueue : s.queue = pending :: queue) :
    WeatherInv { s with
      db := (pending.command.execute provider faults s.db).2
      queue
      persisted := s.persisted ++ State.stored pending.thread pending.command
        (pending.command.execute provider faults s.db).1 } := by
  have hrest : ∀ other ∈ queue, other ∈ s.queue := by
    intro other hother
    rw [hqueue]
    exact List.mem_cons_of_mem _ hother
  obtain ⟨thread, hthread, hpromised⟩ := h.queue pending (hqueue ▸ List.mem_cons_self)
  obtain ⟨hdb, hstored⟩ | ⟨snapshot, ms, row, hcommand, hrow, htables, hstored⟩ :=
    execute_cases provider faults s.db pending.thread pending.command
  · rw [hdb, hstored, List.append_nil]
    exact ⟨h.history, h.mappings, fun other hother => h.queue other (hrest other hother),
      h.flights, h.threads, h.persisted, h.unstarted⟩
  · rw [hcommand] at hpromised
    rw [hstored]
    refine ⟨fun other hother => ?_, ?_, fun other hother => h.queue other (hrest other hother),
      h.flights, h.threads, fun entry hentry => ?_, h.unstarted⟩
    · -- the row that was written, or one from before
      rw [htables] at hother
      obtain ⟨hold, -⟩ | ⟨rfl, -⟩ := KeyedTable.mem_upsertMax.1 hother
      · exact h.history other hold
      · exact rowFresh_historyRow hthread hpromised.1 hrow
    · rw [htables]
      exact h.mappings
    · obtain hold | hnew := List.mem_append.1 hentry
      · exact h.persisted entry hold
      · obtain rfl := List.mem_singleton.1 hnew
        exact ⟨thread, hthread, hpromised.1, hpromised.2⟩

omit [TzDatabase Tz] in
/-- The reply to a command. -/
theorem WeatherInv.answer {pending : Pending} {reply : Except String pending.command.Reply}
    (h : WeatherInv s) (hanswered : Answered (.db pending.command) reply) :
    WeatherInv (s.answer pending reply) := by
  unfold State.answer
  split
  next => exact h
  next thread hthread =>
    split
    next command k hrest =>
      split_ifs with hcommand
      · subst hcommand
        exact h.reply hthread hrest hanswered thread.guards fun _ _ _ hresult => Or.inl hresult
      · exact h
      · exact h
    next => exact h

theorem WeatherInv.executeNext {provider : String} {faults : FaultPlan} (h : WeatherInv s)
    (hstep : s.executeNext provider faults = some s') : WeatherInv s' := by
  unfold State.executeNext at hstep
  split at hstep
  next => cases hstep
  next pending queue hqueue =>
    cases hstep
    refine (h.executed hqueue).answer (answered_execute h.mappings (fun row hrow => ?_) _)
    obtain ⟨i, thread, snapshot, -, hdecode, hfresh, -⟩ := h.history row hrow
    exact ⟨snapshot, hdecode, hfresh.debug⟩

end Execute

section Run

variable [FloatText] [DateText] [TzDatabase Tz] [DecidableEq Tz] {provider : String}

omit [DecidableEq Tz] in
/-- A new thread has made no calls. -/
theorem WeatherInv.start (h : WeatherInv s) (request : Request) :
    WeatherInv (s.start provider request) := by
  have hother (i : ℕ) (hi : i ≠ s.started) :
      (s.start provider request).threads i = s.threads i := Function.update_of_ne hi ..
  refine h.next (fun i thread hthread => ?_) rfl rfl (fun _ hpending => Or.inl hpending)
    (fun _ _ _ hresult => Or.inl hresult) (fun i thread hthread => ?_) fun i hi => ?_
  · have hi : i ≠ s.started := by
      rintro rfl
      rw [h.unstarted _ le_rfl] at hthread
      cases hthread
    exact ⟨thread, (hother i hi).trans hthread, rfl, List.prefix_rfl⟩
  · by_cases hi : i = s.started
    · subst hi
      have hself : (s.start provider request).threads s.started =
          some ⟨request, request.program Tz provider, [], false, [], false⟩ :=
        Function.update_self ..
      obtain rfl := Option.some.inj (hself.symm.trans hthread)
      exact Or.inr ⟨keeps_program request, fun event hmem => absurd hmem List.not_mem_nil⟩
    · exact Or.inl ((hother i hi).symm.trans hthread)
  · have hlater : s.started + 1 ≤ i := hi
    exact (hother i (by omega)).trans (h.unstarted i (by omega))

/-- Every step keeps the invariant. -/
theorem weatherInv_step {l : Label} (h : WeatherInv s) (hstep : s.step provider l = some s') :
    WeatherInv s' := by
  have hsame : ∀ key flight result, s.flights.result key flight = some result →
      s.flights.result key flight = some result ∨ ResultFor key result :=
    fun _ _ _ hresult => Or.inl hresult
  cases l with
  | start request =>
    cases hstep
    exact h.start request
  | input i answers =>
    simp only [State.step] at hstep
    split at hstep
    next => cases hstep
    next thread hthread =>
      split at hstep
      next query k hrest =>
        cases hstep
        exact h.reply (runnable_threads hthread) hrest trivial thread.guards hsame
      next => cases hstep
  | proceed i =>
    simp only [State.step] at hstep
    split at hstep
    next => cases hstep
    next thread hthread => exact h.proceed (runnable_threads hthread) hstep
  | submit i =>
    simp only [State.step] at hstep
    split at hstep
    next => cases hstep
    next thread hthread =>
      split at hstep
      next command k hrest =>
        cases hstep
        have hthread := runnable_threads hthread
        have hkeeps := h.threads i thread hthread
        refine h.moveThread _ hthread rfl List.prefix_rfl ⟨hkeeps.keeps, hkeeps.published⟩
          (fun pending hpending => ?_) hsame
        obtain hold | hnew := List.mem_append.1 hpending
        · exact Or.inl hold
        · obtain rfl := List.mem_singleton.1 hnew
          exact Or.inr ⟨rfl, hkeeps.promised hrest⟩
      next => cases hstep
  | refuse i message =>
    simp only [State.step] at hstep
    split at hstep
    next => cases hstep
    next thread hthread =>
      split at hstep
      next command k hrest =>
        cases hstep
        have hanswered : Answered (.db command) (.error message) := by
          cases command <;> trivial
        exact h.reply (runnable_threads hthread) hrest hanswered thread.guards hsame
      next => cases hstep
  | execute faults => exact h.executeNext hstep
  | cancel i =>
    simp only [State.step] at hstep
    split at hstep
    next => cases hstep
    next thread hthread =>
      split_ifs at hstep
      cases hstep
      exact h.cancel hthread
  | catalog command now faults =>
    cases hstep
    obtain ⟨hhistory, hmappings⟩ := execute_catalog provider now faults h.mappings command
    refine h.withDb (fun row hrow => ⟨row, ?_, rfl, rfl⟩) hmappings
    rwa [← hhistory]
  | migrateTimezone oldTz newTz faults =>
    cases hstep
    obtain ⟨hmappings, hhistory⟩ := migrateTimezone_frame s.db oldTz newTz faults
    exact h.withDb hhistory (h.mappings.mono fun station hmem => hmappings ▸ hmem)

/-- The invariant of the runs. -/
theorem weatherInv_reachable (h : (weatherSystem Tz provider).Reachable s) : WeatherInv s := by
  have hsteps : ∀ s l s', WeatherInv s → (weatherSystem Tz provider).step s l s' →
      WeatherInv s' := fun _ _ _ hinv hstep => weatherInv_step hinv hstep
  refine h.invariant (fun s hinit => ?_) hsteps
  obtain ⟨hhistory, hmappings, hqueue, hflights, hthreads, hpersisted⟩ := hinit
  refine ⟨?_, ?_, ?_, ?_, ?_, ?_, fun i _ => hthreads i⟩
  · simp [hhistory]
  · simp [CanonicalMappings, hmappings]
  · simp [hqueue]
  · simp [hflights]
  · simp [hthreads]
  · simp [hpersisted]

/-! ## The properties of the runs -/

/-- A snapshot with fresh data of the station with this uuid alone: the air is what the provider
answered to a thread that asked for the weather of the station. -/
structure HoldsFreshData (s : State Tz) (uuid : String) (snapshot : WeatherSnapshot) : Prop where
  debug : snapshot.debug = none
  alerts : ∀ alert ∈ snapshot.alerts, alert.inherited = false
  stale : snapshot.stale = false
  station : ∃ station, snapshot.station = some station ∧ station.unifiedUuid = uuid ∧
    unifiedStationUuid station.name = station.unifiedUuid
  air : ∃ i thread station document includeDebug, s.threads i = some thread ∧
    StationKnown thread.events station ∧ station.unifiedUuid = uuid ∧
    (⟨.input (.weather station.providerStationId includeDebug), .ok document⟩ : Event) ∈
      thread.events ∧ snapshot.air = document.data.air

omit [WeatherCodec] [FloatText] [DateText] [TzDatabase Tz] [DecidableEq Tz] in
/-- What a thread has stored holds fresh data. -/
theorem FreshData.holds {i : ℕ} {thread : Thread} {uuid : String} {snapshot : WeatherSnapshot}
    (h : FreshData thread.events snapshot) (hthread : s.threads i = some thread)
    (hof : OfStation uuid snapshot) : HoldsFreshData s uuid snapshot := by
  obtain ⟨ref, href, huuid, hname⟩ := hof
  refine ⟨h.debug, h.alerts, h.stale, ⟨ref, href, huuid, hname.trans huuid.symm⟩, ?_⟩
  obtain ⟨station, document, includeDebug, hknown, ⟨ref', href', huuid', -⟩, hmem, hair⟩ := h.air
  obtain rfl := Option.some.inj (href.symm.trans href')
  exact ⟨i, thread, station, document, includeDebug, hthread, hknown, huuid'.symm.trans huuid,
    hmem, hair⟩

/-- In every run the snapshots of the history, and those that were ever stored there, hold fresh
data of their stations alone. -/
theorem history_holds_fresh_data (h : (weatherSystem Tz provider).Reachable s) :
    (∀ row ∈ s.db.tables.history, ∃ snapshot,
      WeatherCodec.decodeMessage row.snapshotProto = .ok snapshot ∧
        HoldsFreshData s row.unifiedUuid snapshot) ∧
    ∀ entry ∈ s.persisted, ∃ uuid, HoldsFreshData s uuid entry.2 := by
  have hinv := weatherInv_reachable h
  refine ⟨fun row hrow => ?_, fun entry hentry => ?_⟩
  · obtain ⟨i, thread, snapshot, hthread, hdecode, hfresh, hof⟩ := hinv.history row hrow
    exact ⟨snapshot, hdecode, hfresh.holds hthread hof⟩
  · obtain ⟨thread, hthread, hfresh, -⟩ := hinv.persisted entry hentry
    obtain ⟨station, -, -, -, hof, -, -⟩ := hfresh.air
    exact ⟨station.unifiedUuid, hfresh.holds hthread hof⟩

/-- In every run, on every path: the answer to a request that names a uuid, and what the request
stores, is a snapshot of the station with this uuid, which is that of its name; and what is
answered or published has no links, and a debug payload only in an answer to a request for one. -/
theorem answers_keep_identity (h : (weatherSystem Tz provider).Reachable s) :
    (∀ i request forceRefresh snapshot,
      s.returned i = some (.getWeather (.ok request) forceRefresh, .response (.ok snapshot)) →
      isBlank request.unifiedUuid = false → OfStation request.unifiedUuid snapshot) ∧
    (∀ i thread request forceRefresh snapshot, s.threads i = some thread →
      thread.request = .getWeather (.ok request) forceRefresh →
      isBlank request.unifiedUuid = false → (i, snapshot) ∈ s.persisted →
      OfStation request.unifiedUuid snapshot) ∧
    (∀ i request snapshot, s.returned i = some (request, .response (.ok snapshot)) →
      NoLinks snapshot ∧ ∀ payload forceRefresh, request = .getWeather (.ok payload) forceRefresh →
        payload.includeDebug = false → snapshot.debug = none) ∧
    ∀ i thread, s.threads i = some thread → ∀ snapshot ∈ thread.published,
      NoLinks snapshot ∧ snapshot.debug = none := by
  have hinv := weatherInv_reachable h
  have hreturned : ∀ i request outcome, s.returned i = some (request, outcome) →
      Returned request outcome := by
    intro i request outcome hreturn
    obtain ⟨thread, hthread, rfl, hrest⟩ := State.returned_eq_some hreturn
    have hkeeps := (hinv.threads i thread hthread).keeps
    rw [hrest] at hkeeps
    exact hkeeps
  refine ⟨fun i request forceRefresh snapshot hreply hnamed => ?_,
    fun i thread request forceRefresh snapshot hthread hrequest hnamed hstored => ?_,
    fun i request snapshot hreply => ?_, fun i thread hthread snapshot hpublished => ?_⟩
  · exact (hreturned i _ _ hreply).station hnamed
  · obtain ⟨thread', hthread', -, hrequested⟩ := hinv.persisted _ hstored
    obtain rfl := Option.some.inj (hthread.symm.trans hthread')
    apply hrequested
    rw [hrequest, Request.namedUuid, hnamed]
    rfl
  · have hanswer := hreturned i _ _ hreply
    cases request with
    | refreshOne name => exact hanswer.elim
    | getWeather payload forceRefresh =>
      cases payload with
      | error err => exact hanswer.elim
      | ok request =>
        refine ⟨hanswer.links, fun payload forceRefresh' hrequest hdebug => ?_⟩
        cases hrequest
        exact hanswer.debug hdebug
  · obtain ⟨event, hmem, hevent⟩ := List.mem_filterMap.1 hpublished
    cases hcall : event.call with
    | publishSnapshot published =>
      rw [hcall] at hevent
      obtain rfl := Option.some.inj hevent
      obtain ⟨halerts, hradar⟩ := (hinv.threads i thread hthread).published event hmem _ hcall
      exact ⟨⟨halerts, hradar⟩, rfl⟩
    | _ => simp [hcall, publishedSnapshot] at hevent

end Run

end Steps

end Law

/-! ## A run -/

section Sample

instance countableChar : Countable Char :=
  Function.Injective.countable fun _ _ h => Char.toNat_inj.1 h

instance countableString : Countable String :=
  Function.Injective.countable fun _ _ h => String.toList_injective h

instance countableUInt64 : Countable UInt64 :=
  Function.Injective.countable fun _ _ h => UInt64.toNat_inj.1 h

deriving instance Countable for StationRef, WeatherAlert, ObservedWeather, ForecastDay,
  ForecastReport, AirQuality, TemperatureChart, PassedWeatherChart, RadarInfo, DebugPayload,
  WeatherSnapshot

/-- The air with an index of 42. -/
def sampleAir : AirQuality :=
  ⟨none, some 0x4045000000000000, none, none, none, none, none, none, none, none, none⟩

/-- What the provider answers: the air and a radar with links. -/
def sampleDocument : WeatherDocument where
  endpoint := "/rest/weather"
  body := ""
  data := ⟨none, none, some sampleAir, [], [],
    some ⟨some "radar", some "https://image.nmc.cn/r.png", some "https://www.nmc.cn/r"⟩, []⟩

/-- The snapshot that is stored. -/
def sampleStored : WeatherSnapshot :=
  ⟨some sampleStation, none, none, some sampleAir, [], [],
    some ⟨some "radar", some "https://image.nmc.cn/r.png", some "https://www.nmc.cn/r", none⟩,
    false, none⟩

/-- The snapshot that is answered. -/
def sampleAnswer : WeatherSnapshot :=
  { sampleStored with radar := some ⟨some "radar", none, none, some "resource"⟩ }

/-- The protobuf encoding of the stored snapshot. -/
def sampleBytes : List UInt8 :=
  SampleSnapshot.encode .fresh ++
    protoField 0x22 [0x19, 0, 0, 0, 0, 0, 0, 0x45, 0x40] ++
    protoField 0x42 (protoField 0x12 (asBytes "radar") ++
      protoField 0x1A (asBytes "https://image.nmc.cn/r.png") ++
      protoField 0x22 (asBytes "https://www.nmc.cn/r"))

/-- A number for every snapshot. -/
noncomputable def snapshotNumber : WeatherSnapshot → ℕ :=
  (exists_injective_nat WeatherSnapshot).choose

/-- The stored snapshot in protobuf, and the others as their numbers in unary. -/
@[reducible]
noncomputable def sampleCodec : WeatherCodec where
  encodeMessage snapshot :=
    if snapshot = sampleStored then sampleBytes
    else 0 :: List.replicate (snapshotNumber snapshot) 0
  decodeMessage bytes :=
    if bytes = sampleBytes then .ok sampleStored
    else .ok (@Function.invFun _ _ ⟨sampleStored⟩ snapshotNumber (bytes.length - 1))
  decode_encode snapshot := by
    have hfirst : sampleBytes.head? = some 0x0A := rfl
    by_cases h : snapshot = sampleStored
    · rw [if_pos h, if_pos rfl, h]
    · have hne : 0 :: List.replicate (snapshotNumber snapshot) 0 ≠ sampleBytes := by
        intro heq
        rw [← heq] at hfirst
        cases hfirst
      have hinverse := @Function.leftInverse_invFun _ _ ⟨sampleStored⟩ snapshotNumber
        (exists_injective_nat WeatherSnapshot).choose_spec snapshot
      rw [if_neg h, if_neg hne]
      simpa using hinverse

attribute [local instance] sampleSha256 sampleFloatText sampleDateText sampleCodec

/-- What the surroundings answer. -/
def sampleAnswers : (query : Query) → query.Reply
  | .config => .default
  | .now => 1780000000000
  | .weather _ _ => .ok sampleDocument
  | .resolveName _ => .ok sampleProviderStation
  | .register _ => some "resource"

/-- A command is sent and executed. -/
def exchange : List Label := [.submit 0, .execute noFaults]

/-- A question is answered. -/
def question : List Label := [.input 0 sampleAnswers]

/-- A request for the weather of the configured station, on an empty database. -/
def sampleRun : List Label :=
  [[.start (.getWeather (.ok ⟨sampleStation.unifiedUuid, false, false⟩) false)],
    exchange, question, exchange, question,
    -- nothing is stored, and nobody else fetches
    exchange, [.proceed 0, .proceed 0], question,
    -- the high of the day
    question, question, exchange,
    -- the snapshot is stored and the fetch logged
    question, exchange, exchange, [.proceed 0],
    -- the flight ends and the links are taken out
    [.proceed 0, .proceed 0], question, [.proceed 0]].flatten

/-- The request is answered, and its snapshot stored. -/
theorem exists_sampleRun :
    ∃ s, (weatherSystem SampleZone "nmc").Reachable s ∧
      s.returned 0 = some (.getWeather (.ok ⟨sampleStation.unifiedUuid, false, false⟩) false,
        .response (.ok sampleAnswer)) ∧ s.persisted = [(0, sampleStored)] := by
  have hrun : ((LabelledSystem.perform (State.step "nmc") (fun _ _ => true)
      (.initial SampleZone.shanghai) sampleRun).map fun s => (s.returned 0, s.persisted)) =
      some (some (.getWeather (.ok ⟨sampleStation.unifiedUuid, false, false⟩) false,
        .response (.ok sampleAnswer)), [(0, sampleStored)]) := by
    decide +kernel
  obtain ⟨s, hperform, heq⟩ := Option.map_eq_some_iff.1 hrun
  obtain ⟨hreturned, hpersisted⟩ := Prod.ext_iff.1 heq
  exact ⟨s, reachable_of_perform hperform, hreturned, hpersisted⟩

/-- The stored snapshot holds the air that the provider answered for the station. -/
theorem history_holds_fresh_data_sampleRun :
    ∃ s, (weatherSystem SampleZone "nmc").Reachable s ∧ s.persisted = [(0, sampleStored)] ∧
      ∃ uuid, HoldsFreshData s uuid sampleStored := by
  obtain ⟨s, hreachable, -, hpersisted⟩ := exists_sampleRun
  refine ⟨s, hreachable, hpersisted, ?_⟩
  exact (history_holds_fresh_data hreachable).2 (0, sampleStored)
    (hpersisted ▸ List.mem_singleton_self _)

/-- The answer is one of the station that was asked for, without links. -/
theorem answers_keep_identity_sampleRun :
    ∃ s, (weatherSystem SampleZone "nmc").Reachable s ∧
      s.returned 0 = some (.getWeather (.ok ⟨sampleStation.unifiedUuid, false, false⟩) false,
        .response (.ok sampleAnswer)) ∧
      OfStation sampleStation.unifiedUuid sampleAnswer ∧ NoLinks sampleAnswer := by
  obtain ⟨s, hreachable, hreturned, -⟩ := exists_sampleRun
  obtain ⟨hidentity, -, hlinks, -⟩ := answers_keep_identity hreachable
  exact ⟨s, hreachable, hreturned, hidentity 0 _ _ _ hreturned (by decide),
    (hlinks 0 _ _ hreturned).1⟩

end Sample

end WeatherApp.Weather
