import WeatherApp.Engine.LoadContract

/-!
# No torn catalog

Whatever the engine's requests do at the same time, a list that one of them returns is a whole
answer of the provider that passed the validation. The programs keep their contract
(`keeps_program`), and every step of the engine keeps the engine's side of it.

## Main definitions

* `StoredComplete`: the stored lists are whole answers of the provider.
* `EngineInv`: the invariant of the runs.

## Main results

* `StoredComplete.execute`, `answered_execute`: the execution of a promised command.
* `engineInv_step`: every step keeps the invariant.
* `catalog_not_torn`: the property of the runs.
-/

namespace WeatherApp

namespace Engine

open Process

/-! ## The stored lists -/

/-- The key of the state row of a list. -/
def CatalogScope.stateKey (provider : String) : CatalogScope → String × CatalogKind × String
  | .provinces => (provider, .provinces, provinceScope)
  | .cities code => (provider, .cities, code)

/-- The stored items of a list. -/
def CatalogScope.select (provider : String) (tables : Tables) :
    (scope : CatalogScope) → List scope.Item
  | .provinces => tables.selectProvinces provider
  | .cities code => tables.selectCities provider code

/-- Every list with a state row is a whole answer of the provider. -/
def StoredComplete (provider : String) (s : State) (tables : Tables) : Prop :=
  ∀ scope : CatalogScope, (∃ state ∈ tables.catalogState, state.key = scope.stateKey provider) →
    CompleteList s scope (scope.select provider tables)

theorem sort_sort (scope : CatalogScope) (items : List scope.Item) :
    scope.sort (scope.sort items) = scope.sort items := by
  cases scope with
  | provinces =>
    exact List.Pairwise.insertionSort_eq (List.pairwise_insertionSort _ _)
  | cities code =>
    exact List.Pairwise.insertionSort_eq (List.pairwise_insertionSort _ _)

/-- A replacement of the province list keeps the city lists of its provinces. -/
theorem selectCities_provincesReplaced {provider code : String} {items : List ProviderProvince}
    {now : ℤ} {tables tables' : Tables} (h : ProvincesReplaced provider items now tables tables')
    (hstays : tables'.hasProvince provider code = true) :
    tables'.selectCities provider code = tables.selectCities provider code := by
  have hrows : (tables'.cities.rows.filter fun row =>
      row.provider = provider ∧ row.providerProvinceCode = code) =
        tables.cities.rows.filter fun row =>
          row.provider = provider ∧ row.providerProvinceCode = code := by
    rw [h.cities, KeyedTable.rows_deleteWhere, List.filter_filter]
    refine List.filter_congr fun row _ => ?_
    by_cases hrow : row.provider = provider ∧ row.providerProvinceCode = code
    · simp [hrow.1, hrow.2, hstays]
    · simp [hrow]
  rw [Tables.selectCities, KeyedTable.select, hrows]
  rfl

/-- A replacement of a city list keeps those of the other scopes. -/
theorem selectCities_citiesReplaced {provider scope other : String} {items : List ProviderCity}
    {now : ℤ} {tables tables' : Tables}
    (h : CitiesReplaced provider scope items now tables tables') (hne : other ≠ scope) :
    tables'.selectCities provider other = tables.selectCities provider other := by
  have hrows : (tables'.cities.rows.filter fun row =>
      row.provider = provider ∧ row.providerProvinceCode = other) =
        tables.cities.rows.filter fun row =>
          row.provider = provider ∧ row.providerProvinceCode = other := by
    rw [h.cities, List.filter_append, List.filter_filter]
    have hnone : (items.map (ProviderCity.row provider scope)).filter (fun row =>
        row.provider = provider ∧ row.providerProvinceCode = other) = [] := by
      rw [List.filter_eq_nil_iff]
      rintro _ hrow hcounted
      obtain ⟨city, -, rfl⟩ := List.mem_map.1 hrow
      exact hne (of_decide_eq_true hcounted).2.symm
    rw [hnone, List.append_nil]
    refine List.filter_congr fun row _ => ?_
    by_cases hrow : row.provider = provider ∧ row.providerProvinceCode = other
    · simp [hrow.1, hrow.2, hne]
    · simp [hrow]
  rw [Tables.selectCities, KeyedTable.select, hrows]
  rfl

theorem CompleteList.of_sorted {s : State} {scope : CatalogScope} {items : List scope.Item}
    (h : CompleteList s scope items) : CompleteList s scope (scope.sort items) := by
  obtain ⟨answer, hmem, hvalid, rfl⟩ := h
  exact ⟨answer, hmem, hvalid, sort_sort scope answer⟩

/-- Storing a whole answer of the provider as its province list. -/
theorem StoredComplete.provincesReplaced {provider : String} {s : State}
    {items : List ProviderProvince} {now : ℤ} {tables tables' : Tables}
    (hstored : StoredComplete provider s tables) (hitems : CompleteList s .provinces items)
    (h : ProvincesReplaced provider items now tables tables') :
    StoredComplete provider s tables' := by
  rintro scope ⟨state, hstate, hkey⟩
  cases scope with
  | provinces =>
    rw [CatalogScope.select, selectProvinces_replaced h]
    exact hitems.of_sorted
  | cities code =>
    rw [h.catalogState, KeyedTable.mem_upsert_true, KeyedTable.mem_deleteWhere] at hstate
    rcases hstate with ⟨⟨hold, hkept⟩, -⟩ | rfl
    · simp only [CatalogScope.stateKey, CatalogStateRow.key, Prod.mk.injEq] at hkey
      have hstays : tables'.hasProvince provider code = true := by
        simpa [hkey.1, hkey.2.1, hkey.2.2] using hkept
      rw [CatalogScope.select, selectCities_provincesReplaced h hstays]
      exact hstored (.cities code)
        ⟨state, hold, by simp [CatalogScope.stateKey, CatalogStateRow.key, hkey]⟩
    · simp [CatalogScope.stateKey, CatalogStateRow.key] at hkey

/-- Storing a whole answer of the provider as a city list. -/
theorem StoredComplete.citiesReplaced {provider scope : String} {s : State}
    {items : List ProviderCity} {now : ℤ} {tables tables' : Tables}
    (hstored : StoredComplete provider s tables) (hitems : CompleteList s (.cities scope) items)
    (h : CitiesReplaced provider scope items now tables tables') :
    StoredComplete provider s tables' := by
  rintro other ⟨state, hstate, hkey⟩
  rw [h.catalogState, KeyedTable.mem_upsert_true] at hstate
  cases other with
  | provinces =>
    rcases hstate with ⟨hold, -⟩ | rfl
    · have hselect : tables'.selectProvinces provider = tables.selectProvinces provider := by
        rw [Tables.selectProvinces, Tables.selectProvinces, h.provinces]
      rw [CatalogScope.select, hselect]
      exact hstored .provinces ⟨state, hold, hkey⟩
    · simp [CatalogScope.stateKey, CatalogStateRow.key] at hkey
  | cities code =>
    by_cases hcode : code = scope
    · subst hcode
      rw [CatalogScope.select, selectCities_replaced h]
      exact hitems.of_sorted
    · rcases hstate with ⟨hold, -⟩ | rfl
      · rw [CatalogScope.select, selectCities_citiesReplaced h hcode]
        exact hstored (.cities code) ⟨state, hold, hkey⟩
      · simp only [CatalogScope.stateKey, CatalogStateRow.key, Prod.mk.injEq] at hkey
        exact absurd hkey.2.2.symm hcode

section Execution

variable [Sha256] {provider : String} {s : State} {now : ℤ} {faults : FaultPlan}

variable (now faults) in
/-- The execution of a promised command keeps the stored lists whole. -/
theorem StoredComplete.execute {events : List Event} {command : DbCommand}
    (hstored : StoredComplete provider s s.tables)
    (hpromised : Promised provider s events (.db command)) :
    StoredComplete provider s (command.execute provider now faults s.tables).2 := by
  rcases execute_cases provider now faults s.tables command with hsame | ⟨items, rfl, hreplaced⟩ | ⟨code, items, rfl, hreplaced⟩ |
      ⟨index, station, rfl, hput⟩
  · rw [hsame]
    exact hstored
  · exact hstored.provincesReplaced hpromised.1 hreplaced
  · exact hstored.citiesReplaced hpromised.1 hreplaced
  · rw [hput]
    exact fun scope hstate => by cases scope <;> exact hstored _ hstate

/-- The reply of an executed command keeps the engine's promise. -/
theorem answered_execute {tables : Tables} (hstored : StoredComplete provider s tables)
    (command : DbCommand) :
    Answered provider s (.db command) (command.execute provider now faults tables).1 := by
  have hok : ∀ {α : Type} {tx : DbTx α} {a : α},
      (replyOf (atomically tx faults tables)).1 = .ok a →
        ∃ tables', tx.Returns tables a tables' := by
    intro α tx a hreply
    cases hrun : atomically tx faults tables with
    | mk result tables' =>
      rw [replyOf, hrun] at hreply
      cases result with
      | error e => cases hreply
      | ok b =>
        cases hreply
        exact ⟨tables', atomically_ok hrun⟩
  cases hreply : (command.execute provider now faults tables).1 with
  | error e => cases command <;> trivial
  | ok reply =>
    cases command with
    | get scope =>
      cases reply with
      | none => trivial
      | some cache =>
        cases scope with
        | provinces =>
          obtain ⟨tables', hreturns⟩ := hok hreply
          obtain ⟨hitems, hstate⟩ := (readCatalog_returns hreturns).2 cache rfl
          rw [Answered, hitems]
          exact hstored .provinces hstate
        | cities code =>
          obtain ⟨tables', hreturns⟩ := hok hreply
          obtain ⟨hitems, hstate⟩ := (readCatalog_returns hreturns).2 cache rfl
          rw [Answered, hitems]
          exact hstored (.cities code) hstate
    | getAllProviderCityScopes =>
      obtain ⟨tables', hreturns⟩ := hok hreply
      intro scope hscope
      obtain ⟨hitems, hstate⟩ := (getAllProviderCityScopes_returns hreturns).2 scope hscope
      rw [hitems]
      exact hstored (.cities scope.providerProvinceCode) hstate
    | replace => trivial
    | putProviderStationMapping => trivial
    | logFetch => trivial

end Execution

/-! ## The invariant of the runs -/

theorem Returned.grows {provider : String} {s s' : State} {events : List Event}
    {request : Request} {outcome : Outcome} (h : Returned provider s events request outcome)
    (hgrows : Grows s s') : Returned provider s' events request outcome := by
  cases request with
  | listProvinces =>
    cases outcome with
    | provinces result => exact Loaded.grows h hgrows
    | cities => exact h
    | page => exact h
    | station => exact h
  | cityScope code =>
    cases outcome with
    | cities result => exact Loaded.grows h hgrows
    | provinces => exact h
    | page => exact h
    | station => exact h
  | listCities province =>
    cases outcome with
    | cities result =>
      rcases h with herror | ⟨provinces, found, hcomplete, hfound, hloaded⟩
      · exact Or.inl herror
      · exact Or.inr ⟨provinces, found, hcomplete.grows hgrows, hfound, hloaded.grows hgrows⟩
    | provinces => exact h
    | page => exact h
    | station => exact h
  | fuzzyMatchStations => cases outcome <;> exact h
  | resolveStation => cases outcome <;> exact h

/-- What is left of the program of a thread keeps the contract. -/
def ThreadKeeps (provider : String) (s : State) (thread : Thread) : Prop :=
  Keeps (contract provider)
    (fun s' events outcome => Returned provider s' events thread.request outcome) thread.rest s
    thread.events

/-- The stored lists are whole answers of the provider; the commands in the queue and the results
of the flights were promised; and every thread keeps the contract. -/
structure EngineInv (provider : String) (s : State) : Prop where
  stored : StoredComplete provider s s.tables
  queue : ∀ pending ∈ s.queue, ∃ events, Promised provider s events (.db pending.command)
  flights : ∀ key flight found, s.flights.result key flight = some found →
    Promised provider s found.events (.complete key flight found.result)
  threads : ∀ i thread, s.threads i = some thread → ThreadKeeps provider s thread

/-- A thread whose program did not move. -/
def SameProgram (thread thread' : Thread) : Prop :=
  thread'.request = thread.request ∧ thread'.rest = thread.rest ∧ thread'.events = thread.events

section Steps

variable {provider : String} {s s' : State}

theorem StoredComplete.grows {tables : Tables} (h : StoredComplete provider s tables)
    (hgrows : Grows s s') : StoredComplete provider s' tables :=
  fun scope hstate => (h scope hstate).grows hgrows

theorem ThreadKeeps.grows {thread : Thread} (h : ThreadKeeps provider s thread)
    (hgrows : Grows s s') : ThreadKeeps provider s' thread :=
  Keeps.rely (fun _ _ _ _ hgrows hreturned => Returned.grows hreturned hgrows) h hgrows

theorem ThreadKeeps.same {thread thread' : Thread} (h : ThreadKeeps provider s thread)
    (hsame : SameProgram thread thread') : ThreadKeeps provider s thread' := by
  obtain ⟨hrequest, hrest, hevents⟩ := hsame
  unfold ThreadKeeps
  rw [hrequest, hrest, hevents]
  exact h

/-- A thread that is replied to as promised keeps the contract. -/
theorem ThreadKeeps.resume {thread : Thread} {c : Call}
    {k : Reply c → Process Call Reply Outcome} {reply : Reply c}
    (h : ThreadKeeps provider s thread) (hrest : thread.rest = .call c k)
    (hgrows : Grows s s') (hanswered : Answered provider s' c reply) :
    ThreadKeeps provider s' (thread.resume c k reply) := by
  unfold ThreadKeeps at h
  rw [hrest] at h
  exact h.2 s' reply hgrows hanswered

/-- Which guards the thread holds does not matter. -/
theorem ThreadKeeps.resumeWith {thread : Thread} {c : Call}
    {k : Reply c → Process Call Reply Outcome} {reply : Reply c}
    (h : ThreadKeeps provider s thread) (hrest : thread.rest = .call c k)
    (hgrows : Grows s s') (hanswered : Answered provider s' c reply)
    (guards : List Guard) :
    ThreadKeeps provider s' ({ thread with guards }.resume c k reply) :=
  h.resume hrest hgrows hanswered

theorem ThreadKeeps.promised {thread : Thread} {c : Call}
    {k : Reply c → Process Call Reply Outcome} (h : ThreadKeeps provider s thread)
    (hrest : thread.rest = .call c k) : Promised provider s thread.events c := by
  unfold ThreadKeeps at h
  rw [hrest] at h
  exact h.1

/-- What a step has to show: it lets the state grow only, adds promised commands and results, and
moves programs as the contract says. -/
theorem EngineInv.next (h : EngineInv provider s) (hgrows : Grows s s')
    (hstored : StoredComplete provider s' s'.tables)
    (hqueue : ∀ pending ∈ s'.queue, pending ∈ s.queue ∨
      ∃ events, Promised provider s' events (.db pending.command))
    (hflights : ∀ key flight found, s'.flights.result key flight = some found →
      s.flights.result key flight = some found ∨
        Promised provider s' found.events (.complete key flight found.result))
    (hthreads : ∀ i thread', s'.threads i = some thread' →
      (∃ thread, s.threads i = some thread ∧ SameProgram thread thread') ∨
        ThreadKeeps provider s' thread') : EngineInv provider s' := by
  refine ⟨hstored, fun pending hpending => ?_, fun key flight found hfound => ?_,
    fun i thread' hthread' => ?_⟩
  · rcases hqueue pending hpending with hold | hnew
    · obtain ⟨events, hpromised⟩ := h.queue pending hold
      exact ⟨events, hpromised.grows hgrows⟩
    · exact hnew
  · rcases hflights key flight found hfound with hold | hnew
    · exact (h.flights key flight found hold).grows hgrows
    · exact hnew
  · rcases hthreads i thread' hthread' with ⟨thread, hthread, hsame⟩ | hnew
    · exact ((h.threads i thread hthread).grows hgrows).same hsame
    · exact hnew

theorem SameProgram.refl (thread : Thread) : SameProgram thread thread := ⟨rfl, rfl, rfl⟩

theorem runnable_threads {i : ℕ} {thread : Thread} (h : s.runnable i = some thread) :
    s.threads i = some thread := by
  rw [State.runnable, Option.filter_eq_some_iff] at h
  exact h.1

theorem threads_setThread {i j : ℕ} {thread thread' : Thread}
    (h : (s.setThread i thread).threads j = some thread') :
    thread' = thread ∨ s.threads j = some thread' := by
  by_cases hj : j = i
  · subst hj
    simp only [State.setThread, Function.update_self, Option.some.injEq] at h
    exact Or.inl h.symm
  · simp only [State.setThread, Function.update_of_ne hj] at h
    exact Or.inr h

/-- A step that moves one thread, and leaves the tables and the queue. -/
theorem EngineInv.moveThread {i : ℕ} {thread : Thread} (h : EngineInv provider s)
    (hgrows : Grows s s') (htables : s'.tables = s.tables) (hqueue : s'.queue = s.queue)
    (hflights : ∀ key flight found, s'.flights.result key flight = some found →
      s.flights.result key flight = some found ∨
        Promised provider s' found.events (.complete key flight found.result))
    (hthreads : s'.threads = (s.setThread i thread).threads)
    (hthread : ThreadKeeps provider s' thread) : EngineInv provider s' := by
  refine h.next hgrows ?_ (fun pending hpending => Or.inl (hqueue ▸ hpending)) hflights
    fun j thread' hthread' => ?_
  · rw [htables]
    exact h.stored.grows hgrows
  · rw [hthreads] at hthread'
    rcases threads_setThread hthread' with rfl | hold
    · exact Or.inr hthread
    · exact Or.inl ⟨thread', hold, SameProgram.refl thread'⟩

/-! ### The steps -/

/-- Cancelling a thread moves no program and changes no result. -/
theorem EngineInv.cancel {i : ℕ} {thread : Thread} (h : EngineInv provider s)
    (hthread : s.threads i = some thread) :
    EngineInv provider (s.cancel i thread) ∧ Grows s (s.cancel i thread) := by
  have hresults : ∀ (guards : List Guard) (flights : Singleflight FlightKey FlightResult)
      (key : FlightKey) (flight : ℕ),
      (guards.foldl State.release flights).result key flight = flights.result key flight := by
    intro guards
    induction guards with
    | nil => exact fun _ _ _ => rfl
    | cons guard guards ih =>
      intro flights key flight
      rw [List.foldl_cons, ih]
      cases guard with
      | lease => exact Singleflight.result_leave _ _ _ _ _
      | permit => exact Singleflight.result_abandon _ _ _ _ _
  have hgrows : Grows s (s.cancel i thread) :=
    ⟨fun _ hmem => hmem, fun key flight found hfound => (hresults _ _ _ _).trans hfound⟩
  refine ⟨h.next hgrows (h.stored.grows hgrows) (fun pending hpending => Or.inl hpending)
    (fun key flight found hfound => Or.inl ((hresults _ _ _ _).symm.trans hfound))
    fun j thread' hthread' => Or.inl ?_, hgrows⟩
  by_cases hj : j = i
  · subst hj
    simp only [State.cancel, Function.update_self, Option.some.injEq] at hthread'
    subst hthread'
    exact ⟨thread, hthread, rfl, rfl, rfl⟩
  · simp only [State.cancel, Function.update_of_ne hj] at hthread'
    exact ⟨thread', hthread', SameProgram.refl thread'⟩

/-- Cancelling the tasks of a thread keeps the invariant, and the thread. -/
theorem EngineInv.abortTasks {i : ℕ} {thread : Thread} (tasks : List ℕ)
    (h : EngineInv provider s) (hthread : ThreadKeeps provider s thread) :
    EngineInv provider (tasks.foldl (State.abortTask i) s) ∧
      Grows s (tasks.foldl (State.abortTask i) s) ∧
      ThreadKeeps provider (tasks.foldl (State.abortTask i) s) thread := by
  induction tasks generalizing s with
  | nil => exact ⟨h, Grows.refl s, hthread⟩
  | cons task tasks ih =>
    have hstep : EngineInv provider (State.abortTask i s task) ∧
        Grows s (State.abortTask i s task) := by
      unfold State.abortTask
      split
      next found hfound =>
        split_ifs
        · exact h.cancel hfound
        · exact ⟨h, Grows.refl s⟩
      next => exact ⟨h, Grows.refl s⟩
    obtain ⟨hinv, hgrows, hkept⟩ := ih hstep.1 (hthread.grows hstep.2)
    exact ⟨hinv, hstep.2.trans hgrows, hkept⟩

theorem EngineInv.input {i : ℕ} {answers : (query : Query) → query.Reply}
    {query : Query} {thread : Thread} {k : query.Reply → Process Call Reply Outcome}
    (h : EngineInv provider s) (hthread : s.threads i = some thread)
    (hrest : thread.rest = .call (.input query) k) :
    EngineInv provider { s.setThread i (thread.resume (.input query) k (answers query)) with
      responses := s.responses ++ State.answered query (answers query) } := by
  have hgrows : Grows s { s.setThread i (thread.resume (.input query) k (answers query)) with
      responses := s.responses ++ State.answered query (answers query) } :=
    ⟨fun _ hmem => List.mem_append_left _ hmem, fun _ _ _ hfound => hfound⟩
  refine h.moveThread hgrows rfl rfl (fun _ _ _ hfound => Or.inl hfound) rfl
    ((h.threads i thread hthread).resume hrest hgrows ?_)
  cases query with
  | upstream scope =>
    cases hanswer : answers (.upstream scope) with
    | error e => trivial
    | ok items => exact List.mem_append_right _ (by simp [State.answered])
  | provinceTtlSeconds => trivial
  | unixTimestampMs => trivial

variable [Sha256] [UnicodeTables]

theorem EngineInv.start (h : EngineInv provider s) (request : Request) (parent : Option ℕ) :
    EngineInv provider (s.start provider request parent) := by
  have hgrows : Grows s (s.start provider request parent) :=
    ⟨fun _ hmem => hmem, fun _ _ _ hfound => hfound⟩
  refine h.next hgrows (h.stored.grows hgrows) (fun _ hpending => Or.inl hpending)
    (fun _ _ _ hfound => Or.inl hfound) fun j thread hthread => ?_
  by_cases hj : j = s.started
  · subst hj
    simp only [State.start, Function.update_self, Option.some.injEq] at hthread
    subst hthread
    exact Or.inr (keeps_program request)
  · simp only [State.start, Function.update_of_ne hj] at hthread
    exact Or.inl ⟨thread, hthread, SameProgram.refl thread⟩

theorem EngineInv.proceed {i : ℕ} {thread : Thread} (h : EngineInv provider s)
    (hthread : s.threads i = some thread) (hstep : s.proceed provider i thread = some s') :
    EngineInv provider s' := by
  have hkeeps := h.threads i thread hthread
  unfold State.proceed at hstep
  split at hstep
  next key k hrest =>
    cases hstep
    have hresults : ∀ other flight, (s.flights.join key).2.result other flight =
        s.flights.result other flight := fun _ _ => Singleflight.result_join _ _ _ _
    have hgrows : ∀ threads, Grows s { s with threads, flights := (s.flights.join key).2 } :=
      fun _ => ⟨fun _ hmem => hmem, fun _ _ _ hfound => (hresults _ _).trans hfound⟩
    exact h.moveThread (hgrows _) rfl rfl
      (fun _ _ _ hfound => Or.inl ((hresults _ _).symm.trans hfound)) rfl
      (hkeeps.resumeWith hrest (hgrows _) trivial _)
  next key flight k hrest =>
    split at hstep
    next => cases hstep
    next found flights henter =>
      cases hstep
      obtain ⟨hfound, hresults⟩ := Singleflight.result_enter henter
      have hgrows : ∀ threads, Grows s { s with threads, flights } :=
        fun _ => ⟨fun _ hmem => hmem, fun _ _ _ hfound => (hresults _ _).trans hfound⟩
      have hpromised := h.flights key flight found hfound.symm
      exact h.moveThread (hgrows _) rfl rfl
        (fun _ _ _ hfound => Or.inl ((hresults _ _).symm.trans hfound)) rfl
        (hkeeps.resume hrest (hgrows _)
          ⟨found, (hresults _ _).trans hfound.symm, rfl, hpromised.grows (hgrows _)⟩)
    next flights henter =>
      cases hstep
      obtain ⟨-, hresults⟩ := Singleflight.result_enter henter
      have hgrows : ∀ threads, Grows s { s with threads, flights } :=
        fun _ => ⟨fun _ hmem => hmem, fun _ _ _ hfound => (hresults _ _).trans hfound⟩
      exact h.moveThread (hgrows _) rfl rfl
        (fun _ _ _ hfound => Or.inl ((hresults _ _).symm.trans hfound)) rfl
        (hkeeps.resumeWith hrest (hgrows _) (by trivial) _)
  next key flight result k hrest =>
    cases hcomplete : s.flights.complete key flight ⟨result, thread.events⟩ with
    | mk found flights =>
      rw [hcomplete] at hstep
      cases hstep
      obtain ⟨hfound, hkept, hadded⟩ := Singleflight.result_complete hcomplete
      have hgrows : ∀ threads, Grows s { s with threads, flights } :=
        fun _ => ⟨fun _ hmem => hmem, hkept⟩
      have hpromises : ∀ threads other number (added : FlightResult other),
          flights.result other number = some added →
            Promised provider { s with threads, flights } added.events
              (.complete other number added.result) := by
        intro threads other number added hadd
        rcases hadded other number added hadd with hold | ⟨rfl, rfl, heq⟩
        · exact (h.flights other number added hold).grows (hgrows threads)
        · rw [eq_of_heq heq]
          exact (hkeeps.promised hrest).grows (hgrows threads)
      exact h.moveThread (hgrows _) rfl rfl
        (fun _ _ _ hfound => Or.inr (hpromises _ _ _ _ hfound)) rfl
        (hkeeps.resumeWith hrest (hgrows _) ⟨found, hfound, rfl, hpromises _ _ _ _ hfound⟩ _)
  next key flight k hrest =>
    cases hstep
    have hresults : ∀ other number, (s.flights.leave key flight).result other number =
        s.flights.result other number := fun _ _ => Singleflight.result_leave _ _ _ _ _
    have hgrows : ∀ threads, Grows s { s with threads, flights := s.flights.leave key flight } :=
      fun _ => ⟨fun _ hmem => hmem, fun _ _ _ hfound => (hresults _ _).trans hfound⟩
    exact h.moveThread (hgrows _) rfl rfl
      (fun _ _ _ hfound => Or.inl ((hresults _ _).symm.trans hfound)) rfl
      (hkeeps.resumeWith hrest (hgrows _) trivial _)
  next code k hrest =>
    cases hstep
    have hgrows : ∀ thread, Grows s (s.setThread i thread) :=
      fun _ => ⟨fun _ hmem => hmem, fun _ _ _ hfound => hfound⟩
    have hmoved : EngineInv provider (s.setThread i (thread.resume (.spawn code) k ⟨⟩)) :=
      h.moveThread (hgrows _) rfl rfl (fun _ _ _ hfound => Or.inl hfound) rfl
        (hkeeps.resume hrest (hgrows _) trivial)
    exact hmoved.start _ _
  next k hrest =>
    cases hstep
    obtain ⟨hinv, hgrows, hkept⟩ := h.abortTasks (List.range s.started) hkeeps
    exact hinv.moveThread ⟨fun _ hmem => hmem, fun _ _ _ hfound => hfound⟩ rfl rfl
      (fun _ _ _ hfound => Or.inl hfound) rfl
      (hkept.resume hrest ⟨fun _ hmem => hmem, fun _ _ _ hfound => hfound⟩ trivial)
  next => cases hstep

omit [UnicodeTables] in
theorem EngineInv.executeNext {now : ℤ} {faults : FaultPlan} (h : EngineInv provider s)
    (hstep : s.executeNext provider now faults = some s') : EngineInv provider s' := by
  unfold State.executeNext at hstep
  split at hstep
  next => cases hstep
  next pending queue hqueue =>
    obtain ⟨events, hpromised⟩ := h.queue pending (by rw [hqueue]; exact List.mem_cons_self)
    have hgrows : ∀ tables threads, Grows s { s with tables, queue, threads } :=
      fun _ _ => ⟨fun _ hmem => hmem, fun _ _ _ hfound => hfound⟩
    have hshorter : ∀ other ∈ queue, other ∈ s.queue := by
      intro other hother
      rw [hqueue]
      exact List.mem_cons_of_mem _ hother
    have hstored := h.stored.execute now faults hpromised
    -- the execution without the reply keeps the invariant
    have hexecuted : EngineInv provider { s with
        queue, tables := (pending.command.execute provider now faults s.tables).2 } :=
      h.next (hgrows _ _) (hstored.grows (hgrows _ _))
        (fun other hother => Or.inl (hshorter other hother)) (fun _ _ _ hfound => Or.inl hfound)
        fun i thread hthread => Or.inl ⟨thread, hthread, SameProgram.refl thread⟩
    split at hstep
    next =>
      cases hstep
      exact hexecuted
    next thread hthread =>
      split at hstep
      next command k hrest =>
        split_ifs at hstep with hwaiting
        · cases hstep
          obtain ⟨-, -, rfl⟩ := hwaiting
          have hanswered : ∀ threads, Answered provider { s with
              tables := (pending.command.execute provider now faults s.tables).2
              queue, threads } (.db pending.command)
              (pending.command.execute provider now faults s.tables).1 :=
            fun _ => answered_execute (h.stored.grows (hgrows _ _)) pending.command
          have hreplied : ∀ threads, Grows { s with
              tables := (pending.command.execute provider now faults s.tables).2, queue } { s with
              tables := (pending.command.execute provider now faults s.tables).2
              queue, threads } :=
            fun _ => ⟨fun _ hmem => hmem, fun _ _ _ hfound => hfound⟩
          exact hexecuted.moveThread (hreplied _) rfl rfl (fun _ _ _ hfound => Or.inl hfound) rfl
            ((hexecuted.threads _ thread hthread).resume hrest (hreplied _) (hanswered _))
        · cases hstep
          exact hexecuted
      next =>
        cases hstep
        exact hexecuted

omit [Sha256] [UnicodeTables] in
/-- What a finished task reports keeps the engine's promise. -/
theorem answered_taskResult {task : Thread}
    {reply : Except String (String × Except String (List ProviderCity))}
    (h : ThreadKeeps provider s task) (hreply : State.taskResult task = some reply) :
    Answered provider s .joinNext reply := by
  unfold State.taskResult at hreply
  split_ifs at hreply
  · cases hreply
    trivial
  · split at hreply
    next code result hrequest hrest =>
      cases hreply
      unfold ThreadKeeps at h
      rw [hrequest, hrest] at h
      cases result with
      | error e => trivial
      | ok items => exact Loaded.complete h rfl
    next => cases hreply

/-- Every step keeps the invariant. -/
theorem engineInv_step {l : Label} (h : EngineInv provider s)
    (hstep : s.step provider l = some s') : EngineInv provider s' := by
  have hgrows : ∀ threads queue, Grows s { s with threads, queue } :=
    fun _ _ => ⟨fun _ hmem => hmem, fun _ _ _ hfound => hfound⟩
  cases l with
  | start request =>
    cases hstep
    exact h.start request none
  | input i answers =>
    simp only [State.step] at hstep
    split at hstep
    next => cases hstep
    next thread hthread =>
      split at hstep
      next query k hrest =>
        cases hstep
        exact h.input (runnable_threads hthread) hrest
      next => cases hstep
  | proceed i =>
    simp only [State.step] at hstep
    split at hstep
    next => cases hstep
    next thread hthread => exact h.proceed (runnable_threads hthread) hstep
  | joinNext i j =>
    simp only [State.step] at hstep
    split at hstep
    next thread task hthread htask =>
      split at hstep
      next k reply hrest hreply =>
        split_ifs at hstep
        cases hstep
        have hkeeps := h.threads i thread (runnable_threads hthread)
        have htaskKeeps := h.threads j task htask
        have hjoined : EngineInv provider (s.setThread j { task with joined := true }) :=
          h.moveThread (hgrows _ _) rfl rfl (fun _ _ _ hfound => Or.inl hfound) rfl
            ((htaskKeeps.grows (hgrows _ _)).same ⟨rfl, rfl, rfl⟩)
        refine hjoined.moveThread ⟨fun _ hmem => hmem, fun _ _ _ hfound => hfound⟩ rfl rfl
          (fun _ _ _ hfound => Or.inl hfound) rfl (hkeeps.resume hrest (hgrows _ _) ?_)
        exact answered_taskResult (htaskKeeps.grows (hgrows _ _)) hreply
      next => cases hstep
    next => cases hstep
  | submit i =>
    simp only [State.step] at hstep
    split at hstep
    next => cases hstep
    next thread hthread =>
      split at hstep
      next command k hrest =>
        cases hstep
        have hkeeps := h.threads i thread (runnable_threads hthread)
        refine h.next (hgrows _ _) (h.stored.grows (hgrows _ _)) (fun pending hpending => ?_)
          (fun _ _ _ hfound => Or.inl hfound) fun j thread' hthread' => ?_
        · rcases List.mem_append.1 hpending with hold | hnew
          · exact Or.inl hold
          · rw [List.mem_singleton.1 hnew]
            exact Or.inr ⟨thread.events, (hkeeps.promised hrest).grows (hgrows _ _)⟩
        · rcases threads_setThread hthread' with rfl | hold
          · exact Or.inr ((hkeeps.grows (hgrows _ _)).same ⟨rfl, rfl, rfl⟩)
          · exact Or.inl ⟨thread', hold, SameProgram.refl thread'⟩
      next => cases hstep
  | refuse i message =>
    simp only [State.step] at hstep
    split at hstep
    next => cases hstep
    next thread hthread =>
      split at hstep
      next command k hrest =>
        cases hstep
        have hrefused : ∀ s', Answered provider s' (.db command) (.error message) := by
          intro s'
          cases command <;> trivial
        exact h.moveThread (hgrows _ _) rfl rfl (fun _ _ _ hfound => Or.inl hfound) rfl
          ((h.threads i thread (runnable_threads hthread)).resume hrest (hgrows _ _) (hrefused _))
      next => cases hstep
  | execute now faults => exact h.executeNext hstep
  | cancel i =>
    simp only [State.step] at hstep
    split at hstep
    next => cases hstep
    next thread hthread =>
      split_ifs at hstep
      cases hstep
      exact (h.cancel hthread).1

theorem engineInv_reachable (h : (engineSystem provider).Reachable s) :
    EngineInv provider s := by
  have hsteps : ∀ s l s', EngineInv provider s → (engineSystem provider).step s l s' →
      EngineInv provider s' := fun _ _ _ hinv hstep => engineInv_step hinv hstep
  refine h.invariant (fun s hinit => ?_) hsteps
  obtain ⟨hempty, hqueue, hflights, hthreads, -⟩ := hinit
  refine ⟨?_, ?_, ?_, ?_⟩
  · rintro scope ⟨state, hstate, -⟩
    simp [hempty.catalogState] at hstate
  · simp [hqueue]
  · simp [hflights]
  · simp [hthreads]

/-- A step changes a stored list only when it executes the replacement of a list by a whole answer
of the provider. -/
theorem select_step {l : Label} {scope : CatalogScope} (h : EngineInv provider s)
    (hstep : s.step provider l = some s')
    (hchanged : scope.select provider s'.tables ≠ scope.select provider s.tables) :
    ∃ pending ∈ s.queue, ∃ other items, pending.command = .replace other items ∧
      CompleteList s other items := by
  rcases tables_step hstep with hsame | ⟨now, faults, pending, queue, -, hqueue, htables⟩
  · exact absurd (by rw [hsame]) hchanged
  have hpending : pending ∈ s.queue := by
    rw [hqueue]
    exact List.mem_cons_self
  obtain ⟨events, hpromised⟩ := h.queue pending hpending
  rw [htables] at hchanged
  rcases execute_cases provider now faults s.tables pending.command with hsame |
    ⟨items, hcommand, -⟩ | ⟨code, items, hcommand, -⟩ | ⟨index, station, -, hput⟩
  · exact absurd (by rw [hsame]) hchanged
  · rw [hcommand] at hpromised
    exact ⟨pending, hpending, .provinces, items, hcommand, hpromised.1⟩
  · rw [hcommand] at hpromised
    exact ⟨pending, hpending, .cities code, items, hcommand, hpromised.1⟩
  · refine absurd ?_ hchanged
    rw [hput]
    cases scope <;> rfl

/-- In every run a list request returns an error or a whole answer of the provider that passed the
validation, and so are the stored lists. A caller gets a stored list or what a flight has that it
joined; when the provider failed or answered an invalid list, that is the stored list that the
flight read, and an error when there was none, and the flight stored nothing. A step changes a
stored list only by storing a whole answer of the provider. -/
theorem catalog_not_torn (h : (engineSystem provider).Reachable s) :
    (∀ i items, s.returned i = some (.listProvinces, .provinces (.ok items)) →
      CompleteList s .provinces items) ∧
    (∀ i code items, s.returned i = some (.cityScope code, .cities (.ok items)) →
      CompleteList s (.cities code) items) ∧
    (∀ i province items, s.returned i = some (.listCities province, .cities (.ok items)) →
      ∃ provinces found, CompleteList s .provinces provinces ∧
        resolveProviderProvince provinces provider province = .ok found ∧
          CompleteList s (.cities found.providerCode) items) ∧
    StoredComplete provider s s.tables ∧
    (∀ i thread outcome, s.threads i = some thread → thread.rest = .ret outcome →
      Returned provider s thread.events thread.request outcome) ∧
    (∀ scope flight found, s.flights.result (.load scope) flight = some found →
      ∃ before work, found.events = before ++ work ∧
        RefreshOutcome s scope work found.result) ∧
    ∀ l s' (scope : CatalogScope), s.step provider l = some s' →
      scope.select provider s'.tables ≠ scope.select provider s.tables →
        ∃ pending ∈ s.queue, ∃ other items, pending.command = .replace other items ∧
          CompleteList s other items := by
  have hinv := engineInv_reachable h
  have hreturned : ∀ i request outcome, s.returned i = some (request, outcome) →
      ∃ events, Returned provider s events request outcome := by
    intro i request outcome hreturn
    obtain ⟨thread, hthread, rfl, hrest⟩ := State.returned_eq_some hreturn
    have hkeeps := hinv.threads i thread hthread
    unfold ThreadKeeps at hkeeps
    rw [hrest] at hkeeps
    exact ⟨thread.events, hkeeps⟩
  refine ⟨fun i items hi => ?_, fun i code items hi => ?_, fun i province items hi => ?_,
    hinv.stored, fun i thread outcome hthread hrest => ?_,
    fun scope flight found hfound => hinv.flights _ flight found hfound,
    fun l s' scope hstep => select_step hinv hstep⟩
  · obtain ⟨events, hloaded⟩ := hreturned _ _ _ hi
    exact Loaded.complete hloaded rfl
  · obtain ⟨events, hloaded⟩ := hreturned _ _ _ hi
    exact Loaded.complete hloaded rfl
  · obtain ⟨events, ⟨e, herror⟩ | ⟨provinces, found, hprovinces, hfound, hloaded⟩⟩ :=
      hreturned _ _ _ hi
    · cases herror
    · exact ⟨provinces, found, hprovinces, hfound, hloaded.complete rfl⟩
  · have hkeeps := hinv.threads i thread hthread
    unfold ThreadKeeps at hkeeps
    rw [hrest] at hkeeps
    exact hkeeps

end Steps

/-! ## A run -/

/-- A provider with one province, and a time to live of one minute. -/
def sampleAnswers : (query : Query) → query.Reply
  | .provinceTtlSeconds => 60
  | .unixTimestampMs => 1000
  | .upstream .provinces => .ok [sampleProvince]
  | .upstream (.cities code) => .ok (sampleScopes code)

/-- A thread's command is sent and executed. -/
def exchange (i : ℕ) : List Label := [.submit i, .execute 1000 noFaults]

/-- A refresh from the question for the time to live to the end of the flight. -/
def refreshSteps (i : ℕ) : List Label :=
  [.input i sampleAnswers] ++ exchange i ++ [.input i sampleAnswers] ++ exchange i ++
    exchange i ++ exchange i ++ [.proceed i, .proceed i]

/-- A request for the provinces on an empty catalog. -/
def sampleRun : List Label :=
  .start .listProvinces :: exchange 0 ++ [.proceed 0, .proceed 0] ++ refreshSteps 0

/-- The list that the request returns is the provider's. -/
theorem catalog_not_torn_sampleRun :
    ∃ s, (@engineSystem sampleSha256 sampleUnicode "nmc").Reachable s ∧
      s.returned 0 = some (.listProvinces, .provinces (.ok [sampleProvince])) ∧
        CompleteList s .provinces [sampleProvince] := by
  have hrun : ((LabelledSystem.perform (@State.step sampleSha256 sampleUnicode "nmc")
      (fun _ _ => true) .initial sampleRun).map fun s => s.returned 0) =
        some (some (.listProvinces, .provinces (.ok [sampleProvince]))) := by
    decide +kernel
  obtain ⟨s, hperform, hreturned⟩ := Option.map_eq_some_iff.1 hrun
  have hreachable : (@engineSystem sampleSha256 sampleUnicode "nmc").Reachable s :=
    (@reachable_of_perform sampleSha256 sampleUnicode "nmc" _ (fun _ _ => True)
      (fun _ _ _ => trivial) _ _ hperform).of_restrict
  exact ⟨s, hreachable, hreturned,
    (@catalog_not_torn "nmc" s sampleSha256 sampleUnicode hreachable).1 0 _ hreturned⟩

end Engine

end WeatherApp
