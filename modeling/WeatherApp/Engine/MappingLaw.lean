import WeatherApp.Engine.LoadLaw

/-!
# Station mappings and their catalog

A replacement of a list deletes the station mappings derived from it in the same transaction. The
mappings are written later, by commands of their own, from an index that a search has loaded
before: the list may have been replaced meanwhile, or never been stored. In the runs in which
every mapping is written while the cities of its scope in the searched index are still stored, no
mapping outlives its catalog.

## Main definitions

* `MappingsBacked`: every mapping belongs to a stored city of its scope.
* `SearchedScopeStored`: the condition on the write of a mapping.

## Main results

* `MappingsBacked.provincesReplaced`, `MappingsBacked.citiesReplaced`: the replacements keep it.
* `mapping_backed`: the runs that meet the condition.
* `mapping_outlives_catalog`: a run that does not.
-/

namespace WeatherApp

namespace Engine

/-- Every station mapping belongs to a stored city of its scope. -/
def MappingsBacked (tables : Tables) : Prop :=
  ∀ row ∈ tables.mappings.rows, ∃ city ∈ tables.cities.rows, city.provider = row.providerName ∧
    city.providerProvinceCode = row.providerProvinceCode ∧
      city.providerCode = row.providerStationId

instance (tables : Tables) : Decidable (MappingsBacked tables) :=
  inferInstanceAs (Decidable (∀ row ∈ tables.mappings.rows, ∃ city ∈ tables.cities.rows, _))

/-- The scope of the station, as the searched index has it, is stored. -/
def ScopeStored (tables : Tables) (index : ProviderCatalog) (station : ProviderStation) : Prop :=
  ∀ city ∈ index.cities, city.providerProvinceCode = station.providerProvinceCode →
    ∃ row ∈ tables.cities.rows, row.provider = station.providerName ∧
      row.providerProvinceCode = city.providerProvinceCode ∧ row.providerCode = city.providerCode

instance (tables : Tables) (index : ProviderCatalog) (station : ProviderStation) :
    Decidable (ScopeStored tables index station) :=
  inferInstanceAs (Decidable (∀ city ∈ index.cities, _))

/-- When the step writes a mapping, the scope of its station is stored as the search read it. -/
def SearchedScopeStored (s : State) (l : Label) : Prop :=
  ∀ now faults thread index station queue, l = .execute now faults →
    s.queue = ⟨thread, .putProviderStationMapping index station⟩ :: queue →
      ScopeStored s.tables index station

/-- The test of the condition. -/
def searchedScopeStored (s : State) : Label → Bool
  | .execute _ _ =>
    match s.queue with
    | ⟨_, .putProviderStationMapping index station⟩ :: _ => ScopeStored s.tables index station
    | _ => true
  | _ => true

theorem searchedScopeStored_sound (s : State) (l : Label) (h : searchedScopeStored s l = true) :
    SearchedScopeStored s l := by
  rintro now faults thread index station queue rfl hqueue
  simpa [searchedScopeStored, hqueue] using h

/-! ## The writes -/

/-- A replacement of the province list deletes the mappings of the cities it deletes. -/
theorem MappingsBacked.provincesReplaced {provider : String} {items : List ProviderProvince}
    {now : ℤ} {tables tables' : Tables} (hbacked : MappingsBacked tables)
    (h : ProvincesReplaced provider items now tables tables') : MappingsBacked tables' := by
  intro row hrow
  rw [h.mappings, KeyedTable.mem_rows, KeyedTable.mem_deleteWhere,
    decide_eq_false_iff_not] at hrow
  obtain ⟨hold, hkept⟩ := hrow
  obtain ⟨city, hcity, hprovider, hscope, hcode⟩ := hbacked row hold
  refine ⟨city, ?_, hprovider, hscope, hcode⟩
  rw [h.cities, KeyedTable.mem_rows, KeyedTable.mem_deleteWhere, decide_eq_false_iff_not,
    hprovider, hscope]
  exact ⟨hcity, hkept⟩

/-- A replacement of a city list deletes the mappings of its scope. -/
theorem MappingsBacked.citiesReplaced {provider scope : String} {items : List ProviderCity}
    {now : ℤ} {tables tables' : Tables} (hbacked : MappingsBacked tables)
    (h : CitiesReplaced provider scope items now tables tables') : MappingsBacked tables' := by
  intro row hrow
  rw [h.mappings, KeyedTable.mem_rows, KeyedTable.mem_deleteWhere,
    decide_eq_false_iff_not] at hrow
  obtain ⟨hold, hkept⟩ := hrow
  obtain ⟨city, hcity, hprovider, hscope, hcode⟩ := hbacked row hold
  refine ⟨city, ?_, hprovider, hscope, hcode⟩
  rw [h.cities, List.mem_append, List.mem_filter]
  refine Or.inl ⟨hcity, ?_⟩
  rw [hprovider, hscope, Bool.not_eq_true', decide_eq_false_iff_not]
  exact hkept

/-- The write of the mapping of a stored city. -/
theorem MappingsBacked.put {tables : Tables} {index : ProviderCatalog}
    {station : ProviderStation} (hbacked : MappingsBacked tables)
    (hstored : ScopeStored tables index station)
    (hindex : ∃ city ∈ index.cities, city.providerCode = station.providerStationId ∧
      city.providerProvinceCode = station.providerProvinceCode) :
    MappingsBacked { tables with mappings := tables.mappings.upsert station fun _ => true } := by
  intro row hrow
  rw [KeyedTable.mem_rows, KeyedTable.mem_upsert_true] at hrow
  rcases hrow with ⟨hold, -⟩ | rfl
  · exact hbacked row hold
  · obtain ⟨city, hcity, hcode, hscope⟩ := hindex
    obtain ⟨stored, hmem, hprovider, hstoredScope, hstoredCode⟩ := hstored city hcity hscope
    exact ⟨stored, hmem, hprovider, hstoredScope.trans hscope, hstoredCode.trans hcode⟩

/-! ## Runs -/

section Runs

variable [Sha256] [UnicodeTables] {provider : String} {s s' : State}

theorem mappingsBacked_step {l : Label} (hinv : EngineInv provider s)
    (hbacked : MappingsBacked s.tables) (hstep : s.step provider l = some s')
    (hallowed : SearchedScopeStored s l) : MappingsBacked s'.tables := by
  rcases tables_step hstep with hsame | ⟨now, faults, pending, queue, rfl, hqueue, htables⟩
  · rw [hsame]
    exact hbacked
  obtain ⟨events, hpromised⟩ := hinv.queue pending (by rw [hqueue]; exact List.mem_cons_self)
  rw [htables]
  rcases execute_cases provider now faults s.tables pending.command with hsame |
    ⟨items, -, hreplaced⟩ | ⟨code, items, -, hreplaced⟩ | ⟨index, station, hcommand, hput⟩
  · rw [hsame]
    exact hbacked
  · exact hbacked.provincesReplaced hreplaced
  · exact hbacked.citiesReplaced hreplaced
  · rw [hput]
    obtain ⟨thread, command⟩ := pending
    subst hcommand
    exact hbacked.put (hallowed _ _ _ _ _ _ rfl hqueue) hpromised.2

/-- In every run that writes each mapping while the scope of its station is stored as the search
read it, every mapping belongs to a stored city of its scope, also while requests are in
progress. -/
theorem mapping_backed
    (h : ((engineSystem provider).restrict SearchedScopeStored).Reachable s) :
    MappingsBacked s.tables := by
  have hinit : ∀ s, ((engineSystem provider).restrict SearchedScopeStored).init s →
      EngineInv provider s ∧ MappingsBacked s.tables := by
    intro s hinit
    refine ⟨engineInv_reachable ⟨[], .start hinit⟩, fun row hrow => ?_⟩
    rw [hinit.1.mappings] at hrow
    cases hrow
  have hsteps : ∀ s l s', EngineInv provider s ∧ MappingsBacked s.tables →
      ((engineSystem provider).restrict SearchedScopeStored).step s l s' →
        EngineInv provider s' ∧ MappingsBacked s'.tables :=
    fun s l s' hinv hstep => ⟨engineInv_step hinv.1 hstep.1,
      mappingsBacked_step hinv.1 hinv.2 hstep.1 hstep.2⟩
  exact (h.invariant hinit hsteps).2

end Runs

/-! ## A search and a refresh -/

/-- No request and no task is in progress. -/
def State.idle (s : State) : Bool :=
  (List.range s.started).all fun i =>
    (s.threads i).all fun thread => thread.cancelled || thread.finished

/-- A search in one province on an empty catalog, up to the write of the mapping. -/
def sampleSearch : List Label :=
  .start (.fuzzyMatchStations "" (some "北京市") 0 10) :: exchange 0 ++
    [.proceed 0, .proceed 0] ++ refreshSteps 0 ++ [.proceed 0] ++
      exchange 1 ++ [.proceed 1, .proceed 1] ++ refreshSteps 1 ++ [.joinNext 0 1]

/-- Later the provider has another city in the province. -/
def laterAnswers : (query : Query) → query.Reply
  | .provinceTtlSeconds => 60
  | .unixTimestampMs => 100000
  | .upstream .provinces => .ok [sampleProvince]
  | .upstream (.cities _) => .ok [⟨"CY", "ABJ", "北京市", "朝阳", ""⟩]

/-- A request for the cities of the province, which refreshes their list. -/
def sampleRefresh : List Label :=
  .start (.listCities "北京市") :: exchange 2 ++ [.input 2 sampleAnswers, .input 2 sampleAnswers] ++
    exchange 2 ++ [.input 2 laterAnswers, .input 2 laterAnswers, .proceed 2, .proceed 2,
      .input 2 laterAnswers] ++ exchange 2 ++ [.input 2 laterAnswers, .input 2 laterAnswers] ++
        exchange 2 ++ exchange 2 ++ exchange 2 ++ [.proceed 2, .proceed 2]

/-- The mapping that the search writes at once belongs to a stored city. -/
theorem mapping_backed_sampleSearch :
    ∃ s, ((@engineSystem sampleSha256 sampleUnicode "nmc").restrict
        SearchedScopeStored).Reachable s ∧ s.idle = true ∧ s.tables.mappings.rows.length = 1 ∧
      MappingsBacked s.tables := by
  have hrun : ((LabelledSystem.perform (@State.step sampleSha256 sampleUnicode "nmc")
      searchedScopeStored .initial (sampleSearch ++ exchange 0)).map fun s =>
        (s.idle, s.tables.mappings.rows.length)) = some (true, 1) := by
    decide +kernel
  obtain ⟨s, hperform, hend⟩ := Option.map_eq_some_iff.1 hrun
  rw [Prod.mk.injEq] at hend
  have hreachable := @reachable_of_perform sampleSha256 sampleUnicode "nmc" _ _
    searchedScopeStored_sound _ _ hperform
  exact ⟨s, hreachable, hend.1, hend.2,
    @mapping_backed sampleSha256 sampleUnicode "nmc" s hreachable⟩

/-- A list that is replaced between the search and the write leaves a mapping without a city. -/
theorem mapping_outlives_catalog :
    ¬ ∀ s, (@engineSystem sampleSha256 sampleUnicode "nmc").Reachable s → s.idle = true →
      MappingsBacked s.tables := by
  intro hclaim
  have hrun : ((LabelledSystem.perform (@State.step sampleSha256 sampleUnicode "nmc")
      (fun _ _ => true) .initial (sampleSearch ++ sampleRefresh ++ exchange 0)).map fun s =>
        (s.idle, decide (MappingsBacked s.tables))) = some (true, false) := by
    decide +kernel
  obtain ⟨s, hperform, hend⟩ := Option.map_eq_some_iff.1 hrun
  rw [Prod.mk.injEq] at hend
  have hreachable : (@engineSystem sampleSha256 sampleUnicode "nmc").Reachable s :=
    (@reachable_of_perform sampleSha256 sampleUnicode "nmc" _ (fun _ _ => True)
      (fun _ _ _ => trivial) _ _ hperform).of_restrict
  exact of_decide_eq_false hend.2 (hclaim s hreachable hend.1)

end Engine

end WeatherApp
