import WeatherApp.Db.Catalog

/-!
# Station lookups

`get_provider_station_by_name` and `get_provider_station_by_uuid` of `storage.rs`. A mapping is
written only with the uuid of its name, so that the uuid of a station that a lookup returns is
that of its name.

## Main definitions

* `getProviderStationByName`, `getProviderStationByUuid`
* `CanonicalMappings`: the uuids of the mappings are those of their names.

## Main results

* `CanonicalMappings.put`, `CanonicalMappings.provincesReplaced`,
  `CanonicalMappings.citiesReplaced`: the catalog commands keep them so.
* `history_replaceProviderProvinces`, `history_replaceProviderCities`: they leave the history alone.
-/

namespace WeatherApp

/-- `get_provider_station_by_name`. -/
def getProviderStationByName (provider displayName : String) :
    DbTx (Option ProviderStation) :=
  Tx.query fun tables => tables.mappings.lookup (provider, displayName)

/-- `get_provider_station_by_uuid`: the first one by its display name. -/
def getProviderStationByUuid (provider uuid : String) : DbTx (Option ProviderStation) :=
  Tx.query fun tables => tables.mappings.selectFirst (fun a b => a.displayName ≤ b.displayName)
    fun row => row.providerName = provider ∧ row.unifiedUuid = uuid

/-- The station found is one of the mappings, and has the uuid. -/
theorem getProviderStationByUuid_returns {provider uuid : String} {tables tables' : Tables}
    {station : ProviderStation}
    (h : (getProviderStationByUuid provider uuid).Returns tables (some station) tables') :
    station ∈ tables.mappings ∧ station.unifiedUuid = uuid := by
  obtain ⟨hfound, -⟩ := Tx.returns_query h
  have hmem := List.mem_of_mem_head? hfound.symm
  obtain ⟨hmem, hwhere⟩ := KeyedTable.mem_select.1 hmem
  exact ⟨hmem, (of_decide_eq_true hwhere).2⟩

/-! ## The catalog commands and the history -/

/-- Replacing the list of provinces leaves the history alone. -/
theorem history_replaceProviderProvinces (provider : String) (provinces : List ProviderProvince)
    (now : ℤ) (faults : FaultPlan) (tables : Tables) :
    (replaceProviderProvinces provider provinces now faults tables).2.history =
      tables.history := by
  cases hrun : replaceProviderProvinces provider provinces now faults tables with
  | mk result tables' =>
    cases result with
    | error e => rw [replaceProviderProvinces_error hrun]
    | ok =>
      unfold replaceProviderProvinces at hrun
      split at hrun
      next => cases hrun
      next => cases hrun
      next =>
        obtain ⟨_, s₁, hdelete, hrest₁⟩ := Tx.returns_bind (transaction_ok hrun)
        obtain rfl := Tx.returns_execute hdelete
        obtain ⟨_, s₂, hinsert, hrest₂⟩ := Tx.returns_bind hrest₁
        have hset := (insertEach_returns hinsert).2
        obtain ⟨_, s₃, hcities, hrest₃⟩ := Tx.returns_bind hrest₂
        obtain rfl := Tx.returns_execute hcities
        obtain ⟨_, s₄, hstates, hrest₄⟩ := Tx.returns_bind hrest₃
        obtain rfl := Tx.returns_execute hstates
        obtain ⟨_, s₅, hmappings, hstate⟩ := Tx.returns_bind hrest₄
        obtain rfl := Tx.returns_execute hmappings
        obtain rfl := Tx.returns_execute hstate
        show s₂.history = tables.history
        rw [hset]
        rfl

/-- Replacing a list of cities leaves the history alone. -/
theorem history_replaceProviderCities (provider scope : String) (cities : List ProviderCity)
    (now : ℤ) (faults : FaultPlan) (tables : Tables) :
    (replaceProviderCities provider scope cities now faults tables).2.history =
      tables.history := by
  cases hrun : replaceProviderCities provider scope cities now faults tables with
  | mk result tables' =>
    cases result with
    | error e => rw [replaceProviderCities_error hrun]
    | ok =>
      unfold replaceProviderCities at hrun
      split at hrun
      next => cases hrun
      next => cases hrun
      next =>
        obtain ⟨_, s₁, hmappings, hrest₁⟩ := Tx.returns_bind (transaction_ok hrun)
        obtain rfl := Tx.returns_execute hmappings
        obtain ⟨_, s₂, hcities, hrest₂⟩ := Tx.returns_bind hrest₁
        obtain rfl := Tx.returns_execute hcities
        obtain ⟨_, s₃, hinsert, hstate⟩ := Tx.returns_bind hrest₂
        have hset := (insertEach_returns hinsert).2
        obtain rfl := Tx.returns_execute hstate
        show s₃.history = tables.history
        rw [hset]
        rfl

/-! ## Canonical uuids -/

variable [Sha256]

/-- The uuid of every mapping is that of its name. -/
def CanonicalMappings (tables : Tables) : Prop :=
  ∀ station ∈ tables.mappings, station.unifiedUuid = unifiedStationUuid station.name

/-- The mappings of such tables can only become fewer. -/
theorem CanonicalMappings.mono {tables tables' : Tables} (h : CanonicalMappings tables)
    (hsub : ∀ station ∈ tables'.mappings, station ∈ tables.mappings) :
    CanonicalMappings tables' :=
  fun station hmem => h station (hsub station hmem)

/-- The checks of a mapping let only canonical uuids through. -/
theorem unifiedUuid_of_validateStationMapping {station : ProviderStation}
    (h : validateStationMapping station = .ok ⟨⟩) :
    station.unifiedUuid = unifiedStationUuid station.name := by
  unfold validateStationMapping at h
  split at h
  next => cases h
  next =>
    split_ifs at h with _ _ hcanonical
    exact not_not.1 hcanonical

/-- Storing a mapping. -/
theorem CanonicalMappings.put {station : ProviderStation} {faults : FaultPlan}
    {tables : Tables} (h : CanonicalMappings tables) :
    CanonicalMappings (putProviderStationMapping station faults tables).2 := by
  cases hrun : putProviderStationMapping station faults tables with
  | mk result tables' =>
    cases result with
    | error e => rwa [putProviderStationMapping_error hrun]
    | ok =>
      obtain ⟨hvalid, rfl⟩ := putProviderStationMapping_ok hrun
      intro row hmem
      obtain ⟨hold, -⟩ | rfl := KeyedTable.mem_upsert_true.1 hmem
      · exact h row hold
      · exact unifiedUuid_of_validateStationMapping hvalid

/-- Replacing the list of provinces. -/
theorem CanonicalMappings.provincesReplaced {provider : String} {items : List ProviderProvince}
    {now : ℤ} {tables tables' : Tables} (h : CanonicalMappings tables)
    (hreplaced : ProvincesReplaced provider items now tables tables') :
    CanonicalMappings tables' := by
  refine h.mono fun station hmem => ?_
  rw [hreplaced.mappings] at hmem
  exact (KeyedTable.mem_deleteWhere.1 hmem).1

/-- Replacing a list of cities. -/
theorem CanonicalMappings.citiesReplaced {provider scope : String} {items : List ProviderCity}
    {now : ℤ} {tables tables' : Tables} (h : CanonicalMappings tables)
    (hreplaced : CitiesReplaced provider scope items now tables tables') :
    CanonicalMappings tables' := by
  refine h.mono fun station hmem => ?_
  rw [hreplaced.mappings] at hmem
  exact (KeyedTable.mem_deleteWhere.1 hmem).1

end WeatherApp
