import WeatherApp.Db.Catalog
import WeatherApp.Foundation.Run

/-!
# The catalog over whole runs

Any sequence of catalog writes on an empty catalog, accepted, rejected or failed by the storage
engine. The state rows count the rows they stand for and every city belongs to a scope with a
state row, so that no read reports a damaged catalog.

## Main definitions

* `catalogSystem`: the catalog writes as a labelled system.
* `CatalogInv`: how the state rows relate to the provinces and the cities.

## Main results

* `ProvincesReplaced.catalogInv`, `CitiesReplaced.catalogInv`: the replacements keep it.
* `catalogStore_consistent`: it holds after every run, the reads fail only with the engine, and
  a failing write changes nothing.
-/

namespace WeatherApp

/-- The number of stored provinces of a provider. -/
def Tables.provinceCount (tables : Tables) (provider : String) : ℕ :=
  tables.provinces.rows.countP fun row => row.provider = provider

/-- The number of stored cities of a scope. -/
def Tables.cityCount (tables : Tables) (provider scope : String) : ℕ :=
  tables.cities.rows.countP fun row => row.provider = provider ∧ row.providerProvinceCode = scope

/-- The state rows count the rows they stand for, and every city has a state row. -/
structure CatalogInv (tables : Tables) : Prop where
  provinceScope : ∀ state ∈ tables.catalogState, state.catalogKind = .provinces →
    state.scope = provinceScope
  provinceCount : ∀ state ∈ tables.catalogState, state.catalogKind = .provinces →
    state.rowCount = tables.provinceCount state.provider
  cityCount : ∀ state ∈ tables.catalogState, state.catalogKind = .cities →
    state.rowCount = tables.cityCount state.provider state.scope
  cityState : ∀ row ∈ tables.cities, ∃ state ∈ tables.catalogState,
    state.key = (row.provider, .cities, row.providerProvinceCode)

/-! ## Counting rows after a deletion -/

/-- Deleting rows that are not counted leaves the count. -/
theorem countP_filter_of_disjoint {α : Type} {l : List α} {p q : α → Bool}
    (h : ∀ x ∈ l, p x = true → q x = false) :
    (l.filter fun x => !q x).countP p = l.countP p := by
  rw [List.countP_filter]
  refine List.countP_congr fun x hx => ?_
  rw [Bool.and_eq_true]
  exact ⟨fun hp => hp.1, fun hp => ⟨hp, by simp [h x hx hp]⟩⟩

/-- Deleting the counted rows leaves none. -/
theorem countP_filter_of_subset {α : Type} {l : List α} {p q : α → Bool}
    (h : ∀ x, p x = true → q x = true) : (l.filter fun x => !q x).countP p = 0 := by
  rw [List.countP_eq_zero]
  intro x hx hp
  simp [h x hp] at hx

/-! ## The replacements keep the invariant -/

theorem hasProvince_eq_true_iff {tables : Tables} {provider code : String} :
    tables.hasProvince provider code = true ↔
      ∃ row ∈ tables.provinces, row.provider = provider ∧ row.providerCode = code := by
  simp [Tables.hasProvince]

theorem ProvincesReplaced.provinceCount_self {provider : String} {items : List ProviderProvince}
    {now : ℤ} {tables tables' : Tables}
    (h : ProvincesReplaced provider items now tables tables') :
    tables'.provinceCount provider = items.length := by
  rw [Tables.provinceCount, h.provinces, List.countP_append,
    countP_filter_of_subset fun _ hx => hx, zero_add]
  simp [ProviderProvince.row]

theorem ProvincesReplaced.provinceCount_of_ne {provider other : String}
    {items : List ProviderProvince} {now : ℤ} {tables tables' : Tables}
    (h : ProvincesReplaced provider items now tables tables') (hne : other ≠ provider) :
    tables'.provinceCount other = tables.provinceCount other := by
  rw [Tables.provinceCount, Tables.provinceCount, h.provinces, List.countP_append,
    countP_filter_of_disjoint]
  · simp [ProviderProvince.row, hne.symm]
  · intro row _ hrow
    rw [decide_eq_true_iff] at hrow
    simp [hrow, hne]

/-- A scope that stays keeps its cities. -/
theorem ProvincesReplaced.cityCount {provider other scope : String}
    {items : List ProviderProvince} {now : ℤ} {tables tables' : Tables}
    (h : ProvincesReplaced provider items now tables tables')
    (hstays : other = provider → tables'.hasProvince provider scope = true) :
    tables'.cityCount other scope = tables.cityCount other scope := by
  rw [Tables.cityCount, Tables.cityCount, h.cities, KeyedTable.rows_deleteWhere,
    countP_filter_of_disjoint]
  intro row _ hrow
  obtain ⟨rfl, rfl⟩ := of_decide_eq_true hrow
  rw [decide_eq_false_iff_not]
  rintro ⟨hprovider, hgone⟩
  rw [hprovider, hstays hprovider] at hgone
  cases hgone

theorem ProvincesReplaced.catalogInv {provider : String} {items : List ProviderProvince}
    {now : ℤ} {tables tables' : Tables}
    (h : ProvincesReplaced provider items now tables tables') (hinv : CatalogInv tables) :
    CatalogInv tables' := by
  have hstate : ∀ state, state ∈ tables'.catalogState ↔
      ((state ∈ tables.catalogState ∧ (state.provider = provider → state.catalogKind = .cities →
        tables'.hasProvince provider state.scope = true)) ∧
          state.key ≠ (provider, .provinces, provinceScope)) ∨
      state = ⟨provider, .provinces, provinceScope, now, items.length⟩ := by
    intro state
    rw [h.catalogState, KeyedTable.mem_upsert_true, KeyedTable.mem_deleteWhere,
      decide_eq_false_iff_not]
    refine or_congr (and_congr (and_congr_right fun _ => ?_) Iff.rfl) Iff.rfl
    constructor
    · rintro hkept hprovider hkind
      by_contra hgone
      exact hkept ⟨hprovider, hkind, by simpa [hprovider] using hgone⟩
    · rintro hstays ⟨hprovider, hkind, hgone⟩
      rw [hprovider, hstays hprovider hkind] at hgone
      cases hgone
  refine ⟨fun state hmem hkind => ?_, fun state hmem hkind => ?_, fun state hmem hkind => ?_,
    fun row hrow => ?_⟩
  · rcases (hstate state).1 hmem with ⟨⟨hold, -⟩, -⟩ | rfl
    · exact hinv.provinceScope state hold hkind
    · rfl
  · rcases (hstate state).1 hmem with ⟨⟨hold, -⟩, hkey⟩ | rfl
    · -- the only province state of the provider was replaced
      have hother : state.provider ≠ provider := by
        rintro rfl
        exact hkey (by rw [CatalogStateRow.key, hkind, hinv.provinceScope state hold hkind])
      rw [h.provinceCount_of_ne hother]
      exact hinv.provinceCount state hold hkind
    · rw [h.provinceCount_self]
  · rcases (hstate state).1 hmem with ⟨⟨hold, hstays⟩, -⟩ | rfl
    · rw [h.cityCount fun hprovider => hstays hprovider hkind]
      exact hinv.cityCount state hold hkind
    · cases hkind
  · rw [h.cities, KeyedTable.mem_deleteWhere, decide_eq_false_iff_not] at hrow
    obtain ⟨state, hmem, hkey⟩ := hinv.cityState row hrow.1
    refine ⟨state, (hstate state).2 (Or.inl ⟨⟨hmem, fun hprovider _ => ?_⟩, ?_⟩), hkey⟩
    · rw [CatalogStateRow.key, Prod.mk.injEq, Prod.mk.injEq] at hkey
      by_contra hgone
      rw [hprovider] at hkey
      refine hrow.2 ⟨hkey.1.symm, ?_⟩
      rw [← hkey.1, ← hkey.2.2]
      simpa using hgone
    · rw [hkey]
      simp

theorem CitiesReplaced.cityCount_self {provider scope : String} {items : List ProviderCity}
    {now : ℤ} {tables tables' : Tables}
    (h : CitiesReplaced provider scope items now tables tables') :
    tables'.cityCount provider scope = items.length := by
  rw [Tables.cityCount, h.cities, List.countP_append, countP_filter_of_subset fun _ hx => hx,
    zero_add]
  simp [ProviderCity.row]

theorem CitiesReplaced.cityCount_of_ne {provider scope other otherScope : String}
    {items : List ProviderCity} {now : ℤ} {tables tables' : Tables}
    (h : CitiesReplaced provider scope items now tables tables')
    (hne : ¬ (other = provider ∧ otherScope = scope)) :
    tables'.cityCount other otherScope = tables.cityCount other otherScope := by
  rw [Tables.cityCount, Tables.cityCount, h.cities, List.countP_append,
    countP_filter_of_disjoint]
  · rw [Nat.add_eq_left, List.countP_eq_zero]
    rintro _ hrow hcounted
    obtain ⟨city, -, rfl⟩ := List.mem_map.1 hrow
    obtain ⟨hprovider, hscope⟩ := of_decide_eq_true hcounted
    exact hne ⟨hprovider.symm, hscope.symm⟩
  · intro row _ hrow
    obtain ⟨rfl, rfl⟩ := of_decide_eq_true hrow
    simpa using hne

theorem CitiesReplaced.catalogInv {provider scope : String} {items : List ProviderCity}
    {now : ℤ} {tables tables' : Tables}
    (h : CitiesReplaced provider scope items now tables tables') (hinv : CatalogInv tables) :
    CatalogInv tables' := by
  have hstate : ∀ state, state ∈ tables'.catalogState ↔
      (state ∈ tables.catalogState ∧ state.key ≠ (provider, .cities, scope)) ∨
        state = ⟨provider, .cities, scope, now, items.length⟩ := by
    intro state
    rw [h.catalogState, KeyedTable.mem_upsert_true]
    exact Iff.rfl
  refine ⟨fun state hmem hkind => ?_, fun state hmem hkind => ?_, fun state hmem hkind => ?_,
    fun row hrow => ?_⟩
  · rcases (hstate state).1 hmem with ⟨hold, -⟩ | rfl
    · exact hinv.provinceScope state hold hkind
    · cases hkind
  · rcases (hstate state).1 hmem with ⟨hold, -⟩ | rfl
    · rw [Tables.provinceCount, h.provinces]
      exact hinv.provinceCount state hold hkind
    · cases hkind
  · rcases (hstate state).1 hmem with ⟨hold, hkey⟩ | rfl
    · rw [h.cityCount_of_ne]
      · exact hinv.cityCount state hold hkind
      · rintro ⟨hprovider, hscope⟩
        exact hkey (by rw [CatalogStateRow.key, hprovider, hkind, hscope])
    · rw [h.cityCount_self]
  · by_cases hreplaced : row.provider = provider ∧ row.providerProvinceCode = scope
    · exact ⟨_, (hstate _).2 (Or.inr rfl), by rw [CatalogStateRow.key, hreplaced.1, hreplaced.2]⟩
    · rw [← KeyedTable.mem_rows, h.cities, List.mem_append, List.mem_filter] at hrow
      rcases hrow with ⟨hold, -⟩ | hnew
      · obtain ⟨state, hmem, hkey⟩ := hinv.cityState row hold
        refine ⟨state, (hstate state).2 (Or.inl ⟨hmem, ?_⟩), hkey⟩
        rw [hkey]
        simpa using hreplaced
      · obtain ⟨city, -, rfl⟩ := List.mem_map.1 hnew
        exact absurd ⟨rfl, rfl⟩ hreplaced

/-! ## Runs of catalog writes -/

/-- A catalog write with its arguments, and the faults of the storage engine. -/
inductive CatalogOp where
  | replaceProvinces (provider : String) (provinces : List ProviderProvince) (now : ℤ)
      (faults : FaultPlan)
  | replaceCities (provider scope : String) (cities : List ProviderCity) (now : ℤ)
      (faults : FaultPlan)
  | putMapping (station : ProviderStation) (faults : FaultPlan)

/-- Perform a catalog write. -/
def CatalogOp.perform [Sha256] : CatalogOp → Tables → Except DbError Unit × Tables
  | .replaceProvinces provider provinces now faults =>
    replaceProviderProvinces provider provinces now faults
  | .replaceCities provider scope cities now faults =>
    replaceProviderCities provider scope cities now faults
  | .putMapping station faults => putProviderStationMapping station faults

/-- The catalog tables hold nothing. -/
structure EmptyCatalog (tables : Tables) : Prop where
  provinces : tables.provinces = .empty
  cities : tables.cities = .empty
  catalogState : tables.catalogState = .empty
  mappings : tables.mappings = .empty

/-- Runs of catalog writes on an empty catalog. -/
def catalogSystem [Sha256] : LabelledSystem Tables CatalogOp where
  init := EmptyCatalog
  step tables op tables' := tables' = (op.perform tables).2

/-- A failing write leaves the tables as they were. -/
theorem CatalogOp.perform_error [Sha256] {op : CatalogOp} {tables tables' : Tables} {e : DbError}
    (h : op.perform tables = (.error e, tables')) : tables' = tables := by
  cases op with
  | replaceProvinces => exact replaceProviderProvinces_error h
  | replaceCities => exact replaceProviderCities_error h
  | putMapping => exact putProviderStationMapping_error h

theorem catalogInv_of_emptyCatalog {tables : Tables} (h : EmptyCatalog tables) :
    CatalogInv tables := by
  constructor <;> simp [h.catalogState, h.cities]

/-- Every write keeps the invariant. -/
theorem catalogInv_perform [Sha256] {op : CatalogOp} {tables : Tables}
    (hinv : CatalogInv tables) : CatalogInv (op.perform tables).2 := by
  cases hrun : op.perform tables with
  | mk result tables' =>
    cases result with
    | error e =>
      rw [CatalogOp.perform_error hrun]
      exact hinv
    | ok =>
      cases op with
      | replaceProvinces => exact (replaceProviderProvinces_ok hrun).catalogInv hinv
      | replaceCities => exact (replaceProviderCities_ok hrun).catalogInv hinv
      | putMapping =>
        obtain ⟨-, rfl⟩ := putProviderStationMapping_ok hrun
        exact ⟨hinv.provinceScope, hinv.provinceCount, hinv.cityCount, hinv.cityState⟩

theorem catalogInv_reachable [Sha256] {tables : Tables} (h : catalogSystem.Reachable tables) :
    CatalogInv tables :=
  h.invariant (fun _ => catalogInv_of_emptyCatalog) fun tables op tables' hinv hstep => by
    rw [show tables' = (op.perform tables).2 from hstep]
    exact catalogInv_perform hinv

/-! ## Reads of a consistent catalog -/

/-- A read that fails with anything but the engine's error refused a blank provider. -/
def FailsCleanly {α : Type} (read : DbTx α) (provider : String) (tables : Tables) : Prop :=
  ∀ e, read.Fails tables e →
    (∃ reason, e = .engine reason) ∨ (isBlank provider = true ∧
      e = .raised "provider must not be empty")

theorem validateProvider_fails {provider : String} {tables : Tables} {e : DbError}
    (h : (Tx.ofExcept (validateProvider provider) : DbTx Unit).Fails tables e) :
    isBlank provider = true ∧ e = .raised "provider must not be empty" := by
  obtain ⟨text, htext, rfl⟩ := Tx.fails_ofExcept h
  unfold validateProvider at htext
  split_ifs at htext with hblank
  cases htext
  exact ⟨hblank, rfl⟩

theorem length_selectProvinces (tables : Tables) (provider : String) :
    (tables.selectProvinces provider).length = tables.provinceCount provider := by
  rw [Tables.selectProvinces, List.length_map, KeyedTable.select, List.length_insertionSort,
    Tables.provinceCount, List.countP_eq_length_filter]

theorem length_selectCities (tables : Tables) (provider scope : String) :
    (tables.selectCities provider scope).length = tables.cityCount provider scope := by
  rw [Tables.selectCities, List.length_map, KeyedTable.select, List.length_insertionSort,
    Tables.cityCount, List.countP_eq_length_filter]

theorem not_fails_validateCatalogCount {provider scope : String} {kind : CatalogKind}
    {expected : ℤ} {actual : ℕ} {tables : Tables} {e : DbError} (hcount : expected = actual) :
    ¬ (Tx.ofExcept (validateCatalogCount provider kind scope expected actual) :
      DbTx Unit).Fails tables e := by
  intro h
  obtain ⟨text, htext, -⟩ := Tx.fails_ofExcept h
  rw [validateCatalogCount, if_neg (not_not.2 hcount)] at htext
  cases htext

/-- A read whose state row counts the selected items fails only with the engine. -/
theorem readCatalog_failsCleanly {α : Type} {provider scope : String} {kind : CatalogKind}
    {select : Tables → List α} {tables : Tables}
    (hcount : ∀ state ∈ tables.catalogState, state.key = (provider, kind, scope) →
      state.rowCount = (select tables).length) :
    FailsCleanly (readCatalog provider kind scope select) provider tables := by
  intro e h
  rcases Tx.fails_bind h with hblank | ⟨_, s₁, hvalid, hrest₁⟩
  · exact Or.inr (validateProvider_fails hblank)
  obtain ⟨-, rfl⟩ := Tx.returns_ofExcept hvalid
  rcases Tx.fails_bind hrest₁ with hquery | ⟨state, s₂, hlookup, hrest₂⟩
  · exact Or.inl (Tx.fails_query hquery)
  obtain ⟨rfl, rfl⟩ := Tx.returns_query hlookup
  split at hrest₂
  next => exact absurd hrest₂ Tx.not_fails_pure
  next state hstate =>
    obtain ⟨hmem, hkey⟩ := KeyedTable.lookup_eq_some_iff.1 hstate
    rcases Tx.fails_bind hrest₂ with hquery | ⟨items, s₃, hitems, hrest₃⟩
    · exact Or.inl (Tx.fails_query hquery)
    obtain ⟨rfl, rfl⟩ := Tx.returns_query hitems
    rcases Tx.fails_bind hrest₃ with hmismatch | ⟨_, s₄, -, hreturn⟩
    · exact absurd hmismatch (not_fails_validateCatalogCount (hcount state hmem hkey))
    · exact absurd hreturn Tx.not_fails_pure

theorem getProviderProvinces_failsCleanly {tables : Tables} (hinv : CatalogInv tables)
    (provider : String) : FailsCleanly (getProviderProvinces provider) provider tables := by
  refine readCatalog_failsCleanly fun state hmem hkey => ?_
  rw [CatalogStateRow.key, Prod.mk.injEq, Prod.mk.injEq] at hkey
  rw [length_selectProvinces, hinv.provinceCount state hmem hkey.2.1, hkey.1]

theorem getProviderCities_failsCleanly {tables : Tables} (hinv : CatalogInv tables)
    (provider scope : String) : FailsCleanly (getProviderCities provider scope) provider tables := by
  refine readCatalog_failsCleanly fun state hmem hkey => ?_
  rw [CatalogStateRow.key, Prod.mk.injEq, Prod.mk.injEq] at hkey
  rw [length_selectCities, hinv.cityCount state hmem hkey.2.1, hkey.1, hkey.2.2]

/-- A consistent catalog has no orphan city. -/
theorem orphanCity_eq_none {tables : Tables} (hinv : CatalogInv tables) (provider : String) :
    tables.orphanCity provider = none := by
  rw [Tables.orphanCity, KeyedTable.selectFirst_eq_none_iff]
  intro row hrow
  rw [decide_eq_false_iff_not]
  rintro ⟨-, horphan⟩
  obtain ⟨state, hmem, hkey⟩ := hinv.cityState row hrow
  rw [Bool.not_eq_true', List.any_eq_false] at horphan
  exact horphan state hmem (by simpa using hkey)

theorem getAllProviderCityScopes_failsCleanly {tables : Tables} (hinv : CatalogInv tables)
    (provider : String) : FailsCleanly (getAllProviderCityScopes provider) provider tables := by
  intro e h
  rcases Tx.fails_bind h with hblank | ⟨_, s₁, hvalid, hrest₁⟩
  · exact Or.inr (validateProvider_fails hblank)
  obtain ⟨-, rfl⟩ := Tx.returns_ofExcept hvalid
  rcases Tx.fails_bind hrest₁ with hquery | ⟨orphan, s₂, horphan, hrest₂⟩
  · exact Or.inl (Tx.fails_query hquery)
  obtain ⟨rfl, rfl⟩ := Tx.returns_query horphan
  rw [orphanCity_eq_none hinv] at hrest₂
  rcases Tx.fails_bind hrest₂ with hquery | ⟨states, s₃, hstates, hloop⟩
  · exact Or.inl (Tx.fails_query hquery)
  obtain ⟨rfl, rfl⟩ := Tx.returns_query hstates
  -- the reads of the loop leave the tables alone
  obtain ⟨done, state, rest, scopes, s₄, hsplit, rfl, hfails⟩ :=
    Tx.fails_foldlM (fun _ _ s => s = s₃) rfl (fun done state scopes s _ s' hs hrun => by
      obtain ⟨items, s₄, hitems, hrest₃⟩ := Tx.returns_bind hrun
      obtain ⟨-, rfl⟩ := Tx.returns_query hitems
      obtain ⟨_, s₅, hcount, hreturn⟩ := Tx.returns_bind hrest₃
      obtain ⟨-, rfl⟩ := Tx.returns_ofExcept hcount
      exact (Tx.returns_pure hreturn).2.trans hs) hloop
  have hmem : state ∈ s₄.catalogState.select (fun a b => a.scope ≤ b.scope) fun row =>
      row.provider = provider ∧ row.catalogKind = .cities := by
    rw [hsplit]
    simp
  obtain ⟨hstate, hcondition⟩ := KeyedTable.mem_select.1 hmem
  obtain ⟨hprovider, hkind⟩ := of_decide_eq_true hcondition
  rcases Tx.fails_bind hfails with hquery | ⟨items, s₅, hitems, hrest₃⟩
  · exact Or.inl (Tx.fails_query hquery)
  obtain ⟨rfl, rfl⟩ := Tx.returns_query hitems
  rcases Tx.fails_bind hrest₃ with hcount | ⟨_, s₆, -, hreturn⟩
  · refine absurd hcount (not_fails_validateCatalogCount ?_)
    rw [length_selectCities, hinv.cityCount state hstate hkind, hprovider]
  · exact absurd hreturn Tx.not_fails_pure

/-! ## What the reads return -/

/-- A read leaves the tables alone, and returns the selected items of a stored catalog. -/
theorem readCatalog_returns {α : Type} {provider scope : String} {kind : CatalogKind}
    {select : Tables → List α} {tables tables' : Tables} {result : Option (CatalogCache α)}
    (h : (readCatalog provider kind scope select).Returns tables result tables') :
    tables' = tables ∧ ∀ cache, result = some cache → cache.items = select tables ∧
      ∃ state ∈ tables.catalogState, state.key = (provider, kind, scope) := by
  obtain ⟨_, s₁, hvalid, hrest₁⟩ := Tx.returns_bind h
  obtain ⟨-, rfl⟩ := Tx.returns_ofExcept hvalid
  obtain ⟨state, s₂, hlookup, hrest₂⟩ := Tx.returns_bind hrest₁
  obtain ⟨rfl, rfl⟩ := Tx.returns_query hlookup
  split at hrest₂
  next =>
    obtain ⟨rfl, rfl⟩ := Tx.returns_pure hrest₂
    exact ⟨rfl, fun cache hnone => by cases hnone⟩
  next state hstate =>
    obtain ⟨items, s₃, hitems, hrest₃⟩ := Tx.returns_bind hrest₂
    obtain ⟨rfl, rfl⟩ := Tx.returns_query hitems
    obtain ⟨_, s₄, hcount, hreturn⟩ := Tx.returns_bind hrest₃
    obtain ⟨-, rfl⟩ := Tx.returns_ofExcept hcount
    obtain ⟨rfl, rfl⟩ := Tx.returns_pure hreturn
    refine ⟨rfl, fun cache hcache => ?_⟩
    cases hcache
    exact ⟨rfl, state, KeyedTable.lookup_eq_some_iff.1 hstate⟩

/-- A read of all scopes leaves the tables alone, and returns the stored lists. -/
theorem getAllProviderCityScopes_returns {provider : String} {tables tables' : Tables}
    {scopes : List ProviderCityScopeCache}
    (h : (getAllProviderCityScopes provider).Returns tables scopes tables') :
    tables' = tables ∧ ∀ scope ∈ scopes,
      scope.items = tables.selectCities provider scope.providerProvinceCode ∧
        ∃ state ∈ tables.catalogState,
          state.key = (provider, .cities, scope.providerProvinceCode) := by
  obtain ⟨_, s₁, hvalid, hrest₁⟩ := Tx.returns_bind h
  obtain ⟨-, rfl⟩ := Tx.returns_ofExcept hvalid
  obtain ⟨orphan, s₂, horphan, hrest₂⟩ := Tx.returns_bind hrest₁
  obtain ⟨rfl, rfl⟩ := Tx.returns_query horphan
  split at hrest₂
  next => exact absurd hrest₂ Tx.not_returns_raise
  next =>
    obtain ⟨states, s₃, hstates, hloop⟩ := Tx.returns_bind hrest₂
    obtain ⟨hselected, rfl⟩ := Tx.returns_query hstates
    have hmem : ∀ state ∈ states, state ∈ s₃.catalogState ∧ state.provider = provider ∧
        state.catalogKind = .cities := by
      intro state hstate
      rw [hselected] at hstate
      obtain ⟨hstored, hcondition⟩ := KeyedTable.mem_select.1 hstate
      exact ⟨hstored, of_decide_eq_true hcondition⟩
    -- every list read so far is that of the scope of one of the states
    have hall := Tx.returns_foldlM (fun done scopes s => s = s₃ ∧ ∀ scope ∈ scopes,
      scope.items = s₃.selectCities provider scope.providerProvinceCode ∧
        ∃ state ∈ done, state.scope = scope.providerProvinceCode) ⟨rfl, by simp⟩
      (fun done state scopes s scopes' s' hinv hrun => ?_) hloop
    · refine ⟨hall.1, fun scope hscope => ?_⟩
      obtain ⟨hitems, state, hstate, hsame⟩ := hall.2 scope hscope
      obtain ⟨hstored, hprovider, hkind⟩ := hmem state hstate
      exact ⟨hitems, state, hstored, by rw [CatalogStateRow.key, hprovider, hkind, hsame]⟩
    · obtain ⟨rfl, hscopes⟩ := hinv
      obtain ⟨items, s₄, hitems, hrest₃⟩ := Tx.returns_bind hrun
      obtain ⟨rfl, rfl⟩ := Tx.returns_query hitems
      obtain ⟨_, s₅, hcount, hreturn⟩ := Tx.returns_bind hrest₃
      obtain ⟨-, rfl⟩ := Tx.returns_ofExcept hcount
      obtain ⟨rfl, rfl⟩ := Tx.returns_pure hreturn
      refine ⟨rfl, fun scope hscope => ?_⟩
      rcases List.mem_append.1 hscope with hold | hnew
      · obtain ⟨hitems, earlier, hearlier, hsame⟩ := hscopes scope hold
        exact ⟨hitems, earlier, List.mem_append_left _ hearlier, hsame⟩
      · obtain rfl := List.mem_singleton.1 hnew
        exact ⟨rfl, state, by simp, rfl⟩

/-- In every run of catalog writes on an empty catalog the state rows count the provinces of
their provider and the cities of their scope, and every city has a state row; so no read of the
catalog reports a wrong count or an orphan city, whatever the engine does. A failing write
leaves the tables as they were. -/
theorem catalogStore_consistent [Sha256] {tables : Tables}
    (h : catalogSystem.Reachable tables) :
    (∀ state ∈ tables.catalogState,
      (state.catalogKind = .provinces →
        state.rowCount = tables.provinces.rows.countP fun row => row.provider = state.provider) ∧
      (state.catalogKind = .cities →
        state.rowCount = tables.cities.rows.countP fun row =>
          row.provider = state.provider ∧ row.providerProvinceCode = state.scope)) ∧
    (∀ row ∈ tables.cities, ∃ state ∈ tables.catalogState, state.provider = row.provider ∧
      state.catalogKind = .cities ∧ state.scope = row.providerProvinceCode) ∧
    (∀ provider, FailsCleanly (getProviderProvinces provider) provider tables) ∧
    (∀ provider scope, FailsCleanly (getProviderCities provider scope) provider tables) ∧
    (∀ provider, FailsCleanly (getAllProviderCityScopes provider) provider tables) ∧
    ∀ (op : CatalogOp) e tables', op.perform tables = (.error e, tables') →
      tables' = tables := by
  have hinv := catalogInv_reachable h
  refine ⟨fun state hstate => ⟨hinv.provinceCount state hstate, hinv.cityCount state hstate⟩,
    fun row hrow => ?_, getProviderProvinces_failsCleanly hinv,
    getProviderCities_failsCleanly hinv, getAllProviderCityScopes_failsCleanly hinv,
    fun op e tables' => CatalogOp.perform_error⟩
  obtain ⟨state, hmem, hkey⟩ := hinv.cityState row hrow
  rw [CatalogStateRow.key, Prod.mk.injEq, Prod.mk.injEq] at hkey
  exact ⟨state, hmem, hkey⟩

/-- A catalog of one province and its one city. -/
def sampleCatalog : Tables :=
  (replaceProviderCities "nmc" "ABJ" [⟨"54511", "ABJ", "北京市", "北京", ""⟩] 7 noFaults
    (replaceProviderProvinces "nmc" [⟨"ABJ", "北京市", ""⟩] 7 noFaults .initial).2).2

theorem sampleCatalog_reachable : (@catalogSystem sampleSha256).Reachable sampleCatalog := by
  have hprovinces : (@catalogSystem sampleSha256).step .initial
      (.replaceProvinces "nmc" [⟨"ABJ", "北京市", ""⟩] 7 noFaults)
      (replaceProviderProvinces "nmc" [⟨"ABJ", "北京市", ""⟩] 7 noFaults .initial).2 := rfl
  have hcities : (@catalogSystem sampleSha256).step
      (replaceProviderProvinces "nmc" [⟨"ABJ", "北京市", ""⟩] 7 noFaults .initial).2
      (.replaceCities "nmc" "ABJ" [⟨"54511", "ABJ", "北京市", "北京", ""⟩] 7 noFaults)
      sampleCatalog := rfl
  exact ⟨_, .step (.step (.start ⟨rfl, rfl, rfl, rfl⟩) hprovinces) hcities⟩

/-- The sample catalog holds one city, and a state row for its scope. -/
theorem catalogStore_consistent_sampleCatalog : sampleCatalog.cities.rows.length = 1 ∧
    ∀ row ∈ sampleCatalog.cities, ∃ state ∈ sampleCatalog.catalogState,
      state.provider = row.provider ∧ state.catalogKind = .cities ∧
        state.scope = row.providerProvinceCode :=
  ⟨by decide +kernel,
    (@catalogStore_consistent sampleSha256 sampleCatalog sampleCatalog_reachable).2.1⟩

end WeatherApp
