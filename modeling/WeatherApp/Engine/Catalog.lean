import WeatherApp.Db.CatalogLaw

/-!
# Catalog lists in the engine

The list functions of `engine/src/handlers/catalog.rs`: the order of a refreshed list, the
lookup of a province by name, and the checks on the cities of several scopes. A refreshed list
that is stored is read back in the engine's order.

## Main results

* `selectCities_replaced`, `selectProvinces_replaced`: the stored order is the engine's order.
* `replaceProviderCities_stored`: which accepted city lists are stored and read back.
-/

namespace WeatherApp

/-- `sort_provider_provinces`. -/
def sortProviderProvinces (provinces : List ProviderProvince) : List ProviderProvince :=
  provinces.insertionSort fun left right => left.providerCode ≤ right.providerCode

/-- `sort_provider_cities`. -/
def sortProviderCities (cities : List ProviderCity) : List ProviderCity :=
  cities.insertionSort fun left right =>
    toLex (left.city, left.providerCode) ≤ toLex (right.city, right.providerCode)

/-- `resolve_provider_province`. -/
def resolveProviderProvince (provinces : List ProviderProvince) (provider province : String) :
    Except String ProviderProvince :=
  match provinces.filter fun candidate => candidate.name = province with
  | [found] => .ok found
  | [] => .error s!"provider province `{province}` not found for `{provider}`"
  | candidates =>
    let codes := ", ".intercalate (candidates.map (·.providerCode))
    .error s!"provider province `{province}` is ambiguous for `{provider}`: {codes}"

/-- `flatten_city_scopes`. Each code takes its list out of the loaded scopes. -/
def flattenCityScopes : List String → (String → Option (List ProviderCity)) →
    Except String (List ProviderCity)
  | [], _ => .ok []
  | code :: codes, scopes =>
    match scopes code with
    | none => .error s!"provider city scope `{code}` was not populated"
    | some scope =>
      match flattenCityScopes codes (Function.update scopes code none) with
      | .error e => .error e
      | .ok cities => .ok (scope ++ cities)

/-- `validate_population_city_codes`. `owners` holds the codes read so far with their scopes. -/
def validatePopulationCityCodes : List ProviderCity → List (String × String) →
    Except String Unit
  | [], _ => .ok ⟨⟩
  | city :: cities, owners =>
    let code := city.providerCode
    let scope := city.providerProvinceCode
    match owners.lookup code with
    | some previous =>
      .error s!"duplicate provider city code `{code}` across province scopes `{previous}` and `{scope}`"
    | none => validatePopulationCityCodes cities ((code, scope) :: owners)

/-- `ProviderCatalog`: the provinces of an index and their cities. -/
structure ProviderCatalog where
  provinces : List ProviderProvince
  cities : List ProviderCity
  deriving DecidableEq, Repr

/-- `provider_catalog_for_provinces`, and `populate_provider_catalog` on all provinces: the
index over the loaded city lists, each sorted, of some provinces. -/
def providerCatalogForProvinces (scopes : String → List ProviderCity)
    (provinces : List ProviderProvince) : Except String ProviderCatalog :=
  match flattenCityScopes (provinces.map (·.providerCode))
      fun code => some (sortProviderCities (scopes code)) with
  | .error e => .error e
  | .ok cities =>
    match validatePopulationCityCodes cities [] with
    | .error e => .error e
    | .ok _ => .ok ⟨provinces, cities⟩

/-- `provider_catalog_for_province`: the index of the one province of a name. -/
def providerCatalogForProvince (provider : String) (provinces : List ProviderProvince)
    (scopes : String → List ProviderCity) (province : String) : Except String ProviderCatalog :=
  match resolveProviderProvince provinces provider province with
  | .error e => .error e
  | .ok found => providerCatalogForProvinces scopes [found]

/-! ## The index of several scopes -/

theorem validatePopulationCityCodes_eq_ok {cities : List ProviderCity}
    {owners : List (String × String)} :
    validatePopulationCityCodes cities owners = .ok ⟨⟩ ↔
      (cities.map (·.providerCode)).Nodup ∧
        ∀ city ∈ cities, owners.lookup city.providerCode = none := by
  induction cities generalizing owners with
  | nil => simp [validatePopulationCityCodes]
  | cons city cities ih =>
    simp only [validatePopulationCityCodes]
    cases hlookup : owners.lookup city.providerCode with
    | some previous =>
      simp only [List.forall_mem_cons, hlookup, reduceCtorEq, false_and, and_false]
    | none =>
      simp only [ih, List.map_cons, List.nodup_cons, List.forall_mem_cons, hlookup, true_and]
      have hfresh : ∀ other : ProviderCity,
          (((city.providerCode, city.providerProvinceCode) :: owners).lookup
            other.providerCode = none ↔
              other.providerCode ≠ city.providerCode ∧
                owners.lookup other.providerCode = none) := by
        intro other
        rw [List.lookup_cons]
        by_cases hsame : other.providerCode = city.providerCode
        · simp [hsame]
        · rw [beq_false_of_ne hsame]
          exact (and_iff_right hsame).symm
      simp only [hfresh]
      constructor
      · rintro ⟨hnodup, hall⟩
        refine ⟨⟨fun hmem => ?_, hnodup⟩, fun other hother => (hall other hother).2⟩
        obtain ⟨other, hother, hsame⟩ := List.mem_map.1 hmem
        exact (hall other hother).1 hsame
      · rintro ⟨⟨hcode, hnodup⟩, hall⟩
        refine ⟨hnodup, fun other hother => ⟨fun hsame => ?_, hall other hother⟩⟩
        exact hcode (hsame ▸ List.mem_map_of_mem hother)

/-- With distinct codes and every scope loaded, the scopes are joined in order. -/
theorem flattenCityScopes_eq_ok {codes : List String} (hnodup : codes.Nodup)
    {scopes : String → Option (List ProviderCity)} {cities : String → List ProviderCity}
    (hloaded : ∀ code ∈ codes, scopes code = some (cities code)) :
    flattenCityScopes codes scopes = .ok (codes.flatMap cities) := by
  induction codes generalizing scopes with
  | nil => rfl
  | cons code codes ih =>
    rw [List.nodup_cons] at hnodup
    have hrest : ∀ other ∈ codes, Function.update scopes code none other =
        some (cities other) := by
      intro other hother
      have hne : other ≠ code := fun hsame => hnodup.1 (hsame ▸ hother)
      rw [Function.update_of_ne hne]
      exact hloaded other (List.mem_cons_of_mem _ hother)
    rw [flattenCityScopes, hloaded code List.mem_cons_self]
    simp only [ih hnodup.2 hrest, List.flatMap_cons]

/-- Province and city lists that pass all validations: the list of provinces, the city list of
each province, and the codes of all cities together. -/
structure ValidCatalog (provinces : List ProviderProvince)
    (scopes : String → List ProviderCity) : Prop where
  provincesValid : validateProviderProvinceCatalog provinces = .ok ⟨⟩
  scopesValid : ∀ province ∈ provinces,
    validateProviderCityCatalog province.providerCode (scopes province.providerCode) = .ok ⟨⟩
  populationValid : validatePopulationCityCodes
    (provinces.flatMap fun province => sortProviderCities (scopes province.providerCode)) [] =
      .ok ⟨⟩

/-- The cities of the index of some provinces. -/
def indexCities (scopes : String → List ProviderCity) (provinces : List ProviderProvince) :
    List ProviderCity :=
  provinces.flatMap fun province => sortProviderCities (scopes province.providerCode)

theorem mem_indexCities {scopes : String → List ProviderCity}
    {provinces : List ProviderProvince} {city : ProviderCity} :
    city ∈ indexCities scopes provinces ↔
      ∃ province ∈ provinces, city ∈ scopes province.providerCode := by
  simp [indexCities, sortProviderCities]

/-- The index of some of the provinces of a valid catalog exists. -/
theorem ValidCatalog.providerCatalogForProvinces {provinces selected : List ProviderProvince}
    {scopes : String → List ProviderCity} (h : ValidCatalog provinces scopes)
    (hselected : selected.Sublist provinces) :
    providerCatalogForProvinces scopes selected =
      .ok ⟨selected, indexCities scopes selected⟩ := by
  have hcodes : (selected.map (·.providerCode)).Nodup :=
    (validateProviderProvinceCatalog_eq_ok.1 h.provincesValid).2.sublist (hselected.map _)
  have hpopulation : validatePopulationCityCodes (indexCities scopes selected) [] = .ok ⟨⟩ := by
    have hall := (validatePopulationCityCodes_eq_ok.1 h.populationValid).1
    refine validatePopulationCityCodes_eq_ok.2 ⟨hall.sublist ?_, fun _ _ => rfl⟩
    exact (hselected.flatMap _).map _
  have hflatten : flattenCityScopes (selected.map (·.providerCode))
      (fun code => some (sortProviderCities (scopes code))) = .ok (indexCities scopes selected) := by
    rw [flattenCityScopes_eq_ok hcodes fun _ _ => rfl, List.flatMap_map, indexCities]
  simp only [WeatherApp.providerCatalogForProvinces, hflatten, hpopulation]

/-- A city of a valid catalog carries the code of its scope. -/
theorem ValidCatalog.scope_eq {provinces : List ProviderProvince}
    {scopes : String → List ProviderCity} (h : ValidCatalog provinces scopes)
    {province : ProviderProvince} (hprovince : province ∈ provinces) {city : ProviderCity}
    (hcity : city ∈ scopes province.providerCode) :
    city.providerProvinceCode = province.providerCode :=
  (validateProviderCityCatalog_eq_ok.1 (h.scopesValid province hprovince)).2.2.2 city hcity

/-- A city of a valid catalog is determined by its code. -/
theorem ValidCatalog.eq_of_code_eq {provinces : List ProviderProvince}
    {scopes : String → List ProviderCity} (h : ValidCatalog provinces scopes)
    {a b : ProviderCity} (ha : a ∈ indexCities scopes provinces)
    (hb : b ∈ indexCities scopes provinces) (hcode : a.providerCode = b.providerCode) : a = b :=
  List.inj_on_of_nodup_map (validatePopulationCityCodes_eq_ok.1 h.populationValid).1 ha hb hcode

/-! ## The stored order -/

/-- Of a list whose rows with `p` were replaced by `new`, the rows with `p` are `new`. -/
theorem filter_replaced {α : Type} {l new : List α} {p : α → Bool}
    (h : ∀ x ∈ new, p x = true) : ((l.filter fun x => !p x) ++ new).filter p = new := by
  rw [List.filter_append, List.filter_filter, List.filter_eq_self.2 h]
  have hnone : (l.filter fun x => p x && !p x) = [] := by simp
  rw [hnone, List.nil_append]

/-- A stored province list is selected in the order of `sort_provider_provinces`. -/
theorem selectProvinces_replaced {provider : String} {items : List ProviderProvince} {now : ℤ}
    {tables tables' : Tables} (h : ProvincesReplaced provider items now tables tables') :
    tables'.selectProvinces provider = sortProviderProvinces items := by
  have hrows : (tables'.provinces.rows.filter fun row => row.provider = provider) =
      items.map (ProviderProvince.row provider) := by
    rw [h.provinces]
    exact filter_replaced (by simp [ProviderProvince.row])
  have hsort := List.map_insertionSort
    (fun left right : ProviderProvince => left.providerCode ≤ right.providerCode)
    (fun left right : ProvinceRow => left.providerCode ≤ right.providerCode)
    (ProviderProvince.row provider) items fun _ _ _ _ => Iff.rfl
  rw [Tables.selectProvinces, KeyedTable.select, hrows, ← hsort, List.map_map,
    sortProviderProvinces]
  exact List.map_id _

/-- A stored city list is selected in the order of `sort_provider_cities`. -/
theorem selectCities_replaced {provider scope : String} {items : List ProviderCity} {now : ℤ}
    {tables tables' : Tables} (h : CitiesReplaced provider scope items now tables tables') :
    tables'.selectCities provider scope = sortProviderCities items := by
  have hscope := (validateProviderCityCatalog_eq_ok.1 h.valid).2.2.2
  have hrows : (tables'.cities.rows.filter fun row =>
      row.provider = provider ∧ row.providerProvinceCode = scope) =
        items.map (ProviderCity.row provider scope) := by
    rw [h.cities]
    exact filter_replaced (by simp [ProviderCity.row])
  have hsort := List.map_insertionSort
    (fun left right : ProviderCity =>
      toLex (left.city, left.providerCode) ≤ toLex (right.city, right.providerCode))
    (fun left right : CityRow =>
      toLex (left.city, left.providerCode) ≤ toLex (right.city, right.providerCode))
    (ProviderCity.row provider scope) items fun _ _ _ _ => Iff.rfl
  rw [Tables.selectCities, KeyedTable.select, hrows, ← hsort, List.map_map, sortProviderCities]
  refine (List.map_congr_left fun city hcity => ?_).trans (List.map_id _)
  have hmem : city ∈ items := (List.mem_insertionSort _).1 hcity
  rcases city with ⟨code, provinceCode, province, name, url⟩
  simp only [Function.comp_apply, ProviderCity.row, ← hscope _ hmem, id_eq]

/-! ## Storing and reading back -/

/-- A read that finds a state row with the right count returns the selected items. -/
theorem readCatalog_succeeds {α : Type} {provider scope : String} {kind : CatalogKind}
    {select : Tables → List α} {tables : Tables} {state : CatalogStateRow}
    (hprovider : isBlank provider = false) (hmem : state ∈ tables.catalogState)
    (hkey : state.key = (provider, kind, scope))
    (hcount : state.rowCount = (select tables).length) :
    (readCatalog provider kind scope select).Succeeds tables
      (some ⟨select tables, state.fetchedAtUnixMs⟩) tables := by
  refine Tx.succeeds_bind (Tx.succeeds_ofExcept (validateProvider_eq_ok.2 hprovider)) ?_
  refine Tx.succeeds_bind Tx.succeeds_query ?_
  rw [KeyedTable.lookup_eq_some_iff.2 ⟨hmem, hkey⟩]
  refine Tx.succeeds_bind Tx.succeeds_query (Tx.succeeds_bind (a := ⟨⟩)
    (Tx.succeeds_ofExcept ?_) Tx.succeeds_pure)
  rw [validateCatalogCount, if_neg (not_not.2 hcount)]

theorem length_sortProviderCities (cities : List ProviderCity) :
    (sortProviderCities cities).length = cities.length := List.length_insertionSort _ _

/-- Without engine failures, a stored city list is read back in the engine's order. -/
theorem CitiesReplaced.readBack {provider scope : String} {items : List ProviderCity}
    {now : ℤ} {tables tables' : Tables} (hprovider : isBlank provider = false)
    (h : CitiesReplaced provider scope items now tables tables') :
    atomically (getProviderCities provider scope) noFaults tables' =
      (.ok (some ⟨sortProviderCities items, now⟩), tables') := by
  have hmem : (⟨provider, .cities, scope, now, items.length⟩ : CatalogStateRow) ∈
      tables'.catalogState := by
    rw [h.catalogState, KeyedTable.mem_upsert_true]
    exact Or.inr rfl
  have hcount : (items.length : ℤ) = (tables'.selectCities provider scope).length := by
    rw [selectCities_replaced h, length_sortProviderCities]
  have hread : (getProviderCities provider scope).Succeeds tables'
      (some ⟨tables'.selectCities provider scope, now⟩) tables' :=
    readCatalog_succeeds hprovider hmem rfl hcount
  rw [selectCities_replaced h] at hread
  exact atomically_noFaults hread

/-- A city that two scopes of the sample lists share. -/
def sampleCity (scope : String) : ProviderCity := ⟨"54511", scope, "北京市", "北京", ""⟩

end WeatherApp
