import WeatherApp.Db.Tables

/-!
# The provider catalog

The catalog operations of `storage.rs`: replacing the province list and the city list of a
scope, storing a station mapping, and the reads, with the checks of `validation.rs`. The
timestamp that a replacement takes from the clock is an argument.

## Main definitions

* `validateProviderProvinceCatalog`, `validateProviderCityCatalog`: the list checks.
* `replaceProviderProvinces`, `replaceProviderCities`, `putProviderStationMapping`: the writes.
* `getProviderProvinces`, `getProviderCities`, `getAllProviderCityScopes`: the reads.

## Main results

* `replaceProviderProvinces_ok`, `replaceProviderCities_ok`: the tables after a replacement.
* `replaceProviderProvinces_succeeds`, `replaceProviderCities_succeeds`: when one succeeds.
* `putProviderStationMapping_ok`: the tables after a mapping write.
-/

namespace WeatherApp

/-- `ProviderProvince`. -/
structure ProviderProvince where
  providerCode : String
  name : String
  url : String
  deriving DecidableEq, Repr

/-- `ProviderCity`. -/
structure ProviderCity where
  providerCode : String
  providerProvinceCode : String
  province : String
  city : String
  url : String
  deriving DecidableEq, Repr

/-- `CatalogCache`. -/
structure CatalogCache (α : Type) where
  items : List α
  fetchedAtUnixMs : ℤ
  deriving DecidableEq, Repr

/-- `ProviderCityScopeCache`. -/
structure ProviderCityScopeCache where
  providerProvinceCode : String
  items : List ProviderCity
  fetchedAtUnixMs : ℤ
  deriving DecidableEq, Repr

/-- `PROVINCE_SCOPE`. -/
def provinceScope : String := ""

/-! ## Validation -/

/-- `validate_provider`. -/
def validateProvider (provider : String) : Except String Unit :=
  if isBlank provider then .error "provider must not be empty" else .ok ⟨⟩

/-- `validate_unique_codes`. `seen` holds the codes read so far. -/
def validateUniqueCodes (kind : String) : List String → List String → Except String Unit
  | [], _ => .ok ⟨⟩
  | code :: codes, seen =>
    if isBlank code then .error s!"provider {kind} code must not be empty"
    else if code ∈ seen then .error s!"duplicate provider {kind} code `{code}`"
    else validateUniqueCodes kind codes (code :: seen)

/-- `validate_provider_province_catalog`. -/
def validateProviderProvinceCatalog (provinces : List ProviderProvince) : Except String Unit :=
  validateUniqueCodes "province" (provinces.map (·.providerCode)) []

/-- `validate_provider_city_catalog`. -/
def validateProviderCityCatalog (providerProvinceCode : String) (cities : List ProviderCity) :
    Except String Unit :=
  if isBlank providerProvinceCode then .error "provider province code must not be empty"
  else
    match validateUniqueCodes "city" (cities.map (·.providerCode)) [] with
    | .error e => .error e
    | .ok _ =>
      match cities.find? fun city => city.providerProvinceCode ≠ providerProvinceCode with
      | some city =>
        let code := city.providerCode
        let scope := city.providerProvinceCode
        .error s!"city `{code}` belongs to provider province `{scope}`, expected `{providerProvinceCode}`"
      | none => .ok ⟨⟩

theorem validateProvider_eq_ok {provider : String} :
    validateProvider provider = .ok ⟨⟩ ↔ isBlank provider = false := by
  unfold validateProvider
  split_ifs with h <;> simp [h]

theorem validateUniqueCodes_eq_ok {kind : String} {codes seen : List String} :
    validateUniqueCodes kind codes seen = .ok ⟨⟩ ↔
      (∀ code ∈ codes, isBlank code = false) ∧ codes.Nodup ∧ ∀ code ∈ codes, code ∉ seen := by
  induction codes generalizing seen with
  | nil => simp [validateUniqueCodes]
  | cons code codes ih =>
    unfold validateUniqueCodes
    split_ifs with hblank hseen
    · simp [hblank]
    · simp [hseen]
    · rw [ih, List.nodup_cons, List.forall_mem_cons, List.forall_mem_cons]
      simp only [List.mem_cons, not_or]
      constructor
      · rintro ⟨hnonblank, hnodup, hfresh⟩
        refine ⟨⟨by simpa using hblank, hnonblank⟩, ⟨?_, hnodup⟩, hseen, fun c hc => ?_⟩
        · exact fun hmem => (hfresh code hmem).1 rfl
        · exact (hfresh c hc).2
      · rintro ⟨⟨-, hnonblank⟩, ⟨hcode, hnodup⟩, -, hfresh⟩
        refine ⟨hnonblank, hnodup, fun c hc => ⟨?_, hfresh c hc⟩⟩
        rintro rfl
        exact hcode hc

/-- An accepted province list has pairwise distinct codes, none of them blank. -/
theorem validateProviderProvinceCatalog_eq_ok {provinces : List ProviderProvince} :
    validateProviderProvinceCatalog provinces = .ok ⟨⟩ ↔
      (∀ province ∈ provinces, isBlank province.providerCode = false) ∧
        (provinces.map (·.providerCode)).Nodup := by
  simp [validateProviderProvinceCatalog, validateUniqueCodes_eq_ok]

/-- An accepted city list of a scope has pairwise distinct codes, none of them blank, and only
cities of the scope. -/
theorem validateProviderCityCatalog_eq_ok {scope : String} {cities : List ProviderCity} :
    validateProviderCityCatalog scope cities = .ok ⟨⟩ ↔
      isBlank scope = false ∧ (∀ city ∈ cities, isBlank city.providerCode = false) ∧
        (cities.map (·.providerCode)).Nodup ∧
        ∀ city ∈ cities, city.providerProvinceCode = scope := by
  have hcodes : validateUniqueCodes "city" (cities.map (·.providerCode)) [] = .ok ⟨⟩ ↔
      (∀ city ∈ cities, isBlank city.providerCode = false) ∧
        (cities.map (·.providerCode)).Nodup := by
    simp [validateUniqueCodes_eq_ok]
  unfold validateProviderCityCatalog
  split_ifs with hblank
  · simp [hblank]
  · rw [and_iff_right (by simpa using hblank), ← and_assoc, ← hcodes]
    split
    next e hunique => simp [hunique]
    next hunique =>
      rw [and_iff_right hunique]
      split
      next city hfind =>
        have hmem := List.mem_of_find?_eq_some hfind
        have hother : city.providerProvinceCode ≠ scope := by simpa using List.find?_some hfind
        simp only [reduceCtorEq, false_iff, not_forall]
        exact ⟨city, hmem, hother⟩
      next hfind => simpa using hfind

/-! ## Inserting rows one statement at a time -/

/-- A table of the database, as a part that is read and replaced. -/
structure TablePart {ρ κ : Type} (key : ρ → κ) where
  get : Tables → KeyedTable key
  set : Tables → KeyedTable key → Tables
  get_set : ∀ tables table, get (set tables table) = table
  set_set : ∀ tables table table', set (set tables table) table' = set tables table'
  set_get : ∀ tables, set tables (get tables) = tables

/-- The table `provider_provinces`. -/
def provincesPart : TablePart ProvinceRow.key where
  get := Tables.provinces
  set tables provinces := { tables with provinces }
  get_set _ _ := rfl
  set_set _ _ _ := rfl
  set_get _ := rfl

/-- The table `provider_cities`. -/
def citiesPart : TablePart CityRow.key where
  get := Tables.cities
  set tables cities := { tables with cities }
  get_set _ _ := rfl
  set_set _ _ _ := rfl
  set_get _ := rfl

section InsertEach

variable {ρ κ : Type} [DecidableEq κ] {key : ρ → κ} {part : TablePart key}

/-- The loop that inserts rows in order, one statement each. -/
def insertEach (part : TablePart key) (conflict : String) (rows : List ρ) : DbTx Unit :=
  rows.foldlM (fun _ row => Tx.executeOr conflict fun tables =>
    ((part.get tables).insert row).map (part.set tables)) ⟨⟩

/-- A loop of insertions that returns has appended the rows. -/
theorem insertEach_returns {conflict : String} {rows : List ρ} {tables tables' : Tables}
    {result : Unit} (h : (insertEach part conflict rows).Returns tables result tables') :
    (part.get tables').rows = (part.get tables).rows ++ rows ∧
      tables' = part.set tables (part.get tables') := by
  refine Tx.returns_foldlM (fun done _ s => (part.get s).rows = (part.get tables).rows ++ done ∧
    s = part.set tables (part.get s)) ?_ ?_ h
  · exact ⟨by simp, (part.set_get tables).symm⟩
  · rintro done row _ s _ s' ⟨hrows, hset⟩ hrun
    have hinserted := Tx.returns_executeOr hrun
    obtain ⟨table, hinsert, rfl⟩ := Option.map_eq_some_iff.1 hinserted
    rw [part.get_set, KeyedTable.insert_eq_some_iff.1 hinsert, hrows, List.append_assoc]
    refine ⟨rfl, ?_⟩
    conv_lhs => rw [hset]
    exact part.set_set _ _ _

/-- Without engine failures the loop succeeds exactly when the rows respect the primary key. -/
theorem insertEach_succeeds {conflict : String} {rows : List ρ} {tables : Tables}
    {table : KeyedTable key} (h : table.rows = (part.get tables).rows ++ rows) :
    (insertEach part conflict rows).Succeeds tables ⟨⟩ (part.set tables table) := by
  have hloop : ∃ result s', (insertEach part conflict rows).Succeeds tables result s' ∧
      (part.get s').rows = (part.get tables).rows ++ rows ∧
        s' = part.set tables (part.get s') := by
    refine Tx.succeeds_foldlM (fun done _ s => (part.get s).rows = (part.get tables).rows ++ done ∧
      s = part.set tables (part.get s)) ⟨by simp, (part.set_get tables).symm⟩ ?_
    rintro done row rest _ s hsplit ⟨hrows, hset⟩
    have hprefix : (((part.get s).rows ++ [row]).map key).Nodup := by
      have hnodup := table.nodup
      rw [h, hsplit, ← List.singleton_append, ← List.append_assoc, ← List.append_assoc,
        ← hrows, List.map_append] at hnodup
      exact (List.nodup_append.1 hnodup).1
    obtain ⟨extended, hextended⟩ : ∃ t : KeyedTable key, t.rows = (part.get s).rows ++ [row] :=
      ⟨⟨_, hprefix⟩, rfl⟩
    have hinsert : ((part.get s).insert row).map (part.set s) = some (part.set s extended) := by
      rw [KeyedTable.insert_eq_some_iff.2 hextended, Option.map_some]
    refine ⟨⟨⟩, part.set s extended, Tx.succeeds_executeOr hinsert, ?_⟩
    rw [part.get_set, hextended, hrows, List.append_assoc]
    refine ⟨rfl, ?_⟩
    conv_lhs => rw [hset]
    exact part.set_set _ _ _
  obtain ⟨⟨⟩, s', hrun, hrows, hset⟩ := hloop
  rwa [show table = part.get s' from KeyedTable.ext (h.trans hrows.symm), ← hset]

end InsertEach

/-! ## Writes -/

/-- The row of a province. -/
def ProviderProvince.row (provider : String) (province : ProviderProvince) : ProvinceRow :=
  ⟨provider, province.providerCode, province.name, province.url⟩

/-- The row of a city in a scope. -/
def ProviderCity.row (provider scope : String) (city : ProviderCity) : CityRow :=
  ⟨provider, city.providerCode, scope, city.province, city.city, city.url⟩

/-- `EXISTS (SELECT 1 FROM provider_provinces ..)`. -/
def Tables.hasProvince (tables : Tables) (provider code : String) : Bool :=
  tables.provinces.rows.any fun row => row.provider = provider ∧ row.providerCode = code

/-- `upsert_catalog_state`. -/
def upsertCatalogState (provider : String) (kind : CatalogKind) (scope : String)
    (fetchedAtUnixMs rowCount : ℤ) : DbTx Unit :=
  Tx.execute fun tables =>
    { tables with
      catalogState :=
        tables.catalogState.upsert ⟨provider, kind, scope, fetchedAtUnixMs, rowCount⟩
          fun _ => true }

/-- The transaction of `replace_provider_provinces`. Cities, city states and mappings of scopes
that are no longer provinces go with the old list. -/
def replaceProviderProvincesBody (provider : String) (provinces : List ProviderProvince)
    (now : ℤ) : DbTx Unit := do
  Tx.execute fun tables =>
    { tables with provinces := tables.provinces.deleteWhere fun row => row.provider = provider }
  insertEach provincesPart "UNIQUE constraint failed: provider_provinces"
    (provinces.map (ProviderProvince.row provider))
  Tx.execute fun tables =>
    { tables with
      cities := tables.cities.deleteWhere fun row =>
        row.provider = provider ∧ !tables.hasProvince row.provider row.providerProvinceCode }
  Tx.execute fun tables =>
    { tables with
      catalogState := tables.catalogState.deleteWhere fun row =>
        row.provider = provider ∧ row.catalogKind = .cities ∧
          !tables.hasProvince row.provider row.scope }
  Tx.execute fun tables =>
    { tables with
      mappings := tables.mappings.deleteWhere fun row =>
        row.providerName = provider ∧
          !tables.hasProvince row.providerName row.providerProvinceCode }
  upsertCatalogState provider .provinces provinceScope now provinces.length

/-- `replace_provider_provinces`. -/
def replaceProviderProvinces (provider : String) (provinces : List ProviderProvince) (now : ℤ)
    (faults : FaultPlan) (tables : Tables) : Except DbError Unit × Tables :=
  match validateProvider provider, validateProviderProvinceCatalog provinces with
  | .error e, _ => (.error (.raised e), tables)
  | .ok _, .error e => (.error (.raised e), tables)
  | .ok _, .ok _ =>
    transaction (replaceProviderProvincesBody provider provinces now) faults tables

/-- The transaction of `replace_provider_cities`. -/
def replaceProviderCitiesBody (provider scope : String) (cities : List ProviderCity)
    (now : ℤ) : DbTx Unit := do
  Tx.execute fun tables =>
    { tables with
      mappings := tables.mappings.deleteWhere fun row =>
        row.providerName = provider ∧ row.providerProvinceCode = scope }
  Tx.execute fun tables =>
    { tables with
      cities := tables.cities.deleteWhere fun row =>
        row.provider = provider ∧ row.providerProvinceCode = scope }
  insertEach citiesPart "UNIQUE constraint failed: provider_cities"
    (cities.map (ProviderCity.row provider scope))
  upsertCatalogState provider .cities scope now cities.length

/-- `replace_provider_cities`. -/
def replaceProviderCities (provider scope : String) (cities : List ProviderCity) (now : ℤ)
    (faults : FaultPlan) (tables : Tables) : Except DbError Unit × Tables :=
  match validateProvider provider, validateProviderCityCatalog scope cities with
  | .error e, _ => (.error (.raised e), tables)
  | .ok _, .error e => (.error (.raised e), tables)
  | .ok _, .ok _ => transaction (replaceProviderCitiesBody provider scope cities now) faults tables

/-- The checks of `put_provider_station_mapping`. -/
def validateStationMapping [Sha256] (station : ProviderStation) : Except String Unit :=
  match validateProvider station.providerName with
  | .error e => .error e
  | .ok _ =>
    if isBlank station.name then .error "provider station name must not be empty"
    else if isBlank station.unifiedUuid then
      .error "provider station unified_uuid must not be empty"
    else if station.unifiedUuid ≠ unifiedStationUuid station.name then
      let uuid := station.unifiedUuid
      let name := station.name
      .error s!"provider station unified_uuid `{uuid}` is not canonical for `{name}`"
    else .ok ⟨⟩

/-- `put_provider_station_mapping`. -/
def putProviderStationMapping [Sha256] (station : ProviderStation) (faults : FaultPlan)
    (tables : Tables) : Except DbError Unit × Tables :=
  let statement : DbTx Unit := do
    Tx.ofExcept (validateStationMapping station)
    Tx.execute fun tables =>
      { tables with mappings := tables.mappings.upsert station fun _ => true }
  atomically statement faults tables

/-! ## Reads -/

/-- `validate_catalog_count`. -/
def validateCatalogCount (provider : String) (kind : CatalogKind) (scope : String)
    (expected : ℤ) (actual : ℕ) : Except String Unit :=
  if expected ≠ actual then
    let kind := kind.text
    .error s!"catalog cache state mismatch for provider `{provider}` kind `{kind}` scope `{scope}`: expected {expected} rows, found {actual}"
  else .ok ⟨⟩

/-- `get_catalog_state`. -/
def getCatalogState (provider : String) (kind : CatalogKind) (scope : String) :
    DbTx (Option CatalogStateRow) :=
  Tx.query fun tables => tables.catalogState.lookup (provider, kind, scope)

/-- The stored provinces of a provider, ordered by code. -/
def Tables.selectProvinces (tables : Tables) (provider : String) : List ProviderProvince :=
  (tables.provinces.select (fun a b => a.providerCode ≤ b.providerCode)
    fun row => row.provider = provider).map fun row => ⟨row.providerCode, row.name, row.url⟩

/-- The stored cities of a scope, ordered by city and code. -/
def Tables.selectCities (tables : Tables) (provider scope : String) : List ProviderCity :=
  (tables.cities.select
    (fun a b => toLex (a.city, a.providerCode) ≤ toLex (b.city, b.providerCode))
    fun row => row.provider = provider ∧ row.providerProvinceCode = scope).map fun row =>
      ⟨row.providerCode, row.providerProvinceCode, row.province, row.city, row.url⟩

/-- The body of `get_provider_provinces` and `get_provider_cities`: the selected items, if the
state row counts them. -/
def readCatalog {α : Type} (provider : String) (kind : CatalogKind) (scope : String)
    (select : Tables → List α) : DbTx (Option (CatalogCache α)) := do
  Tx.ofExcept (validateProvider provider)
  let state ← getCatalogState provider kind scope
  match state with
  | none => return none
  | some state =>
    let items ← Tx.query select
    Tx.ofExcept (validateCatalogCount provider kind scope state.rowCount items.length)
    return some ⟨items, state.fetchedAtUnixMs⟩

/-- `get_provider_provinces`. -/
def getProviderProvinces (provider : String) : DbTx (Option (CatalogCache ProviderProvince)) :=
  readCatalog provider .provinces provinceScope fun tables => tables.selectProvinces provider

/-- `get_provider_cities`. -/
def getProviderCities (provider scope : String) : DbTx (Option (CatalogCache ProviderCity)) :=
  readCatalog provider .cities scope fun tables => tables.selectCities provider scope

/-- The first city without a state row for its scope. -/
def Tables.orphanCity (tables : Tables) (provider : String) : Option CityRow :=
  tables.cities.selectFirst
    (fun a b => toLex (a.providerProvinceCode, a.providerCode) ≤
      toLex (b.providerProvinceCode, b.providerCode))
    fun row => row.provider = provider ∧ !tables.catalogState.rows.any fun state =>
      state.key = (row.provider, .cities, row.providerProvinceCode)

/-- `get_all_provider_city_scopes`. -/
def getAllProviderCityScopes (provider : String) : DbTx (List ProviderCityScopeCache) := do
  Tx.ofExcept (validateProvider provider)
  let orphan ← Tx.query fun tables => tables.orphanCity provider
  match orphan with
  | some city =>
    let scope := city.providerProvinceCode
    let code := city.providerCode
    Tx.raise s!"provider city `{provider}/{scope}/{code}` has no matching catalog cache state"
  | none =>
    let states ← Tx.query fun tables =>
      tables.catalogState.select (fun a b => a.scope ≤ b.scope)
        fun row => row.provider = provider ∧ row.catalogKind = .cities
    states.foldlM (fun scopes state => do
      let items ← Tx.query fun tables => tables.selectCities provider state.scope
      Tx.ofExcept (validateCatalogCount provider .cities state.scope state.rowCount items.length)
      return scopes ++ [⟨state.scope, items, state.fetchedAtUnixMs⟩]) []

/-! ## What the writes do -/

/-- The tables after a replacement of the province list. -/
structure ProvincesReplaced (provider : String) (items : List ProviderProvince) (now : ℤ)
    (tables tables' : Tables) : Prop where
  valid : validateProviderProvinceCatalog items = .ok ⟨⟩
  provinces : tables'.provinces.rows =
    (tables.provinces.rows.filter fun row => !decide (row.provider = provider)) ++
      items.map (ProviderProvince.row provider)
  cities : tables'.cities = tables.cities.deleteWhere fun row =>
    row.provider = provider ∧ !tables'.hasProvince row.provider row.providerProvinceCode
  catalogState : tables'.catalogState =
    (tables.catalogState.deleteWhere fun row =>
      row.provider = provider ∧ row.catalogKind = .cities ∧
        !tables'.hasProvince row.provider row.scope).upsert
      ⟨provider, .provinces, provinceScope, now, items.length⟩ fun _ => true
  mappings : tables'.mappings = tables.mappings.deleteWhere fun row =>
    row.providerName = provider ∧ !tables'.hasProvince row.providerName row.providerProvinceCode

theorem replaceProviderProvinces_ok {provider : String} {provinces : List ProviderProvince}
    {now : ℤ} {faults : FaultPlan} {tables tables' : Tables} {result : Unit}
    (h : replaceProviderProvinces provider provinces now faults tables = (.ok result, tables')) :
    ProvincesReplaced provider provinces now tables tables' := by
  unfold replaceProviderProvinces at h
  split at h
  next => cases h
  next => cases h
  next hvalid =>
    obtain ⟨_, s₁, hdelete, hrest₁⟩ := Tx.returns_bind (transaction_ok h)
    obtain rfl := Tx.returns_execute hdelete
    obtain ⟨_, s₂, hinsert, hrest₂⟩ := Tx.returns_bind hrest₁
    obtain ⟨hrows, hset⟩ := insertEach_returns hinsert
    obtain ⟨_, s₃, hcities, hrest₃⟩ := Tx.returns_bind hrest₂
    obtain rfl := Tx.returns_execute hcities
    obtain ⟨_, s₄, hstates, hrest₄⟩ := Tx.returns_bind hrest₃
    obtain rfl := Tx.returns_execute hstates
    obtain ⟨_, s₅, hmappings, hstate⟩ := Tx.returns_bind hrest₄
    obtain rfl := Tx.returns_execute hmappings
    obtain rfl := Tx.returns_execute hstate
    refine ⟨hvalid, hrows, ?_, ?_, ?_⟩
    · rw [hset]
      rfl
    · rw [hset]
      rfl
    · rw [hset]
      rfl

/-- The tables after a replacement of the city list of a scope. -/
structure CitiesReplaced (provider scope : String) (items : List ProviderCity) (now : ℤ)
    (tables tables' : Tables) : Prop where
  valid : validateProviderCityCatalog scope items = .ok ⟨⟩
  cities : tables'.cities.rows =
    (tables.cities.rows.filter fun row =>
      !decide (row.provider = provider ∧ row.providerProvinceCode = scope)) ++
        items.map (ProviderCity.row provider scope)
  provinces : tables'.provinces = tables.provinces
  catalogState : tables'.catalogState = tables.catalogState.upsert
    ⟨provider, .cities, scope, now, items.length⟩ fun _ => true
  mappings : tables'.mappings = tables.mappings.deleteWhere fun row =>
    row.providerName = provider ∧ row.providerProvinceCode = scope

theorem replaceProviderCities_ok {provider scope : String} {cities : List ProviderCity}
    {now : ℤ} {faults : FaultPlan} {tables tables' : Tables} {result : Unit}
    (h : replaceProviderCities provider scope cities now faults tables = (.ok result, tables')) :
    CitiesReplaced provider scope cities now tables tables' := by
  unfold replaceProviderCities at h
  split at h
  next => cases h
  next => cases h
  next hvalid =>
    obtain ⟨_, s₁, hmappings, hrest₁⟩ := Tx.returns_bind (transaction_ok h)
    obtain rfl := Tx.returns_execute hmappings
    obtain ⟨_, s₂, hcities, hrest₂⟩ := Tx.returns_bind hrest₁
    obtain rfl := Tx.returns_execute hcities
    obtain ⟨_, s₃, hinsert, hstate⟩ := Tx.returns_bind hrest₂
    obtain ⟨hrows, hset⟩ := insertEach_returns hinsert
    obtain rfl := Tx.returns_execute hstate
    refine ⟨hvalid, hrows, ?_, ?_, ?_⟩
    · rw [hset]
      rfl
    · rw [hset]
      rfl
    · rw [hset]
      rfl

theorem putProviderStationMapping_ok [Sha256] {station : ProviderStation} {faults : FaultPlan}
    {tables tables' : Tables} {result : Unit}
    (h : putProviderStationMapping station faults tables = (.ok result, tables')) :
    validateStationMapping station = .ok ⟨⟩ ∧
      tables' = { tables with mappings := tables.mappings.upsert station fun _ => true } := by
  obtain ⟨_, s₁, hchecks, hexecute⟩ := Tx.returns_bind (atomically_ok h)
  obtain ⟨hvalid, rfl⟩ := Tx.returns_ofExcept hchecks
  exact ⟨hvalid, Tx.returns_execute hexecute⟩

/-! ## Failing writes -/

/-- A failed replacement of the province list leaves the tables as they were. -/
theorem replaceProviderProvinces_error {provider : String} {provinces : List ProviderProvince}
    {now : ℤ} {faults : FaultPlan} {tables tables' : Tables} {e : DbError}
    (h : replaceProviderProvinces provider provinces now faults tables = (.error e, tables')) :
    tables' = tables := by
  unfold replaceProviderProvinces at h
  split at h
  next =>
    cases h
    rfl
  next =>
    cases h
    rfl
  next => exact (transaction_error h).1

/-- A failed replacement of a city list leaves the tables as they were. -/
theorem replaceProviderCities_error {provider scope : String} {cities : List ProviderCity}
    {now : ℤ} {faults : FaultPlan} {tables tables' : Tables} {e : DbError}
    (h : replaceProviderCities provider scope cities now faults tables = (.error e, tables')) :
    tables' = tables := by
  unfold replaceProviderCities at h
  split at h
  next =>
    cases h
    rfl
  next =>
    cases h
    rfl
  next => exact (transaction_error h).1

/-- A failed mapping write leaves the tables as they were. -/
theorem putProviderStationMapping_error [Sha256] {station : ProviderStation}
    {faults : FaultPlan} {tables tables' : Tables} {e : DbError}
    (h : putProviderStationMapping station faults tables = (.error e, tables')) :
    tables' = tables := (atomically_error h).1

/-! ## Writes without engine failures -/

/-- The primary key spans the scopes: the list uses no code that another scope has stored. -/
def CodesFree (tables : Tables) (provider scope : String) (cities : List ProviderCity) : Prop :=
  ∀ city ∈ cities, ∀ row ∈ tables.cities, row.provider = provider →
    row.providerCode = city.providerCode → row.providerProvinceCode = scope

/-- A successful replacement of a city list used no code of another scope. -/
theorem CitiesReplaced.codesFree {provider scope : String} {items : List ProviderCity} {now : ℤ}
    {tables tables' : Tables} (h : CitiesReplaced provider scope items now tables tables') :
    CodesFree tables provider scope items := by
  intro city hcity row hrow hprovider hcode
  by_contra hscope
  have hkept : row ∈ tables'.cities := by
    rw [← KeyedTable.mem_rows, h.cities, List.mem_append, List.mem_filter]
    exact Or.inl ⟨hrow, by simp [hscope]⟩
  have hnew : city.row provider scope ∈ tables'.cities := by
    rw [← KeyedTable.mem_rows, h.cities, List.mem_append]
    exact Or.inr (List.mem_map_of_mem hcity)
  -- the kept row and the new row share the primary key
  have hsame := KeyedTable.eq_of_key_eq hkept hnew (Prod.ext hprovider hcode)
  exact hscope (congrArg CityRow.providerProvinceCode hsame)

/-- Without engine failures an accepted city list without codes of other scopes is stored. -/
theorem replaceProviderCities_succeeds {provider scope : String} {cities : List ProviderCity}
    {now : ℤ} {tables : Tables} (hprovider : isBlank provider = false)
    (hvalid : validateProviderCityCatalog scope cities = .ok ⟨⟩)
    (hfree : CodesFree tables provider scope cities) :
    ∃ tables', replaceProviderCities provider scope cities now noFaults tables =
      (.ok ⟨⟩, tables') := by
  have hcodes := (validateProviderCityCatalog_eq_ok.1 hvalid).2.2.1
  have hinsert : ∃ table : KeyedTable CityRow.key, table.rows =
      (tables.cities.deleteWhere fun row =>
        row.provider = provider ∧ row.providerProvinceCode = scope).rows ++
          cities.map (ProviderCity.row provider scope) := by
    suffices hall : ((tables.cities.deleteWhere fun row =>
        row.provider = provider ∧ row.providerProvinceCode = scope).insertAll
          (cities.map (ProviderCity.row provider scope))).isSome by
      obtain ⟨table, htable⟩ := Option.isSome_iff_exists.1 hall
      exact ⟨table, KeyedTable.insertAll_eq_some_iff.1 htable⟩
    apply KeyedTable.insertAll_isSome
    · rw [List.map_map]
      have hkeys := hcodes.map (f := fun code => (provider, code)) fun a b hab =>
        (Prod.ext_iff.1 hab).2
      rwa [List.map_map] at hkeys
    · rintro _ hnew row hrow hkey
      obtain ⟨city, hcity, rfl⟩ := List.mem_map.1 hnew
      obtain ⟨hmem, hother⟩ := KeyedTable.mem_deleteWhere.1 hrow
      obtain ⟨hsameProvider, hsameCode⟩ := Prod.ext_iff.1 hkey
      have hscope := hfree city hcity row hmem hsameProvider hsameCode
      have hprovider : row.provider = provider := hsameProvider
      simp [hprovider, hscope] at hother
  obtain ⟨table, htable⟩ := hinsert
  have hbody : ∃ tables', (replaceProviderCitiesBody provider scope cities now).Succeeds
      tables ⟨⟩ tables' :=
    ⟨_, Tx.succeeds_bind Tx.succeeds_execute (Tx.succeeds_bind Tx.succeeds_execute
      (Tx.succeeds_bind (insertEach_succeeds htable) Tx.succeeds_execute))⟩
  obtain ⟨tables', hbody⟩ := hbody
  refine ⟨tables', ?_⟩
  rw [replaceProviderCities, validateProvider_eq_ok.2 hprovider, hvalid]
  exact transaction_noFaults hbody

/-- Without engine failures an accepted province list is stored. -/
theorem replaceProviderProvinces_succeeds {provider : String}
    {provinces : List ProviderProvince} {now : ℤ} {tables : Tables}
    (hprovider : isBlank provider = false)
    (hvalid : validateProviderProvinceCatalog provinces = .ok ⟨⟩) :
    ∃ tables', replaceProviderProvinces provider provinces now noFaults tables =
      (.ok ⟨⟩, tables') := by
  have hcodes := (validateProviderProvinceCatalog_eq_ok.1 hvalid).2
  have hinsert : ∃ table : KeyedTable ProvinceRow.key, table.rows =
      (tables.provinces.deleteWhere fun row => row.provider = provider).rows ++
        provinces.map (ProviderProvince.row provider) := by
    suffices hall : ((tables.provinces.deleteWhere fun row => row.provider = provider).insertAll
        (provinces.map (ProviderProvince.row provider))).isSome by
      obtain ⟨table, htable⟩ := Option.isSome_iff_exists.1 hall
      exact ⟨table, KeyedTable.insertAll_eq_some_iff.1 htable⟩
    apply KeyedTable.insertAll_isSome
    · rw [List.map_map]
      have hkeys := hcodes.map (f := fun code => (provider, code)) fun a b hab =>
        (Prod.ext_iff.1 hab).2
      rwa [List.map_map] at hkeys
    · rintro _ hnew row hrow hkey
      obtain ⟨province, -, rfl⟩ := List.mem_map.1 hnew
      have hother := (KeyedTable.mem_deleteWhere.1 hrow).2
      have hprovider : row.provider = provider := (Prod.ext_iff.1 hkey).1
      simp [hprovider] at hother
  obtain ⟨table, htable⟩ := hinsert
  have hbody : ∃ tables', (replaceProviderProvincesBody provider provinces now).Succeeds
      tables ⟨⟩ tables' :=
    ⟨_, Tx.succeeds_bind Tx.succeeds_execute (Tx.succeeds_bind (insertEach_succeeds htable)
      (Tx.succeeds_bind Tx.succeeds_execute (Tx.succeeds_bind Tx.succeeds_execute
        (Tx.succeeds_bind Tx.succeeds_execute Tx.succeeds_execute))))⟩
  obtain ⟨tables', hbody⟩ := hbody
  refine ⟨tables', ?_⟩
  rw [replaceProviderProvinces, validateProvider_eq_ok.2 hprovider, hvalid]
  exact transaction_noFaults hbody

end WeatherApp
