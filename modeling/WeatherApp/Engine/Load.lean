import WeatherApp.Engine.Fuzzy
import WeatherApp.Engine.Singleflight
import WeatherApp.Foundation.Process

/-!
# Loading the catalog

The catalog requests of `engine/src/handlers/catalog.rs` and `engine/src/handlers/fuzzy.rs` as
programs: they call the database actor, the provider, the clock, the configuration and the shared
flights, and spawn tasks. A request that is cancelled stops between two calls.

The province list and the city list of each province are loaded by one text, with the list as a
parameter (`CatalogScope`). The limit on concurrent provider calls only delays them and is left
out; a closed limiter is a provider call that fails.

## Main definitions

* `Call`: the calls of a program, and their replies.
* `refreshCatalog`, `loadCatalog`, `shareFlight`: the load of one list.
* `populateProviderCatalog`, `providerCatalogForProvinces`: the load of an index.
* `fuzzy`, `resolveStationNameFromTargetedIndex`: searches that write station mappings.
* `Request.program`: the program of a request.
-/

namespace WeatherApp

namespace Engine

/-! ## Lists -/

/-- A catalog list of the provider: its provinces, or the cities of one of them. -/
inductive CatalogScope where
  | provinces
  | cities (provinceCode : String)
  deriving DecidableEq, Repr

namespace CatalogScope

/-- The items of a list. -/
abbrev Item : CatalogScope → Type
  | provinces => ProviderProvince
  | cities _ => ProviderCity

instance : (scope : CatalogScope) → DecidableEq scope.Item
  | provinces => inferInstanceAs (DecidableEq ProviderProvince)
  | cities _ => inferInstanceAs (DecidableEq ProviderCity)

/-- The validation of a list. -/
def validate : (scope : CatalogScope) → List scope.Item → Except String Unit
  | provinces, items => validateProviderProvinceCatalog items
  | cities code, items => validateProviderCityCatalog code items

/-- The order of a list. -/
def sort : (scope : CatalogScope) → List scope.Item → List scope.Item
  | provinces, items => sortProviderProvinces items
  | cities _, items => sortProviderCities items

/-- The provider's endpoint of a list. -/
def endpoint : CatalogScope → String
  | provinces => "rest/province/all"
  | cities code => s!"rest/province/{code}"

end CatalogScope

/-- `i64::saturating_sub`. -/
def saturatingSub (left right : ℤ) : ℤ := max (-2 ^ 63) (min (2 ^ 63 - 1) (left - right))

/-- `catalog_cache_is_fresh`. -/
def catalogCacheIsFresh (fetchedAtUnixMs nowUnixMs : ℤ) (ttlSeconds : ℕ) : Bool :=
  if ttlSeconds = 0 then false
  else
    let ageMs := (max (saturatingSub nowUnixMs fetchedAtUnixMs) 0).toNat
    let ttlMs := ttlSeconds * 1000
    ageMs < ttlMs

/-! ## Calls -/

/-- What a program asks its surroundings. -/
inductive Query where
  /-- `config.get().updater.province_ttl_seconds`. -/
  | provinceTtlSeconds
  /-- `unix_timestamp_ms().unwrap_or_default()`. -/
  | unixTimestampMs
  /-- `provider.provinces()` and `provider.cities(code)`. -/
  | upstream (scope : CatalogScope)
  deriving DecidableEq

abbrev Query.Reply : Query → Type
  | provinceTtlSeconds => ℕ
  | unixTimestampMs => ℤ
  | upstream scope => Except String (List scope.Item)

/-- The commands of the database actor that the catalog requests send. -/
inductive DbCommand where
  /-- `GetProviderProvinces` and `GetProviderCities`. -/
  | get (scope : CatalogScope)
  /-- `ReplaceProviderProvinces` and `ReplaceProviderCities`. -/
  | replace (scope : CatalogScope) (items : List scope.Item)
  /-- `GetAllProviderCityScopes`. -/
  | getAllProviderCityScopes
  /-- `PutProviderStationMapping`. The index that the station was found in is not part of the
  command; it is kept to speak about the search that wrote the mapping. -/
  | putProviderStationMapping (index : ProviderCatalog) (station : ProviderStation)
  /-- `LogFetch`. -/
  | logFetch (endpoint : String) (ok : Bool) (message : Option String)
  deriving DecidableEq

abbrev DbCommand.Reply : DbCommand → Type
  | get scope => Option (CatalogCache scope.Item)
  | replace _ _ => Unit
  | getAllProviderCityScopes => List ProviderCityScopeCache
  | putProviderStationMapping _ _ => Unit
  | logFetch _ _ _ => Unit

/-- The flights of `CatalogCoordinator`: `province_flights`, `city_flights` and
`population_flights` of the engine's provider. -/
inductive FlightKey where
  | load (scope : CatalogScope)
  | population
  deriving DecidableEq, Repr

/-- What a flight loads. -/
abbrev FlightKey.Value : FlightKey → Type
  | load scope => List scope.Item
  | population => ProviderCatalog

/-- The calls of a program. -/
inductive Call where
  | input (query : Query)
  | db (command : DbCommand)
  | join (key : FlightKey)
  | enter (key : FlightKey) (flight : ℕ)
  | complete (key : FlightKey) (flight : ℕ) (result : Except String key.Value)
  | leave (key : FlightKey) (flight : ℕ)
  /-- Spawn the load of a city list. -/
  | spawn (code : String)
  /-- `JoinSet::join_next`. -/
  | joinNext
  /-- `JoinSet::abort_all`, and the wait until no task is left. -/
  | abortAll

abbrev Reply : Call → Type
  | .input query => query.Reply
  | .db command => Except String command.Reply
  | .join _ => ℕ
  | .enter key _ => Option (Except String key.Value)
  | .complete key _ _ => Except String key.Value
  | .leave _ _ => Unit
  | .spawn _ => Unit
  | .joinNext => Except String (String × Except String (List ProviderCity))
  | .abortAll => Unit

/-- A call with its reply. -/
abbrev Event := CallEvent Call Reply

/-- A program that can fail; errors are texts with their causes. -/
abbrev Program (α : Type) := ExceptT String (Process Call Reply) α

open Process

/-- Make a call. -/
def invoke (c : Call) : Process Call Reply (Reply c) := perform c

/-- Ask the surroundings. -/
def ask (query : Query) : Program query.Reply :=
  ExceptT.mk (.call (.input query) fun reply => .ret (.ok reply))

/-- Send a command to the database actor and fail when it fails. -/
def db (command : DbCommand) : Program command.Reply := ExceptT.mk (.call (.db command) .ret)

/-- Send a command to the database actor and look at its result. -/
def tryDb (command : DbCommand) : Program (Except String command.Reply) :=
  ExceptT.mk (.call (.db command) fun reply => .ret (.ok reply))

/-- Continue with the result of a pure computation, or fail with its error. -/
def ofExcept {α : Type} (result : Except String α) : Program α := ExceptT.mk (.ret result)

/-! ## The load of one list -/

/-- `Singleflight::run`. -/
def shareFlight (key : FlightKey) (work : Program key.Value) : Program key.Value :=
  ExceptT.mk do
    let flight ← invoke (.join key)
    let shared : Option (Except String key.Value) ← invoke (.enter key flight)
    match shared with
    | some result =>
      let _ ← invoke (.leave key flight)
      return result
    | none =>
      let result ← work.run
      let result ← invoke (.complete key flight result)
      let _ ← invoke (.leave key flight)
      return result

/-- `record_catalog_fetch`. A failure of the log is reported in an event only. -/
def recordCatalogFetch (endpoint : String) (ok : Bool) (message : Option String) :
    Program Unit := do
  let _ ← tryDb (.logFetch endpoint ok message)
  return ⟨⟩

/-- `persist_provider_provinces` and `persist_provider_cities`: the list to return, and a
warning. -/
def persistCatalog (scope : CatalogScope) (upstream : List scope.Item) :
    Program (List scope.Item × Option String) := do
  let written ← tryDb (.replace scope upstream)
  match written with
  | .error e => return (upstream, some s!"catalog cache write failed: {e}")
  | .ok _ =>
    let stored ← tryDb (.get scope)
    match stored with
    | .ok (some cache) => return (cache.items, none)
    | .ok none =>
      return (upstream, some "catalog cache re-read returned no value after replacement")
    | .error e => return (upstream, some s!"catalog cache re-read failed: {e}")

/-- The part of a refresh after the provider's answer. -/
def settleCatalog (scope : CatalogScope) (stale : Option (List scope.Item))
    (fetched : Except String (List scope.Item)) : Program (List scope.Item) :=
  match fetched.bind fun items => (scope.validate items).map fun _ => items with
  | .ok upstream => do
    let (result, warning) ← persistCatalog scope (scope.sort upstream)
    recordCatalogFetch scope.endpoint true warning
    return result
  | .error message => do
    recordCatalogFetch scope.endpoint false (some message)
    match stale with
    | some items => return items
    | none => throw message

/-- The part of a refresh after a stored list was found missing or stale. -/
def fetchCatalog (scope : CatalogScope) (stale : Option (List scope.Item)) :
    Program (List scope.Item) := do
  let fetched ← ask (.upstream scope)
  settleCatalog scope stale fetched

/-- `refresh_provider_provinces` and `refresh_provider_cities`. -/
def refreshCatalog (scope : CatalogScope) : Program (List scope.Item) := do
  let ttlSeconds ← ask .provinceTtlSeconds
  let cached ← db (.get scope)
  match cached with
  | none => fetchCatalog scope none
  | some cache =>
    let now ← ask .unixTimestampMs
    if catalogCacheIsFresh cache.fetchedAtUnixMs now ttlSeconds then return cache.items
    else fetchCatalog scope (some cache.items)

/-- The load of a list: the stored one while it is fresh, else that of a shared refresh. -/
def loadCatalog (scope : CatalogScope) : Program (List scope.Item) := do
  let cached ← db (.get scope)
  match cached with
  | none => shareFlight (.load scope) (refreshCatalog scope)
  | some cache =>
    let now ← ask .unixTimestampMs
    let ttlSeconds ← ask .provinceTtlSeconds
    if catalogCacheIsFresh cache.fetchedAtUnixMs now ttlSeconds then return cache.items
    else shareFlight (.load scope) (refreshCatalog scope)

/-- `provider_provinces`. -/
def providerProvinces : Program (List ProviderProvince) := loadCatalog .provinces

/-- `provider_cities_by_code`. -/
def providerCitiesByCode (providerProvinceCode : String) : Program (List ProviderCity) :=
  loadCatalog (.cities providerProvinceCode)

/-- `provider_cities_by_province_name`. -/
def providerCitiesByProvinceName (provider province : String) : Program (List ProviderCity) := do
  let provinces ← providerProvinces
  let found ← ofExcept (resolveProviderProvince provinces provider province)
  providerCitiesByCode found.providerCode

/-! ## The load of an index -/

/-- `MAX_CONCURRENT_CATALOG_FETCHES`. -/
def maxConcurrentCatalogFetches : ℕ := 8

/-- Spawn the load of each code. -/
def spawnCityScopes : List String → Program Unit
  | [] => return ⟨⟩
  | code :: codes => do
    let _ ← ExceptT.lift (invoke (.spawn code))
    spawnCityScopes codes

/-- The loop of `load_provider_city_scopes` over the tasks that are still to be joined, of which
the `pending` ones are still to be spawned. -/
def joinCityScopes : ℕ → List String → (String → Option (List ProviderCity)) →
    Program (String → Option (List ProviderCity))
  | 0, _, loaded => return loaded
  | tasks + 1, pending, loaded => do
    let joined : Except String (String × Except String (List ProviderCity)) ←
      ExceptT.lift (invoke .joinNext)
    match joined with
    | .ok (code, .ok cities) =>
      let loaded := Function.update loaded code (some (sortProviderCities cities))
      spawnCityScopes (pending.take 1)
      joinCityScopes tasks (pending.drop 1) loaded
    | .ok (code, .error e) =>
      let _ ← ExceptT.lift (invoke .abortAll)
      throw s!"failed to populate provider city scope `{code}`: {e}"
    | .error e =>
      let _ ← ExceptT.lift (invoke .abortAll)
      throw s!"provider city population task failed: {e}"

/-- `load_provider_city_scopes`. -/
def loadProviderCityScopes (provinceCodes : List String) :
    Program (String → Option (List ProviderCity)) := do
  spawnCityScopes (provinceCodes.take maxConcurrentCatalogFetches)
  joinCityScopes provinceCodes.length (provinceCodes.drop maxConcurrentCatalogFetches)
    fun _ => none

/-- The index of the loaded scopes. -/
def indexOfScopes (provinces : List ProviderProvince)
    (scopes : String → Option (List ProviderCity)) : Except String ProviderCatalog := do
  let cities ← flattenCityScopes (provinces.map (·.providerCode)) scopes
  validatePopulationCityCodes cities []
  return ⟨provinces, cities⟩

/-- The cached scopes by code; of two scopes with one code the later one counts. -/
def cachedScopes (scopes : List ProviderCityScopeCache) :
    String → Option ProviderCityScopeCache :=
  scopes.foldl (fun cached scope => Function.update cached scope.providerProvinceCode (some scope))
    fun _ => none

/-- The expected codes that have no fresh cached scope, and the fresh scopes of the others. Each
code takes its scope out of the cached ones. -/
def splitFreshScopes (now : ℤ) (ttlSeconds : ℕ) : List String →
    (String → Option ProviderCityScopeCache) → List String × (String → Option (List ProviderCity))
  | [], _ => ([], fun _ => none)
  | code :: codes, cached =>
    let (pending, fresh) := splitFreshScopes now ttlSeconds codes (Function.update cached code none)
    match cached code with
    | some scope =>
      if catalogCacheIsFresh scope.fetchedAtUnixMs now ttlSeconds then
        (pending, Function.update fresh code (some scope.items))
      else (code :: pending, fresh)
    | none => (code :: pending, fresh)

/-- `populate_provider_catalog`. -/
def populateProviderCatalog (provinces : List ProviderProvince) : Program ProviderCatalog := do
  let ttlSeconds ← ask .provinceTtlSeconds
  let now ← ask .unixTimestampMs
  let scopes ← db .getAllProviderCityScopes
  let (pending, fresh) := splitFreshScopes now ttlSeconds (provinces.map (·.providerCode))
    (cachedScopes scopes)
  let loaded ← loadProviderCityScopes pending
  ofExcept (indexOfScopes provinces fun code => loaded code <|> fresh code)

/-- `provider_catalog`. -/
def providerCatalog : Program ProviderCatalog :=
  shareFlight .population do
    let provinces ← providerProvinces
    populateProviderCatalog provinces

/-- `provider_catalog_from_provinces`. -/
def providerCatalogFromProvinces (provinces : List ProviderProvince) : Program ProviderCatalog :=
  shareFlight .population (populateProviderCatalog provinces)

/-- `provider_catalog_for_provinces`. -/
def providerCatalogForProvinces (provinces : List ProviderProvince) :
    Program ProviderCatalog := do
  let scopes ← loadProviderCityScopes (provinces.map (·.providerCode))
  ofExcept (indexOfScopes provinces scopes)

/-- `provider_catalog_for_province`. -/
def providerCatalogForProvince (provider province : String) : Program ProviderCatalog := do
  let provinces ← providerProvinces
  let found ← ofExcept (resolveProviderProvince provinces provider province)
  providerCatalogForProvinces [found]

/-! ## Searches -/

/-- `paginate`: the page, whether there are more items, and the next offset as a `u32`. -/
def paginate {α : Type} (all : List α) (offset pageSize : ℕ) : List α × Bool × ℕ :=
  let total := all.length
  let start := min offset total
  let stop := min (start + pageSize) total
  ((all.take stop).drop start, stop < total, stop % 2 ^ 32)

/-- Write a mapping for each of the rows. -/
def putMappings (index : ProviderCatalog) : List ProviderStation → Program Unit
  | [] => return ⟨⟩
  | row :: rows => do
    let _ ← db (.putProviderStationMapping index row)
    putMappings index rows

section Search

variable [Sha256] [UnicodeTables]

omit [Sha256] [UnicodeTables] in
/-- The stations of a page. -/
def pageStations (page : List SearchCandidate) : List ProviderStation :=
  page.filterMap fun
    | .station station => some station
    | _ => none

omit [Sha256] [UnicodeTables] in
/-- The index that a search reads. -/
def searchedIndex (provider : String) (province : Option String) : Program ProviderCatalog :=
  match province with
  | some province => providerCatalogForProvince provider province
  | none => providerCatalog

/-- `fuzzy`: the page of the search, after the mappings of its stations were written. -/
def fuzzy (provider query : String) (province : Option String) (offset pageSize : ℕ) :
    Program (List SearchCandidate × Bool × ℕ) := do
  let catalog ← searchedIndex provider province
  let page := paginate (searchCandidates provider catalog query) offset pageSize
  putMappings catalog ((pageStations page.1).flatMap stationMappings)
  return page

omit [Sha256] [UnicodeTables] in
/-- The index that a lookup of a name reads. -/
def lookupIndex (provinces : List ProviderProvince) (name : String) : Program ProviderCatalog :=
  let matched := matchedProvinces provinces name
  if matched = [] then providerCatalogFromProvinces provinces
  else providerCatalogForProvinces matched

omit [UnicodeTables] in
/-- `resolve_station_name_from_targeted_index`. -/
def resolveStationNameFromTargetedIndex (provider name : String) : Program ProviderStation := do
  let provinces ← providerProvinces
  let catalog ← lookupIndex provinces name
  let station ← ofExcept (selectStation provider name catalog)
  putMappings catalog (stationMappings station)
  return station

/-! ## Requests -/

/-- A request, or a task that a request spawned. -/
inductive Request where
  | listProvinces
  | listCities (province : String)
  | fuzzyMatchStations (query : String) (province : Option String) (offset pageSize : ℕ)
  | resolveStation (name : String)
  | cityScope (code : String)
  deriving DecidableEq, Repr

/-- What a request ends with, before the reply drops the provider's codes. -/
inductive Outcome where
  | provinces (result : Except String (List ProviderProvince))
  | cities (result : Except String (List ProviderCity))
  | page (result : Except String (List SearchCandidate × Bool × ℕ))
  | station (result : Except String ProviderStation)
  deriving DecidableEq

/-- The program of a request. -/
def Request.program (provider : String) : Request → Process Call Reply Outcome
  | listProvinces => do
    let result ← providerProvinces.run
    return .provinces result
  | listCities province => do
    let result ← (providerCitiesByProvinceName provider province).run
    return .cities result
  | fuzzyMatchStations query province offset pageSize => do
    let result ← (fuzzy provider query province offset pageSize).run
    return .page result
  | resolveStation name => do
    let result ← (resolveStationNameFromTargetedIndex provider name).run
    return .station result
  | cityScope code => do
    let result ← (providerCitiesByCode code).run
    return .cities result

end Search

end Engine

end WeatherApp
