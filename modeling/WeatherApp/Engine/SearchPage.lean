import WeatherApp.Engine.Load

/-!
# Pages of search results

The reply of `handle_fuzzy` (`engine/src/handlers/fuzzy.rs`) to a page of a search, from the list
of candidates on: the page limits of the protocol (`weather-schema/src/constants.rs`,
`engine/src/limits.rs`) and the public form of the candidates.
-/

namespace WeatherApp

/-- `MAX_RPC_PAGE_SIZE`. -/
def maxRpcPageSize : ℕ := 256

/-- `MAX_RPC_PAGE_OFFSET`. -/
def maxRpcPageOffset : ℕ := 100000

/-- `DEFAULT_FUZZY_PAGE_SIZE`. -/
def defaultFuzzyPageSize : ℕ := 10

/-- `City`. -/
structure City where
  province : String
  city : String
  deriving DecidableEq, Repr

/-- `Province`. -/
structure Province where
  name : String
  deriving DecidableEq, Repr

/-- `FuzzyMatchStationsResponse`. -/
structure FuzzyMatchStationsResponse where
  stations : List StationRef
  cities : List City
  provinces : List Province
  hasMore : Bool
  nextOffset : ℕ
  deriving DecidableEq, Repr

/-- `ProviderStation::public_ref`. -/
def ProviderStation.publicRef (station : ProviderStation) : StationRef :=
  ⟨station.province, station.city, station.name, station.unifiedUuid⟩

/-- `ProviderCity::public_ref`. -/
def ProviderCity.publicRef (city : ProviderCity) : City := ⟨city.province, city.city⟩

/-- `ProviderProvince::public_ref`. -/
def ProviderProvince.publicRef (province : ProviderProvince) : Province := ⟨province.name⟩

/-- `normalize_pagination`. -/
def normalizePagination (offset pageSize defaultPageSize : ℕ) : Except String (ℕ × ℕ) :=
  if offset > maxRpcPageOffset then
    .error s!"page_offset {offset} exceeds maximum {maxRpcPageOffset}"
  else
    let pageSize := if pageSize = 0 then defaultPageSize else pageSize
    if pageSize > maxRpcPageSize then
      .error s!"page_size {pageSize} exceeds maximum {maxRpcPageSize}"
    else .ok (offset, pageSize)

/-- The stations of some candidates, as clients see them. -/
def candidateStations (candidates : List SearchCandidate) : List StationRef :=
  (Engine.pageStations candidates).map (·.publicRef)

/-- The cities of some candidates. -/
def candidateCities (candidates : List SearchCandidate) : List City :=
  candidates.filterMap fun
    | .city city => some city.publicRef
    | _ => none

/-- The provinces of some candidates. -/
def candidateProvinces (candidates : List SearchCandidate) : List Province :=
  candidates.filterMap fun
    | .province province => some province.publicRef
    | _ => none

/-- The reply of `handle_fuzzy` to a request for a page of the candidates. -/
def fuzzyPage (candidates : List SearchCandidate) (pageOffset pageSize : ℕ) :
    Except String FuzzyMatchStationsResponse :=
  (normalizePagination pageOffset pageSize defaultFuzzyPageSize).map fun (offset, pageSize) =>
    let (page, hasMore, nextOffset) := Engine.paginate candidates offset pageSize
    { stations := candidateStations page
      cities := candidateCities page
      provinces := candidateProvinces page
      hasMore
      nextOffset }

theorem normalizePagination_ok {offset pageSize defaultPageSize : ℕ}
    (hoffset : offset ≤ maxRpcPageOffset) (hpos : 0 < pageSize) (hsize : pageSize ≤ maxRpcPageSize) :
    normalizePagination offset pageSize defaultPageSize = .ok (offset, pageSize) := by
  simp only [normalizePagination, not_lt.2 hoffset, if_false, if_neg hpos.ne', not_lt.2 hsize]

theorem candidateStations_append (candidates candidates' : List SearchCandidate) :
    candidateStations (candidates ++ candidates') =
      candidateStations candidates ++ candidateStations candidates' := by
  rw [candidateStations, Engine.pageStations, List.filterMap_append, List.map_append]
  rfl

end WeatherApp
