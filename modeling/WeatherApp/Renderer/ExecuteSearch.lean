import WeatherApp.Engine.Resource
import WeatherApp.Foundation.Ranking
import WeatherApp.Renderer.Search

/-!
# Searching from the command line

`execute_search_with` of `tui/src/search.rs`: the commands of the terminal client search with up to
four filters and a limit. The text of a filter may end in a selector such as `.2`, which picks one
of the stations found. The search keeps only what matches the filters, drops duplicates, and stops
asking for pages once it has enough.

## Main definitions

* `splitResultSelector`: a search text and its selector.
* `retainMatchingSearchResults`, `dedupSearchResults`, `finalizeSearchResults`: what is done with
  the replies.
* `executeSearchWith`: the search.
-/

namespace WeatherApp

open Ranking

/-! ## Search texts -/

/-- `value.rsplit_once(separator)`: the texts before and after the last separator. -/
def rsplitOnce (value : String) (separator : Char) : Option (String × String) :=
  let reversed := value.toList.reverse
  if separator ∈ reversed then
    some (String.ofList (reversed.dropWhile (· ≠ separator)).tail.reverse,
      String.ofList (reversed.takeWhile (· ≠ separator)).reverse)
  else none

/-- The text after at most one sign `+`. -/
def dropPlus : List Char → List Char
  | '+' :: chars => chars
  | chars => chars

/-- `value.parse::<usize>()`: decimal digits after at most one sign. -/
def parseUsize (value : String) : Option ℕ :=
  let digits := dropPlus value.toList
  if digits ≠ [] ∧ digits.all Char.isDigit ∧ Nat.ofDigitChars 10 digits 0 ≤ usizeMax then
    some (Nat.ofDigitChars 10 digits 0)
  else none

/-- `split_result_selector`. -/
def splitResultSelector (value : String) : String × Option ℕ :=
  match rsplitOnce value '.' with
  | none => (value, none)
  | some (start, suffix) =>
    match parseUsize suffix with
    | some index => if index > 0 then (start, some index) else (value, none)
    | none => (value, none)

example : splitResultSelector "北京-朝阳.1" = ("北京-朝阳", some 1) := by decide +kernel

example : splitResultSelector "北京.0" = ("北京.0", none) := by decide +kernel

/-- `provider_query_from_search_text`: the last part of a path that is not empty. -/
def providerQueryFromSearchText (value : String) : String :=
  ((splitOnChar value '-').reverse.find? (· ≠ "")).getD value

example : providerQueryFromSearchText "北京-" = "北京" := by decide +kernel

/-! ## Requests -/

/-- `FuzzyMatchStationsRequest`. -/
structure FuzzyMatchStationsRequest where
  query : String
  province : Option String
  pageOffset : ℕ
  pageSize : ℕ
  deriving DecidableEq, Repr

/-- `FuzzyMatchStationsResponse::default`. -/
def FuzzyMatchStationsResponse.default : FuzzyMatchStationsResponse := ⟨[], [], [], false, 0⟩

/-- The filters of a search. -/
structure SearchFilters where
  query : Option String
  province : Option String
  city : Option String
  station : Option String
  deriving DecidableEq, Repr

/-- `search_text_from_filters`. -/
def searchTextFromFilters (filters : SearchFilters) : String :=
  (filters.station <|> filters.city <|> filters.query <|> filters.province).getD ""

/-- `page_size_for_target`. -/
def pageSizeForTarget (target : ℕ) : ℕ := max 1 (min target maxRpcPageSize)

/-! ## Replies -/

/-- `station_name_matches`. -/
def stationNameMatches (station : StationRef) (value : String) : Bool :=
  let (value, _) := splitResultSelector value
  station.name = value || station.city = value

/-- `station_province_matches`. -/
def stationProvinceMatches (station : StationRef) (value : String) : Bool :=
  station.province = value || shortRegionName station.province = value

/-- `city_province_matches`. -/
def cityProvinceMatches (city : City) (value : String) : Bool :=
  city.province = value || shortRegionName city.province = value

/-- The path that a search text names. -/
def exactPath (searchText : String) : Option String :=
  if '-' ∈ searchText.toList then some searchText else none

/-- Whether the filters keep a station. -/
def keepsStation (filters : SearchFilters) (searchText : String) (item : StationRef) : Bool :=
  filters.province.all (stationProvinceMatches item ·) &&
    filters.city.all (fun value => item.city = value) &&
    filters.station.all (stationNameMatches item ·) &&
    (exactPath searchText).all (fun value => item.name = value)

/-- Whether the filters keep a city. -/
def keepsCity (filters : SearchFilters) (searchText : String) (item : City) : Bool :=
  if (exactPath searchText).isSome then false
  else filters.province.all (cityProvinceMatches item ·) &&
    filters.city.all (fun value => item.city = value)

/-- Whether the filters keep a province. -/
def keepsProvince (filters : SearchFilters) (searchText : String) (item : Province) : Bool :=
  if (exactPath searchText).isSome then false
  else filters.province.all (fun value => item.name = value)

/-- `retain_matching_search_results`. -/
def retainMatchingSearchResults (response : FuzzyMatchStationsResponse) (filters : SearchFilters)
    (searchText : String) : FuzzyMatchStationsResponse :=
  { response with
    stations := response.stations.filter (keepsStation filters searchText)
    cities := response.cities.filter (keepsCity filters searchText)
    provinces := response.provinces.filter (keepsProvince filters searchText) }

/-- `append_search_results`. -/
def appendSearchResults (combined page : FuzzyMatchStationsResponse) :
    FuzzyMatchStationsResponse :=
  { combined with
    stations := combined.stations ++ page.stations
    cities := combined.cities ++ page.cities
    provinces := combined.provinces ++ page.provinces }

/-- The key by which stations are told apart. -/
def StationRef.publicKey (item : StationRef) : String :=
  if item.unifiedUuid = "" then s!"{item.name}|{item.province}|{item.city}" else item.unifiedUuid

/-- The place of a station. -/
def StationRef.location (item : StationRef) : String × String := (item.province, item.city)

/-- The place of a city. -/
def City.location (item : City) : String × String := (item.province, item.city)

/-- `dedup_search_results`: cities go where a station is at hand. -/
def dedupSearchResults (response : FuzzyMatchStationsResponse) : FuzzyMatchStationsResponse :=
  let stations := retainFirst StationRef.publicKey response.stations []
  let stationLocations := stations.map StationRef.location
  { response with
    stations
    cities := retainFirst City.location
      (response.cities.filter fun item => item.location ∉ stationLocations) []
    provinces := retainFirst Province.name response.provinces [] }

/-- `search_target_reached`. -/
def searchTargetReached (response : FuzzyMatchStationsResponse) (selector : Option ℕ)
    (target : ℕ) : Bool :=
  if selector.isSome then response.stations.length ≥ target
  else
    saturatingAdd (saturatingAdd response.stations.length response.cities.length)
      response.provinces.length ≥ target

/-- Cut the results to the limit. -/
def truncateSearchResults (response : FuzzyMatchStationsResponse) (limit : ℕ) :
    FuzzyMatchStationsResponse :=
  let stations := response.stations.take limit
  let cities := response.cities.take (limit - stations.length)
  let provinces := response.provinces.take (limit - (stations.length + cities.length))
  { response with stations, cities, provinces }

/-- `finalize_search_results`. -/
def finalizeSearchResults (response : FuzzyMatchStationsResponse) (selector : Option ℕ)
    (limit : ℕ) : FuzzyMatchStationsResponse :=
  match selector with
  | some selector =>
    if selector > 0 then
      match response.stations[selector - 1]? with
      | some selected => { response with stations := [selected], cities := [], provinces := [] }
      | none => truncateSearchResults response limit
    else truncateSearchResults response limit
  | none => truncateSearchResults response limit

/-! ## The search -/

/-- The loop of `execute_search_with`. The result is `none` when the fuel is used up. -/
def executeSearchLoop
    (fetch : FuzzyMatchStationsRequest → Except String FuzzyMatchStationsResponse)
    (filters : SearchFilters) (searchText : String) (selector : Option ℕ) (target : ℕ) :
    ℕ → PageCursor → ℕ → FuzzyMatchStationsResponse →
      Option (Except String FuzzyMatchStationsResponse)
  | 0, _, _, _ => none
  | fuel + 1, cursor, pageSize, combined =>
    match cursor.request pageSize with
    | .error message => some (.error message)
    | .ok ((pageOffset, boundedPageSize), cursor) =>
      match fetch ⟨providerQueryFromSearchText searchText, filters.province, pageOffset,
          boundedPageSize⟩ with
      | .error message => some (.error message)
      | .ok page =>
        let kept := retainMatchingSearchResults page filters searchText
        let combined := { dedupSearchResults (appendSearchResults combined kept) with
          hasMore := page.hasMore
          nextOffset := page.nextOffset }
        match cursor.advance page.hasMore page.nextOffset with
        | .error message => some (.error message)
        | .ok (canContinue, cursor) =>
          if searchTargetReached combined selector target || !canContinue then some (.ok combined)
          else
            executeSearchLoop fetch filters searchText selector target fuel cursor maxRpcPageSize
              combined

/-- `execute_search_with`. Every iteration makes a request, so that the cursor ends the loop. -/
def executeSearchWith
    (fetch : FuzzyMatchStationsRequest → Except String FuzzyMatchStationsResponse)
    (filters : SearchFilters) (limit : UInt32) :
    Option (Except String FuzzyMatchStationsResponse) :=
  let (searchText, selector) := splitResultSelector (searchTextFromFilters filters)
  let target := selector.getD limit.toNat
  if target = 0 then some (.ok .default)
  else
    (executeSearchLoop fetch filters searchText selector target (maxPaginatedRequests + 1)
      .default (pageSizeForTarget target) .default).map fun reply =>
        reply.map fun combined => finalizeSearchResults combined selector limit.toNat

end WeatherApp
