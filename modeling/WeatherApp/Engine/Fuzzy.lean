import WeatherApp.Engine.Catalog
import WeatherApp.Foundation.Ranking

/-!
# Station search

`engine/src/handlers/fuzzy.rs` and `engine/src/station.rs`: the ranked search over an index of
cities, and the lookup of a station by its public name. A public name can belong to several
cities, and then the search keeps the one its ranking puts first.

## Main definitions

* `searchCandidates`: the search, ranked by kind, match and a stable order, one candidate for
  each public identity.
* `resolveStationNameFromTargetedIndex`: the lookup in the provinces that a name hints at.
* `FoundBy`: how a request finds a station.

## Main results

* `search_least`: a found station has the least code among the cities in its place.
* `resolve_iff`: which names the lookup resolves.
* `publicName_identifies_station`: the station of a public name that belongs to one place.
-/

namespace WeatherApp

open Ranking

variable [Sha256] [UnicodeTables]

/-! ## Stations of cities -/

/-- `city_to_provider_station`. -/
def cityToProviderStation (providerName providerProvinceCode : String) (city : ProviderCity) :
    ProviderStation :=
  let name := canonicalStationName city.province city.city
  { providerName
    displayName := name
    providerStationId := city.providerCode
    providerProvinceCode
    province := city.province
    city := city.city
    url := city.url
    name
    unifiedUuid := unifiedStationUuid name }

/-- `station_names`. -/
def stationNames (station : ProviderStation) : List String :=
  [canonicalStationName station.province station.city]

/-- The rows that `cache_station_mapping` writes for a station. -/
def stationMappings (station : ProviderStation) : List ProviderStation :=
  (stationNames station).map fun name => { station with displayName := name }

/-- The station of a city of an index. -/
abbrev ProviderCity.station (providerName : String) (city : ProviderCity) : ProviderStation :=
  cityToProviderStation providerName city.providerProvinceCode city

/-! ## Search -/

/-- `SearchCandidate`. -/
inductive SearchCandidate where
  | station (station : ProviderStation)
  | city (city : ProviderCity)
  | province (province : ProviderProvince)
  deriving DecidableEq, Repr

/-- `SearchCandidateKey`. -/
inductive SearchCandidateKey where
  | station (unifiedUuid : String)
  | city (province city : String)
  | province (name : String)
  deriving DecidableEq, Repr

/-- `compact_search_text`. -/
def compactSearchText (value : String) : String :=
  String.ofList ((value.toList.filter UnicodeTables.isAlphanumeric).flatMap
    UnicodeTables.toLowercase)

/-- `search_tokens`. -/
def searchTokens (query : String) : List String :=
  (((query.toList.splitOnP fun c => !UnicodeTables.isAlphanumeric c).map fun piece =>
    compactSearchText (String.ofList piece)).filter fun token => token ≠ "")

/-- `search_values_match`. -/
def searchValuesMatch (values : List String) (query : String) : Bool :=
  if isBlank query then true
  else
    let tokens := searchTokens query
    if tokens = [] then false
    else
      let values := values.map compactSearchText
      tokens.all fun token => values.any fun value => contains value token

/-- `search_match_rank`. -/
def searchMatchRank (values : List String) (query : String) : ℕ :=
  let query := compactSearchText query
  ((values.map compactSearchText).map fun value =>
    if value = query then 0 else if startsWith value query then 1 else 2).min?.getD 2

/-- `location_search_values`. -/
def locationSearchValues (name province city : String) : List String :=
  let shortProvince := shortRegionName province
  [name, province, shortProvince, city, s!"{province}{city}", s!"{shortProvince}{city}"]

/-- `city_search_values`. -/
def citySearchValues (city : ProviderCity) : List String :=
  locationSearchValues (canonicalStationName city.province city.city) city.province city.city

/-- `city_matches`. -/
def cityMatches (city : ProviderCity) (query : String) : Bool :=
  searchValuesMatch (citySearchValues city) query

/-- `province_matches_query`. -/
def provinceMatchesQuery (province : ProviderProvince) (query : String) : Bool :=
  searchValuesMatch [province.name, shortRegionName province.name] query

/-- `candidate_kind_rank`. -/
def candidateKindRank : SearchCandidate → ℕ
  | .station _ => 0
  | .city _ => 1
  | .province _ => 2

/-- `candidate_match_rank`. -/
def candidateMatchRank (candidate : SearchCandidate) (query : String) : ℕ :=
  match candidate with
  | .station station =>
    searchMatchRank (locationSearchValues station.name station.province station.city) query
  | .city city => searchMatchRank (citySearchValues city) query
  | .province province => searchMatchRank [province.name, shortRegionName province.name] query

/-- `station_stable_cmp`. -/
def stationStableCmp (left right : ProviderStation) : Ordering :=
  (compare left.name right.name).then <| (compare left.province right.province).then <|
    (compare left.city right.city).then <|
      compare left.providerStationId right.providerStationId

/-- `candidate_stable_cmp`. -/
def candidateStableCmp : SearchCandidate → SearchCandidate → Ordering
  | .station left, .station right => stationStableCmp left right
  | .city left, .city right =>
    (compare left.province right.province).then <| (compare left.city right.city).then <|
      (compare left.providerProvinceCode right.providerProvinceCode).then <|
        compare left.providerCode right.providerCode
  | .province left, .province right =>
    (compare left.name right.name).then <| compare left.providerCode right.providerCode
  | _, _ => .eq

/-- `candidate_cmp`. -/
def candidateCmp (query : String) (left right : SearchCandidate) : Ordering :=
  (compare (candidateKindRank left) (candidateKindRank right)).then <|
    (compare (candidateMatchRank left query) (candidateMatchRank right query)).then <|
      candidateStableCmp left right

/-- `candidate_key`. -/
def candidateKey : SearchCandidate → SearchCandidateKey
  | .station station => .station station.unifiedUuid
  | .city city => .city city.province city.city
  | .province province => .province province.name

/-- The matching candidates of an index, before they are ranked. -/
def matchingCandidates (providerName : String) (catalog : ProviderCatalog) (query : String) :
    List SearchCandidate :=
  ((catalog.cities.filter fun city => cityMatches city query).flatMap fun city =>
    [.station (city.station providerName), .city city]) ++
  (catalog.provinces.filter fun province => provinceMatchesQuery province query).map .province

/-- `search_candidates`. -/
def searchCandidates (providerName : String) (catalog : ProviderCatalog) (query : String) :
    List SearchCandidate :=
  retainFirst candidateKey
    (sortBy (candidateCmp query) (matchingCandidates providerName catalog query)) []

/-! ## Targeted lookup -/

/-- `province_matches_hint`. -/
def provinceMatchesHint (province : ProviderProvince) (hint name : String) : Bool :=
  province.name = hint || shortRegionName province.name = hint ||
    contains province.name hint || startsWith name province.name

/-- The part of a public name before its first separator. -/
def provinceHint (name : String) : String := (splitOnChar name '-').headD name

/-- The provinces that a public name hints at. -/
def matchedProvinces (provinces : List ProviderProvince) (name : String) :
    List ProviderProvince :=
  provinces.filter fun province => provinceMatchesHint province (provinceHint name) name

/-- The first station of the index that has the public name. -/
def selectStation (providerName name : String) (catalog : ProviderCatalog) :
    Except String ProviderStation :=
  let candidates := (catalog.cities.map fun city => city.station providerName).filter
    fun station => (stationNames station).any fun candidate => candidate = name
  match (sortBy stationStableCmp candidates).head? with
  | none => .error s!"station `{name}` was not found in provider station index"
  | some station => .ok station

/-- `resolve_station_name_from_targeted_index`, up to the write of the mapping. -/
def resolveStationNameFromTargetedIndex (providerName : String)
    (provinces : List ProviderProvince) (scopes : String → List ProviderCity) (name : String) :
    Except String ProviderStation :=
  let matched := matchedProvinces provinces name
  (providerCatalogForProvinces scopes (if matched = [] then provinces else matched)).bind
    (selectStation providerName name)

/-! ## The ranking -/

section Ranking

/-- The rank that `station_stable_cmp` compares. -/
def stationRank (station : ProviderStation) : String ×ₗ String ×ₗ String ×ₗ String :=
  toLex (station.name, toLex (station.province, toLex (station.city, station.providerStationId)))

/-- The rank that `candidate_stable_cmp` compares on candidates of one kind. -/
def stableRank : SearchCandidate → String ×ₗ String ×ₗ String ×ₗ String
  | .station station => stationRank station
  | .city city =>
    toLex (city.province, toLex (city.city, toLex (city.providerProvinceCode, city.providerCode)))
  | .province province => toLex (province.name, toLex (province.providerCode, toLex ("", "")))

/-- The rank that `candidate_cmp` compares. -/
def candidateRank (query : String) (candidate : SearchCandidate) :
    ℕ ×ₗ ℕ ×ₗ String ×ₗ String ×ₗ String ×ₗ String :=
  toLex (candidateKindRank candidate,
    toLex (candidateMatchRank candidate query, stableRank candidate))

omit [Sha256] [UnicodeTables] in
theorem stationStableCmp_ne_gt (a b : ProviderStation) :
    stationStableCmp a b ≠ .gt ↔ stationRank a ≤ stationRank b := by
  simp only [stationStableCmp, stationRank, compare_then_ne_gt, compare_le_iff_le,
    Prod.Lex.toLex_le_toLex]

omit [Sha256] in
theorem candidateCmp_ne_gt (query : String) (a b : SearchCandidate) :
    candidateCmp query a b ≠ .gt ↔ candidateRank query a ≤ candidateRank query b := by
  rw [candidateCmp, candidateRank, candidateRank, compare_then_ne_gt, compare_then_ne_gt,
    Prod.Lex.toLex_le_toLex, Prod.Lex.toLex_le_toLex]
  cases a with
  | station a =>
    cases b with
    | station b => simp only [candidateStableCmp, stationStableCmp_ne_gt, stableRank]
    | city => simp [candidateKindRank]
    | province => simp [candidateKindRank]
  | city a =>
    cases b with
    | city b =>
      simp only [candidateStableCmp, stableRank, compare_then_ne_gt, compare_le_iff_le,
        Prod.Lex.toLex_le_toLex]
    | station => simp [candidateKindRank]
    | province => simp [candidateKindRank]
  | province a =>
    cases b with
    | province b =>
      simp only [candidateStableCmp, stableRank, compare_then_ne_gt, compare_le_iff_le,
        Prod.Lex.toLex_le_toLex, le_refl, and_true, ← le_iff_lt_or_eq]
    | station => simp [candidateKindRank]
    | city => simp [candidateKindRank]

omit [UnicodeTables] in
/-- Of stations in one place, the stable order compares the codes. -/
theorem code_le_of_stationRank_le {providerName : String} {a b : ProviderCity}
    (hprovince : b.province = a.province) (hcity : b.city = a.city)
    (h : stationRank (a.station providerName) ≤ stationRank (b.station providerName)) :
    a.providerCode ≤ b.providerCode := by
  simpa [stationRank, cityToProviderStation, Prod.Lex.toLex_le_toLex, hprovince, hcity] using h

end Ranking

/-! ## What a request finds -/

/-- The unified UUID of the public name of a city. -/
def ProviderCity.uuid (city : ProviderCity) : String :=
  unifiedStationUuid (canonicalStationName city.province city.city)

/-- `city` is a city of the index with the least code among the cities in its place. -/
def LeastIn (cities : List ProviderCity) (city : ProviderCity) : Prop :=
  city ∈ cities ∧ ∀ other ∈ cities, other.province = city.province → other.city = city.city →
    city.providerCode ≤ other.providerCode

/-- A found station has the least code among the cities in its place. -/
theorem search_least {providerName query : String} {catalog : ProviderCatalog}
    {station : ProviderStation}
    (h : .station station ∈ searchCandidates providerName catalog query) :
    ∃ city, LeastIn catalog.cities city ∧ station = city.station providerName := by
  have hmatching : .station station ∈ matchingCandidates providerName catalog query :=
    mem_sortBy.1 (mem_of_mem_retainFirst h).1
  obtain ⟨city, hcity, hmatches, rfl⟩ : ∃ city ∈ catalog.cities, cityMatches city query = true ∧
      station = city.station providerName := by
    simpa [matchingCandidates, and_assoc] using hmatching
  refine ⟨city, ⟨hcity, fun other hother hprovince hname => ?_⟩, rfl⟩
  -- a city in the same place has the same search values, so it matches with the same rank
  have hvalues : citySearchValues other = citySearchValues city := by
    rw [citySearchValues, citySearchValues, hprovince, hname]
  have hmatchesOther : cityMatches other query = true := by
    rw [cityMatches, hvalues]
    exact hmatches
  have hmember : SearchCandidate.station (other.station providerName) ∈
      matchingCandidates providerName catalog query := by
    rw [matchingCandidates, List.mem_append, List.mem_flatMap]
    exact Or.inl ⟨other, List.mem_filter.2 ⟨hother, hmatchesOther⟩, List.mem_cons_self⟩
  have hkey : candidateKey (.station (other.station providerName)) =
      candidateKey (.station (city.station providerName)) := by
    simp [candidateKey, cityToProviderStation, hprovince, hname]
  have hrank := le_of_mem_retainFirst (pairwise_sortBy (candidateCmp_ne_gt query) _) le_rfl h
    (mem_sortBy.2 hmember) hkey
  have hsame : candidateMatchRank (.station (other.station providerName)) query =
      candidateMatchRank (.station (city.station providerName)) query := by
    simp [candidateMatchRank, cityToProviderStation, hprovince, hname]
  rw [candidateRank, candidateRank, hsame] at hrank
  simp only [candidateKindRank, Prod.Lex.toLex_le_toLex, lt_irrefl, true_and, false_or] at hrank
  exact code_le_of_stationRank_le hprovince hname hrank

/-- The index that a lookup of a name searches. -/
def lookupCities (provinces : List ProviderProvince) (scopes : String → List ProviderCity)
    (name : String) : List ProviderCity :=
  indexCities scopes
    (if matchedProvinces provinces name = [] then provinces else matchedProvinces provinces name)

/-- The candidates of a lookup, in the order that `station_stable_cmp` gives them. -/
def lookupCandidates (providerName : String) (provinces : List ProviderProvince)
    (scopes : String → List ProviderCity) (name : String) : List ProviderStation :=
  ((lookupCities provinces scopes name).map fun city => city.station providerName).filter
    fun station => (stationNames station).any fun candidate => candidate = name

omit [UnicodeTables] in
theorem mem_lookupCandidates {providerName name : String} {provinces : List ProviderProvince}
    {scopes : String → List ProviderCity} {station : ProviderStation} :
    station ∈ lookupCandidates providerName provinces scopes name ↔
      ∃ city ∈ lookupCities provinces scopes name,
        canonicalStationName city.province city.city = name ∧
          city.station providerName = station := by
  simp only [lookupCandidates, List.mem_filter, List.mem_map]
  constructor
  · rintro ⟨⟨city, hcity, rfl⟩, hname⟩
    exact ⟨city, hcity, by simpa [stationNames, cityToProviderStation] using hname, rfl⟩
  · rintro ⟨city, hcity, hname, rfl⟩
    exact ⟨⟨city, hcity, rfl⟩, by simpa [stationNames, cityToProviderStation] using hname⟩

omit [UnicodeTables] in
/-- On a valid catalog a lookup returns the first of its candidates. -/
theorem resolve_eq {providerName name : String} {provinces : List ProviderProvince}
    {scopes : String → List ProviderCity} (hvalid : ValidCatalog provinces scopes) :
    resolveStationNameFromTargetedIndex providerName provinces scopes name =
      match (sortBy stationStableCmp
        (lookupCandidates providerName provinces scopes name)).head? with
      | none => .error s!"station `{name}` was not found in provider station index"
      | some station => .ok station := by
  have hsub : List.Sublist (if matchedProvinces provinces name = [] then provinces
      else matchedProvinces provinces name) provinces := by
    split_ifs
    · exact List.Sublist.refl _
    · exact List.filter_sublist
  simp only [resolveStationNameFromTargetedIndex, hvalid.providerCatalogForProvinces hsub]
  rfl

omit [UnicodeTables] in
/-- A resolved station has the least code among the cities in its place. -/
theorem resolve_least {providerName name : String} {provinces : List ProviderProvince}
    {scopes : String → List ProviderCity} (hvalid : ValidCatalog provinces scopes)
    {station : ProviderStation}
    (h : resolveStationNameFromTargetedIndex providerName provinces scopes name = .ok station) :
    ∃ city, LeastIn (lookupCities provinces scopes name) city ∧
      station = city.station providerName := by
  rw [resolve_eq hvalid] at h
  split at h
  next => cases h
  next found hhead =>
    cases h
    have hleast : ∀ other ∈ lookupCandidates providerName provinces scopes name,
        station ∈ lookupCandidates providerName provinces scopes name ∧
          stationRank station ≤ stationRank other :=
      fun other hother => head_sortBy_le stationStableCmp_ne_gt hhead hother
    have hmem : station ∈ lookupCandidates providerName provinces scopes name :=
      mem_sortBy.1 (List.mem_of_head? hhead)
    obtain ⟨city, hcity, hname, rfl⟩ := mem_lookupCandidates.1 hmem
    refine ⟨city, ⟨hcity, fun other hother hprovince hcityName => ?_⟩, rfl⟩
    have hcandidate : other.station providerName ∈
        lookupCandidates providerName provinces scopes name :=
      mem_lookupCandidates.2 ⟨other, hother, by rw [hprovince, hcityName, hname], rfl⟩
    exact code_le_of_stationRank_le hprovince hcityName (hleast _ hcandidate).2

omit [UnicodeTables] in
/-- A lookup succeeds exactly when the searched index has a city of the name. -/
theorem resolve_isOk_iff {providerName name : String} {provinces : List ProviderProvince}
    {scopes : String → List ProviderCity} (hvalid : ValidCatalog provinces scopes) :
    (∃ station,
      resolveStationNameFromTargetedIndex providerName provinces scopes name = .ok station) ↔
      ∃ city ∈ lookupCities provinces scopes name,
        canonicalStationName city.province city.city = name := by
  rw [resolve_eq hvalid]
  constructor
  · rintro ⟨station, h⟩
    split at h
    next => cases h
    next found hhead =>
      obtain ⟨city, hcity, hname, -⟩ :=
        mem_lookupCandidates.1 (mem_sortBy.1 (List.mem_of_head? hhead))
      exact ⟨city, hcity, hname⟩
  · rintro ⟨city, hcity, hname⟩
    have hmem : city.station providerName ∈ sortBy stationStableCmp
        (lookupCandidates providerName provinces scopes name) :=
      mem_sortBy.2 (mem_lookupCandidates.2 ⟨city, hcity, hname, rfl⟩)
    cases hhead : (sortBy stationStableCmp
        (lookupCandidates providerName provinces scopes name)).head? with
    | none =>
      rw [List.head?_eq_none_iff] at hhead
      rw [hhead] at hmem
      cases hmem
    | some station => exact ⟨station, rfl⟩

/-! ## Names whose province names their scope -/

section Hint

omit [Sha256] [UnicodeTables]

/-- The first piece of a list is a prefix of it. -/
theorem head_splitOn_isPrefixOf (separator : Char) (l : List Char) :
    (l.splitOn separator).headD [] <+: l := by
  induction l with
  | nil => simp
  | cons c l ih =>
    rw [List.splitOn_cons_eq_if_modifyHead]
    split_ifs
    · exact List.nil_prefix
    · cases hpieces : l.splitOn separator with
      | nil => exact absurd hpieces (List.splitOn_ne_nil _ _)
      | cons piece pieces =>
        rw [hpieces] at ih
        exact (List.prefix_cons_inj c).2 ih

theorem shortRegionName_isPrefixOf (value : String) :
    (shortRegionName value).toList <+: value.toList := by
  obtain ⟨suffix, -, hvalue⟩ := toList_shortRegionName value
  exact ⟨suffix.toList, hvalue.symm⟩

/-- A public name starts with the short name of its province and a separator. -/
theorem canonicalStationName_toList (province city : String) :
    ∃ rest, (canonicalStationName province city).toList =
      (shortRegionName province).toList ++ '-' :: rest := by
  simp only [canonicalStationName]
  split_ifs
  · refine ⟨province.toList, ?_⟩
    show (shortRegionName province ++ "-" ++ province).toList = _
    simp [String.toList_append]
  · refine ⟨province.toList ++ '-' :: city.toList, ?_⟩
    show (shortRegionName province ++ "-" ++ province ++ "-" ++ city).toList = _
    simp [String.toList_append]

/-- The hint of a public name is a prefix of its province. -/
theorem provinceHint_isPrefixOf (province city : String) :
    (provinceHint (canonicalStationName province city)).toList <+: province.toList := by
  obtain ⟨rest, hname⟩ := canonicalStationName_toList province city
  have hhint : (provinceHint (canonicalStationName province city)).toList =
      ((shortRegionName province).toList.splitOn '-').headD [] := by
    rw [provinceHint, splitOnChar, hname, List.splitOn_append_cons_self]
    cases hpieces : (shortRegionName province).toList.splitOn '-' with
    | nil => exact absurd hpieces (List.splitOn_ne_nil _ _)
    | cons piece pieces => simp
  rw [hhint]
  exact (head_splitOn_isPrefixOf _ _).trans (shortRegionName_isPrefixOf province)

/-- A province matches the hint of every public name that carries it. -/
theorem provinceMatchesHint_canonical {province : ProviderProvince} {city : String} :
    provinceMatchesHint province (provinceHint (canonicalStationName province.name city))
      (canonicalStationName province.name city) = true := by
  have hcontains : contains province.name
      (provinceHint (canonicalStationName province.name city)) = true := by
    rw [contains, List.any_eq_true]
    refine ⟨province.name.toList, ?_, ?_⟩
    · simp
    · rw [List.isPrefixOf_iff_prefix]
      exact provinceHint_isPrefixOf province.name city
  simp [provinceMatchesHint, hcontains]

end Hint

/-! ## The station of a public name -/

/-- How a request finds a station: a nationwide search, a search in one province, or the lookup
of a public name. -/
inductive FoundBy (providerName : String) (provinces : List ProviderProvince)
    (scopes : String → List ProviderCity) : ProviderStation → Prop
  | nationwide {catalog : ProviderCatalog} {query : String} {station : ProviderStation} :
      providerCatalogForProvinces scopes provinces = .ok catalog →
      .station station ∈ searchCandidates providerName catalog query →
      FoundBy providerName provinces scopes station
  | inProvince {province : String} {catalog : ProviderCatalog} {query : String}
      {station : ProviderStation} :
      providerCatalogForProvince providerName provinces scopes province = .ok catalog →
      .station station ∈ searchCandidates providerName catalog query →
      FoundBy providerName provinces scopes station
  | lookup {name : String} {station : ProviderStation} :
      resolveStationNameFromTargetedIndex providerName provinces scopes name = .ok station →
      FoundBy providerName provinces scopes station

/-- The cities that share the public identity are all in one place: one province text, one city
text and one scope. -/
def OnePlace (provinces : List ProviderProvince) (scopes : String → List ProviderCity)
    (uuid : String) : Prop :=
  ∀ a ∈ indexCities scopes provinces, ∀ b ∈ indexCities scopes provinces,
    a.uuid = uuid → b.uuid = uuid →
      a.province = b.province ∧ a.city = b.city ∧
        a.providerProvinceCode = b.providerProvinceCode

section Identity

variable {providerName : String} {provinces : List ProviderProvince}
  {scopes : String → List ProviderCity}

/-- A found station is the least of its place in the index of some of the provinces. -/
theorem FoundBy.least (hvalid : ValidCatalog provinces scopes) {station : ProviderStation}
    (h : FoundBy providerName provinces scopes station) :
    ∃ selected city, List.Sublist selected provinces ∧
      LeastIn (indexCities scopes selected) city ∧ station = city.station providerName := by
  cases h with
  | nationwide hcatalog hsearch =>
    rw [hvalid.providerCatalogForProvinces (List.Sublist.refl _), Except.ok.injEq] at hcatalog
    subst hcatalog
    obtain ⟨city, hleast, hstation⟩ := search_least hsearch
    exact ⟨provinces, city, List.Sublist.refl _, hleast, hstation⟩
  | @inProvince province catalog query _ hcatalog hsearch =>
    have hfound : ∃ found, [found].Sublist provinces ∧
        providerCatalogForProvinces scopes [found] = .ok catalog := by
      unfold providerCatalogForProvince at hcatalog
      split at hcatalog
      next => cases hcatalog
      next found hresolve =>
        refine ⟨found, ?_, hcatalog⟩
        unfold resolveProviderProvince at hresolve
        split at hresolve
        next hfilter =>
          cases hresolve
          rw [← hfilter]
          exact List.filter_sublist
        next => cases hresolve
        next => cases hresolve
    obtain ⟨found, hsub, hindex⟩ := hfound
    rw [hvalid.providerCatalogForProvinces hsub, Except.ok.injEq] at hindex
    subst hindex
    obtain ⟨city, hleast, hstation⟩ := search_least hsearch
    exact ⟨[found], city, hsub, hleast, hstation⟩
  | @lookup name _ hresolve =>
    obtain ⟨city, hleast, hstation⟩ := resolve_least hvalid hresolve
    refine ⟨_, city, ?_, hleast, hstation⟩
    split_ifs
    · exact List.Sublist.refl _
    · exact List.filter_sublist

omit [Sha256] [UnicodeTables] in
theorem indexCities_subset {selected : List ProviderProvince}
    (hsub : selected.Sublist provinces) {city : ProviderCity}
    (hcity : city ∈ indexCities scopes selected) : city ∈ indexCities scopes provinces := by
  obtain ⟨province, hprovince, hmem⟩ := mem_indexCities.1 hcity
  exact mem_indexCities.2 ⟨province, hsub.subset hprovince, hmem⟩

omit [Sha256] [UnicodeTables] in
/-- An index that holds one city of a scope holds all of them. -/
theorem mem_indexCities_of_scope (hvalid : ValidCatalog provinces scopes)
    {selected : List ProviderProvince} (hsub : selected.Sublist provinces)
    {city other : ProviderCity} (hcity : city ∈ indexCities scopes selected)
    (hother : other ∈ indexCities scopes provinces)
    (hscope : other.providerProvinceCode = city.providerProvinceCode) :
    other ∈ indexCities scopes selected := by
  obtain ⟨province, hprovince, hmem⟩ := mem_indexCities.1 hcity
  obtain ⟨province', hprovince', hmem'⟩ := mem_indexCities.1 hother
  refine mem_indexCities.2 ⟨province, hprovince, ?_⟩
  rw [hvalid.scope_eq hprovince' hmem', hvalid.scope_eq (hsub.subset hprovince) hmem] at hscope
  rwa [← hscope]

/-- Requests that find a station in one place find one station. -/
theorem FoundBy.eq_of_place_eq (hvalid : ValidCatalog provinces scopes) {a b : ProviderStation}
    (ha : FoundBy providerName provinces scopes a) (hb : FoundBy providerName provinces scopes b)
    (hprovince : a.province = b.province) (hcity : a.city = b.city)
    (hscope : a.providerProvinceCode = b.providerProvinceCode) : a = b := by
  obtain ⟨selA, cityA, hsubA, hleastA, rfl⟩ := ha.least hvalid
  obtain ⟨selB, cityB, hsubB, hleastB, rfl⟩ := hb.least hvalid
  have hmemA := indexCities_subset hsubA hleastA.1
  have hmemB := indexCities_subset hsubB hleastB.1
  -- one scope is indexed as a whole, so each index holds the city that the other one found
  have hle : cityA.providerCode ≤ cityB.providerCode :=
    hleastA.2 cityB (mem_indexCities_of_scope hvalid hsubA hleastA.1 hmemB hscope.symm)
      hprovince.symm hcity.symm
  have hge : cityB.providerCode ≤ cityA.providerCode :=
    hleastB.2 cityA (mem_indexCities_of_scope hvalid hsubB hleastB.1 hmemA hscope)
      hprovince hcity
  rw [hvalid.eq_of_code_eq hmemA hmemB (le_antisymm hle hge)]

/-- Requests that find a public identity in one place find one station. -/
theorem FoundBy.eq_of_uuid_eq (hvalid : ValidCatalog provinces scopes) {a b : ProviderStation}
    (ha : FoundBy providerName provinces scopes a) (hb : FoundBy providerName provinces scopes b)
    (huuid : a.unifiedUuid = b.unifiedUuid) (hplace : OnePlace provinces scopes a.unifiedUuid) :
    a = b := by
  obtain ⟨selA, cityA, hsubA, hleastA, hstationA⟩ := ha.least hvalid
  obtain ⟨selB, cityB, hsubB, hleastB, hstationB⟩ := hb.least hvalid
  have huuidA : cityA.uuid = a.unifiedUuid := by rw [hstationA]; rfl
  have huuidB : cityB.uuid = a.unifiedUuid := by rw [huuid, hstationB]; rfl
  obtain ⟨hprovince, hcity, hscope⟩ := hplace cityA (indexCities_subset hsubA hleastA.1) cityB
    (indexCities_subset hsubB hleastB.1) huuidA huuidB
  refine ha.eq_of_place_eq hvalid hb ?_ ?_ ?_
  · rw [hstationA, hstationB]; exact hprovince
  · rw [hstationA, hstationB]; exact hcity
  · rw [hstationA, hstationB]; exact hscope

omit [UnicodeTables] in
/-- The names that the lookup resolves: those of the index, unless the name hints only at
provinces that do not have it. -/
theorem resolve_iff (hvalid : ValidCatalog provinces scopes) (name : String) :
    (∃ station,
      resolveStationNameFromTargetedIndex providerName provinces scopes name = .ok station) ↔
      ∃ city ∈ indexCities scopes provinces,
        canonicalStationName city.province city.city = name ∧
          (matchedProvinces provinces name = [] ∨ ∃ province ∈ matchedProvinces provinces name,
            province.providerCode = city.providerProvinceCode) := by
  rw [resolve_isOk_iff hvalid]
  by_cases hmatched : matchedProvinces provinces name = []
  · simp [lookupCities, hmatched]
  · simp only [lookupCities, hmatched, false_or]
    have hsub : (matchedProvinces provinces name).Sublist provinces := List.filter_sublist
    constructor
    · rintro ⟨city, hcity, hname⟩
      obtain ⟨province, hprovince, hmem⟩ := mem_indexCities.1 hcity
      exact ⟨city, indexCities_subset hsub hcity, hname, province, hprovince,
        (hvalid.scope_eq (hsub.subset hprovince) hmem).symm⟩
    · rintro ⟨city, hcity, hname, province, hprovince, hcode⟩
      obtain ⟨province', hprovince', hmem⟩ := mem_indexCities.1 hcity
      rw [hvalid.scope_eq hprovince' hmem] at hcode
      exact ⟨city, mem_indexCities.2 ⟨province, hprovince, hcode ▸ hmem⟩, hname⟩

omit [UnicodeTables] in
/-- A city whose province text is the name of the province of its scope is resolved by its public
name. -/
theorem resolve_of_province_eq (hvalid : ValidCatalog provinces scopes)
    {province : ProviderProvince} (hprovince : province ∈ provinces) {city : ProviderCity}
    (hcity : city ∈ scopes province.providerCode) (hname : city.province = province.name) :
    ∃ station, resolveStationNameFromTargetedIndex providerName provinces scopes
      (canonicalStationName city.province city.city) = .ok station := by
  refine (resolve_iff hvalid _).2
    ⟨city, mem_indexCities.2 ⟨province, hprovince, hcity⟩, rfl, Or.inr ⟨province, ?_, ?_⟩⟩
  · rw [matchedProvinces, List.mem_filter, hname]
    exact ⟨hprovince, provinceMatchesHint_canonical⟩
  · exact (hvalid.scope_eq hprovince hcity).symm

/-- The rows that are written for a station carry its public identity. -/
theorem FoundBy.uuid_of_mapping (hvalid : ValidCatalog provinces scopes) {a : ProviderStation}
    (ha : FoundBy providerName provinces scopes a) {row : ProviderStation}
    (hrow : row ∈ stationMappings a) :
    row = { a with displayName := row.displayName } ∧
      a.unifiedUuid = unifiedStationUuid row.displayName := by
  obtain ⟨selected, city, -, -, rfl⟩ := ha.least hvalid
  obtain rfl : row = { city.station providerName with
      displayName := canonicalStationName city.province city.city } := by
    simpa [stationMappings, stationNames, cityToProviderStation] using hrow
  exact ⟨rfl, rfl⟩

/-- On a valid catalog, whichever request finds a station: one place has one station, and so has
a public identity that belongs to one place; the rows that are written for one public name of
such an identity are equal. The lookup resolves the names of the index, unless a name hints only
at provinces of other scopes, which a city that carries the name of its own province excludes. -/
theorem publicName_identifies_station (hvalid : ValidCatalog provinces scopes) :
    (∀ a b, FoundBy providerName provinces scopes a → FoundBy providerName provinces scopes b →
        a.province = b.province → a.city = b.city →
        a.providerProvinceCode = b.providerProvinceCode → a = b) ∧
      (∀ a b, FoundBy providerName provinces scopes a → FoundBy providerName provinces scopes b →
        a.unifiedUuid = b.unifiedUuid → OnePlace provinces scopes a.unifiedUuid → a = b) ∧
      (∀ a b, FoundBy providerName provinces scopes a → FoundBy providerName provinces scopes b →
        ∀ rowA ∈ stationMappings a, ∀ rowB ∈ stationMappings b,
          rowA.displayName = rowB.displayName → OnePlace provinces scopes a.unifiedUuid →
            rowA = rowB) ∧
      (∀ name, (∃ station, resolveStationNameFromTargetedIndex providerName provinces scopes
          name = .ok station) ↔
        ∃ city ∈ indexCities scopes provinces,
          canonicalStationName city.province city.city = name ∧
            (matchedProvinces provinces name = [] ∨
              ∃ province ∈ matchedProvinces provinces name,
                province.providerCode = city.providerProvinceCode)) ∧
      ∀ province ∈ provinces, ∀ city ∈ scopes province.providerCode,
        city.province = province.name →
          ∃ station, resolveStationNameFromTargetedIndex providerName provinces scopes
            (canonicalStationName city.province city.city) = .ok station := by
  refine ⟨fun a b ha hb => ha.eq_of_place_eq hvalid hb, fun a b ha hb => ha.eq_of_uuid_eq hvalid hb,
    ?_, resolve_iff hvalid, fun province hprovince city => resolve_of_province_eq hvalid hprovince⟩
  intro a b ha hb rowA hrowA rowB hrowB hdisplay hplace
  obtain ⟨hrowA, huuidA⟩ := ha.uuid_of_mapping hvalid hrowA
  obtain ⟨hrowB, huuidB⟩ := hb.uuid_of_mapping hvalid hrowB
  have huuid : a.unifiedUuid = b.unifiedUuid := by rw [huuidA, huuidB, hdisplay]
  rw [hrowA, hrowB, hdisplay, ha.eq_of_uuid_eq hvalid hb huuid hplace]

end Identity

/-! ## Two cities of one public name -/

/-- The province of the sample index. -/
def sampleProvince : ProviderProvince := ⟨"ABJ", "北京市", ""⟩

/-- Two cities in different places whose public name is the same. -/
def sampleScopes : String → List ProviderCity := fun _ =>
  [⟨"BJ", "ABJ", "北京市", "北京", ""⟩, ⟨"BJ2", "ABJ", "北京市", "北京市", ""⟩]

omit [Sha256] [UnicodeTables] in
theorem validCatalog_sample : ValidCatalog [sampleProvince] sampleScopes :=
  ⟨by decide, by decide, by decide⟩

omit [Sha256] [UnicodeTables] in
/-- The public name of the sample cities is resolved. -/
theorem publicName_identifies_station_sample :
    ∃ station, @resolveStationNameFromTargetedIndex sampleSha256 "nmc" [sampleProvince]
      sampleScopes "北京-北京市" = .ok station := by
  have hresolve := (@publicName_identifies_station sampleSha256 sampleUnicode "nmc"
    [sampleProvince] sampleScopes validCatalog_sample).2.2.2.2
  have hname : canonicalStationName "北京市" "北京" = "北京-北京市" := by decide
  have hstation := hresolve sampleProvince (by decide) ⟨"BJ", "ABJ", "北京市", "北京", ""⟩
    (by decide) rfl
  rwa [hname] at hstation

omit [Sha256] [UnicodeTables] in
/-- Two searches find different stations for the public name of the sample cities. -/
theorem publicName_two_stations :
    ¬ ∀ provinces scopes, ValidCatalog provinces scopes → ∀ a b,
      @FoundBy sampleSha256 sampleUnicode "nmc" provinces scopes a →
      @FoundBy sampleSha256 sampleUnicode "nmc" provinces scopes b →
      a.unifiedUuid = b.unifiedUuid → a.providerStationId = b.providerStationId := by
  intro hclaim
  let catalog : ProviderCatalog :=
    ⟨[sampleProvince], sortProviderCities (sampleScopes "ABJ")⟩
  have hcatalog : providerCatalogForProvinces sampleScopes [sampleProvince] = .ok catalog := by
    decide +kernel
  have hany : SearchCandidate.station (@ProviderCity.station sampleSha256 "nmc"
      ⟨"BJ", "ABJ", "北京市", "北京", ""⟩) ∈
        @searchCandidates sampleSha256 sampleUnicode "nmc" catalog "" := by
    decide +kernel
  have hexact : SearchCandidate.station (@ProviderCity.station sampleSha256 "nmc"
      ⟨"BJ2", "ABJ", "北京市", "北京市", ""⟩) ∈
        @searchCandidates sampleSha256 sampleUnicode "nmc" catalog "北京市北京市" := by
    decide +kernel
  have hsame := hclaim _ _ validCatalog_sample _ _
    (@FoundBy.nationwide sampleSha256 sampleUnicode _ _ _ _ _ _ hcatalog hany)
    (@FoundBy.nationwide sampleSha256 sampleUnicode _ _ _ _ _ _ hcatalog hexact)
    (by decide +kernel)
  have hdiffer : "BJ" ≠ "BJ2" := by decide
  exact hdiffer hsame

end WeatherApp
