import WeatherApp.Engine.CandidatesLaw
import WeatherApp.Renderer.ExecuteSearch
import WeatherApp.Renderer.SearchLaw

/-!
# Searching page by page is searching at once

`execute_search_with` filters, merges and thins out one page at a time, and stops asking once it
has enough. Thinning out may be done page by page, and what is found later comes after what was
found before, so that the result is that of filtering, thinning out and cutting the whole list.

## Main definitions

* `serve`: an engine that answers from lists of candidates.
* `gathered`: the matching results of some candidates, each once.
* `searchAtOnce`: the search without pages.

## Main results

* `dedup_append_dedup`: thinning out page by page.
* `executeSearchLoop_spec`: the loop ends with the results of a part of the candidates, which is
  all of them or enough.
* `execute_search_eq_searchAtOnce`: the search is the search without pages.
-/

namespace WeatherApp

open Ranking

/-! ## What a reply lists -/

namespace FuzzyMatchStationsResponse

/-- The stations, cities and provinces of a reply. -/
def results (response : FuzzyMatchStationsResponse) :
    List StationRef × List City × List Province :=
  (response.stations, response.cities, response.provinces)

/-- The results in the order in which a limit counts them. -/
def listed (response : FuzzyMatchStationsResponse) : List (StationRef ⊕ City ⊕ Province) :=
  response.stations.map .inl ++
    (response.cities.map (fun city => .inr (.inl city)) ++
      response.provinces.map fun province => .inr (.inr province))

theorem results_ext {r r' : FuzzyMatchStationsResponse} (hstations : r.stations = r'.stations)
    (hcities : r.cities = r'.cities) (hprovinces : r.provinces = r'.provinces) :
    r.results = r'.results := by
  rw [results, results, hstations, hcities, hprovinces]

theorem listed_congr {r r' : FuzzyMatchStationsResponse} (h : r.results = r'.results) :
    r.listed = r'.listed := by
  simp only [results, Prod.mk.injEq] at h
  rw [listed, listed, h.1, h.2.1, h.2.2]

/-- The listed results say which results there are. -/
theorem results_eq_of_listed_eq {r r' : FuzzyMatchStationsResponse} (h : r.listed = r'.listed) :
    r.results = r'.results := by
  have hstations : ∀ r : FuzzyMatchStationsResponse,
      r.listed.filterMap Sum.getLeft? = r.stations := fun r => by
    simp [listed, List.filterMap_append, List.filterMap_map, Function.comp_def]
  have hcities : ∀ r : FuzzyMatchStationsResponse,
      (r.listed.filterMap Sum.getRight?).filterMap Sum.getLeft? = r.cities := fun r => by
    simp [listed, List.filterMap_append, List.filterMap_map, Function.comp_def]
  have hprovinces : ∀ r : FuzzyMatchStationsResponse,
      (r.listed.filterMap Sum.getRight?).filterMap Sum.getRight? = r.provinces := fun r => by
    simp [listed, List.filterMap_append, List.filterMap_map, Function.comp_def]
  apply results_ext
  · rw [← hstations r, ← hstations r', h]
  · rw [← hcities r, ← hcities r', h]
  · rw [← hprovinces r, ← hprovinces r', h]

theorem length_listed (r : FuzzyMatchStationsResponse) :
    r.listed.length = r.stations.length + r.cities.length + r.provinces.length := by
  simp only [listed, List.length_append, List.length_map, Nat.add_assoc]

end FuzzyMatchStationsResponse

open FuzzyMatchStationsResponse

/-- The limit counts stations first, then cities and then provinces. -/
theorem listed_truncateSearchResults (response : FuzzyMatchStationsResponse) (limit : ℕ) :
    (truncateSearchResults response limit).listed = response.listed.take limit := by
  have hcities : limit - (response.stations.take limit).length =
      limit - response.stations.length := by
    rw [List.length_take]
    omega
  have hprovinces : limit - ((response.stations.take limit).length +
      (response.cities.take (limit - response.stations.length)).length) =
        limit - response.stations.length - response.cities.length := by
    rw [List.length_take, List.length_take]
    omega
  simp only [listed, truncateSearchResults, hcities, hprovinces, List.take_append, List.map_take,
    List.length_map]

/-! ## Thinning out -/

theorem dedup_append_congr {r r' : FuzzyMatchStationsResponse} (h : r.results = r'.results)
    (page : FuzzyMatchStationsResponse) :
    (dedupSearchResults (appendSearchResults r page)).results =
      (dedupSearchResults (appendSearchResults r' page)).results := by
  obtain ⟨stations, cities, provinces, hasMore, nextOffset⟩ := r
  obtain ⟨stations', cities', provinces', hasMore', nextOffset'⟩ := r'
  simp only [results, Prod.mk.injEq] at h
  obtain ⟨rfl, rfl, rfl⟩ := h
  rfl

/-- The merged results may be thinned out before a page is merged with them. -/
theorem dedup_append_dedup (r page : FuzzyMatchStationsResponse) :
    (dedupSearchResults (appendSearchResults (dedupSearchResults r) page)).results =
      (dedupSearchResults (appendSearchResults r page)).results := by
  have hstations : retainFirst StationRef.publicKey
      (retainFirst StationRef.publicKey r.stations [] ++ page.stations) [] =
        retainFirst StationRef.publicKey (r.stations ++ page.stations) [] :=
    retainFirst_append_retainFirst _ _
  apply results_ext
  · exact hstations
  · show retainFirst City.location ((retainFirst City.location _ [] ++ page.cities).filter
        fun item => item.location ∉ List.map StationRef.location (retainFirst StationRef.publicKey
          (retainFirst StationRef.publicKey r.stations [] ++ page.stations) [])) [] =
      retainFirst City.location ((r.cities ++ page.cities).filter
        fun item => item.location ∉ List.map StationRef.location
          (retainFirst StationRef.publicKey (r.stations ++ page.stations) [])) []
    rw [hstations]
    set merged := retainFirst StationRef.publicKey (r.stations ++ page.stations) [] with hmerged
    set locations := merged.map StationRef.location with hlocations
    set known := (retainFirst StationRef.publicKey r.stations []).map StationRef.location
    -- the places of the earlier stations stay among the places of all stations
    have hknown : ∀ location ∈ known, location ∈ locations := by
      intro location hlocation
      rw [hlocations, hmerged, retainFirst_append, List.map_append]
      exact List.mem_append_left _ hlocation
    have hfilter : ((r.cities.filter fun item => item.location ∉ known).filter
        fun item => item.location ∉ locations) =
          r.cities.filter fun item => item.location ∉ locations := by
      rw [List.filter_filter]
      apply List.filter_congr
      intro item _
      by_cases hitem : item.location ∈ locations
      · simp [hitem]
      · have hfresh : item.location ∉ known := fun h => hitem (hknown _ h)
        simp [hitem, hfresh]
    rw [List.filter_append, List.filter_append,
      filter_retainFirst (fun a b h => by rw [h]), hfilter, retainFirst_append_retainFirst]
  · exact retainFirst_append_retainFirst _ _

/-! ## The results of some candidates -/

section Gathered

variable (filters : SearchFilters) (searchText : String)

/-- The reply that lists some candidates. -/
def wholeReply (candidates : List SearchCandidate) : FuzzyMatchStationsResponse :=
  { stations := candidateStations candidates
    cities := candidateCities candidates
    provinces := candidateProvinces candidates
    hasMore := false
    nextOffset := 0 }

/-- The candidates that the filters keep. -/
def keptResults (candidates : List SearchCandidate) : FuzzyMatchStationsResponse :=
  retainMatchingSearchResults (wholeReply candidates) filters searchText

/-- The candidates that the filters keep, each once. -/
def gathered (candidates : List SearchCandidate) : FuzzyMatchStationsResponse :=
  dedupSearchResults (keptResults filters searchText candidates)

variable {filters searchText}

theorem keptResults_append (candidates candidates' : List SearchCandidate) :
    keptResults filters searchText (candidates ++ candidates') =
      appendSearchResults (keptResults filters searchText candidates)
        (keptResults filters searchText candidates') := by
  simp only [keptResults, wholeReply, retainMatchingSearchResults, appendSearchResults,
    candidateStations_append, candidateCities, candidateProvinces, List.filterMap_append,
    List.filter_append]

/-- The results so far, merged with those of the next candidates. -/
theorem gathered_append (candidates candidates' : List SearchCandidate) :
    (dedupSearchResults (appendSearchResults (gathered filters searchText candidates)
      (keptResults filters searchText candidates'))).results =
        (gathered filters searchText (candidates ++ candidates')).results := by
  rw [gathered, gathered, dedup_append_dedup, keptResults_append]

/-- Results are only added. -/
theorem stations_gathered_prefix (candidates candidates' : List SearchCandidate) :
    (gathered filters searchText candidates).stations <+:
      (gathered filters searchText (candidates ++ candidates')).stations := by
  rw [gathered, gathered, keptResults_append]
  show retainFirst _ _ _ <+: retainFirst _ (_ ++ _) _
  rw [retainFirst_append]
  exact List.prefix_append _ _

theorem candidateStations_eq_nil {candidates : List SearchCandidate}
    (h : ∀ station, .station station ∉ candidates) : candidateStations candidates = [] := by
  rw [candidateStations, List.map_eq_nil_iff, Engine.pageStations, List.filterMap_eq_nil_iff]
  rintro (station | _ | _) hmem
  · exact absurd hmem (h station)
  · rfl
  · rfl

theorem candidateCities_eq_nil {candidates : List SearchCandidate}
    (h : ∀ city, .city city ∉ candidates) : candidateCities candidates = [] := by
  rw [candidateCities, List.filterMap_eq_nil_iff]
  rintro (_ | city | _) hmem
  · rfl
  · exact absurd hmem (h city)
  · rfl

theorem candidateProvinces_eq_nil {candidates : List SearchCandidate}
    (h : ∀ province, .province province ∉ candidates) : candidateProvinces candidates = [] := by
  rw [candidateProvinces, List.filterMap_eq_nil_iff]
  rintro (_ | _ | province) hmem
  · rfl
  · rfl
  · exact absurd hmem (h province)

/-- The candidates come by kind: stations, then cities, then provinces. -/
def ByKind (candidates : List SearchCandidate) : Prop :=
  candidates.Pairwise fun a b => candidateKindRank a ≤ candidateKindRank b

/-- Where a list of candidates is divided, at most one kind continues. -/
theorem ByKind.divided {candidates candidates' : List SearchCandidate}
    (h : ByKind (candidates ++ candidates')) :
    (candidateStations candidates' = [] ∧ candidateCities candidates' = []) ∨
      (candidateStations candidates' = [] ∧ candidateProvinces candidates = []) ∨
      (candidateCities candidates = [] ∧ candidateProvinces candidates = []) := by
  have hkinds := (List.pairwise_append.1 h).2.2
  by_cases hstation : ∃ station, SearchCandidate.station station ∈ candidates'
  · -- a station follows, so that there are only stations before
    obtain ⟨station, hstation⟩ := hstation
    right; right
    constructor
    · apply candidateCities_eq_nil
      intro city hcity
      exact absurd (hkinds _ hcity _ hstation) (by simp [candidateKindRank])
    · apply candidateProvinces_eq_nil
      intro province hprovince
      exact absurd (hkinds _ hprovince _ hstation) (by simp [candidateKindRank])
  have hstations : candidateStations candidates' = [] :=
    candidateStations_eq_nil fun station hmem => hstation ⟨station, hmem⟩
  by_cases hcity : ∃ city, SearchCandidate.city city ∈ candidates'
  · obtain ⟨city, hcity⟩ := hcity
    right; left
    refine ⟨hstations, ?_⟩
    apply candidateProvinces_eq_nil
    intro province hprovince
    exact absurd (hkinds _ hprovince _ hcity) (by simp [candidateKindRank])
  · left
    exact ⟨hstations, candidateCities_eq_nil fun city hmem => hcity ⟨city, hmem⟩⟩

/-- What is found later comes after what was found before. -/
theorem listed_gathered_prefix {candidates candidates' : List SearchCandidate}
    (h : ByKind (candidates ++ candidates')) :
    (gathered filters searchText candidates).listed <+:
      (gathered filters searchText (candidates ++ candidates')).listed := by
  set r := keptResults filters searchText candidates with hr
  set page := keptResults filters searchText candidates'
  have hmerged : gathered filters searchText (candidates ++ candidates') =
      dedupSearchResults (appendSearchResults r page) := by
    rw [gathered, keptResults_append]
  have hempty : ∀ {α : Type} {l : List α} (p : α → Bool), l = [] → l.filter p = [] :=
    fun p h => by rw [h, List.filter_nil]
  rw [hmerged, gathered, ← hr]
  rcases h.divided with ⟨hstations, hcities⟩ | ⟨hstations, hprovinces⟩ | ⟨hcities, hprovinces⟩
  · -- only provinces are added
    have hS : page.stations = [] := hempty _ hstations
    have hC : page.cities = [] := hempty _ hcities
    simp only [listed, dedupSearchResults, appendSearchResults, hS, hC, List.append_nil]
    rw [retainFirst_append, List.map_append]
    apply (List.prefix_append_right_inj _).2
    apply (List.prefix_append_right_inj _).2
    exact List.prefix_append _ _
  · -- cities are added, and no province has been found before
    have hS : page.stations = [] := hempty _ hstations
    have hP : r.provinces = [] := hempty _ hprovinces
    simp only [listed, dedupSearchResults, appendSearchResults, hS, hP, List.append_nil,
      List.nil_append, List.filter_append, retainFirst, List.map_nil]
    rw [retainFirst_append, List.map_append, List.append_assoc]
    apply (List.prefix_append_right_inj _).2
    exact List.prefix_append _ _
  · -- stations are added, and only stations have been found before
    have hC : r.cities = [] := hempty _ hcities
    have hP : r.provinces = [] := hempty _ hprovinces
    simp only [listed, dedupSearchResults, appendSearchResults, hC, hP, List.filter_nil,
      List.nil_append, retainFirst, List.map_nil]
    rw [retainFirst_append, List.map_append, List.append_assoc]
    apply (List.prefix_append_right_inj _).2
    exact List.nil_prefix

end Gathered

/-! ## The loop -/

/-- An engine that answers from lists of candidates, one for each query and province. -/
def serve (candidates : String → Option String → List SearchCandidate)
    (request : FuzzyMatchStationsRequest) : Except String FuzzyMatchStationsResponse :=
  fuzzyPage (candidates request.query request.province) request.pageOffset request.pageSize

/-- The reply to a request for a page. -/
theorem fuzzyPage_eq {candidates : List SearchCandidate} {offset pageSize : ℕ}
    (hlength : candidates.length ≤ maxRpcPageOffset) (hpos : 0 < pageSize)
    (hsize : pageSize ≤ maxRpcPageSize) (hinside : offset ≤ candidates.length) :
    fuzzyPage candidates offset pageSize =
      .ok { wholeReply ((candidates.drop offset).take pageSize) with
        hasMore := offset + pageSize < candidates.length
        nextOffset := min (offset + pageSize) candidates.length } := by
  simp only [fuzzyPage, normalizePagination_ok (hinside.trans hlength) hpos hsize, Except.map,
    paginate_eq hlength hinside, wholeReply]

/-- A cursor that asks for the next page: the first page, or one of the greatest size. -/
def Scans (length pageSize : ℕ) (cursor : PageCursor) : Prop :=
  cursor = .default ∨ (1 ≤ cursor.requestCount ∧ pageSize = maxRpcPageSize ∧
    (cursor.requestCount - 1) * maxRpcPageSize < cursor.offset ∧ cursor.offset < length)

theorem Scans.inside {length pageSize : ℕ} {cursor : PageCursor}
    (h : Scans length pageSize cursor) : cursor.offset ≤ length := by
  rcases h with rfl | ⟨-, -, -, hinside⟩
  · exact Nat.zero_le _
  · exact hinside.le

/-- The requests are enough for the greatest list. -/
theorem Scans.requestCount_lt {length pageSize : ℕ} {cursor : PageCursor}
    (h : Scans length pageSize cursor) (hlength : length ≤ maxRpcPageOffset) :
    cursor.requestCount < maxPaginatedRequests := by
  rcases h with rfl | ⟨-, -, hbefore, hinside⟩
  · decide
  · simp only [maxPaginatedRequests, maxRpcPageSize, maxRpcPageOffset] at *
    omega

/-- After a page the cursor asks for the next one. -/
theorem Scans.next {length pageSize : ℕ} {cursor : PageCursor}
    (h : Scans length pageSize cursor) (hpos : 0 < pageSize)
    (hmore : cursor.offset + pageSize < length) :
    Scans length maxRpcPageSize ⟨cursor.offset + pageSize, cursor.requestCount + 1⟩ := by
  right
  rcases h with rfl | ⟨hcount, rfl, hbefore, -⟩
  · refine ⟨Nat.le_add_left _ _, rfl, ?_, hmore⟩
    simpa [PageCursor.default] using hpos
  · refine ⟨Nat.le_add_left _ _, rfl, ?_, hmore⟩
    have hsplit : cursor.requestCount * maxRpcPageSize =
        (cursor.requestCount - 1) * maxRpcPageSize + maxRpcPageSize := by
      rw [← Nat.succ_mul, Nat.succ_eq_add_one, Nat.sub_add_cancel hcount]
    show (cursor.requestCount + 1 - 1) * maxRpcPageSize < cursor.offset + maxRpcPageSize
    rw [Nat.add_sub_cancel, hsplit]
    exact Nat.add_lt_add_right hbefore _

section Loop

variable {candidates : String → Option String → List SearchCandidate} {filters : SearchFilters}
  {searchText : String}

theorem searchTargetReached_congr {r r' : FuzzyMatchStationsResponse} (h : r.results = r'.results)
    (selector : Option ℕ) (target : ℕ) :
    searchTargetReached r selector target = searchTargetReached r' selector target := by
  simp only [results, Prod.mk.injEq] at h
  rw [searchTargetReached, searchTargetReached, h.1, h.2.1, h.2.2]

/-- The loop ends with the results of the first candidates, which are all of them or enough. -/
theorem executeSearchLoop_spec (selector : Option ℕ) (target : ℕ) {served : List SearchCandidate}
    (hserved : candidates (providerQueryFromSearchText searchText) filters.province = served)
    (hlength : served.length ≤ maxRpcPageOffset) {fuel pageSize : ℕ} {cursor : PageCursor}
    {combined : FuzzyMatchStationsResponse}
    (hfuel : cursor.requestCount + fuel = maxPaginatedRequests + 1) (hpos : 0 < pageSize)
    (hsize : pageSize ≤ maxRpcPageSize) (hscans : Scans served.length pageSize cursor)
    (hcombined : combined.results =
      (gathered filters searchText (served.take cursor.offset)).results) :
    ∃ stop response,
      executeSearchLoop (serve candidates) filters searchText selector target fuel cursor pageSize
          combined = some (.ok response) ∧
        response.results = (gathered filters searchText (served.take stop)).results ∧
        (served.length ≤ stop ∨ searchTargetReached
          (gathered filters searchText (served.take stop)) selector target = true) := by
  induction fuel generalizing cursor pageSize combined with
  | zero =>
    have hcount := hscans.requestCount_lt hlength
    omega
  | succ fuel ih =>
    obtain ⟨offset, count⟩ := cursor
    have hcount := hscans.requestCount_lt hlength
    have hinside := hscans.inside
    have hrest : count + 1 + fuel = maxPaginatedRequests + 1 := by
      rw [← hfuel, Nat.add_assoc, Nat.add_comm 1 fuel]
    unfold executeSearchLoop
    rw [request_ok hpos hsize (hinside.trans hlength) hcount]
    simp only [serve, hserved, fuzzyPage_eq hlength hpos hsize hinside]
    -- the results of the candidates up to the end of the page
    set merged : FuzzyMatchStationsResponse :=
      { dedupSearchResults (appendSearchResults combined _) with
        hasMore := _
        nextOffset := _ } with hmerged
    have hnext : merged.results =
        (gathered filters searchText (served.take (offset + pageSize))).results := by
      rw [List.take_add, ← gathered_append]
      exact dedup_append_congr hcombined _
    rw [advance_eq hlength hpos]
    by_cases hmore : offset + pageSize < served.length
    · simp only [hmore, if_true, Bool.not_true, Bool.or_false]
      by_cases hreached : searchTargetReached merged selector target = true
      · rw [if_pos hreached]
        rw [searchTargetReached_congr hnext] at hreached
        exact ⟨offset + pageSize, merged, rfl, hnext, .inr hreached⟩
      · rw [if_neg hreached]
        exact ih hrest maxRpcPageSize_pos le_rfl (hscans.next hpos hmore) hnext
    · simp only [hmore, if_false, Bool.not_false, Bool.or_true, if_true]
      exact ⟨offset + pageSize, merged, rfl, hnext, .inl (not_lt.1 hmore)⟩

end Loop

/-! ## The search -/

section Search

variable {filters : SearchFilters} {selector : Option ℕ} {limit : ℕ}

theorem finalizeSearchResults_congr {r r' : FuzzyMatchStationsResponse}
    (h : r.results = r'.results) :
    (finalizeSearchResults r selector limit).results =
      (finalizeSearchResults r' selector limit).results := by
  obtain ⟨stations, cities, provinces, hasMore, nextOffset⟩ := r
  obtain ⟨stations', cities', provinces', hasMore', nextOffset'⟩ := r'
  simp only [results, Prod.mk.injEq] at h
  obtain ⟨rfl, rfl, rfl⟩ := h
  cases selector with
  | none => rfl
  | some selector =>
    simp only [finalizeSearchResults]
    split_ifs
    · cases stations[selector - 1]? with
      | none => rfl
      | some selected => rfl
    · rfl

/-- A selector picks its station, if there are so many. -/
theorem finalizeSearchResults_some {response : FuzzyMatchStationsResponse} {index : ℕ}
    {selected : StationRef} (hpos : 0 < index)
    (hselected : response.stations[index - 1]? = some selected) :
    (finalizeSearchResults response (some index) limit).results = ([selected], [], []) := by
  simp only [finalizeSearchResults, gt_iff_lt, if_pos hpos, hselected, results]

/-- Saturating does not make enough of too little. -/
theorem saturatingAdd_ge_iff {a b c target : ℕ} (htarget : target ≤ usizeMax) :
    saturatingAdd (saturatingAdd a b) c ≥ target ↔ a + b + c ≥ target := by
  simp only [saturatingAdd]
  omega

/-- Enough stations of a part of the candidates, for a selector. -/
theorem finalize_gathered_selector {searchText : String}
    {candidates candidates' : List SearchCandidate} {index : ℕ} (hpos : 0 < index)
    (hreached : index ≤ (gathered filters searchText candidates).stations.length) :
    (finalizeSearchResults (gathered filters searchText candidates) (some index) limit).results =
      (finalizeSearchResults (gathered filters searchText (candidates ++ candidates'))
        (some index) limit).results := by
  have hprefix : (gathered filters searchText candidates).stations <+:
      (gathered filters searchText (candidates ++ candidates')).stations :=
    stations_gathered_prefix candidates candidates'
  obtain ⟨rest, hrest⟩ := hprefix
  have hinside : index - 1 < (gathered filters searchText candidates).stations.length := by omega
  have hselected := List.getElem?_eq_getElem hinside
  rw [finalizeSearchResults_some hpos hselected, finalizeSearchResults_some hpos]
  rw [← hrest, List.getElem?_append_left hinside, hselected]

/-- Enough results of a part of the candidates, for a limit. -/
theorem finalize_gathered_limit {searchText : String}
    {candidates candidates' : List SearchCandidate} (hkinds : ByKind (candidates ++ candidates'))
    (hreached : limit ≤ (gathered filters searchText candidates).listed.length) :
    (finalizeSearchResults (gathered filters searchText candidates) none limit).results =
      (finalizeSearchResults (gathered filters searchText (candidates ++ candidates'))
        none limit).results := by
  have hprefix : (gathered filters searchText candidates).listed <+:
      (gathered filters searchText (candidates ++ candidates')).listed :=
    listed_gathered_prefix hkinds
  obtain ⟨rest, hrest⟩ := hprefix
  apply results_eq_of_listed_eq
  show (truncateSearchResults _ limit).listed = (truncateSearchResults _ limit).listed
  rw [listed_truncateSearchResults, listed_truncateSearchResults, ← hrest,
    List.take_append_of_le_length hreached]

/-- Filter, thin out and cut all candidates at once. -/
def searchAtOnce (candidates : String → Option String → List SearchCandidate)
    (filters : SearchFilters) (limit : UInt32) : FuzzyMatchStationsResponse :=
  let (searchText, selector) := splitResultSelector (searchTextFromFilters filters)
  if selector.getD limit.toNat = 0 then .default
  else
    finalizeSearchResults (gathered filters searchText
      (candidates (providerQueryFromSearchText searchText) filters.province)) selector limit.toNat

theorem parseUsize_le {value : String} {index : ℕ} (h : parseUsize value = some index) :
    index ≤ usizeMax := by
  simp only [parseUsize] at h
  split_ifs at h with hlegal
  cases h
  exact hlegal.2.2

/-- A selector is positive, and fits its type. -/
theorem splitResultSelector_some {value searchText : String} {index : ℕ}
    (h : splitResultSelector value = (searchText, some index)) :
    0 < index ∧ index ≤ usizeMax := by
  unfold splitResultSelector at h
  split at h
  · cases h
  next start suffix _ =>
    split at h
    next parsed hparsed =>
      split_ifs at h with hpos
      · cases h
        exact ⟨hpos, parseUsize_le hparsed⟩
      · cases h
    · cases h

/-- What there is to find fits its type. -/
theorem target_le {value searchText : String} {selector : Option ℕ}
    (h : splitResultSelector value = (searchText, selector)) (limit : UInt32) :
    selector.getD limit.toNat ≤ usizeMax := by
  cases selector with
  | none =>
    have hlimit := limit.toNat_lt
    have hmax : (2 : ℕ) ^ 32 ≤ usizeMax := by decide
    exact (hlimit.trans_le hmax).le
  | some index => exact (splitResultSelector_some h).2

/-- The first page is of a legal size. -/
theorem pageSizeForTarget_legal (target : ℕ) :
    0 < pageSizeForTarget target ∧ pageSizeForTarget target ≤ maxRpcPageSize :=
  ⟨Nat.lt_of_lt_of_le Nat.zero_lt_one (le_max_left _ _),
    max_le (by decide) (min_le_right _ _)⟩

variable {candidates : String → Option String → List SearchCandidate} {searchText : String}

/-- The search ends with the results of the first candidates, which are all of them or enough. -/
theorem executeSearchWith_spec
    (hlength : ∀ query province, (candidates query province).length ≤ maxRpcPageOffset)
    (limit : UInt32)
    (hsplit : splitResultSelector (searchTextFromFilters filters) = (searchText, selector))
    (htarget : selector.getD limit.toNat ≠ 0) :
    ∃ stop response, executeSearchWith (serve candidates) filters limit = some (.ok response) ∧
      response.results = (finalizeSearchResults (gathered filters searchText
        ((candidates (providerQueryFromSearchText searchText) filters.province).take stop))
          selector limit.toNat).results ∧
      ((candidates (providerQueryFromSearchText searchText) filters.province).length ≤ stop ∨
        searchTargetReached (gathered filters searchText
          ((candidates (providerQueryFromSearchText searchText) filters.province).take stop))
            selector (selector.getD limit.toNat) = true) := by
  set served := candidates (providerQueryFromSearchText searchText) filters.province with hserved
  set target := selector.getD limit.toNat with htargetEq
  have hcount : PageCursor.default.requestCount + (maxPaginatedRequests + 1) =
      maxPaginatedRequests + 1 := zero_add _
  have hfirst : FuzzyMatchStationsResponse.default.results =
      (gathered filters searchText (served.take PageCursor.default.offset)).results := by
    rw [show PageCursor.default.offset = 0 from rfl, List.take_zero]
    rfl
  obtain ⟨hpos, hsize⟩ := pageSizeForTarget_legal target
  obtain ⟨stop, response, hloop, hresponse, hend⟩ := executeSearchLoop_spec selector target
    hserved.symm (hlength _ _) hcount hpos hsize (.inl rfl) hfirst
  refine ⟨stop, finalizeSearchResults response selector limit.toNat, ?_,
    finalizeSearchResults_congr hresponse, hend⟩
  simp only [executeSearchWith, hsplit, ← htargetEq, if_neg htarget, hloop, Option.map_some,
    Except.map]

/-- The search page by page finds what the search at once finds, for each list of candidates by
kinds that can be paged through. -/
theorem execute_search_eq_searchAtOnce
    (hkinds : ∀ query province, ByKind (candidates query province))
    (hlength : ∀ query province, (candidates query province).length ≤ maxRpcPageOffset)
    (filters : SearchFilters) (limit : UInt32) :
    ∃ response, executeSearchWith (serve candidates) filters limit = some (.ok response) ∧
      response.results = (searchAtOnce candidates filters limit).results := by
  rcases hsplit : splitResultSelector (searchTextFromFilters filters) with ⟨searchText, selector⟩
  by_cases hzero : selector.getD limit.toNat = 0
  · refine ⟨.default, ?_, ?_⟩
    · simp only [executeSearchWith, hsplit, if_pos hzero]
    · simp only [searchAtOnce, hsplit, if_pos hzero]
  obtain ⟨stop, response, hsearch, hresponse, hend⟩ :=
    executeSearchWith_spec hlength limit hsplit hzero
  refine ⟨response, hsearch, ?_⟩
  simp only [searchAtOnce, hsplit, if_neg hzero]
  rw [hresponse]
  set served := candidates (providerQueryFromSearchText searchText) filters.province
  have hall : served.take stop ++ served.drop stop = served := List.take_append_drop stop served
  rcases hend with hend | hreached
  · rw [List.take_of_length_le hend]
  · cases selector with
    | some index =>
      -- the station that the selector picks has been found
      have hindex : index ≤ (gathered filters searchText (served.take stop)).stations.length := by
        simpa [searchTargetReached] using hreached
      rw [finalize_gathered_selector (splitResultSelector_some hsplit).1 hindex, hall]
    | none =>
      -- the results up to the limit have been found
      have hlimit : limit.toNat ≤
          (gathered filters searchText (served.take stop)).listed.length := by
        rw [length_listed]
        simp only [searchTargetReached, Option.isSome_none, Bool.false_eq_true, if_false,
          Option.getD_none, decide_eq_true_eq] at hreached
        exact (saturatingAdd_ge_iff (target_le hsplit limit)).1 hreached
      have hkind : ByKind (served.take stop ++ served.drop stop) := by
        rw [hall]
        exact hkinds _ _
      rw [finalize_gathered_limit hkind hlimit, hall]

end Search

/-! ## Searches of a catalog -/

section Catalog

variable [Sha256] [UnicodeTables] (providerName query : String) (catalog : ProviderCatalog)

/-- The engine offers stations, then cities, then provinces. -/
theorem searchCandidates_byKind : ByKind (searchCandidates providerName catalog query) := by
  have hsorted := pairwise_sortBy (candidateCmp_ne_gt query)
    (matchingCandidates providerName catalog query)
  apply (hsorted.sublist (retainFirst_sublist _ [])).imp
  intro a b hab
  rcases Prod.Lex.toLex_le_toLex.1 hab with hlt | ⟨heq, -⟩
  · exact hlt.le
  · exact heq.le

/-- The engine offers at most two candidates for each city and one for each province. -/
theorem length_searchCandidates_le :
    (searchCandidates providerName catalog query).length ≤
      2 * catalog.cities.length + catalog.provinces.length := by
  have hkept : (searchCandidates providerName catalog query).length ≤
      (sortBy (candidateCmp query) (matchingCandidates providerName catalog query)).length :=
    (retainFirst_sublist _ []).length_le
  have hsorted : (sortBy (candidateCmp query)
      (matchingCandidates providerName catalog query)).length =
        (matchingCandidates providerName catalog query).length :=
    (List.perm_insertionSort _ _).length_eq
  have hcities := List.length_filter_le (fun city => cityMatches city query) catalog.cities
  have hprovinces :=
    List.length_filter_le (fun province => provinceMatchesQuery province query) catalog.provinces
  rw [hsorted] at hkept
  refine hkept.trans ?_
  simp only [matchingCandidates, List.length_append, List.length_flatMap, List.length_cons,
    List.length_nil, List.map_const', List.sum_replicate, List.length_map, smul_eq_mul]
  omega

end Catalog

/-- A search of the sample index by city name, for the first result. -/
theorem execute_search_sample :
    ∃ response, executeSearchWith (serve fun query _ =>
        @searchCandidates sampleSha256 sampleUnicode "nmc" sampleIndex query)
          ⟨some "北京", none, none, none⟩ 1 = some (.ok response) ∧
      response.results = (searchAtOnce (fun query _ =>
        @searchCandidates sampleSha256 sampleUnicode "nmc" sampleIndex query)
          ⟨some "北京", none, none, none⟩ 1).results :=
  execute_search_eq_searchAtOnce
    (fun query _ => @searchCandidates_byKind sampleSha256 sampleUnicode "nmc" query sampleIndex)
    (fun query _ => (@length_searchCandidates_le sampleSha256 sampleUnicode "nmc" query
      sampleIndex).trans (by decide)) _ 1

end WeatherApp
