import WeatherApp.Renderer.ExecuteSearchLaw

/-!
# Selectors

A selector `.k` at the end of a search text picks the `k`-th station that the search finds without
it. The search text is the text of one of the four filters. Of the filters only the station's is
compared without the selector: with the city's or the province's text a selector is compared as a
part of the text, and no station matches both.

## Main definitions

* `SearchField`: the filter that the search text is taken from.
* `withSelector`: a text with a selector.

## Main results

* `splitResultSelector_withSelector`: a selector is found where it was appended.
* `selector_picks_iff`: for which filters the selectors pick the stations of the search.
-/

namespace WeatherApp

open Ranking FuzzyMatchStationsResponse

/-! ## Texts with selectors -/

/-- A text with a selector. -/
def withSelector (text : String) (k : ℕ) : String := text ++ "." ++ toString k

theorem toList_withSelector (text : String) (k : ℕ) :
    (withSelector text k).toList = text.toList ++ '.' :: Nat.toDigits 10 k := by
  simp [withSelector]

theorem withSelector_ne (text : String) (k : ℕ) : withSelector text k ≠ text := by
  intro h
  have hlength := congrArg (fun value => value.toList.length) h
  simp [toList_withSelector] at hlength

/-- The last separator is the one before a text that has none. -/
theorem rsplitOnce_append {value front back : String} {separator : Char}
    (hvalue : value.toList = front.toList ++ separator :: back.toList)
    (hback : separator ∉ back.toList) : rsplitOnce value separator = some (front, back) := by
  have hreversed : value.toList.reverse =
      back.toList.reverse ++ separator :: front.toList.reverse := by
    rw [hvalue, List.reverse_append, List.reverse_cons, List.append_assoc]
    rfl
  have hother : ∀ c ∈ back.toList.reverse, decide (c ≠ separator) = true := by
    intro c hc
    apply decide_eq_true
    rintro rfl
    exact hback (List.mem_reverse.1 hc)
  have htake : (back.toList.reverse ++ separator :: front.toList.reverse).takeWhile
      (· ≠ separator) = back.toList.reverse := by
    rw [List.takeWhile_append_of_pos hother, List.takeWhile_cons_of_neg (by simp),
      List.append_nil]
  have hdrop : (back.toList.reverse ++ separator :: front.toList.reverse).dropWhile
      (· ≠ separator) = separator :: front.toList.reverse := by
    rw [List.dropWhile_append_of_pos hother, List.dropWhile_cons_of_neg (by simp)]
  have hmem : separator ∈ back.toList.reverse ++ separator :: front.toList.reverse := by simp
  simp only [rsplitOnce, hreversed, if_pos hmem, htake, hdrop, List.tail_cons,
    List.reverse_reverse, String.ofList_toList]

theorem not_mem_toDigits {k : ℕ} {c : Char} (hc : c.isDigit = false) :
    c ∉ Nat.toDigits 10 k := by
  intro hmem
  have hdigit := Nat.isDigit_of_mem_toDigits (by decide) (by decide) hmem
  rw [hc] at hdigit
  cases hdigit

theorem dropPlus_eq {chars : List Char} (h : '+' ∉ chars) : dropPlus chars = chars := by
  unfold dropPlus
  split
  · exact absurd List.mem_cons_self h
  · rfl

/-- A number is read back from its decimal digits. -/
theorem parseUsize_toString {k : ℕ} (hk : k ≤ usizeMax) : parseUsize (toString k) = some k := by
  have hlist : (toString k).toList = Nat.toDigits 10 k := Nat.toList_repr
  have hall : (Nat.toDigits 10 k).all Char.isDigit = true :=
    List.all_eq_true.2 fun c hc => Nat.isDigit_of_mem_toDigits (by decide) (by decide) hc
  have hsigned : dropPlus (Nat.toDigits 10 k) = Nat.toDigits 10 k :=
    dropPlus_eq (not_mem_toDigits (by decide))
  simp only [parseUsize, hlist, hsigned]
  rw [if_pos ⟨Nat.toDigits_ne_nil, hall, by rwa [Nat.ofDigitChars_ten_toDigits]⟩,
    Nat.ofDigitChars_ten_toDigits]

/-- A selector is found where it was appended. -/
theorem splitResultSelector_withSelector (text : String) {k : ℕ} (hpos : 0 < k)
    (hk : k ≤ usizeMax) : splitResultSelector (withSelector text k) = (text, some k) := by
  have hlist : (toString k).toList = Nat.toDigits 10 k := Nat.toList_repr
  have hsplit : rsplitOnce (withSelector text k) '.' = some (text, toString k) := by
    apply rsplitOnce_append
    · rw [toList_withSelector, hlist]
    · rw [hlist]
      exact not_mem_toDigits (by decide)
  simp only [splitResultSelector, hsplit, parseUsize_toString hk, gt_iff_lt, if_pos hpos]

/-! ## Fields -/

/-- A filter. -/
inductive SearchField where
  | query
  | city
  | station
  | province
  deriving DecidableEq, Repr

/-- The filters with another text for one of them. -/
def SearchFilters.set (filters : SearchFilters) : SearchField → String → SearchFilters
  | .query, text => { filters with query := some text }
  | .city, text => { filters with city := some text }
  | .station, text => { filters with station := some text }
  | .province, text => { filters with province := some text }

/-- The search text is the text of this filter. -/
def SearchFilters.SearchesBy (filters : SearchFilters) : SearchField → String → Prop
  | .station, text => filters.station = some text
  | .city, text => filters.station = none ∧ filters.city = some text
  | .query, text => filters.station = none ∧ filters.city = none ∧ filters.query = some text
  | .province, text => filters.station = none ∧ filters.city = none ∧ filters.query = none ∧
      filters.province = some text

section Fields

variable {filters : SearchFilters} {field : SearchField} {text : String} {item : StationRef} {k : ℕ}

theorem SearchFilters.SearchesBy.searchText (h : filters.SearchesBy field text) :
    searchTextFromFilters filters = text := by
  obtain ⟨query, province, city, station⟩ := filters
  cases field <;> simp_all [SearchFilters.SearchesBy, searchTextFromFilters]

theorem SearchFilters.SearchesBy.set (h : filters.SearchesBy field text) (other : String) :
    (filters.set field other).SearchesBy field other := by
  cases field with
  | query => exact ⟨h.1, h.2.1, rfl⟩
  | city => exact ⟨h.1, rfl⟩
  | station => exact rfl
  | province => exact ⟨h.1, h.2.1, h.2.2.1, rfl⟩

/-- The name of a station is compared with the text before a selector. -/
theorem stationNameMatches_withSelector (hplain : splitResultSelector text = (text, none))
    (hpos : 0 < k) (hk : k ≤ usizeMax) :
    stationNameMatches item (withSelector text k) = stationNameMatches item text := by
  simp only [stationNameMatches, splitResultSelector_withSelector text hpos hk, hplain]

/-- A selector on the query or on the station's name does not change which stations match. -/
theorem keepsStation_set (hsearch : filters.SearchesBy field text)
    (hplain : splitResultSelector text = (text, none)) (hpos : 0 < k) (hk : k ≤ usizeMax)
    (hfield : field = .query ∨ field = .station) :
    keepsStation (filters.set field (withSelector text k)) text item =
      keepsStation filters text item := by
  rcases hfield with rfl | rfl
  · rfl
  · have hstation : filters.station = some text := hsearch
    simp only [keepsStation, SearchFilters.set, hstation, Option.all_some,
      stationNameMatches_withSelector hplain hpos hk]

/-- No province has both names. -/
theorem shortRegionName_withSelector_ne : shortRegionName (withSelector text k) ≠ text := by
  intro h
  obtain ⟨suffix, hsuffix, hvalue⟩ := toList_shortRegionName (withSelector text k)
  rw [h, toList_withSelector, List.append_cancel_left_eq] at hvalue
  -- no administrative suffix starts with the separator of selectors
  have hstarts : ∀ suffix ∈ ["市", "省", "自治区", "特别行政区", ""],
      suffix.toList.head? ≠ some '.' := by decide
  apply hstarts suffix hsuffix
  rw [← hvalue]
  rfl

/-- A station does not match a province with a selector and without it. -/
theorem stationProvinceMatches_withSelector (h : stationProvinceMatches item text = true) :
    stationProvinceMatches item (withSelector text k) = false := by
  have hlonger : (withSelector text k).toList.length = text.toList.length +
      ((Nat.toDigits 10 k).length + 1) := by
    rw [toList_withSelector, List.length_append, List.length_cons]
  have hshort := (shortRegionName_isPrefixOf item.province).length_le
  rw [stationProvinceMatches, Bool.or_eq_true, decide_eq_true_eq, decide_eq_true_eq] at h
  rw [stationProvinceMatches, Bool.or_eq_false_iff, decide_eq_false_iff_not,
    decide_eq_false_iff_not]
  rcases h with h | h
  · constructor
    · intro hother
      exact withSelector_ne text k (hother.symm.trans h)
    · intro hother
      rw [hother, h] at hshort
      omega
  · constructor
    · intro hother
      rw [hother] at h
      exact shortRegionName_withSelector_ne h
    · intro hother
      exact withSelector_ne text k (hother.symm.trans h)

/-- With a selector, the city's and the province's text match other stations than without. -/
theorem keepsStation_set_eq_false (hsearch : filters.SearchesBy field text)
    (hfield : field = .city ∨ field = .province) {searchText searchText' : String}
    (hkeeps : keepsStation filters searchText item = true) :
    keepsStation (filters.set field (withSelector text k)) searchText' item = false := by
  rcases hfield with rfl | rfl
  · have hcity : item.city = text := by
      have hfilter := hsearch.2
      simp only [keepsStation, Bool.and_eq_true, hfilter, Option.all_some, decide_eq_true_eq]
        at hkeeps
      exact hkeeps.1.1.2
    have hother : item.city ≠ withSelector text k := hcity ▸ (withSelector_ne text k).symm
    simp only [keepsStation, SearchFilters.set, Option.all_some, hother, decide_false,
      Bool.and_false, Bool.false_and]
  · have hprovince : stationProvinceMatches item text = true := by
      have hfilter := hsearch.2.2.2
      simp only [keepsStation, Bool.and_eq_true, hfilter, Option.all_some] at hkeeps
      exact hkeeps.1.1.1
    simp only [keepsStation, SearchFilters.set, Option.all_some,
      stationProvinceMatches_withSelector hprovince, Bool.false_and]

end Fields

/-! ## What a search finds -/

section Found

variable {candidates : String → Option String → List SearchCandidate} {filters : SearchFilters}
  {text : String}

/-- Each candidate is of one kind. -/
theorem length_candidates (l : List SearchCandidate) :
    (candidateStations l).length + (candidateCities l).length + (candidateProvinces l).length =
      l.length := by
  induction l with
  | nil => rfl
  | cons candidate l ih =>
    have hsplit := candidateStations_append [candidate] l
    cases candidate with
    | station station =>
      show (candidateStations ([.station station] ++ l)).length + (candidateCities l).length +
        (candidateProvinces l).length = l.length + 1
      rw [hsplit, List.length_append, ← ih]
      show 1 + _ + _ + _ = _
      omega
    | city city =>
      show (candidateStations l).length + ((candidateCities l).length + 1) +
        (candidateProvinces l).length = l.length + 1
      omega
    | province province =>
      show (candidateStations l).length + (candidateCities l).length +
        ((candidateProvinces l).length + 1) = l.length + 1
      omega

/-- A search finds at most its candidates. -/
theorem length_listed_gathered_le (filters : SearchFilters) (text : String)
    (l : List SearchCandidate) :
    (gathered filters text l).listed.length ≤ l.length := by
  have hstations : (gathered filters text l).stations.length ≤ (candidateStations l).length :=
    ((retainFirst_sublist _ []).trans List.filter_sublist).length_le
  have hcities : (gathered filters text l).cities.length ≤ (candidateCities l).length :=
    ((retainFirst_sublist _ []).trans (List.filter_sublist.trans List.filter_sublist)).length_le
  have hprovinces : (gathered filters text l).provinces.length ≤ (candidateProvinces l).length :=
    ((retainFirst_sublist _ []).trans List.filter_sublist).length_le
  rw [length_listed, ← length_candidates l]
  omega

/-- The filters keep what is found. -/
theorem keepsStation_of_mem_gathered {l : List SearchCandidate} {item : StationRef}
    (h : item ∈ (gathered filters text l).stations) :
    item ∈ candidateStations l ∧ keepsStation filters text item = true :=
  List.mem_filter.1 ((retainFirst_sublist _ []).subset h)

/-- No station is found when no candidate matches. -/
theorem stations_gathered_eq_nil_iff {l : List SearchCandidate} :
    (gathered filters text l).stations = [] ↔
      ∀ station ∈ candidateStations l, keepsStation filters text station = false := by
  show retainFirst _ (List.filter _ _) _ = [] ↔ _
  rw [retainFirst_eq_nil_iff, List.filter_eq_nil_iff]
  simp only [Bool.not_eq_true]
  rfl

theorem mem_finalizeSearchResults {response : FuzzyMatchStationsResponse} {selector : Option ℕ}
    {limit : ℕ} {item : StationRef}
    (h : item ∈ (finalizeSearchResults response selector limit).stations) :
    item ∈ response.stations := by
  have htruncate : item ∈ (truncateSearchResults response limit).stations →
      item ∈ response.stations := fun hmem => List.mem_of_mem_take hmem
  cases selector with
  | none => exact htruncate h
  | some index =>
    simp only [finalizeSearchResults] at h
    split_ifs at h
    · cases hselected : response.stations[index - 1]? with
      | none =>
        rw [hselected] at h
        exact htruncate h
      | some selected =>
        rw [hselected] at h
        rw [List.mem_singleton.1 h]
        exact List.mem_of_getElem? hselected
    · exact htruncate h

/-- `u32::MAX`, a limit that no search reaches. -/
def u32Max : UInt32 := 4294967295

/-- A search without a selector and without a limit finds all that matches. -/
theorem executeSearchWith_unlimited
    (hlength : ∀ query province, (candidates query province).length ≤ maxRpcPageOffset)
    (hsplit : splitResultSelector (searchTextFromFilters filters) = (text, none)) :
    ∃ found, executeSearchWith (serve candidates) filters u32Max = some (.ok found) ∧
      found.results = (gathered filters text
        (candidates (providerQueryFromSearchText text) filters.province)).results := by
  have htarget : (none : Option ℕ).getD u32Max.toNat ≠ 0 := by decide
  obtain ⟨stop, found, hsearch, hfound, hend⟩ := executeSearchWith_spec hlength u32Max hsplit htarget
  refine ⟨found, hsearch, ?_⟩
  set served := candidates (providerQueryFromSearchText text) filters.province with hserved
  have hfew : ∀ l : List SearchCandidate, l.length ≤ served.length →
      (gathered filters text l).listed.length < u32Max.toNat := by
    intro l hl
    have hall := (length_listed_gathered_le filters text l).trans
      (hl.trans (hlength _ _))
    exact hall.trans_lt (by decide)
  have hdone : served.length ≤ stop := by
    refine hend.resolve_right fun hreached => ?_
    have hcount := hfew (served.take stop) (List.length_take_le' _ _)
    simp only [searchTargetReached, Option.isSome_none, Bool.false_eq_true, if_false,
      Option.getD_none, decide_eq_true_eq] at hreached
    rw [length_listed] at hcount
    exact absurd ((saturatingAdd_ge_iff (by decide)).1 hreached) (not_le.2 hcount)
  rw [hfound, List.take_of_length_le hdone]
  apply results_eq_of_listed_eq
  show (truncateSearchResults _ _).listed = _
  rw [listed_truncateSearchResults, List.take_of_length_le (hfew served le_rfl).le]

/-- A search with a selector returns the station that the selector picks. -/
theorem executeSearchWith_selected
    (hlength : ∀ query province, (candidates query province).length ≤ maxRpcPageOffset) {k : ℕ}
    (hsplit : splitResultSelector (searchTextFromFilters filters) = (text, some k))
    {selected : StationRef} (hselected : (gathered filters text
      (candidates (providerQueryFromSearchText text) filters.province)).stations[k - 1]? =
        some selected) (limit : UInt32) :
    ∃ response, executeSearchWith (serve candidates) filters limit = some (.ok response) ∧
      response.results = ([selected], [], []) := by
  have hpos := (splitResultSelector_some hsplit).1
  obtain ⟨stop, response, hsearch, hresponse, hend⟩ :=
    executeSearchWith_spec hlength limit hsplit hpos.ne'
  refine ⟨response, hsearch, ?_⟩
  rw [hresponse]
  set served := candidates (providerQueryFromSearchText text) filters.province
  rcases hend with hend | hreached
  · rw [List.take_of_length_le hend]
    exact finalizeSearchResults_some hpos hselected
  · have hindex : k ≤ (gathered filters text (served.take stop)).stations.length := by
      simpa [searchTargetReached] using hreached
    rw [finalize_gathered_selector hpos hindex, List.take_append_drop]
    exact finalizeSearchResults_some hpos hselected

end Found

/-! ## Picking stations -/

section Picks

variable {candidates : String → Option String → List SearchCandidate} {filters : SearchFilters}
  {field : SearchField} {text : String}

/-- The selectors on a filter pick the stations that were found without them. -/
def PicksStations (candidates : String → Option String → List SearchCandidate)
    (filters : SearchFilters) (field : SearchField) (text : String)
    (found : FuzzyMatchStationsResponse) : Prop :=
  ∀ k limit selected, 0 < k → found.stations[k - 1]? = some selected →
    ∃ response, executeSearchWith (serve candidates)
        (filters.set field (withSelector text k)) limit = some (.ok response) ∧
      response.results = ([selected], [], [])

/-- The selectors on the query and on the station pick what was found. -/
theorem picksStations
    (hlength : ∀ query province, (candidates query province).length ≤ maxRpcPageOffset)
    (hsearch : filters.SearchesBy field text) (hplain : splitResultSelector text = (text, none))
    (hfield : field = .query ∨ field = .station) {found : FuzzyMatchStationsResponse}
    (hfound : found.results = (gathered filters text
      (candidates (providerQueryFromSearchText text) filters.province)).results) :
    PicksStations candidates filters field text found := by
  intro k limit selected hpos hselected
  set served := candidates (providerQueryFromSearchText text) filters.province with hserved
  have hstations : found.stations = (gathered filters text served).stations :=
    (Prod.ext_iff.1 hfound).1
  have hk : k ≤ usizeMax := by
    have hinside : k - 1 < found.stations.length := (List.getElem?_eq_some_iff.1 hselected).1
    have hcount := (length_listed_gathered_le filters text served).trans
      (hlength _ _)
    rw [length_listed, ← hstations] at hcount
    have hbound : maxRpcPageOffset ≤ usizeMax := by decide
    omega
  have hsplit : splitResultSelector (searchTextFromFilters
      (filters.set field (withSelector text k))) = (text, some k) := by
    rw [(hsearch.set _).searchText, splitResultSelector_withSelector text hpos hk]
  have hprovince : (filters.set field (withSelector text k)).province = filters.province := by
    rcases hfield with rfl | rfl <;> rfl
  have hsame : (gathered (filters.set field (withSelector text k)) text served).stations =
      (gathered filters text served).stations := by
    show retainFirst _ (List.filter _ _) _ = retainFirst _ (List.filter _ _) _
    congr 2
    funext item
    exact keepsStation_set hsearch hplain hpos hk hfield
  apply executeSearchWith_selected hlength hsplit
  rw [hprovince, ← hserved, hsame, ← hstations, hselected]

/-- The selectors on the city and on the province do not pick any station that was found. -/
theorem not_picksStations
    (hlength : ∀ query province, (candidates query province).length ≤ maxRpcPageOffset)
    (hsearch : filters.SearchesBy field text)
    (hfield : field = .city ∨ field = .province) {found : FuzzyMatchStationsResponse}
    (hfound : found.results = (gathered filters text
      (candidates (providerQueryFromSearchText text) filters.province)).results)
    (hsome : found.stations ≠ []) : ¬ PicksStations candidates filters field text found := by
  intro hpicks
  have hstations : found.stations = (gathered filters text
      (candidates (providerQueryFromSearchText text) filters.province)).stations :=
    (Prod.ext_iff.1 hfound).1
  obtain ⟨selected, rest, hlist⟩ := List.exists_cons_of_ne_nil hsome
  obtain ⟨response, hresponse, hresults⟩ :=
    hpicks 1 u32Max selected Nat.one_pos (by rw [hlist]; rfl)
  have hkeeps : keepsStation filters text selected = true := by
    apply (keepsStation_of_mem_gathered (l :=
      candidates (providerQueryFromSearchText text) filters.province) _).2
    rw [← hstations, hlist]
    exact List.mem_cons_self
  -- the first station is not among those that the filters with a selector keep
  have hsplit : splitResultSelector (searchTextFromFilters
      (filters.set field (withSelector text 1))) = (text, some 1) := by
    rw [(hsearch.set _).searchText, splitResultSelector_withSelector text Nat.one_pos (by decide)]
  obtain ⟨stop, response', hresponse', hresults', -⟩ :=
    executeSearchWith_spec hlength u32Max hsplit Nat.one_ne_zero
  rw [hresponse, Option.some.injEq, Except.ok.injEq] at hresponse'
  subst hresponse'
  have hmem : selected ∈ response.stations := by
    rw [show response.stations = [selected] from congrArg Prod.fst hresults]
    exact List.mem_singleton_self _
  rw [show response.stations = _ from congrArg Prod.fst hresults'] at hmem
  have hother := (keepsStation_of_mem_gathered (mem_finalizeSearchResults hmem)).2
  rw [keepsStation_set_eq_false hsearch hfield hkeeps] at hother
  cases hother

/-- Of the filter that the search text comes from, the selectors pick the stations that the search
finds without them exactly when it is the query or the station, or no candidate station matches. -/
theorem selector_picks_iff
    (hlength : ∀ query province, (candidates query province).length ≤ maxRpcPageOffset)
    (hsearch : filters.SearchesBy field text) (hplain : splitResultSelector text = (text, none)) :
    ∃ found, executeSearchWith (serve candidates) filters u32Max = some (.ok found) ∧
      (PicksStations candidates filters field text found ↔
        field = .query ∨ field = .station ∨
          ∀ station ∈ candidateStations
            (candidates (providerQueryFromSearchText text) filters.province),
              keepsStation filters text station = false) := by
  have hsplit : splitResultSelector (searchTextFromFilters filters) = (text, none) := by
    rw [hsearch.searchText, hplain]
  obtain ⟨found, hunlimited, hfound⟩ := executeSearchWith_unlimited hlength hsplit
  refine ⟨found, hunlimited, ?_⟩
  have hstations : found.stations = (gathered filters text
      (candidates (providerQueryFromSearchText text) filters.province)).stations :=
    (Prod.ext_iff.1 hfound).1
  rw [← stations_gathered_eq_nil_iff, ← hstations]
  constructor
  · intro hpicks
    have hnone : field = .city ∨ field = .province → found.stations = [] := fun hfield => by
      by_contra hsome
      exact not_picksStations hlength hsearch hfield hfound hsome hpicks
    cases field with
    | query => exact .inl rfl
    | station => exact .inr (.inl rfl)
    | city => exact .inr (.inr (hnone (.inl rfl)))
    | province => exact .inr (.inr (hnone (.inr rfl)))
  · rintro (hquery | hstation | hnone)
    · exact picksStations hlength hsearch hplain (.inl hquery) hfound
    · exact picksStations hlength hsearch hplain (.inr hstation) hfound
    · intro k limit selected _ hselected
      rw [hnone] at hselected
      cases hselected

end Picks

/-- An engine with one station. -/
def sampleServed : String → Option String → List SearchCandidate := fun _ _ => [sampleCandidate 1]

theorem length_sampleServed (query : String) (province : Option String) :
    (sampleServed query province).length ≤ maxRpcPageOffset := by
  show 1 ≤ maxRpcPageOffset
  decide

/-- A search by query. -/
theorem selector_picks_sample :
    ∃ found, executeSearchWith (serve sampleServed) ⟨some "市", none, none, none⟩ u32Max =
        some (.ok found) ∧
      (PicksStations sampleServed ⟨some "市", none, none, none⟩ .query "市" found ↔
        SearchField.query = .query ∨ SearchField.query = .station ∨
          ∀ station ∈ candidateStations (sampleServed (providerQueryFromSearchText "市") none),
            keepsStation ⟨some "市", none, none, none⟩ "市" station = false) :=
  selector_picks_iff length_sampleServed ⟨rfl, rfl, rfl⟩ (by decide)

/-- The first of the stations of a city is not found with a selector. -/
theorem selector_misses :
    ¬ ∀ candidates : String → Option String → List SearchCandidate,
      (∀ query province, (candidates query province).length ≤ maxRpcPageOffset) →
      ∀ filters field text, SearchFilters.SearchesBy filters field text →
        splitResultSelector text = (text, none) →
        ∃ found, executeSearchWith (serve candidates) filters u32Max = some (.ok found) ∧
          PicksStations candidates filters field text found := by
  intro hclaim
  have hsearch : SearchFilters.SearchesBy ⟨none, none, some "市", none⟩ .city "市" := ⟨rfl, rfl⟩
  have hplain : splitResultSelector "市" = ("市", none) := by decide
  obtain ⟨found, hunlimited, hpicks⟩ :=
    hclaim sampleServed length_sampleServed _ _ _ hsearch hplain
  have htext : splitResultSelector (searchTextFromFilters ⟨none, none, some "市", none⟩) =
      ("市", none) := hplain
  obtain ⟨found', hunlimited', hfound⟩ := executeSearchWith_unlimited length_sampleServed htext
  rw [hunlimited, Option.some.injEq, Except.ok.injEq] at hunlimited'
  subst hunlimited'
  refine not_picksStations length_sampleServed hsearch (.inl rfl) hfound ?_ hpicks
  rw [show found.stations = _ from congrArg Prod.fst hfound]
  decide

end WeatherApp
