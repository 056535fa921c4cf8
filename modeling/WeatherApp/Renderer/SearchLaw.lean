import WeatherApp.Renderer.Search

/-!
# Complete searches

The cursor allows as many requests as it takes to follow the greatest list of candidates in pages
of the greatest size. Both clients ask for smaller pages, so that their searches fail for lists of
more than `maxPaginatedRequests` of their own pages, and are complete for all others.

## Main definitions

* `CollectedFrom`: a list holds each station of another once, in its order.
* `GuiSearchComplete`, `TuiSearchComplete`: the searches of the clients are complete.

## Main results

* `search_complete_iff`: when they are.
* `search_incomplete`: a list for which they are not.
-/

namespace WeatherApp

/-! ## Pages -/

/-- The greatest list takes less than `2 ^ 32` as an offset. -/
theorem maxRpcPageOffset_lt : maxRpcPageOffset < 2 ^ 32 := by decide

theorem maxRpcPageSize_pos : 0 < maxRpcPageSize := by decide

/-- The reply to the request for page `k`. -/
def replyAt (candidates : List SearchCandidate) (pageSize k : ℕ) : FuzzyMatchStationsResponse :=
  let page := (candidates.drop (k * pageSize)).take pageSize
  { stations := candidateStations page
    cities := candidateCities page
    provinces := candidateProvinces page
    hasMore := (k + 1) * pageSize < candidates.length
    nextOffset := min ((k + 1) * pageSize) candidates.length }

section Pages

variable {candidates : List SearchCandidate} {pageSize k : ℕ}

/-- `paginate` at an offset inside the list. -/
theorem paginate_eq {α : Type} {all : List α} {offset pageSize : ℕ}
    (hlength : all.length ≤ maxRpcPageOffset) (hinside : offset ≤ all.length) :
    Engine.paginate all offset pageSize =
      ((all.drop offset).take pageSize, decide (offset + pageSize < all.length),
        min (offset + pageSize) all.length) := by
  have hpage : (all.take (min (offset + pageSize) all.length)).drop offset =
      (all.drop offset).take pageSize := by
    rw [← List.take_eq_take_min, List.drop_take, Nat.add_sub_cancel_left]
  have hmod : min (offset + pageSize) all.length % 2 ^ 32 = min (offset + pageSize) all.length := by
    have hbound := maxRpcPageOffset_lt
    exact Nat.mod_eq_of_lt (by omega)
  have hmore : min (offset + pageSize) all.length < all.length ↔
      offset + pageSize < all.length := by omega
  simp only [Engine.paginate, min_eq_left hinside, hpage, hmod, hmore]

/-- `paginate` on whole pages. -/
theorem paginate_page {α : Type} {all : List α} {pageSize k : ℕ}
    (hlength : all.length ≤ maxRpcPageOffset) (hinside : k * pageSize ≤ all.length) :
    Engine.paginate all (k * pageSize) pageSize =
      ((all.drop (k * pageSize)).take pageSize, decide ((k + 1) * pageSize < all.length),
        min ((k + 1) * pageSize) all.length) := by
  rw [Nat.succ_mul]
  exact paginate_eq hlength hinside

theorem fuzzyPage_eq_replyAt (hlength : candidates.length ≤ maxRpcPageOffset) (hpos : 0 < pageSize)
    (hsize : pageSize ≤ maxRpcPageSize) (hinside : k * pageSize ≤ candidates.length) :
    fuzzyPage candidates (k * pageSize) pageSize = .ok (replyAt candidates pageSize k) := by
  simp only [fuzzyPage, normalizePagination_ok (hinside.trans hlength) hpos hsize, Except.map,
    paginate_page hlength hinside, replyAt]

theorem request_ok {offset count : ℕ} (hpos : 0 < pageSize) (hsize : pageSize ≤ maxRpcPageSize)
    (hoffset : offset ≤ maxRpcPageOffset) (hcount : count < maxPaginatedRequests) :
    PageCursor.request ⟨offset, count⟩ pageSize =
      .ok ((offset, pageSize), ⟨offset, count + 1⟩) := by
  have hlegal : ¬ (pageSize = 0 ∨ pageSize > maxRpcPageSize) := by omega
  simp only [PageCursor.request, if_neg hlegal, not_lt.2 hoffset, if_false, not_le.2 hcount]

/-- What a request that the cursor makes says. -/
theorem request_eq_ok {cursor asked : PageCursor} {offset size : ℕ}
    (h : cursor.request pageSize = .ok ((offset, size), asked)) :
    cursor.offset = offset ∧ size = pageSize ∧
      asked = { cursor with requestCount := cursor.requestCount + 1 } ∧
      cursor.requestCount < maxPaginatedRequests := by
  simp only [PageCursor.request] at h
  split_ifs at h with hsize hoffset hcount
  rw [Except.ok.injEq, Prod.mk.injEq, Prod.mk.injEq] at h
  obtain ⟨⟨rfl, rfl⟩, rfl⟩ := h
  exact ⟨rfl, rfl, rfl, not_le.1 hcount⟩

/-- A cursor advances only to a greater offset. -/
theorem advance_eq_ok_true {cursor next : PageCursor} {hasMore : Bool} {nextOffset : ℕ}
    (h : cursor.advance hasMore nextOffset = .ok (true, next)) :
    cursor.offset < nextOffset ∧ next = { cursor with offset := nextOffset } := by
  simp only [PageCursor.advance] at h
  split_ifs at h with hmore hback hbeyond
  · simp only [Except.ok.injEq, Prod.mk.injEq, Bool.false_eq_true, false_and] at h
  · simp only [Except.ok.injEq, Prod.mk.injEq, true_and] at h
    exact ⟨not_le.1 hback, h.symm⟩

/-- The cursor gives up after `maxPaginatedRequests` requests. -/
theorem request_exhausted (hpos : 0 < pageSize) (hsize : pageSize ≤ maxRpcPageSize)
    (hoffset : k * pageSize ≤ maxRpcPageOffset) (hcount : maxPaginatedRequests ≤ k) :
    PageCursor.request ⟨k * pageSize, k⟩ pageSize =
      .error s!"RPC pagination exceeded {maxPaginatedRequests} requests" := by
  have hlegal : ¬ (pageSize = 0 ∨ pageSize > maxRpcPageSize) := by omega
  simp only [PageCursor.request, if_neg hlegal, not_lt.2 hoffset, if_false, hcount, if_true]

/-- The cursor follows what `paginate` says about a list. -/
theorem advance_eq {offset count length : ℕ} (hlength : length ≤ maxRpcPageOffset)
    (hpos : 0 < pageSize) :
    PageCursor.advance ⟨offset, count⟩ (decide (offset + pageSize < length))
        (min (offset + pageSize) length) =
      if offset + pageSize < length then .ok (true, ⟨offset + pageSize, count⟩)
      else .ok (false, ⟨offset, count⟩) := by
  split_ifs with hmore
  · have hmin : min (offset + pageSize) length = offset + pageSize := min_eq_left hmore.le
    have hadvances : ¬ offset + pageSize ≤ offset := by omega
    have hlegal : ¬ offset + pageSize > maxRpcPageOffset := by omega
    simp only [PageCursor.advance, hmore, decide_true, Bool.not_true, Bool.false_eq_true,
      if_false, hmin, if_neg hadvances, if_neg hlegal]
  · simp only [PageCursor.advance, hmore, decide_false, Bool.not_false, if_true]

/-- The cursor follows the pages of a list. -/
theorem advance_page {length : ℕ} (hlength : length ≤ maxRpcPageOffset) (hpos : 0 < pageSize) :
    PageCursor.advance ⟨k * pageSize, k + 1⟩ (decide ((k + 1) * pageSize < length))
        (min ((k + 1) * pageSize) length) =
      if (k + 1) * pageSize < length then .ok (true, ⟨(k + 1) * pageSize, k + 1⟩)
      else .ok (false, ⟨k * pageSize, k + 1⟩) := by
  rw [Nat.succ_mul]
  exact advance_eq hlength hpos

theorem advance_replyAt (hlength : candidates.length ≤ maxRpcPageOffset) (hpos : 0 < pageSize) :
    PageCursor.advance ⟨k * pageSize, k + 1⟩ (replyAt candidates pageSize k).hasMore
        (replyAt candidates pageSize k).nextOffset =
      if (k + 1) * pageSize < candidates.length then
        .ok (true, ⟨(k + 1) * pageSize, k + 1⟩)
      else .ok (false, ⟨k * pageSize, k + 1⟩) :=
  advance_page hlength hpos

/-- The stations of the pages up to the next one. -/
theorem candidateStations_take_succ (candidates : List SearchCandidate) (pageSize k : ℕ) :
    candidateStations (candidates.take ((k + 1) * pageSize)) =
      candidateStations (candidates.take (k * pageSize)) ++
        (replyAt candidates pageSize k).stations := by
  rw [Nat.succ_mul, List.take_add, candidateStations_append]
  rfl

end Pages

/-! ## The desktop client -/

/-- `result` holds each of the stations once, in their order, where stations of one key are the
same. -/
structure CollectedFrom (stations result : List StationRef) : Prop where
  once : (result.map seenKey).Nodup
  ordered : result.Sublist stations
  all : ∀ station ∈ stations, seenKey station ∈ result.map seenKey

/-- What has been collected of some stations. -/
structure Collected.Of (stations : List StationRef) (c : Collected) : Prop where
  collected : CollectedFrom stations c.stations
  seen : c.seen = c.stations.map seenKey

theorem Collected.Of.add {stations : List StationRef} {c : Collected} (h : c.Of stations)
    (station : StationRef) : (c.add station).Of (stations ++ [station]) := by
  obtain ⟨⟨honce, hordered, hall⟩, hseen⟩ := h
  unfold Collected.add
  split_ifs with hknown
  · rw [hseen] at hknown
    refine ⟨⟨honce, hordered.trans (List.sublist_append_left _ _), fun other hother => ?_⟩, hseen⟩
    rcases List.mem_append.1 hother with hother | hother
    · exact hall other hother
    · rw [List.mem_singleton.1 hother]
      exact hknown
  · rw [hseen] at hknown
    refine ⟨⟨?_, hordered.append (.refl _), fun other hother => ?_⟩, ?_⟩
    · rw [List.map_append, List.map_singleton]
      exact List.nodup_append.2 ⟨honce, List.nodup_singleton _, by simpa using hknown⟩
    · rw [List.map_append, List.mem_append]
      rcases List.mem_append.1 hother with hother | hother
      · exact .inl (hall other hother)
      · exact .inr (List.mem_map_of_mem hother)
    · rw [hseen, List.map_append, List.map_singleton]

theorem Collected.Of.addAll {stations : List StationRef} {c : Collected} (h : c.Of stations)
    (page : List StationRef) : (page.foldl Collected.add c).Of (stations ++ page) := by
  induction page generalizing stations c with
  | nil => rwa [List.append_nil]
  | cons station page ih =>
    rw [List.append_cons]
    exact ih (h.add station)

section Loops

variable {candidates : List SearchCandidate} {fuel k : ℕ}

/-- A client that asks for page `k` has been told that there is one. -/
def Asked (candidates : List SearchCandidate) (pageSize k : ℕ) : Prop :=
  k ≤ maxPaginatedRequests ∧ (k = 0 ∨ k * pageSize < candidates.length)

theorem Asked.inside {pageSize : ℕ} (h : Asked candidates pageSize k) :
    k * pageSize ≤ candidates.length := by
  rcases h.2 with rfl | h
  · rw [zero_mul]
    exact Nat.zero_le _
  · exact h.le

/-- When the requests are used up there are candidates left. -/
theorem Asked.exhausted {pageSize : ℕ} (h : Asked candidates pageSize k)
    (hk : ¬ k < maxPaginatedRequests) :
    ¬ candidates.length ≤ maxPaginatedRequests * pageSize := by
  have hlast : k = maxPaginatedRequests := le_antisymm h.1 (not_lt.1 hk)
  subst hlast
  exact not_le.2 (h.2.resolve_left (by decide))

/-- The last page is reached before the requests are used up. -/
theorem length_le_of_last {pageSize : ℕ} (hk : k < maxPaginatedRequests)
    (hlast : ¬ (k + 1) * pageSize < candidates.length) :
    candidates.length ≤ maxPaginatedRequests * pageSize :=
  (not_lt.1 hlast).trans (Nat.mul_le_mul_right _ hk)

/-- What the loop of `search_stations` makes of the pages from page `k` on. -/
theorem searchLoop_spec (hlength : candidates.length ≤ maxRpcPageOffset)
    (hfuel : k + fuel = maxPaginatedRequests + 1) (hasked : Asked candidates guiSearchPageSize k)
    {c : Collected} (hc : c.Of (candidateStations (candidates.take (k * guiSearchPageSize)))) :
    if candidates.length ≤ maxPaginatedRequests * guiSearchPageSize then
      ∃ result, searchLoop (fuzzyPage candidates) fuel ⟨k * guiSearchPageSize, k⟩ c =
        some (.ok result) ∧ CollectedFrom (candidateStations candidates) result
    else
      searchLoop (fuzzyPage candidates) fuel ⟨k * guiSearchPageSize, k⟩ c =
        some (.error s!"RPC pagination exceeded {maxPaginatedRequests} requests") := by
  have hpos : 0 < guiSearchPageSize := by decide
  have hsize : guiSearchPageSize ≤ maxRpcPageSize := by decide
  induction fuel generalizing k c with
  | zero => exact absurd hasked.1 (by omega)
  | succ fuel ih =>
    have hinside := hasked.inside
    unfold searchLoop
    by_cases hk : k < maxPaginatedRequests
    · have hnext := hc.addAll (replyAt candidates guiSearchPageSize k).stations
      rw [← candidateStations_take_succ] at hnext
      rw [request_ok hpos hsize (hinside.trans hlength) hk]
      simp only [fuzzyPage_eq_replyAt hlength hpos hsize hinside, advance_replyAt hlength hpos]
      by_cases hmore : (k + 1) * guiSearchPageSize < candidates.length
      · simp only [hmore, if_true]
        exact ih (by omega) ⟨hk, .inr hmore⟩ hnext
      · rw [List.take_of_length_le (not_lt.1 hmore)] at hnext
        rw [if_pos (length_le_of_last hk hmore)]
        simp only [hmore, if_false]
        exact ⟨_, rfl, hnext.collected⟩
    · rw [request_exhausted hpos hsize (hinside.trans hlength) (not_lt.1 hk),
        if_neg (hasked.exhausted hk)]

/-- What the loop of `run_search` makes of the pages from page `k` on. -/
theorem runSearchLoop_spec (hlength : candidates.length ≤ maxRpcPageOffset) (token : ℕ)
    (hfuel : k + fuel = maxPaginatedRequests + 1) (hasked : Asked candidates tuiSearchPageSize k)
    {pages : List SearchPage} (hpages : pages.flatMap (·.stations) =
      candidateStations (candidates.take (k * tuiSearchPageSize))) :
    if candidates.length ≤ maxPaginatedRequests * tuiSearchPageSize then
      ∃ pages' : List SearchPage, runSearchLoop (fuzzyPage candidates) token fuel ⟨k * tuiSearchPageSize, k⟩
        (pages.map .page) = some (pages'.map .page) ∧
          pages'.flatMap (·.stations) = candidateStations candidates
    else
      ∃ pages' : List SearchPage, runSearchLoop (fuzzyPage candidates) token fuel ⟨k * tuiSearchPageSize, k⟩
        (pages.map .page) = some (pages'.map .page ++
          [.failed token s!"RPC pagination exceeded {maxPaginatedRequests} requests"]) := by
  have hpos : 0 < tuiSearchPageSize := by decide
  have hsize : tuiSearchPageSize ≤ maxRpcPageSize := by decide
  induction fuel generalizing k pages with
  | zero => exact absurd hasked.1 (by omega)
  | succ fuel ih =>
    have hinside := hasked.inside
    unfold runSearchLoop
    by_cases hk : k < maxPaginatedRequests
    · have hfetch := fuzzyPage_eq_replyAt hlength hpos hsize hinside
      have hadvance := advance_replyAt (k := k) hlength hpos
      have hstations := candidateStations_take_succ candidates tuiSearchPageSize k
      set reply := replyAt candidates tuiSearchPageSize k with hreply
      set page : SearchPage := ⟨token, k * tuiSearchPageSize, reply.stations, reply.hasMore,
        reply.nextOffset⟩ with hpage
      have hnext : (pages ++ [page]).flatMap (·.stations) =
          candidateStations (candidates.take ((k + 1) * tuiSearchPageSize)) := by
        rw [List.flatMap_append, hpages, hstations, List.flatMap_singleton]
      have hsent : pages.map SearchEffect.page ++ [.page page] = (pages ++ [page]).map .page := by
        rw [List.map_append, List.map_singleton]
      rw [request_ok hpos hsize (hinside.trans hlength) hk]
      simp only [hfetch, hadvance]
      by_cases hmore : (k + 1) * tuiSearchPageSize < candidates.length
      · simp only [hmore, if_true, ← hpage, hsent]
        exact ih (by omega) ⟨hk, .inr hmore⟩ hnext
      · rw [List.take_of_length_le (not_lt.1 hmore)] at hnext
        rw [if_pos (length_le_of_last hk hmore)]
        simp only [hmore, if_false, Bool.false_eq_true, ← hpage, hsent]
        exact ⟨_, rfl, hnext⟩
    · rw [request_exhausted hpos hsize (hinside.trans hlength) (not_lt.1 hk),
        if_neg (hasked.exhausted hk)]
      exact ⟨pages, rfl⟩

end Loops

/-- The search of the desktop client ends with every candidate station, each once and in the
order of the candidates. -/
def GuiSearchComplete (candidates : List SearchCandidate) : Prop :=
  ∃ result, searchStations (fuzzyPage candidates) = some (.ok result) ∧
    CollectedFrom (candidateStations candidates) result

/-- The search of the terminal client ends without an error, and its pages hold the candidate
stations in their order. -/
def TuiSearchComplete (candidates : List SearchCandidate) : Prop :=
  ∀ token, ∃ pages : List SearchPage, runSearch (fuzzyPage candidates) token = some (pages.map .page) ∧
    pages.flatMap (·.stations) = candidateStations candidates

theorem asked_first (candidates : List SearchCandidate) (pageSize : ℕ) :
    Asked candidates pageSize 0 := ⟨Nat.zero_le _, .inl rfl⟩

theorem candidateStations_none (candidates : List SearchCandidate) (pageSize : ℕ) :
    candidateStations (candidates.take (0 * pageSize)) = [] := by
  rw [zero_mul, List.take_zero]
  rfl

theorem guiSearchComplete_iff {candidates : List SearchCandidate}
    (hlength : candidates.length ≤ maxRpcPageOffset) :
    GuiSearchComplete candidates ↔
      candidates.length ≤ maxPaginatedRequests * guiSearchPageSize := by
  have hcollected : Collected.Of (candidateStations (candidates.take (0 * guiSearchPageSize)))
      ⟨[], []⟩ := by
    rw [candidateStations_none]
    exact ⟨⟨List.nodup_nil, .slnil, fun _ h => nomatch h⟩, rfl⟩
  have hspec := searchLoop_spec hlength (zero_add _) (asked_first _ _) hcollected
  rw [zero_mul] at hspec
  split_ifs at hspec with hfew
  · exact iff_of_true hspec hfew
  · refine iff_of_false ?_ hfew
    rintro ⟨result, hresult, -⟩
    exact nomatch hspec.symm.trans hresult

theorem tuiSearchComplete_iff {candidates : List SearchCandidate}
    (hlength : candidates.length ≤ maxRpcPageOffset) :
    TuiSearchComplete candidates ↔
      candidates.length ≤ maxPaginatedRequests * tuiSearchPageSize := by
  have hpages : ([] : List SearchPage).flatMap (·.stations) =
      candidateStations (candidates.take (0 * tuiSearchPageSize)) :=
    (candidateStations_none _ _).symm
  have hspec := fun token =>
    runSearchLoop_spec (k := 0) hlength token (zero_add _) (asked_first _ _) hpages
  simp only [zero_mul] at hspec
  by_cases hfew : candidates.length ≤ maxPaginatedRequests * tuiSearchPageSize
  · refine iff_of_true (fun token => ?_) hfew
    have hcomplete := hspec token
    rwa [if_pos hfew] at hcomplete
  · refine iff_of_false (fun hcomplete => ?_) hfew
    obtain ⟨pages, hsent, -⟩ := hcomplete 0
    have hfailed := hspec 0
    rw [if_neg hfew] at hfailed
    obtain ⟨pages', hsent'⟩ := hfailed
    have hsame := Option.some.inj (hsent.symm.trans hsent')
    have hmem : SearchEffect.failed 0 s!"RPC pagination exceeded {maxPaginatedRequests} requests" ∈
        pages.map SearchEffect.page := by
      rw [hsame]
      exact List.mem_append_right _ (List.mem_singleton_self _)
    obtain ⟨page, -, hpage⟩ := List.mem_map.1 hmem
    cases hpage

/-- For every list of candidates that can be paged through, each client's search is complete
exactly when the list takes at most `maxPaginatedRequests` of the client's pages. -/
theorem search_complete_iff {candidates : List SearchCandidate}
    (hlength : candidates.length ≤ maxRpcPageOffset) :
    (GuiSearchComplete candidates ↔
        candidates.length ≤ maxPaginatedRequests * guiSearchPageSize) ∧
      (TuiSearchComplete candidates ↔
        candidates.length ≤ maxPaginatedRequests * tuiSearchPageSize) :=
  ⟨guiSearchComplete_iff hlength, tuiSearchComplete_iff hlength⟩

/-- A candidate of a large catalog. -/
def sampleCandidate (n : ℕ) : SearchCandidate :=
  .station ⟨"nmc", s!"省-市-{n}", toString n, "P", "省", "市", "", s!"省-市-{n}", toString n⟩

theorem length_sampleCandidates (n : ℕ) :
    ((List.range n).map sampleCandidate).length = n := by
  rw [List.length_map, List.length_range]

/-- A search with few candidates. -/
theorem search_complete_sample :
    GuiSearchComplete ((List.range 30).map sampleCandidate) ∧
      TuiSearchComplete ((List.range 30).map sampleCandidate) := by
  have hlength := length_sampleCandidates 30
  have hcomplete := @search_complete_iff ((List.range 30).map sampleCandidate)
    (by rw [hlength]; decide)
  exact ⟨hcomplete.1.2 (by rw [hlength]; decide), hcomplete.2.2 (by rw [hlength]; decide)⟩

/-- 9409 candidates are too many for the pages of both clients. -/
theorem search_incomplete :
    ¬ ∀ candidates : List SearchCandidate, candidates.length ≤ maxRpcPageOffset →
      GuiSearchComplete candidates ∧ TuiSearchComplete candidates := by
  intro hclaim
  have hlength := length_sampleCandidates 9409
  have hlegal : ((List.range 9409).map sampleCandidate).length ≤ maxRpcPageOffset := by
    rw [hlength]
    decide
  have hfew := (guiSearchComplete_iff hlegal).1 (hclaim _ hlegal).1
  rw [hlength] at hfew
  exact absurd hfew (by decide)

end WeatherApp
