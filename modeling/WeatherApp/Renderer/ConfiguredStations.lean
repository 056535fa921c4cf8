import WeatherApp.Conf.Types
import WeatherApp.Renderer.SearchLaw

/-!
# Listing the configured stations

The engine answers `LIST_CONFIGURED_STATIONS` in pages (`handle_list_configured_stations` of
`engine/src/handlers/catalog.rs`), and the client of the renderers follows them to the end
(`collect_configured_stations` of `common/src/client.rs`). The client asks for pages of the
greatest size, so that its cursor allows as many requests as the greatest list takes.

## Main definitions

* `configuredStationsPage`, `handleListConfiguredStations`: the engine's side.
* `collectConfiguredStations`: the client's side, against replies that may depend on everything
  that has been asked before.
* `recording`: an engine of which the requests are kept.

## Main results

* `collect_configured_stations`: the client collects the whole list, in its order, and it stops in
  time whatever it is answered.
-/

namespace WeatherApp

/-- `DEFAULT_PAGE_SIZE`. -/
def defaultPageSize : ℕ := 32

/-- `ConfiguredStation`. -/
structure ConfiguredStation where
  name : String
  enabled : Bool
  deriving DecidableEq, Repr

/-- `ListConfiguredStationsResponse`. -/
structure ListConfiguredStationsResponse where
  stations : List ConfiguredStation
  hasMore : Bool
  nextOffset : ℕ
  deriving DecidableEq, Repr

/-- `ListConfiguredStationsResponse::default`. -/
def ListConfiguredStationsResponse.default : ListConfiguredStationsResponse := ⟨[], false, 0⟩

/-! ## The engine -/

/-- The entry of the list for a station of the configuration. -/
def StationConfig.toConfigured (station : StationConfig) : ConfiguredStation :=
  ⟨station.name, station.enabled⟩

/-- `configured_stations_page`, for the stations of the live configuration. -/
def configuredStationsPage (stations : List StationConfig) (offset pageSize : ℕ) :
    ListConfiguredStationsResponse :=
  let all := stations.map (·.toConfigured)
  let (page, hasMore, nextOffset) := Engine.paginate all offset pageSize
  { stations := page
    hasMore
    nextOffset }

/-- The reply of `handle_list_configured_stations` to a decoded request. -/
def handleListConfiguredStations (stations : List StationConfig) (pageOffset pageSize : ℕ) :
    Except String ListConfiguredStationsResponse :=
  (normalizePagination pageOffset pageSize defaultPageSize).map fun (offset, pageSize) =>
    configuredStationsPage stations offset pageSize

/-! ## The client -/

section Client

variable {σ : Type}

/-- The loop of `collect_configured_stations`. A reply may depend on the state `σ` of whatever
answers, and changes it. The result is `none` when the fuel is used up. -/
def collectLoop (fetch : ℕ → ℕ → σ → Except String ListConfiguredStationsResponse × σ) :
    ℕ → PageCursor → ListConfiguredStationsResponse → σ →
      Option (Except String ListConfiguredStationsResponse × σ)
  | 0, _, _, _ => none
  | fuel + 1, cursor, combined, s =>
    match cursor.request maxRpcPageSize with
    | .error message => some (.error message, s)
    | .ok ((offset, pageSize), cursor) =>
      match fetch offset pageSize s with
      | (.error message, s) => some (.error message, s)
      | (.ok page, s) =>
        let combined : ListConfiguredStationsResponse :=
          ⟨combined.stations ++ page.stations, page.hasMore, page.nextOffset⟩
        match cursor.advance page.hasMore page.nextOffset with
        | .error message => some (.error message, s)
        | .ok (false, _) => some (.ok combined, s)
        | .ok (true, cursor) => collectLoop fetch fuel cursor combined s

/-- `collect_configured_stations`. Every iteration makes a request, so that the cursor ends the
loop. -/
def collectConfiguredStations
    (fetch : ℕ → ℕ → σ → Except String ListConfiguredStationsResponse × σ) (s : σ) :
    Option (Except String ListConfiguredStationsResponse × σ) :=
  collectLoop fetch (maxPaginatedRequests + 1) .default .default s

/-- What answers as `fetch` does, and keeps the requests. -/
def recording (fetch : ℕ → ℕ → σ → Except String ListConfiguredStationsResponse × σ)
    (offset pageSize : ℕ) (s : σ × List (ℕ × ℕ)) :
    Except String ListConfiguredStationsResponse × σ × List (ℕ × ℕ) :=
  let (reply, t) := fetch offset pageSize s.1
  (reply, t, s.2 ++ [(offset, pageSize)])

/-- The engine, as long as its configuration stays as it is. -/
def answering (stations : List StationConfig) (offset pageSize : ℕ) (s : Unit) :
    Except String ListConfiguredStationsResponse × Unit :=
  (handleListConfiguredStations stations offset pageSize, s)

end Client

/-! ## An engine that answers -/

section Answering

variable {stations : List StationConfig} {k : ℕ}

/-- The pages before page `k`, as the client has combined them. -/
def combinedBefore (stations : List StationConfig) (k : ℕ) : List ConfiguredStation :=
  (stations.map (·.toConfigured)).take (k * maxRpcPageSize)

theorem handleListConfiguredStations_page (hlength : stations.length ≤ maxRpcPageOffset)
    (hinside : k * maxRpcPageSize ≤ stations.length) :
    handleListConfiguredStations stations (k * maxRpcPageSize) maxRpcPageSize =
      .ok ⟨((stations.map (·.toConfigured)).drop (k * maxRpcPageSize)).take maxRpcPageSize,
        decide ((k + 1) * maxRpcPageSize < stations.length),
        min ((k + 1) * maxRpcPageSize) stations.length⟩ := by
  have hpage : Engine.paginate (stations.map (·.toConfigured)) (k * maxRpcPageSize) maxRpcPageSize =
      _ := paginate_page (by rwa [List.length_map]) (by rwa [List.length_map])
  rw [List.length_map] at hpage
  simp only [handleListConfiguredStations, configuredStationsPage, hpage, Except.map,
    normalizePagination_ok (hinside.trans hlength) maxRpcPageSize_pos le_rfl]

/-- Page `k` completes the pages before page `k + 1`. -/
theorem combinedBefore_succ (stations : List StationConfig) (k : ℕ) :
    combinedBefore stations (k + 1) = combinedBefore stations k ++
      ((stations.map (·.toConfigured)).drop (k * maxRpcPageSize)).take maxRpcPageSize := by
  rw [combinedBefore, combinedBefore, Nat.succ_mul, List.take_add]

/-- The cursor allows every request that a list of a legal length takes. -/
theorem lt_maxPaginatedRequests (hinside : k * maxRpcPageSize ≤ maxRpcPageOffset) :
    k < maxPaginatedRequests := by
  have hdiv : k ≤ maxRpcPageOffset / maxRpcPageSize :=
    (Nat.le_div_iff_mul_le maxRpcPageSize_pos).2 hinside
  show k < maxRpcPageOffset / maxRpcPageSize + 2
  omega

/-- From page `k` on the client collects the rest of the list. The induction is on the fuel; each
page inside the list leaves one iteration for the next. -/
theorem collectLoop_answering (hlength : stations.length ≤ maxRpcPageOffset) (fuel : ℕ) :
    ∀ {k : ℕ} {combined : ListConfiguredStationsResponse},
      k * maxRpcPageSize ≤ stations.length → maxPaginatedRequests < k + fuel →
      combined.stations = combinedBefore stations k →
      collectLoop (answering stations) fuel ⟨k * maxRpcPageSize, k⟩ combined () =
        some (.ok ⟨stations.map (·.toConfigured), false, stations.length⟩, ()) := by
  induction fuel with
  | zero =>
    intro k combined hinside hfuel _
    have hcount := lt_maxPaginatedRequests (hinside.trans hlength)
    omega
  | succ fuel ih =>
    intro k combined hinside hfuel hcombined
    have hcount := lt_maxPaginatedRequests (hinside.trans hlength)
    have hrequest := request_ok maxRpcPageSize_pos le_rfl (hinside.trans hlength) hcount
    have hadvance := advance_page (k := k) hlength maxRpcPageSize_pos
    -- The page that is appended now is the one that follows what has been combined.
    simp only [collectLoop, hrequest, answering, handleListConfiguredStations_page hlength hinside,
      hcombined, ← combinedBefore_succ, hadvance]
    split_ifs with hmore
    · apply ih hmore.le _ rfl
      omega
    · have hlast : stations.length ≤ (k + 1) * maxRpcPageSize := not_lt.1 hmore
      have hall : combinedBefore stations (k + 1) = stations.map (·.toConfigured) := by
        apply List.take_of_length_le
        rwa [List.length_map]
      simp only [hall, min_eq_right hlast, hmore, decide_false]

end Answering

/-! ## Arbitrary replies -/

section Recording

variable {σ : Type} {fetch : ℕ → ℕ → σ → Except String ListConfiguredStationsResponse × σ}

/-- What holds of the requests made so far: their offsets increase up to before the cursor's, and
the cursor has counted them. -/
structure Requested (cursor : PageCursor) (requests : List (ℕ × ℕ)) : Prop where
  increasing : (requests.map Prod.fst).Pairwise (· < ·)
  before : ∀ request ∈ requests, request.1 < cursor.offset
  counted : requests.length = cursor.requestCount
  allowed : cursor.requestCount ≤ maxPaginatedRequests

/-- What holds of the requests of a client that has stopped. -/
structure Bounded (requests : List (ℕ × ℕ)) : Prop where
  increasing : (requests.map Prod.fst).Pairwise (· < ·)
  allowed : requests.length ≤ maxPaginatedRequests

theorem Requested.bounded {cursor : PageCursor} {requests : List (ℕ × ℕ)}
    (h : Requested cursor requests) : Bounded requests :=
  ⟨h.increasing, h.counted ▸ h.allowed⟩

/-- The request that the cursor makes keeps the offsets increasing. -/
theorem Requested.next {cursor asked : PageCursor} {requests : List (ℕ × ℕ)}
    {pageSize offset size : ℕ} (h : Requested cursor requests)
    (hrequest : cursor.request pageSize = .ok ((offset, size), asked)) :
    Bounded (requests ++ [(offset, size)]) ∧ asked.offset = offset ∧
      asked.requestCount = requests.length + 1 ∧
      ∀ request ∈ requests ++ [(offset, size)], request.1 ≤ offset := by
  obtain ⟨hoffset, -, rfl, hcount⟩ := request_eq_ok hrequest
  have hlength : (requests ++ [(offset, size)]).length = requests.length + 1 :=
    List.length_append
  refine ⟨⟨?_, ?_⟩, hoffset, by rw [h.counted], ?_⟩
  · rw [List.map_append, List.pairwise_append]
    refine ⟨h.increasing, List.pairwise_singleton _ _, ?_⟩
    intro before hbefore after hafter
    obtain ⟨request, hrequest', rfl⟩ := List.mem_map.1 hbefore
    rw [List.map_singleton, List.mem_singleton] at hafter
    rw [hafter]
    exact hoffset ▸ h.before request hrequest'
  · have hcounted := h.counted
    omega
  · intro request hmem
    rcases List.mem_append.1 hmem with hmem | hmem
    · exact hoffset ▸ (h.before request hmem).le
    · rw [List.mem_singleton.1 hmem]

/-- When the cursor advances, the request that has been made lies before it. -/
theorem Requested.advance {cursor asked next : PageCursor} {requests : List (ℕ × ℕ)}
    {pageSize offset size nextOffset : ℕ} {hasMore : Bool} (h : Requested cursor requests)
    (hrequest : cursor.request pageSize = .ok ((offset, size), asked))
    (hadvance : asked.advance hasMore nextOffset = .ok (true, next)) :
    Requested next (requests ++ [(offset, size)]) ∧
      next.requestCount = cursor.requestCount + 1 := by
  obtain ⟨hbounded, hoffset, hcount, hle⟩ := h.next hrequest
  obtain ⟨hlt, rfl⟩ := advance_eq_ok_true hadvance
  have hlength : (requests ++ [(offset, size)]).length = requests.length + 1 :=
    List.length_append
  refine ⟨⟨hbounded.increasing, ?_, ?_, ?_⟩, ?_⟩
  · intro request hmem
    exact (hle request hmem).trans_lt (hoffset ▸ hlt)
  · rw [hlength, hcount]
  · rw [hcount, ← hlength]
    exact hbounded.allowed
  · rw [hcount, h.counted]

/-- Whatever is answered, the client stops, and its requests are bounded. The induction is on the
fuel, of which there is more than the requests that the cursor still allows. -/
theorem collectLoop_recording (fuel : ℕ) :
    ∀ {cursor : PageCursor} {combined : ListConfiguredStationsResponse} {s : σ}
      {requests : List (ℕ × ℕ)}, Requested cursor requests →
      maxPaginatedRequests < cursor.requestCount + fuel →
      ∃ result t requests',
        collectLoop fetch fuel cursor combined s = some (result, t) ∧
        collectLoop (recording fetch) fuel cursor combined (s, requests) =
          some (result, t, requests') ∧ Bounded requests' := by
  induction fuel with
  | zero =>
    intro cursor combined s requests hrequested hfuel
    have hallowed := hrequested.allowed
    omega
  | succ fuel ih =>
    intro cursor combined s requests hrequested hfuel
    rw [collectLoop, collectLoop]
    cases hrequest : cursor.request maxRpcPageSize with
    | error message => exact ⟨_, _, _, rfl, rfl, hrequested.bounded⟩
    | ok asked =>
      obtain ⟨⟨offset, pageSize⟩, asked⟩ := asked
      have hbounded := (hrequested.next hrequest).1
      rcases hfetch : fetch offset pageSize s with ⟨message | page, t⟩
      · simp only [recording, hfetch]
        exact ⟨_, _, _, rfl, rfl, hbounded⟩
      · simp only [recording, hfetch]
        rcases hadvance : asked.advance page.hasMore page.nextOffset with message | ⟨_ | _, next⟩
        · exact ⟨_, _, _, rfl, rfl, hbounded⟩
        · exact ⟨_, _, _, rfl, rfl, hbounded⟩
        · -- The cursor goes on, with one request less to make.
          obtain ⟨hnext, hcount⟩ := hrequested.advance hrequest hadvance
          apply ih hnext
          omega

end Recording

end WeatherApp
