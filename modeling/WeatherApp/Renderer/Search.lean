import WeatherApp.Engine.SearchPage

/-!
# Searching page by page

The desktop client (`search_stations` of `gui/src-tauri/src/lib.rs`) and the terminal client
(`run_search` of `tui/src/tui/effects.rs`) follow the pages of a search with a `PageCursor`
(`common/src/pagination.rs`), which bounds the number of requests.

## Main definitions

* `PageCursor.request`, `PageCursor.advance`: the cursor.
* `searchStations`, `runSearch`: the clients' loops.
-/

namespace WeatherApp

/-! ## The cursor -/

/-- `MAX_PAGINATED_REQUESTS`. -/
def maxPaginatedRequests : ℕ := maxRpcPageOffset / maxRpcPageSize + 2

/-- `PageCursor`. -/
structure PageCursor where
  offset : ℕ
  requestCount : ℕ
  deriving DecidableEq, Repr

namespace PageCursor

/-- `PageCursor::default`. -/
def default : PageCursor := ⟨0, 0⟩

/-- `request`: the offset and the size of the next page. -/
def request (cursor : PageCursor) (pageSize : ℕ) : Except String ((ℕ × ℕ) × PageCursor) :=
  let offset := cursor.offset
  if pageSize = 0 ∨ pageSize > maxRpcPageSize then
    .error s!"RPC page size {pageSize} is outside 1..={maxRpcPageSize}"
  else if offset > maxRpcPageOffset then
    .error s!"RPC page offset {offset} exceeds maximum {maxRpcPageOffset}"
  else if cursor.requestCount ≥ maxPaginatedRequests then
    .error s!"RPC pagination exceeded {maxPaginatedRequests} requests"
  else .ok ((offset, pageSize), { cursor with requestCount := cursor.requestCount + 1 })

/-- `advance`: whether there is a next page. -/
def advance (cursor : PageCursor) (hasMore : Bool) (nextOffset : ℕ) :
    Except String (Bool × PageCursor) :=
  let offset := cursor.offset
  if !hasMore then .ok (false, cursor)
  else if nextOffset ≤ offset then
    .error s!"RPC pagination did not advance: current offset {offset}, next offset {nextOffset}"
  else if nextOffset > maxRpcPageOffset then
    .error s!"RPC pagination next offset {nextOffset} exceeds maximum {maxRpcPageOffset}"
  else .ok (true, { cursor with offset := nextOffset })

end PageCursor

/-! ## The clients -/

/-- `SEARCH_PAGE_SIZE` of the desktop client. -/
def guiSearchPageSize : ℕ := 24

/-- `SEARCH_PAGE_SIZE` of the terminal client. -/
def tuiSearchPageSize : ℕ := 12

/-- The key under which the desktop client has seen a station. -/
def seenKey (station : StationRef) : String :=
  if station.unifiedUuid = "" then
    station.province ++ "|" ++ station.city ++ "|" ++ station.name
  else station.unifiedUuid

/-- The stations the desktop client has collected, and the keys it has seen. -/
structure Collected where
  stations : List StationRef
  seen : List String
  deriving DecidableEq, Repr

/-- Collect a station unless its key has been seen. -/
def Collected.add (c : Collected) (station : StationRef) : Collected :=
  if seenKey station ∈ c.seen then c
  else ⟨c.stations ++ [station], c.seen ++ [seenKey station]⟩

/-- The loop of `search_stations`. The result is `none` when the fuel is used up. -/
def searchLoop (fetch : ℕ → ℕ → Except String FuzzyMatchStationsResponse) :
    ℕ → PageCursor → Collected → Option (Except String (List StationRef))
  | 0, _, _ => none
  | fuel + 1, cursor, collected =>
    match cursor.request guiSearchPageSize with
    | .error message => some (.error message)
    | .ok ((pageOffset, pageSize), cursor) =>
      match fetch pageOffset pageSize with
      | .error message => some (.error message)
      | .ok page =>
        let collected := page.stations.foldl Collected.add collected
        match cursor.advance page.hasMore page.nextOffset with
        | .error message => some (.error message)
        | .ok (false, _) => some (.ok collected.stations)
        | .ok (true, cursor) => searchLoop fetch fuel cursor collected

/-- `search_stations`, against an engine that answers `fetch`. Every iteration makes a request, so
that the cursor ends the loop. -/
def searchStations (fetch : ℕ → ℕ → Except String FuzzyMatchStationsResponse) :
    Option (Except String (List StationRef)) :=
  searchLoop fetch (maxPaginatedRequests + 1) .default ⟨[], []⟩

/-- `SearchPage`, a page that `run_search` passes on. -/
structure SearchPage where
  token : ℕ
  requestedOffset : ℕ
  stations : List StationRef
  hasMore : Bool
  nextOffset : ℕ
  deriving DecidableEq, Repr

/-- `EffectResult`, as far as `run_search` sends it. -/
inductive SearchEffect where
  | page (page : SearchPage)
  | failed (token : ℕ) (message : String)
  deriving DecidableEq, Repr

/-- The loop of `run_search`: the effects it sends. The result is `none` when the fuel is used up.
The receiver of the effects stays there. -/
def runSearchLoop (fetch : ℕ → ℕ → Except String FuzzyMatchStationsResponse) (token : ℕ) :
    ℕ → PageCursor → List SearchEffect → Option (List SearchEffect)
  | 0, _, _ => none
  | fuel + 1, cursor, sent =>
    match cursor.request tuiSearchPageSize with
    | .error message => some (sent ++ [.failed token message])
    | .ok ((requestedOffset, pageSize), cursor) =>
      match fetch requestedOffset pageSize with
      | .error message => some (sent ++ [.failed token message])
      | .ok response =>
        match cursor.advance response.hasMore response.nextOffset with
        | .error message => some (sent ++ [.failed token message])
        | .ok (canContinue, cursor) =>
          let sent := sent ++ [.page ⟨token, requestedOffset, response.stations, response.hasMore,
            response.nextOffset⟩]
          if canContinue then runSearchLoop fetch token fuel cursor sent else some sent

/-- `run_search`. -/
def runSearch (fetch : ℕ → ℕ → Except String FuzzyMatchStationsResponse) (token : ℕ) :
    Option (List SearchEffect) :=
  runSearchLoop fetch token (maxPaginatedRequests + 1) .default []

end WeatherApp
