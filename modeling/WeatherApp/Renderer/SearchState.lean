import WeatherApp.Foundation.Run
import WeatherApp.Renderer.Search

/-!
# The search of the terminal

The state of a search in `weather-renderer/tui/src/tui/state.rs`. Each search has a token; its pages
arrive later, while the user goes on typing, moving and searching.

## Main definitions

* `SearchState`: the query, the results and the token, with the operations on them.
* `searchSystem`: their interleavings, where any page and any error can arrive at any time.
* `SearchConsistent`: token, results, position and selection are in step.

## Main results

* `search_state_consistent`: they are after every run.
-/

namespace WeatherApp

/-! ## The state -/

/-- `SearchStatus`. -/
inductive SearchStatus where
  | idle
  | loading
  | ready
  | failed (message : String)
  deriving DecidableEq, Repr

/-- `SearchIntent`. -/
inductive SearchIntent where
  | none
  | exit
  | submit
  | queryChanged
  | action
  deriving DecidableEq, Repr

/-- `KeyCode`, as far as the search tells keys apart. -/
inductive KeyCode where
  | esc
  | enter
  | backspace
  | down
  | up
  | char (character : Char)
  | other
  deriving DecidableEq, Repr

/-- `KeyEvent`, with the modifiers that the search looks at. -/
structure KeyEvent where
  code : KeyCode
  control : Bool
  alt : Bool
  deriving DecidableEq, Repr

/-- `SearchState`. -/
structure SearchState where
  query : String
  results : List StationRef
  selected : ℕ
  hasMore : Bool
  nextOffset : ℕ
  status : SearchStatus
  token : ℕ
  deriving DecidableEq, Repr

/-- `moved_index`. The index saturates at the ends. -/
def movedIndex (current length : ℕ) (delta : ℤ) : ℕ :=
  if length = 0 then 0 else min (current + delta).toNat (length - 1)

/-- Whether `append_unique_stations` takes two stations for the same. -/
def sameStation (item station : StationRef) : Bool :=
  if item.unifiedUuid ≠ "" ∧ station.unifiedUuid ≠ "" then item.unifiedUuid = station.unifiedUuid
  else item.name = station.name && item.province = station.province && item.city = station.city

/-- `append_unique_stations`. -/
def appendUniqueStations (target : List StationRef) : List StationRef → List StationRef
  | [] => target
  | station :: source =>
    if target.any (sameStation · station) then appendUniqueStations target source
    else appendUniqueStations (target ++ [station]) source

namespace SearchState

/-- `SearchState::default`. -/
def initial : SearchState := ⟨"", [], 0, false, 0, .idle, 0⟩

/-- `bump_token`, which panics when the tokens are exhausted. -/
def bumpToken (state : SearchState) : Option SearchState :=
  if state.token + 1 < 2 ^ 64 then some { state with token := state.token + 1 } else none

/-- `cancel_and_clear`. -/
def cancelAndClear (state : SearchState) : Option SearchState :=
  state.bumpToken.map fun state =>
    { state with results := [], selected := 0, hasMore := false, nextOffset := 0, status := .idle }

/-- `cancel_results_for_edit`. -/
def cancelResultsForEdit (state : SearchState) : Option SearchState :=
  state.bumpToken.map fun state =>
    { state with results := [], selected := 0, hasMore := false, nextOffset := 0, status := .idle }

/-- `enter`. -/
def enter (state : SearchState) : Option SearchState :=
  state.cancelAndClear.map fun state => { state with query := "" }

/-- `start`: the state, the token and the query of the search. -/
def start (state : SearchState) : Option (SearchState × ℕ × String) :=
  state.bumpToken.map fun state =>
    ({ state with
        results := [], selected := 0, hasMore := false, nextOffset := 0, status := .loading },
      state.token, state.query)

/-- `handle_key`. -/
def handleKey (state : SearchState) (key : KeyEvent) : Option (SearchState × SearchIntent) :=
  match key.code with
  | .esc => some (state, .exit)
  | .enter => some (state, .submit)
  | .backspace =>
    { state with query := String.ofList state.query.toList.dropLast }.cancelResultsForEdit.map
      (·, .queryChanged)
  | .down =>
    some ({ state with selected := movedIndex state.selected state.results.length 1 }, .none)
  | .up =>
    some ({ state with selected := movedIndex state.selected state.results.length (-1) }, .none)
  | .char character =>
    if character = 'a' ∧ key.control then some (state, .action)
    else if key.control ∨ key.alt then some (state, .none)
    else
      { state with query := state.query.push character }.cancelResultsForEdit.map
        (·, .queryChanged)
  | .other => some (state, .none)

/-- `apply_page`. -/
def applyPage (state : SearchState) (page : SearchPage) : SearchState × Bool :=
  if page.token ≠ state.token ∨ state.status ≠ .loading then (state, false)
  else if page.requestedOffset ≠ state.nextOffset then
    ({ state with
        status := .failed (s!"search page arrived out of order: expected {state.nextOffset}, " ++
          s!"got {page.requestedOffset}")
        hasMore := false }, false)
  else
    let results := appendUniqueStations state.results page.stations
    ({ state with
        results := results
        hasMore := page.hasMore
        nextOffset := page.nextOffset
        selected :=
          if state.selected ≥ results.length ∧ results ≠ [] then results.length - 1
          else state.selected
        status := if page.hasMore then state.status else .ready }, true)

/-- `apply_error`. -/
def applyError (state : SearchState) (token : ℕ) (message : String) : SearchState × Bool :=
  if token ≠ state.token ∨ state.status ≠ .loading then (state, false)
  else ({ state with hasMore := false, status := .failed message }, true)

/-- `selected_result`. -/
def selectedResult (state : SearchState) : Option StationRef := state.results[state.selected]?

end SearchState

/-! ## Its runs -/

/-- What can happen to a search. Pages and errors of every search may arrive at any time. -/
inductive SearchLabel where
  | enter
  | cancel
  | start
  | key (event : KeyEvent)
  | page (page : SearchPage)
  | error (token : ℕ) (message : String)
  deriving DecidableEq, Repr

/-- Whether the search so far ends: a new one starts, the query is edited, or the search is left. -/
def SearchLabel.endsSearch : SearchLabel → Bool
  | .enter | .cancel | .start => true
  | .key event =>
    match event.code with
    | .backspace => true
    | .char _ => !event.control && !event.alt
    | _ => false
  | .page _ | .error _ _ => false

/-- The state after a step. There is none where the tokens are exhausted. -/
def SearchState.next (state : SearchState) : SearchLabel → Option SearchState
  | .enter => state.enter
  | .cancel => state.cancelAndClear
  | .start => state.start.map (·.1)
  | .key event => (state.handleKey event).map (·.1)
  | .page page => some (state.applyPage page).1
  | .error token message => some (state.applyError token message).1

/-- The search of the terminal, with all orders of its steps. -/
def searchSystem : LabelledSystem SearchState SearchLabel where
  init state := state = .initial
  step state label state' := state.next label = some state'

/-! ## What a step does -/

/-- An index is in the range of the results, or zero when there are none. -/
def SelectionInRange (selected : ℕ) (results : List StationRef) : Prop :=
  selected < results.length ∨ (results = [] ∧ selected = 0)

theorem inRange_movedIndex (current : ℕ) (results : List StationRef) (delta : ℤ) :
    SelectionInRange (movedIndex current results.length delta) results := by
  rw [movedIndex]
  split_ifs with hlength
  · exact .inr ⟨List.length_eq_zero_iff.1 hlength, rfl⟩
  · left
    omega

/-- A search without results under the next token. -/
structure Cleared (state state' : SearchState) : Prop where
  token_eq : state'.token = state.token + 1
  results_eq : state'.results = []
  selected_eq : state'.selected = 0
  nextOffset_eq : state'.nextOffset = 0

theorem eq_of_bumpToken {state state' : SearchState} (h : state.bumpToken = some state') :
    state' = { state with token := state.token + 1 } := by
  simp only [SearchState.bumpToken] at h
  split_ifs at h
  exact (Option.some.inj h).symm

theorem cleared_of_cancelResultsForEdit {state state' : SearchState}
    (h : state.cancelResultsForEdit = some state') : Cleared state state' := by
  rw [SearchState.cancelResultsForEdit, Option.map_eq_some_iff] at h
  obtain ⟨bumped, hbumped, rfl⟩ := h
  obtain rfl := eq_of_bumpToken hbumped
  exact ⟨rfl, rfl, rfl, rfl⟩

/-- Clearing after a change of the query only. -/
theorem Cleared.of_query {state state' : SearchState} {query : String}
    (h : Cleared { state with query := query } state') : Cleared state state' :=
  ⟨h.token_eq, h.results_eq, h.selected_eq, h.nextOffset_eq⟩

/-- What a step does to the parts of the state that belong together. -/
inductive StepEffect (state : SearchState) : SearchLabel → SearchState → Prop
  /-- The search ends. -/
  | cleared {label state'} : label.endsSearch = true → Cleared state state' →
      StepEffect state label state'
  /-- Nothing but the selection changes. -/
  | moved {label selected} : label.endsSearch = false →
      (SelectionInRange state.selected state.results → SelectionInRange selected state.results) →
      StepEffect state label { state with selected := selected }
  /-- The search fails and keeps its results. -/
  | failed {label message} : label.endsSearch = false →
      StepEffect state label { state with hasMore := false, status := .failed message }
  /-- The next page of the search is taken. -/
  | taken {page} : page.token = state.token → state.status = .loading →
      page.requestedOffset = state.nextOffset →
      StepEffect state (.page page) (state.applyPage page).1

theorem stepEffect_of_next {state state' : SearchState} {label : SearchLabel}
    (h : state.next label = some state') : StepEffect state label state' := by
  have hsame : label.endsSearch = false → StepEffect state label state := fun hlabel =>
    .moved hlabel id
  cases label with
  | enter =>
    obtain ⟨cleared, hcleared, rfl⟩ := Option.map_eq_some_iff.1 h
    obtain ⟨htoken, hresults, hselected, hoffset⟩ := cleared_of_cancelResultsForEdit hcleared
    exact .cleared rfl ⟨htoken, hresults, hselected, hoffset⟩
  | cancel => exact .cleared rfl (cleared_of_cancelResultsForEdit h)
  | start =>
    obtain ⟨started, hstarted, rfl⟩ := Option.map_eq_some_iff.1 h
    obtain ⟨bumped, hbumped, rfl⟩ := Option.map_eq_some_iff.1 hstarted
    obtain rfl := eq_of_bumpToken hbumped
    exact .cleared rfl ⟨rfl, rfl, rfl, rfl⟩
  | key event =>
    obtain ⟨⟨after, intent⟩, hkey, rfl⟩ := Option.map_eq_some_iff.1 h
    obtain ⟨code, control, alt⟩ := event
    cases code with
    | esc | enter | other =>
      obtain ⟨rfl, -⟩ := Prod.mk.inj (Option.some.inj hkey)
      exact hsame rfl
    | down | up =>
      obtain ⟨rfl, -⟩ := Prod.mk.inj (Option.some.inj hkey)
      exact .moved rfl fun _ => inRange_movedIndex _ _ _
    | backspace =>
      obtain ⟨cleared, hcleared, heq⟩ := Option.map_eq_some_iff.1 hkey
      obtain ⟨rfl, -⟩ := Prod.mk.inj heq
      exact .cleared rfl (cleared_of_cancelResultsForEdit hcleared).of_query
    | char character =>
      simp only [SearchState.handleKey] at hkey
      split_ifs at hkey with haction hmodified
      · obtain ⟨rfl, -⟩ := Prod.mk.inj (Option.some.inj hkey)
        exact hsame (by simp [SearchLabel.endsSearch, haction.2])
      · obtain ⟨rfl, -⟩ := Prod.mk.inj (Option.some.inj hkey)
        apply hsame
        rcases hmodified with hmodified | hmodified <;> simp [SearchLabel.endsSearch, hmodified]
      · obtain ⟨cleared, hcleared, heq⟩ := Option.map_eq_some_iff.1 hkey
        obtain ⟨rfl, -⟩ := Prod.mk.inj heq
        apply StepEffect.cleared _ (cleared_of_cancelResultsForEdit hcleared).of_query
        simpa [SearchLabel.endsSearch] using hmodified
  | page page =>
    obtain rfl := Option.some.inj h
    by_cases hcurrent : page.token ≠ state.token ∨ state.status ≠ .loading
    · rw [SearchState.applyPage, if_pos hcurrent]
      exact hsame rfl
    · by_cases hoffset : page.requestedOffset ≠ state.nextOffset
      · rw [SearchState.applyPage, if_neg hcurrent, if_pos hoffset]
        exact .failed rfl
      · rw [not_or, not_not, not_not] at hcurrent
        exact .taken hcurrent.1 hcurrent.2 (not_not.1 hoffset)
  | error token message =>
    obtain rfl := Option.some.inj h
    by_cases hcurrent : token ≠ state.token ∨ state.status ≠ .loading
    · rw [SearchState.applyError, if_pos hcurrent]
      exact hsame rfl
    · rw [SearchState.applyError, if_neg hcurrent]
      exact .failed rfl

/-- The next page of the search. -/
theorem applyPage_next {state : SearchState} {page : SearchPage} (htoken : page.token = state.token)
    (hloading : state.status = .loading) (hoffset : page.requestedOffset = state.nextOffset) :
    let results := appendUniqueStations state.results page.stations
    state.applyPage page = ({ state with
      results := results
      hasMore := page.hasMore
      nextOffset := page.nextOffset
      selected :=
        if state.selected ≥ results.length ∧ results ≠ [] then results.length - 1
        else state.selected
      status := if page.hasMore then state.status else .ready }, true) := by
  have hcurrent : ¬ (page.token ≠ state.token ∨ state.status ≠ .loading) := by
    rw [not_or, not_not, not_not]
    exact ⟨htoken, hloading⟩
  rw [SearchState.applyPage, if_neg hcurrent, if_neg (not_not.2 hoffset)]

/-! ## Consistency -/

/-- Appending keeps what is there. -/
theorem length_le_appendUniqueStations (target source : List StationRef) :
    target.length ≤ (appendUniqueStations target source).length := by
  induction source generalizing target with
  | nil => exact le_rfl
  | cons station source ih =>
    rw [appendUniqueStations]
    split_ifs
    · exact ih target
    · have hrest := ih (target ++ [station])
      rw [List.length_append] at hrest
      omega

/-- No two of the stations are taken for the same. -/
def DistinctStations (stations : List StationRef) : Prop :=
  stations.Pairwise fun first second => sameStation first second = false

/-- A station is appended only if none is taken for the same. -/
theorem DistinctStations.appendUniqueStations {target : List StationRef} (h : DistinctStations target)
    (source : List StationRef) : DistinctStations (appendUniqueStations target source) := by
  induction source generalizing target with
  | nil => exact h
  | cons station source ih =>
    rw [WeatherApp.appendUniqueStations]
    split_ifs with hany
    · exact ih h
    · apply ih
      rw [DistinctStations, List.pairwise_append]
      refine ⟨h, List.pairwise_singleton _ _, ?_⟩
      intro item hitem other hother
      rw [List.mem_singleton.1 hother]
      by_contra hsame
      exact hany (List.any_eq_true.2 ⟨item, hitem, by simpa using hsame⟩)

/-- Each page starts where the one before says that the next one does. -/
def PagesContinue : ℕ → List SearchPage → ℕ → Prop
  | offset, [], next => offset = next
  | offset, page :: pages, next =>
    page.requestedOffset = offset ∧ PagesContinue page.nextOffset pages next

theorem PagesContinue.concat {offset next : ℕ} {pages : List SearchPage}
    (h : PagesContinue offset pages next) {page : SearchPage} (hpage : page.requestedOffset = next) :
    PagesContinue offset (pages ++ [page]) page.nextOffset := by
  induction pages generalizing offset with
  | nil => exact ⟨hpage.trans (Eq.symm h), rfl⟩
  | cons first pages ih => exact ⟨h.1, ih h.2⟩

/-- The stations of some pages, without duplicates. -/
def stationsOfPages (pages : List SearchPage) : List StationRef :=
  pages.foldl (fun results page => appendUniqueStations results page.stations) []

/-- The labels of a run since the last search ended. -/
def sinceEnd (trace : List SearchLabel) : List SearchLabel :=
  trace.rtakeWhile fun label => !label.endsSearch

/-- The results come from pages of this search only: they have its token, arrived since the search
before it ended, continue each other from the first offset on, and all but the last one announced
more. -/
structure TakenPages (trace : List SearchLabel) (state : SearchState) (pages : List SearchPage) :
    Prop where
  arrived : (pages.map SearchLabel.page).Sublist (sinceEnd trace)
  token_eq : ∀ page ∈ pages, page.token = state.token
  continues : PagesContinue 0 pages state.nextOffset
  more : ∀ page ∈ pages.dropLast, page.hasMore = true
  loading : state.status = .loading → ∀ page ∈ pages, page.hasMore = true
  results_eq : state.results = stationsOfPages pages

/-- Token, paging position, results and selection are in step. -/
structure SearchConsistent (trace : List SearchLabel) (state : SearchState) : Prop where
  /-- Every search has a token of its own. -/
  token_eq : state.token = trace.countP SearchLabel.endsSearch
  selected : SelectionInRange state.selected state.results
  distinct : DistinctStations state.results
  taken : ∃ pages, TakenPages trace state pages

theorem sinceEnd_concat_end {trace : List SearchLabel} {label : SearchLabel}
    (h : label.endsSearch = true) : sinceEnd (trace ++ [label]) = [] :=
  List.rtakeWhile_concat_neg _ _ _ (by simp [h])

theorem sinceEnd_concat {trace : List SearchLabel} {label : SearchLabel}
    (h : label.endsSearch = false) : sinceEnd (trace ++ [label]) = sinceEnd trace ++ [label] :=
  List.rtakeWhile_concat_pos _ _ _ (by simp [h])

/-- What happens without a page leaves the pages of the search as they are. -/
theorem TakenPages.concat_label {trace : List SearchLabel} {state : SearchState}
    {pages : List SearchPage} (h : TakenPages trace state pages) {label : SearchLabel}
    (hlabel : label.endsSearch = false) : TakenPages (trace ++ [label]) state pages :=
  { h with
    arrived := by
      rw [sinceEnd_concat hlabel]
      exact h.arrived.trans (List.sublist_append_left _ _) }

/-- The accepted page is the next one. -/
theorem TakenPages.concat_page {trace : List SearchLabel} {state : SearchState}
    {pages : List SearchPage} (h : TakenPages trace state pages) {page : SearchPage}
    (htoken : page.token = state.token) (hloading : state.status = .loading)
    (hoffset : page.requestedOffset = state.nextOffset) :
    TakenPages (trace ++ [.page page]) (state.applyPage page).1 (pages ++ [page]) := by
  rw [applyPage_next htoken hloading hoffset]
  refine ⟨?_, ?_, h.continues.concat hoffset, ?_, ?_, ?_⟩
  · rw [sinceEnd_concat rfl, List.map_append]
    exact h.arrived.append (List.Sublist.refl _)
  · intro other hother
    rcases List.mem_append.1 hother with hother | hother
    · exact h.token_eq other hother
    · rw [List.mem_singleton.1 hother]
      exact htoken
  · rw [List.dropLast_concat]
    exact h.loading hloading
  · intro hstill other hother
    rcases List.mem_append.1 hother with hother | hother
    · exact h.loading hloading other hother
    · rw [List.mem_singleton.1 hother]
      by_contra hlast
      rw [if_neg hlast] at hstill
      cases hstill
  · rw [stationsOfPages, List.foldl_concat, ← stationsOfPages, ← h.results_eq]

/-- A step keeps the parts of the state in step. -/
theorem SearchConsistent.next {trace : List SearchLabel} {state state' : SearchState}
    {label : SearchLabel} (h : SearchConsistent trace state)
    (hstep : state.next label = some state') : SearchConsistent (trace ++ [label]) state' := by
  obtain ⟨pages, hpages⟩ := h.taken
  have hcount : label.endsSearch = false →
      (trace ++ [label]).countP SearchLabel.endsSearch = state.token := by
    intro hlabel
    rw [List.countP_append, List.countP_singleton, hlabel, h.token_eq]
    simp
  cases stepEffect_of_next hstep with
  | cleared hlabel hcleared =>
    refine ⟨?_, ?_, ?_, [], ?_, ?_, ?_, ?_, ?_, ?_⟩
    · rw [hcleared.token_eq, h.token_eq, List.countP_append, List.countP_singleton, hlabel]
      rfl
    · exact .inr ⟨hcleared.results_eq, hcleared.selected_eq⟩
    · rw [hcleared.results_eq]
      exact List.Pairwise.nil
    · exact List.nil_sublist _
    · simp
    · exact hcleared.nextOffset_eq.symm
    · simp
    · simp
    · exact hcleared.results_eq
  | moved hlabel hrange =>
    refine ⟨(hcount hlabel).symm, hrange h.selected, h.distinct, pages, ?_⟩
    exact { hpages.concat_label hlabel with }
  | failed hlabel =>
    refine ⟨(hcount hlabel).symm, h.selected, h.distinct, pages, ?_⟩
    exact { hpages.concat_label hlabel with loading := fun hstatus => (nomatch hstatus) }
  | @taken page htoken hloading hoffset =>
    have hnext := hpages.concat_page htoken hloading hoffset
    refine ⟨?_, ?_, ?_, pages ++ [page], hnext⟩ <;> rw [applyPage_next htoken hloading hoffset]
    · exact (hcount rfl).symm
    · show SelectionInRange (if _ then _ else _) (appendUniqueStations state.results page.stations)
      have hgrows := length_le_appendUniqueStations state.results page.stations
      split_ifs with hlast
      · left
        exact Nat.sub_lt (List.length_pos_iff.2 hlast.2) one_pos
      · -- the selection was in the range of fewer results
        rcases h.selected with hbefore | ⟨-, hzero⟩
        · exact .inl (hbefore.trans_le hgrows)
        · rw [hzero] at hlast ⊢
          by_cases hempty : appendUniqueStations state.results page.stations = []
          · exact .inr ⟨hempty, rfl⟩
          · exact .inl (List.length_pos_iff.2 hempty)
    · exact h.distinct.appendUniqueStations page.stations

/-- After every run the shown results are those of pages of the current search taken in order,
without duplicates and with the selection in their range, and no page and no error of another
search changes them. -/
theorem search_state_consistent {trace : List SearchLabel} {state : SearchState}
    (hrun : searchSystem.Run trace state) : SearchConsistent trace state ∧
      (∀ page, page.token ≠ state.token → state.applyPage page = (state, false)) ∧
      ∀ token message, token ≠ state.token →
        state.applyError token message = (state, false) := by
  refine ⟨?_, fun page hpage => if_pos (.inl hpage), fun token message htoken =>
    if_pos (.inl htoken)⟩
  apply LabelledSystem.Run.traceInvariant _ _ hrun
  · rintro start rfl
    refine ⟨rfl, .inr ⟨rfl, rfl⟩, List.Pairwise.nil, [], ?_⟩
    exact ⟨List.nil_sublist _, by simp, rfl, by simp, by simp, rfl⟩
  · intro before start label after hconsistent hstep
    exact hconsistent.next hstep

section Sample

/-- A station of a name. -/
def sampleResult (name : String) : StationRef := ⟨"北京市", "北京", name, ""⟩

/-- A first page, late news of an older search, a second page that repeats a station, and a move. -/
def sampleSearchLabels : List SearchLabel :=
  [.start, .key ⟨.char 'x', false, false⟩, .start,
    .page ⟨3, 0, [sampleResult "a"], true, 8⟩, .page ⟨1, 0, [sampleResult "old"], false, 0⟩,
    .error 1 "closed", .page ⟨3, 8, [sampleResult "a", sampleResult "b"], false, 0⟩,
    .key ⟨.down, false, false⟩]

/-- What the terminal shows in the end. -/
def sampleSearchState : SearchState :=
  ⟨"x", [sampleResult "a", sampleResult "b"], 1, false, 0, .ready, 3⟩

theorem search_state_consistent_sampleRun :
    SearchConsistent sampleSearchLabels sampleSearchState := by
  have hlabels : LabelledSystem.perform SearchState.next (fun _ _ => true) .initial
      sampleSearchLabels = some sampleSearchState := by decide
  have hreached := LabelledSystem.Run.perform (S := searchSystem) (fun _ _ _ h => h) (.start rfl)
    hlabels
  exact (search_state_consistent hreached).1

end Sample

end WeatherApp
