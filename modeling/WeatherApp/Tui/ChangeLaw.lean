import WeatherApp.Tui.Change

/-!
# The steps of the terminal application are changes

Every key, tick and answer does what `Tui.Change` describes: `Changes` and `Receipt` have one lemma
for each function of the application.

## Main results

* `reacts_reduceKey`, `reacts_tick`: what a key and a tick do.
* `reacts_applyEffectResult`: what an answer does.
-/

namespace WeatherApp.Tui

/-! ## The selection -/

section Selection

variable {stations : List ConfiguredStation} {hidden : Finset String} {selected : Option ℕ}

/-- The selection that is normal is of a station that can be selected. -/
theorem selectable_of_normalize {index : ℕ}
    (h : normalizeStationSelection stations hidden selected = some index) :
    stations[index]?.any (stationIsSelectable hidden) = true := by
  rw [normalizeStationSelection] at h
  split_ifs at h with hselected
  · rw [h] at hselected
    exact hselected
  · obtain ⟨hlt, hselectable, -⟩ := List.findIdx?_eq_some_iff_getElem.1 h
    rw [List.getElem?_eq_getElem hlt]
    exact hselectable

/-- The selection of a station that can be selected is normal. -/
theorem normalize_of_selectable {index : ℕ}
    (h : stations[index]?.any (stationIsSelectable hidden) = true) :
    normalizeStationSelection stations hidden (some index) = some index :=
  if_pos h

@[simp]
theorem normalize_normalize (stations : List ConfiguredStation) (hidden : Finset String)
    (selected : Option ℕ) :
    normalizeStationSelection stations hidden
      (normalizeStationSelection stations hidden selected) =
      normalizeStationSelection stations hidden selected := by
  cases h : normalizeStationSelection stations hidden selected with
  | some index => exact normalize_of_selectable (selectable_of_normalize h)
  | none =>
    rw [normalizeStationSelection] at h
    split_ifs at h with hselected
    · rw [h] at hselected
      cases hselected
    · exact h

theorem mem_selectableIndices {index : ℕ} :
    index ∈ selectableIndices stations hidden ↔
      stations[index]?.any (stationIsSelectable hidden) = true := by
  rw [selectableIndices, List.mem_map]
  constructor
  · rintro ⟨entry, hentry, rfl⟩
    obtain ⟨hmem, hselectable⟩ := List.mem_filter.1 hentry
    rw [List.mem_zipIdx_iff_getElem?.1 hmem]
    exact hselectable
  · intro h
    obtain ⟨station, hstation, hselectable⟩ := (Option.any_eq_true _ _).1 h
    refine ⟨(station, index), List.mem_filter.2 ⟨?_, hselectable⟩, rfl⟩
    exact List.mem_zipIdx_iff_getElem?.2 hstation

/-- Moving the selection ends at a normal one. -/
theorem normalize_moveStationSelection (delta : ℤ) :
    normalizeStationSelection stations hidden
      (moveStationSelection stations hidden selected delta) =
      moveStationSelection stations hidden selected delta := by
  cases h : moveStationSelection stations hidden selected delta with
  | some index => exact normalize_of_selectable (mem_selectableIndices.1 (List.mem_of_getElem? h))
  | none =>
    -- The position that is moved to is in the range, so that there are no positions.
    have hnone : selectableIndices stations hidden = [] := by
      have hlength := List.getElem?_eq_none_iff.1 h
      rw [movedIndex] at hlength
      split_ifs at hlength with hempty
      · exact List.length_eq_zero_iff.1 hempty
      · omega
    rw [normalizeStationSelection]
    refine List.findIdx?_eq_none_iff.2 fun station hstation => ?_
    obtain ⟨index, hindex⟩ := List.getElem?_of_mem hstation
    have hnot : index ∉ selectableIndices stations hidden := by
      rw [hnone]
      exact List.not_mem_nil
    rw [mem_selectableIndices, hindex] at hnot
    simpa using hnot

end Selection

/-! ## Reactions -/

/-- The application reacts as `R` says, and it panics only where a token is used up. -/
inductive Reacts (R : Core → List Effect → Core → Prop) (app : App) :
    Option (App × List Effect) → Prop
  | some {app' : App} {effects : List Effect} : R app.core effects app'.core →
      Reacts R app (some (app', effects))
  | none : app.core.Exhausted → Reacts R app none

/-- The tokens that are used up are used up in a state with the same tokens. -/
theorem Core.Exhausted.congr {c c' : Core} (h : c.Exhausted) (hweather : c.weatherToken = c'.weatherToken)
    (hconfig : c.configToken = c'.configToken) (hsearch : c.search.token = c'.search.token) :
    c'.Exhausted := by
  cases h with
  | weather htoken => exact .weather (hweather ▸ htoken)
  | config htoken => exact .config (hconfig ▸ htoken)
  | search htoken => exact .search (hsearch ▸ htoken)

namespace Reacts

variable {R R' : Core → List Effect → Core → Prop} {app app₁ app' : App} {effects : List Effect}
  {reaction : Option (App × List Effect)}

theorem exhausted (h : Reacts R app .none) : app.core.Exhausted := by
  cases h with
  | none hexhausted => exact hexhausted

/-- A reaction that comes after a part of the step. -/
theorem after (h : Reacts R app₁ reaction) (hexhausted : app₁.core.Exhausted → app.core.Exhausted)
    (himp : ∀ effects c', R app₁.core effects c' → R' app.core effects c') :
    Reacts R' app reaction := by
  cases h with
  | some hreacts => exact .some (himp _ _ hreacts)
  | none hnone => exact .none (hexhausted hnone)

theorem imp (h : Reacts R app reaction)
    (himp : ∀ effects c', R app.core effects c' → R' app.core effects c') :
    Reacts R' app reaction :=
  h.after id himp

theorem pushLog (h : Reacts R app reaction) (message : String) :
    Reacts R app (reaction.map fun next => (next.1.pushLog message, next.2)) := by
  cases h with
  | some hreacts => exact .some hreacts
  | none hexhausted => exact .none hexhausted

/-- Nothing changes that effects and answers depend on. -/
theorem same (h : app'.core = app.core) : Reacts Changes app (.some (app', [])) := by
  refine .some ?_
  rw [h]
  exact .done _

theorem change (h : Change app.core effects app'.core) :
    Reacts Changes app (.some (app', effects)) :=
  .some h.changes

theorem change_core {c' : Core} (hcore : app'.core = c') (h : Change app.core effects c') :
    Reacts Changes app (.some (app', effects)) := by
  subst hcore
  exact .change h

/-- A reaction after other changes, which does not panic because of them. -/
theorem prepend {first : List Effect} (h : Reacts Changes app₁ reaction)
    (hfirst : Changes app.core first app₁.core)
    (hnone : reaction = .none → app.core.Exhausted) :
    Reacts Changes app (reaction.map fun next => (next.1, first ++ next.2)) := by
  cases h with
  | some hchanges => exact .some (hfirst.trans hchanges)
  | none => exact .none (hnone rfl)

/-- A reaction after a change without effects that leaves the tokens as they are. -/
theorem precede (h : Reacts Changes app₁ reaction) (hfirst : Change app.core [] app₁.core)
    (hexhausted : app₁.core.Exhausted → app.core.Exhausted) : Reacts Changes app reaction :=
  h.after hexhausted fun _ _ hchanges => .step hfirst hchanges

/-- The weather is asked for where it has to be, after another selection or other hidden
stations. -/
theorem turn {hidden : Finset String} {selected : Option ℕ}
    (h : Reacts (Follows app.core) app₁ reaction)
    (hnormal : normalizeStationSelection app.stations hidden selected = selected)
    (hcore : app₁.core =
      { app.core with hiddenStations := hidden, selectedStation := selected }) :
    Reacts Changes app reaction := by
  refine h.after (fun hexhausted => ?_) (fun effects c' hfollows => ?_)
  · rw [hcore] at hexhausted
    exact hexhausted.congr rfl rfl rfl
  · rw [hcore] at hfollows
    exact (Change.turn hnormal hfollows).changes

end Reacts

theorem core_mode {app : App} {mode : InputMode}
    (h : (mode == .manageMove) = (app.mode == .manageMove)) :
    App.core { app with mode } = app.core := by
  simp only [App.core, h]

theorem normalizeSelectedStation_eq {app : App} (h : app.core.Valid) :
    app.normalizeSelectedStation = app := by
  have hnormal := h.normal
  simp only [App.core] at hnormal
  rw [App.normalizeSelectedStation, hnormal]

/-! ## Asking for the weather -/

section Asking

variable {app : App}

/-- The weather of the selected station is asked for. -/
theorem reacts_requestSelectedWeather
    (hnormal : normalizeStationSelection app.stations app.hiddenStations app.selectedStation =
      app.selectedStation) (refresh : Bool) (now : Instant) :
    Reacts Asks app (app.requestSelectedWeather refresh now) := by
  have hsame : app.normalizeSelectedStation = app := by
    rw [App.normalizeSelectedStation, hnormal]
  simp only [App.requestSelectedWeather, hsame]
  split
  next hselected =>
    refine .some (.nothing ?_)
    simp [Core.selectedName, App.core, hselected]
  next index hselected =>
    rw [hselected] at hnormal
    obtain ⟨station, hstation, -⟩ :=
      (Option.any_eq_true _ _).1 (selectable_of_normalize hnormal)
    simp only [hstation]
    split_ifs with htoken
    · refine .some (.request refresh ?_)
      simp [Core.selectedName, App.core, hselected, hstation]
    · exact .none (.weather (not_lt.1 htoken))

theorem reacts_tick (h : app.core.Valid) (now : Instant) : Reacts Changes app (app.tick now) := by
  simp only [App.tick]
  split_ifs
  · exact (reacts_requestSelectedWeather h.normal false now).imp fun _ _ hasks =>
      (Change.ask hasks).changes
  · exact .same rfl

/-- The weather is asked for where another station is selected than before. -/
theorem reacts_requestIfMoved {before : App}
    (hnormal : normalizeStationSelection app.stations app.hiddenStations app.selectedStation =
      app.selectedStation) (hstations : app.stations = before.stations) (now : Instant) :
    Reacts (Follows before.core) app (app.requestIfMoved before.selectedStation now) := by
  rw [App.requestIfMoved]
  split_ifs with hmoved
  · exact (reacts_requestSelectedWeather hnormal false now).imp fun _ _ hasks => .asks hasks
  · refine .some (.same ?_)
    simp only [Core.selectedName, App.core, hstations, not_not.1 hmoved]

end Asking

/-! ## Changing the configuration -/

section Updating

variable {app : App}

/-- An update of the configuration is proposed, unless one is under way. -/
theorem reacts_beginConfigUpdate {config : Wire.AppConfig} (hdraft : app.moveDraft = none)
    (hconfig : app.core.Proposes config) (message : String) (selectName : Option String) :
    Reacts Changes app (app.beginConfigUpdate config message selectName) := by
  rw [App.beginConfigUpdate]
  split_ifs with hpending
  · exact .same (core_pushLog _ _)
  · dsimp only
    split_ifs with htoken
    · refine .change (.propose ?_ hdraft hconfig)
      exact Option.not_isSome_iff_eq_none.1 hpending
    · exact .none (.config (not_lt.1 htoken))

theorem reacts_toggleSelected (hdraft : app.moveDraft = none) :
    Reacts Changes app app.toggleSelected := by
  simp only [App.toggleSelected]
  cases hstation : app.config.stations[app.manageSelected]? with
  | none => exact .same rfl
  | some station => exact reacts_beginConfigUpdate hdraft ⟨_, .switch _ hstation, rfl⟩ _ _

/-- The station to remove is there. -/
theorem reacts_deleteSelected (h : app.core.Valid) (hdraft : app.moveDraft = none) :
    Reacts Changes app app.deleteSelected := by
  simp only [App.deleteSelected]
  split_ifs with hempty
  · exact .same rfl
  · have hindex : app.manageSelected < app.config.stations.length := by
      have hpoints : app.manageSelected ≤ app.config.stations.length - 1 := h.points
      have hpos := List.length_pos_iff.2 hempty
      omega
    rw [List.getElem?_eq_getElem hindex]
    exact reacts_beginConfigUpdate hdraft ⟨_, .remove hindex, rfl⟩ _ _

/-- Enabling a station or adding it is an edit. -/
theorem edit_withStation (stations : List Wire.StationConfig) (name : String) :
    Edit stations (App.withStation stations name) := by
  rw [App.withStation]
  split_ifs with hany
  · have hlt : stations.findIdx (·.name = name) < stations.length :=
      List.findIdx_lt_length.2 (by simpa using hany)
    rw [List.modify_eq_set_get _ hlt]
    exact .switch true (List.getElem?_eq_getElem hlt)
  · refine .add fun station hstation hname => hany ?_
    exact List.any_eq_true.2 ⟨station, hstation, by simpa using hname⟩

end Updating

/-! ## The search -/

section Searching

variable {state state' : SearchState}

/-- The search panics only where its tokens are used up. -/
theorem le_token_of_bumpToken (h : state.bumpToken = none) : 2 ^ 64 ≤ state.token + 1 := by
  rw [SearchState.bumpToken] at h
  split_ifs at h with htoken
  exact not_lt.1 htoken

theorem token_of_cancelAndClear (h : state.cancelAndClear = some state') :
    state'.token = state.token + 1 ∧ state'.status = .idle := by
  obtain ⟨bumped, hbumped, rfl⟩ := Option.map_eq_some_iff.1 h
  obtain rfl := eq_of_bumpToken hbumped
  exact ⟨rfl, rfl⟩

theorem token_of_cancelResultsForEdit {query : String}
    (h : { state with query }.cancelResultsForEdit = some state') :
    state'.token = state.token + 1 ∧ state'.status = .idle := by
  have hclear : { state with query }.cancelAndClear = some state' := h
  have hcleared := token_of_cancelAndClear hclear
  exact hcleared

theorem le_token_of_cancelResultsForEdit {query : String}
    (h : { state with query }.cancelResultsForEdit = none) : 2 ^ 64 ≤ state.token + 1 := by
  have hbump : { state with query }.bumpToken = none := Option.map_eq_none_iff.1 h
  have htoken := le_token_of_bumpToken hbump
  exact htoken

/-- What a key does to the search: either the query changes and the search is left, or it goes
on. -/
theorem handleKey_cases {key : KeyEvent} {intent : SearchIntent}
    (h : state.handleKey key = some (state', intent)) :
    (intent = .queryChanged ∧ state'.token = state.token + 1 ∧ state'.status = .idle) ∨
      (intent ≠ .queryChanged ∧ state'.token = state.token ∧ state'.status = state.status ∧
        state'.nextOffset = state.nextOffset) := by
  obtain ⟨code, control, alt⟩ := key
  cases code with
  | esc | enter | other | down | up =>
    obtain ⟨rfl, rfl⟩ := Prod.mk.inj (Option.some.inj h)
    exact .inr ⟨by decide, rfl, rfl, rfl⟩
  | backspace =>
    obtain ⟨cleared, hcleared, heq⟩ := Option.map_eq_some_iff.1 h
    obtain ⟨rfl, rfl⟩ := Prod.mk.inj heq
    exact .inl ⟨rfl, token_of_cancelResultsForEdit hcleared⟩
  | char character =>
    simp only [SearchState.handleKey] at h
    split_ifs at h
    · obtain ⟨rfl, rfl⟩ := Prod.mk.inj (Option.some.inj h)
      exact .inr ⟨by decide, rfl, rfl, rfl⟩
    · obtain ⟨rfl, rfl⟩ := Prod.mk.inj (Option.some.inj h)
      exact .inr ⟨by decide, rfl, rfl, rfl⟩
    · obtain ⟨cleared, hcleared, heq⟩ := Option.map_eq_some_iff.1 h
      obtain ⟨rfl, rfl⟩ := Prod.mk.inj heq
      exact .inl ⟨rfl, token_of_cancelResultsForEdit hcleared⟩

theorem le_token_of_handleKey {key : KeyEvent} (h : state.handleKey key = none) :
    2 ^ 64 ≤ state.token + 1 := by
  obtain ⟨code, control, alt⟩ := key
  cases code with
  | esc | enter | other | down | up => cases h
  | backspace => exact le_token_of_cancelResultsForEdit (Option.map_eq_none_iff.1 h)
  | char character =>
    simp only [SearchState.handleKey] at h
    split_ifs at h
    exact le_token_of_cancelResultsForEdit (Option.map_eq_none_iff.1 h)

variable {app : App}

theorem core_search {search : SearchState} {mode : InputMode} {previewSnapshot}
    (hmode : (mode == .manageMove) = (app.mode == .manageMove)) :
    App.core { app with search, mode, previewSnapshot } = { app.core with search } := by
  simp only [App.core, hmode]

/-- Leaving the search closes it. -/
theorem change_exitSearchToManage {app' : App} (hmode : app.mode ≠ .manageMove)
    (h : app.exitSearchToManage = some app') : Change app.core [.cancelSearch] app'.core := by
  obtain ⟨search, hsearch, rfl⟩ := Option.map_eq_some_iff.1 h
  have htoken := token_of_cancelAndClear hsearch
  have hnext : app.core.search.next .cancel = some search := hsearch
  have hcore : App.core { app with search, mode := .manage, previewSnapshot := none } =
      { app.core with search } := core_search (by simp [beq_false_of_ne hmode])
  rw [core_pushLog, hcore]
  exact .leave hnext htoken.1 htoken.2 (.inr rfl)

theorem exhausted_exitSearchToManage (h : app.exitSearchToManage = none) :
    app.core.Exhausted :=
  .search (le_token_of_bumpToken (Option.map_eq_none_iff.1 (Option.map_eq_none_iff.1 h)))

theorem le_token_of_beginConfigUpdate {config : Wire.AppConfig} {message : String}
    {selectName : Option String} (h : app.beginConfigUpdate config message selectName = none) :
    2 ^ 64 ≤ app.configToken + 1 := by
  simp only [App.beginConfigUpdate] at h
  split_ifs at h with _ htoken
  exact not_lt.1 htoken

theorem reacts_addSelectedResult (hmode : app.mode ≠ .manageMove) (hdraft : app.moveDraft = none)
    (station : StationRef) :
    Reacts Changes app
      ((app.addSelectedResult station).map fun next => (next.1, .cancelSearch :: next.2)) := by
  simp only [App.addSelectedResult]
  cases hexit : app.exitSearchToManage with
  | none => exact .none (exhausted_exitSearchToManage hexit)
  | some app₁ =>
    have hchange := (change_exitSearchToManage hmode hexit).changes
    obtain ⟨search, -, rfl⟩ := Option.map_eq_some_iff.1 hexit
    apply Reacts.prepend (reacts_beginConfigUpdate _ _ _ _) hchange
    · intro hnone
      have htoken := le_token_of_beginConfigUpdate hnone
      exact .config htoken
    · exact hdraft
    · exact ⟨_, edit_withStation _ station.name, rfl⟩

theorem reacts_handleSearchKey (hmode : app.mode ≠ .manageMove) (hdraft : app.moveDraft = none)
    (key : TerminalKey) : Reacts Changes app (app.handleSearchKey key) := by
  simp only [App.handleSearchKey]
  cases hkey : app.search.handleKey key.event with
  | none => exact .none (.search (le_token_of_handleKey hkey))
  | some handled =>
    obtain ⟨search, intent⟩ := handled
    have hnext : app.core.search.next (.key key.event) = some search :=
      Option.map_eq_some_iff.2 ⟨_, hkey, rfl⟩
    dsimp only [Option.bind_some]
    rcases handleKey_cases hkey with ⟨rfl, htoken, hstatus⟩ | ⟨hintent, htoken, hstatus, hoffset⟩
    · exact .change (.leave hnext htoken hstatus (.inr rfl))
    · -- The search goes on, and what follows starts from where the key has left it.
      have hbrowse : Change app.core [] (App.core { app with search }) :=
        .browse hnext htoken hstatus hoffset
      refine Reacts.precede ?_ hbrowse fun hexhausted => hexhausted.congr rfl rfl htoken
      cases intent with
      | queryChanged => exact absurd rfl hintent
      | none => exact .same rfl
      | exit =>
        cases hexit : App.exitSearchToManage { app with search } with
        | none => exact .none (exhausted_exitSearchToManage hexit)
        | some app' => exact .change (change_exitSearchToManage hmode hexit)
      | submit =>
        cases hstart : search.start with
        | none => exact .none (.search (le_token_of_bumpToken (Option.map_eq_none_iff.1 hstart)))
        | some started =>
          obtain ⟨search', token, query⟩ := started
          exact .change (.search hstart)
      | action =>
        dsimp only
        cases hselected : search.selectedResult with
        | none => exact .same (core_pushLog _ _)
        | some station =>
          dsimp only
          split_ifs
          · apply reacts_addSelectedResult
            · exact hmode
            · exact hdraft
          · exact .change (.preview _ _)

end Searching

/-! ## Keys -/

section Keys

variable {app : App}

/-- Where a station is not being moved there is no draft. -/
theorem moveDraft_eq_none_of_mode (h : app.core.Valid) (hmode : app.mode ≠ .manageMove) :
    app.moveDraft = none := by
  have hmoving := h.moving_eq
  simp only [App.core, beq_false_of_ne hmode] at hmoving
  exact Option.not_isSome_iff_eq_none.1 (by simp [← hmoving])

/-- Moving the selection ends at the same station or at another one that can be selected. -/
theorem selectStation_cases (h : app.core.Valid) (delta : ℤ) :
    app.selectStation delta = (app, false) ∨ ∃ selected,
      normalizeStationSelection app.stations app.hiddenStations selected = selected ∧
      app.selectStation delta =
        ({ app with selectedStation := selected, forecastScroll := 0, alertScroll := 0 }, true) := by
  simp only [App.selectStation, normalizeSelectedStation_eq h]
  split_ifs with hsame
  · exact .inl rfl
  · exact .inr ⟨_, normalize_moveStationSelection delta, rfl⟩

theorem core_scrollForecast (app : App) (delta : ℤ) : (app.scrollForecast delta).core = app.core := by
  simp only [App.scrollForecast]
  split_ifs <;> rfl

theorem reacts_moveInFocus (h : app.core.Valid) (delta : ℤ) (now : Instant) :
    Reacts Changes app (app.moveInFocus delta now) := by
  rw [App.moveInFocus]
  split
  · rcases selectStation_cases h delta with hsame | ⟨selected, hnormal, hmoved⟩
    · rw [hsame]
      exact .same rfl
    · rw [hmoved]
      apply Reacts.turn ((reacts_requestSelectedWeather ?_ _ _).imp fun _ _ => Follows.asks) hnormal
      · rfl
      · exact hnormal
  · exact .same (core_scrollForecast _ _)
  · exact .same rfl
  · exact .same rfl

/-- The result of a step that does not end the application. -/
theorem map_stay (next : Option (App × List Effect)) :
    (next.map fun (app, effects) => (app, false, effects)).map (fun next => (next.1, next.2.2)) =
      next := by
  cases next <;> rfl

theorem reacts_handleNormalKey (h : app.core.Valid) (hmode : app.mode = .normal) (key : TerminalKey)
    (now : Instant) :
    Reacts Changes app ((app.handleNormalKey key now).map fun next => (next.1, next.2.2)) := by
  cases key with
  | tab => exact .same rfl
  | pageDown | pageUp =>
    simp only [App.handleNormalKey, Option.map_some]
    split_ifs
    · exact .same (core_scrollForecast _ _)
    · exact .same rfl
  | key event =>
    simp only [App.handleNormalKey]
    split
    · exact .same rfl
    · rw [map_stay]
      exact (reacts_requestSelectedWeather h.normal true now).imp fun _ _ hasks =>
        (Change.ask hasks).changes
    · exact .same rfl
    · rw [map_stay]
      exact reacts_moveInFocus h 1 now
    · rw [map_stay]
      exact reacts_moveInFocus h 1 now
    · rw [map_stay]
      exact reacts_moveInFocus h (-1) now
    · rw [map_stay]
      exact reacts_moveInFocus h (-1) now
    · refine .change_core ?_ (.point (min_le_right (app.selectedStation.getD 0) _))
      rw [core_pushLog]
      simp [App.core, hmode]
    · refine .change_core ?_ .about
      simp [App.core, hmode]
    · exact .same rfl

theorem reacts_handleAboutKey (hmode : app.mode = .about) (key : TerminalKey) :
    Reacts Changes app (some (app.handleAboutKey key)) := by
  unfold App.handleAboutKey
  split
  · exact .change .about
  · refine .same ?_
    simp [App.core, hmode]

theorem reacts_enterSearch {mode : InputMode} (hmode : app.mode ≠ .manageMove)
    (hsearch : mode ≠ .manageMove) :
    Reacts Changes app ((app.enterSearch mode).map (·, [])) := by
  unfold App.enterSearch
  cases henter : app.search.enter with
  | none =>
    refine .none (.search (le_token_of_bumpToken ?_))
    exact Option.map_eq_none_iff.1 (Option.map_eq_none_iff.1 henter)
  | some search =>
    obtain ⟨cleared, hcleared, rfl⟩ := Option.map_eq_some_iff.1 henter
    have htoken := token_of_cancelAndClear hcleared
    have hnext : app.core.search.next .enter = some { cleared with query := "" } := henter
    refine .change_core ?_ (.leave hnext htoken.1 htoken.2 (.inl rfl))
    rw [core_pushLog]
    exact core_search (by rw [beq_false_of_ne hmode, beq_false_of_ne hsearch])

/-- Hiding a station and showing it again. -/
theorem reacts_toggleHidden (now : Instant) : Reacts Changes app (app.toggleHidden now) := by
  rw [App.toggleHidden]
  split
  · exact .same rfl
  · dsimp only
    refine Reacts.pushLog ?_ _
    apply Reacts.turn (reacts_requestIfMoved ?_ ?_ now) (normalize_normalize _ _ _)
    · rfl
    · exact normalize_normalize _ _ _
    · rfl

theorem movedIndex_le (current length : ℕ) (delta : ℤ) :
    movedIndex current length delta ≤ length - 1 := by
  rw [movedIndex]
  split_ifs <;> omega

/-! ### Moving a station -/

theorem of_moveDraft_new (hpending : app.pendingConfig = none)
    {draft : MoveDraft} (hdraft : MoveDraft.new app.config.stations app.manageSelected = some draft) :
    draft.Of app.core := by
  rw [MoveDraft.new] at hdraft
  split_ifs at hdraft with hempty
  obtain rfl := Option.some.inj hdraft
  have hpos := List.length_pos_iff.2 hempty
  have hlast : min app.manageSelected (app.config.stations.length - 1) <
      app.config.stations.length := by omega
  exact ⟨.refl _, hlast, hlast, hpending⟩

/-- Moving the station one place keeps the draft one of the list. -/
theorem MoveDraft.Of.moveBy {draft : MoveDraft} {c : Core} (h : draft.Of c) (delta : ℤ) :
    (draft.moveBy delta).Of c := by
  simp only [MoveDraft.moveBy]
  split_ifs with hmoved
  · have hlength := h.perm.length_eq
    have hselected := h.selected
    refine ⟨(List.swap_perm _ _ _).trans h.perm, ?_, h.origin, h.free⟩
    have hle := movedIndex_le draft.selected draft.stations.length delta
    show movedIndex _ _ _ < _
    omega
  · exact h

theorem reacts_handleMoveKey (h : app.core.Valid) (hmode : app.mode = .manageMove)
    (key : TerminalKey) : Reacts Changes app (app.handleMoveKey key) := by
  have hmoving := h.moving_eq
  simp only [App.core, hmode] at hmoving
  simp only [App.handleMoveKey]
  cases hdraft : app.moveDraft with
  | none =>
    rw [hdraft] at hmoving
    cases hmoving
  | some draft =>
    have hof := h.draft draft hdraft
    have hmoved (delta : ℤ) : Reacts Changes app (some ({ app with
        moveDraft := some (draft.moveBy delta)
        manageSelected := (draft.moveBy delta).selected }, [])) :=
      .change (.carry hdraft (hof.moveBy delta))
    dsimp only
    split
    · refine .change_core ?_ (.putDown (Nat.le_sub_one_of_lt hof.origin))
      rfl
    · apply Reacts.precede (reacts_beginConfigUpdate ?_ ?_ _ _)
      · exact .putDown (Nat.le_sub_one_of_lt hof.selected)
      · exact fun hexhausted => hexhausted.congr rfl rfl rfl
      · rfl
      · exact ⟨_, .reorder hof.perm, rfl⟩
    · exact hmoved 1
    · exact hmoved 1
    · exact hmoved (-1)
    · exact hmoved (-1)
    · exact .same rfl

theorem reacts_handleManageKey (h : app.core.Valid) (hmode : app.mode = .manage)
    (key : TerminalKey) (now : Instant) : Reacts Changes app (app.handleManageKey key now) := by
  have hmoving : app.mode ≠ .manageMove := by
    rw [hmode]
    decide
  have hdraft := moveDraft_eq_none_of_mode h hmoving
  have hpoint (delta : ℤ) : Reacts Changes app (some ({ app with
      manageSelected := movedIndex app.manageSelected app.config.stations.length delta }, [])) := by
    exact .change (.point (movedIndex_le _ _ delta))
  simp only [App.handleManageKey]
  split
  · have hcore : App.core { app with mode := .normal } = app.core :=
      core_mode (by simp [beq_false_of_ne hmoving])
    have hnormal := normalizeSelectedStation_eq (hcore ▸ h)
    rw [hnormal, App.requestIfMoved]
    split_ifs with hmoved
    · exact absurd rfl hmoved
    · exact .same hcore
  · exact hpoint 1
  · exact hpoint 1
  · exact hpoint (-1)
  · exact hpoint (-1)
  · exact reacts_toggleSelected hdraft
  · exact reacts_deleteSelected h hdraft
  · exact reacts_enterSearch hmoving (by decide)
  · exact reacts_enterSearch hmoving (by decide)
  · split_ifs with hpending
    · exact .same (core_pushLog _ _)
    · cases hnew : MoveDraft.new app.config.stations app.manageSelected with
      | none => exact .same rfl
      | some draft =>
        have hof := of_moveDraft_new (Option.not_isSome_iff_eq_none.1 hpending) hnew
        exact .change_core rfl (.pickUp hof)
  · exact reacts_toggleHidden now
  · exact .same rfl

/-- What a key does. -/
theorem reacts_reduceKey (h : app.core.Valid) (key : TerminalKey) (now : Instant) :
    Reacts Changes app ((app.reduceKey key now).map fun next => (next.1, next.2.2)) := by
  simp only [App.reduceKey]
  split_ifs
  · exact .same rfl
  · cases hmode : app.mode with
    | normal => exact reacts_handleNormalKey h hmode key now
    | manage =>
      dsimp only
      rw [map_stay]
      exact reacts_handleManageKey h hmode key now
    | manageMove =>
      dsimp only
      rw [map_stay]
      exact reacts_handleMoveKey h hmode key
    | manageAddSearch | manageBrowseSearch =>
      have hmoving : app.mode ≠ .manageMove := by
        rw [hmode]
        decide
      dsimp only
      rw [map_stay]
      exact reacts_handleSearchKey hmoving (moveDraft_eq_none_of_mode h hmoving) key
    | about =>
      dsimp only
      rw [map_stay]
      exact reacts_handleAboutKey hmode key

end Keys

/-! ## Answers -/

section Answers

variable {app : App}

/-- The entry that is pointed at after an update is there. -/
theorem pointAt_le (stations : List Wire.StationConfig) (selectName : Option String)
    {current fallback : ℕ} (h : fallback ≤ stations.length - 1) :
    App.pointAt stations selectName current fallback ≤ stations.length - 1 := by
  cases selectName with
  | none => exact min_le_right _ _
  | some name =>
    rw [App.pointAt]
    cases hindex : stations.findIdx? (·.name = name) with
    | none => exact h
    | some index =>
      obtain ⟨hlt, -⟩ := List.findIdx?_eq_some_iff_getElem.1 hindex
      exact Nat.le_sub_one_of_lt hlt

/-- The answer to the pending update. -/
theorem reacts_applyConfigResult {pending : PendingConfig} (hpending : app.pendingConfig = some pending)
    (result : Except String Wire.AppConfig) (now : Instant) :
    Reacts (fun c => Receipt c (.config pending.token result)) app
      (App.applyConfigResult { app with pendingConfig := none } pending result now) := by
  cases result with
  | error message =>
    simp only [App.applyConfigResult]
    refine .some ?_
    rw [core_pushLog]
    exact .rejected hpending (pointAt_le _ _ (min_le_right _ _))
  | ok config =>
    simp only [App.applyConfigResult]
    split_ifs with hmoved
    · apply (reacts_requestSelectedWeather ?_ false now).after
      · exact fun hexhausted => hexhausted.congr rfl rfl rfl
      · intro effects c' hasks
        exact .adopted hpending (normalize_normalize _ _ _) (pointAt_le _ _ le_rfl) (.asks hasks)
      · exact normalize_normalize _ _ _
    · exact .some (.adopted hpending (normalize_normalize _ _ _) (pointAt_le _ _ le_rfl)
        (.same (not_not.1 hmoved)))

theorem reacts_applyEffectResult (result : EffectResult) (now : Instant) :
    Reacts (fun c => Receipt c result) app (app.applyEffectResult result now) := by
  cases result with
  | searchPage page => exact .some (.page page)
  | searchFailed token message =>
    simp only [App.applyEffectResult]
    split_ifs
    · exact .some (.searchFailed token message)
    · exact .some (.searchFailed token message)
  | weather token name result =>
    simp only [App.applyEffectResult]
    split_ifs with htoken
    · exact .some (.ignored htoken)
    · obtain rfl := not_not.1 htoken
      cases result with
      | ok snapshot => exact .some (.weather name _)
      | error message => exact .some (.weather name _)
  | preview token stationName result =>
    simp only [App.applyEffectResult]
    split_ifs
    · cases result with
      | ok snapshot => exact .some (.ignored trivial)
      | error message => exact .some (.ignored trivial)
    · exact .some (.ignored trivial)
  | config token result =>
    simp only [App.applyEffectResult]
    cases hpending : app.pendingConfig with
    | none =>
      refine .some (.ignored fun pending hsome => ?_)
      cases hpending.symm.trans hsome
    | some pending =>
      dsimp only
      split_ifs with htoken
      · refine .some (.ignored fun other hother => ?_)
        rwa [← Option.some.inj (hpending.symm.trans hother)]
      · obtain rfl := not_not.1 htoken
        exact reacts_applyConfigResult hpending result now
  | about result =>
    cases result with
    | ok status => exact .some (.ignored trivial)
    | error message => exact .some (.ignored trivial)
  | taskFailed message => exact .some (.ignored trivial)

/-- An event of the engine changes nothing that effects and answers depend on. -/
theorem core_applyEngineEvent [Sha256] (app : App) (now : Instant) (event : EngineEvent) :
    (app.applyEngineEvent now event).core = app.core := by
  cases event with
  | weatherSnapshot snapshot =>
    simp only [App.applyEngineEvent]
    split_ifs <;> rfl
  | refresh topic refresh =>
    simp only [App.applyEngineEvent]
    split <;> rfl
  | engineStatus | fetchLog | other => rfl

theorem valid_load (config : Wire.AppConfig) (aboutStatus : Option EngineStatus) :
    (App.load config aboutStatus).core.Valid where
  stations_eq := rfl
  normal := normalize_normalize (configuredStations config) ∅ none
  points := Nat.zero_le _
  moving_eq := rfl
  draft draft hdraft := by cases hdraft
  pending pending hpending := by cases hpending

end Answers

end WeatherApp.Tui
