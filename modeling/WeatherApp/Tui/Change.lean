import WeatherApp.Tui.App

/-!
# The changes of the terminal application

Keys, ticks and answers change the application in a few ways. Here is each of them as a relation
between the parts of the state that effects and answers depend on, with the effects that it asks
for.

## Main definitions

* `Core`: these parts of the state, and `Core.Valid`: what holds of them between two steps.
* `Edit`: a change of the list of stations that the application proposes to the engine.
* `Change`, `Changes`: what keys and ticks do.
* `Receipt`: what an answer does.

## Main results

* `Core.Valid.changes`, `Core.Valid.receipt`: they keep the state valid.
-/

namespace WeatherApp.Tui

/-! ## The core of the state -/

/-- The parts of the application that effects and answers depend on. -/
structure Core where
  config : Wire.AppConfig
  stations : List ConfiguredStation
  selectedStation : Option ℕ
  hiddenStations : Finset String
  manageSelected : ℕ
  moveDraft : Option MoveDraft
  /-- The mode is that of moving a station. -/
  moving : Bool
  search : SearchState
  weatherToken : ℕ
  weatherPending : Bool
  configToken : ℕ
  pendingConfig : Option PendingConfig

/-- The core of an application. -/
def App.core (app : App) : Core where
  config := app.config
  stations := app.stations
  selectedStation := app.selectedStation
  hiddenStations := app.hiddenStations
  manageSelected := app.manageSelected
  moveDraft := app.moveDraft
  moving := app.mode == .manageMove
  search := app.search
  weatherToken := app.weatherToken
  weatherPending := app.weatherPending
  configToken := app.configToken
  pendingConfig := app.pendingConfig

@[simp]
theorem core_pushLog (app : App) (message : String) : (app.pushLog message).core = app.core := by
  simp only [App.core, App.pushLog]

/-- The name of the selected station. -/
def Core.selectedName (c : Core) : Option String :=
  (c.selectedStation.bind (c.stations[·]?)).map (·.name)

/-- A draft of the list as it is displayed, in another order. No update of the configuration is
under way as long as there is one. -/
structure MoveDraft.Of (draft : MoveDraft) (c : Core) : Prop where
  perm : draft.stations.Perm c.config.stations
  selected : draft.selected < c.config.stations.length
  origin : draft.origin < c.config.stations.length
  free : c.pendingConfig = none

/-- What holds between two steps. -/
structure Core.Valid (c : Core) : Prop where
  stations_eq : c.stations = configuredStations c.config
  normal : normalizeStationSelection c.stations c.hiddenStations c.selectedStation =
    c.selectedStation
  /-- The entry of the list that is pointed at is there, if there is any. -/
  points : c.manageSelected ≤ c.config.stations.length - 1
  moving_eq : c.moving = c.moveDraft.isSome
  draft : ∀ draft, c.moveDraft = some draft → draft.Of c
  pending : ∀ pending, c.pendingConfig = some pending → pending.token = c.configToken

/-- A token is used up. -/
inductive Core.Exhausted (c : Core) : Prop
  | weather : 2 ^ 64 ≤ c.weatherToken + 1 → Exhausted c
  | config : 2 ^ 64 ≤ c.configToken + 1 → Exhausted c
  | search : 2 ^ 64 ≤ c.search.token + 1 → Exhausted c

/-! ## Changes -/

/-- The changes of the list of stations that the application proposes. -/
inductive Edit (stations : List Wire.StationConfig) : List Wire.StationConfig → Prop
  /-- A station is enabled or disabled. -/
  | switch {index : ℕ} {station : Wire.StationConfig} (enabled : Bool) :
      stations[index]? = some station → Edit stations (stations.set index { station with enabled })
  | remove {index : ℕ} : index < stations.length → Edit stations (stations.eraseIdx index)
  | add {name : String} : (∀ station ∈ stations, station.name ≠ name) →
      Edit stations (stations ++ [⟨name, true⟩])
  | reorder {stations' : List Wire.StationConfig} : stations'.Perm stations → Edit stations stations'

/-- The configuration is an edit of the displayed one. -/
def Core.Proposes (c : Core) (config : Wire.AppConfig) : Prop :=
  ∃ stations, Edit c.config.stations stations ∧ config = { c.config with stations }

/-- The weather of the selected station is asked for. -/
inductive Asks (c : Core) : List Effect → Core → Prop
  | nothing : c.selectedName = none → Asks c [] { c with weatherPending := false }
  | request {name : String} (refresh : Bool) : c.selectedName = some name →
      Asks c [.loadWeather (c.weatherToken + 1) name none refresh]
        { c with weatherToken := c.weatherToken + 1, weatherPending := true }

/-- The weather is asked for, unless the name of the selected station is the same as before. -/
inductive Follows (before c : Core) : List Effect → Core → Prop
  | same : c.selectedName = before.selectedName → Follows before c [] c
  | asks {effects : List Effect} {c' : Core} : Asks c effects c' → Follows before c effects c'

/-- A change, with the effects that it asks for. -/
inductive Change (c : Core) : List Effect → Core → Prop
  | preview (token : ℕ) (station : StationRef) : Change c [.preview token station] c
  | about : Change c [.loadAbout] c
  /-- An entry of the list is pointed at. -/
  | point {index : ℕ} : index ≤ c.config.stations.length - 1 →
      Change c [] { c with manageSelected := index }
  /-- Another station is selected, or stations are hidden and shown. -/
  | turn {hidden : Finset String} {selected : Option ℕ} {effects : List Effect} {c' : Core} :
      normalizeStationSelection c.stations hidden selected = selected →
      Follows c { c with hiddenStations := hidden, selectedStation := selected } effects c' →
      Change c effects c'
  | ask {effects : List Effect} {c' : Core} : Asks c effects c' → Change c effects c'
  /-- A change of the configuration is proposed. -/
  | propose {config : Wire.AppConfig} {message : String} {selectName : Option String} :
      c.pendingConfig = none → c.moveDraft = none → c.Proposes config →
      Change c [.updateConfig (c.configToken + 1) config]
        { c with
          configToken := c.configToken + 1
          pendingConfig := some ⟨c.configToken + 1, message, selectName⟩ }
  /-- Moving a station starts. -/
  | pickUp {draft : MoveDraft} : draft.Of c →
      Change c [] { c with moveDraft := some draft, moving := true }
  /-- The station moves. -/
  | carry {before draft : MoveDraft} : c.moveDraft = some before → draft.Of c →
      Change c [] { c with moveDraft := some draft, manageSelected := draft.selected }
  /-- Moving a station ends. -/
  | putDown {index : ℕ} : index ≤ c.config.stations.length - 1 →
      Change c [] { c with manageSelected := index, moveDraft := none, moving := false }
  /-- The search goes on. -/
  | browse {label : SearchLabel} {search : SearchState} : c.search.next label = some search →
      search.token = c.search.token → search.status = c.search.status →
      search.nextOffset = c.search.nextOffset → Change c [] { c with search }
  /-- The search is left: its tasks may go on, but what they send is not taken. -/
  | leave {label : SearchLabel} {search : SearchState} {effects : List Effect} :
      c.search.next label = some search → search.token = c.search.token + 1 →
      search.status = .idle → effects = [] ∨ effects = [.cancelSearch] →
      Change c effects { c with search }
  | search {search : SearchState} {token : ℕ} {query : String} :
      c.search.start = some (search, token, query) →
      Change c [.search token query] { c with search }

/-- Changes one after the other. -/
inductive Changes : Core → List Effect → Core → Prop
  | done (c : Core) : Changes c [] c
  | step {c c₁ c' : Core} {effects more : List Effect} :
      Change c effects c₁ → Changes c₁ more c' → Changes c (effects ++ more) c'

theorem Change.changes {c c' : Core} {effects : List Effect} (h : Change c effects c') :
    Changes c effects c' := by
  have hstep := Changes.step h (.done c')
  rwa [List.append_nil] at hstep

theorem Changes.trans {c c₁ c' : Core} {effects more : List Effect} (h : Changes c effects c₁)
    (hmore : Changes c₁ more c') : Changes c (effects ++ more) c' := by
  induction h with
  | done => exact hmore
  | step hfirst _ ih =>
    rw [List.append_assoc]
    exact .step hfirst (ih hmore)

/-! ## Answers -/

/-- The answer that is waited for, and that changes the core in another way than by its own
receipt. -/
def EffectResult.Ignored (c : Core) : EffectResult → Prop
  | .searchPage _ | .searchFailed _ _ => False
  | .weather token _ _ => token ≠ c.weatherToken
  | .config token _ => ∀ pending, c.pendingConfig = some pending → token ≠ pending.token
  | .preview _ _ _ | .about _ | .taskFailed _ => True

/-- What an answer does, with the effects that are asked for then. -/
inductive Receipt (c : Core) : EffectResult → List Effect → Core → Prop
  | page (page : SearchPage) :
      Receipt c (.searchPage page) [] { c with search := (c.search.applyPage page).1 }
  | searchFailed (token : ℕ) (message : String) :
      Receipt c (.searchFailed token message) []
        { c with search := (c.search.applyError token message).1 }
  | weather (name : String) (result : Except String WeatherSnapshot) :
      Receipt c (.weather c.weatherToken name result) [] { c with weatherPending := false }
  /-- The engine has taken the configuration, maybe with changes of its own. -/
  | adopted {pending : PendingConfig} {config : Wire.AppConfig} {hidden : Finset String}
      {selected : Option ℕ} {index : ℕ} {effects : List Effect} {c' : Core} :
      c.pendingConfig = some pending →
      normalizeStationSelection (configuredStations config) hidden selected = selected →
      index ≤ config.stations.length - 1 →
      Follows c
        { c with
          config
          stations := configuredStations config
          hiddenStations := hidden
          selectedStation := selected
          manageSelected := index
          pendingConfig := none }
        effects c' →
      Receipt c (.config pending.token (.ok config)) effects c'
  | rejected {pending : PendingConfig} {message : String} {index : ℕ} :
      c.pendingConfig = some pending → index ≤ c.config.stations.length - 1 →
      Receipt c (.config pending.token (.error message)) []
        { c with manageSelected := index, pendingConfig := none }
  | ignored {result : EffectResult} : result.Ignored c → Receipt c result [] c

/-! ## Validity -/

section Validity

variable {before c c' : Core} {effects : List Effect}

theorem Core.Valid.asks (h : c.Valid) (hasks : Asks c effects c') : c'.Valid := by
  obtain ⟨hstations, hnormal, hpoints, hmoving, hdraft, hpending⟩ := h
  cases hasks with
  | nothing => exact ⟨hstations, hnormal, hpoints, hmoving, fun d hd => { hdraft d hd with }, hpending⟩
  | request => exact ⟨hstations, hnormal, hpoints, hmoving, fun d hd => { hdraft d hd with }, hpending⟩

theorem Core.Valid.follows (h : c.Valid) (hfollows : Follows before c effects c') : c'.Valid := by
  cases hfollows with
  | same => exact h
  | asks hasks => exact h.asks hasks

/-- A change keeps the state valid. -/
theorem Core.Valid.change (h : c.Valid) (hchange : Change c effects c') : c'.Valid := by
  cases hchange with
  | preview | about => exact h
  | point hindex => exact { h with points := hindex, draft := fun d hd => { h.draft d hd with } }
  | @turn hidden selected _ _ hnormal hfollows =>
    have hturned : Core.Valid { c with hiddenStations := hidden, selectedStation := selected } :=
      { h with normal := hnormal, draft := fun d hd => { h.draft d hd with } }
    exact hturned.follows hfollows
  | ask hasks => exact h.asks hasks
  | propose _ hdraft =>
    refine { h with draft := fun d hd => ?_, pending := fun pending hpending => ?_ }
    · rw [hdraft] at hd
      cases hd
    · rw [← Option.some.inj hpending]
  | pickUp hof =>
    refine { h with moving_eq := rfl, draft := fun d hd => ?_ }
    obtain rfl := Option.some.inj hd
    exact { hof with }
  | carry hbefore hof =>
    refine { h with points := ?_, moving_eq := ?_, draft := fun d hd => ?_ }
    · exact Nat.le_sub_one_of_lt hof.selected
    · exact h.moving_eq.trans (by rw [hbefore]; rfl)
    · obtain rfl := Option.some.inj hd
      exact { hof with }
  | putDown hindex =>
    exact { h with points := hindex, moving_eq := rfl, draft := fun d hd => by cases hd }
  | browse | leave | search => exact { h with draft := fun d hd => { h.draft d hd with } }

/-- Changes keep the state valid. -/
theorem Core.Valid.changes (h : c.Valid) (hchanges : Changes c effects c') : c'.Valid := by
  induction hchanges with
  | done => exact h
  | step hchange _ ih => exact ih (h.change hchange)

/-- While an update is under way, no station is being moved. -/
theorem Core.Valid.moveDraft_eq_none (h : c.Valid) {pending : PendingConfig}
    (hpending : c.pendingConfig = some pending) : c.moveDraft = none := by
  by_contra hdraft
  obtain ⟨draft, hdraft⟩ := Option.ne_none_iff_exists'.1 hdraft
  have hfree := (h.draft draft hdraft).free
  rw [hpending] at hfree
  cases hfree

/-- An answer keeps the state valid. -/
theorem Core.Valid.receipt {result : EffectResult} (h : c.Valid)
    (hreceipt : Receipt c result effects c') : c'.Valid := by
  cases hreceipt with
  | page | searchFailed | weather => exact { h with draft := fun d hd => { h.draft d hd with } }
  | adopted hpending hnormal hindex hfollows =>
    refine Core.Valid.follows ?_ hfollows
    refine ⟨rfl, hnormal, hindex, h.moving_eq, fun d hd => ?_, fun p hp => by cases hp⟩
    rw [h.moveDraft_eq_none hpending] at hd
    cases hd
  | rejected hpending hindex =>
    refine { h with points := hindex, draft := fun d hd => ?_, pending := fun p hp => by cases hp }
    rw [h.moveDraft_eq_none hpending] at hd
    cases hd
  | ignored => exact h

end Validity

end WeatherApp.Tui
