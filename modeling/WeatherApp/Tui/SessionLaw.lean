import WeatherApp.Tui.AnswerLaw
import WeatherApp.Tui.SearchFlow

/-!
# Sessions of the terminal application

What holds in every state of a session, in whatever order keys, ticks, events and answers come and
the tasks take their steps.

## Main definitions

* `InStep`: the application and its tasks are in step.

## Main results

* `session_app_valid`: the application stays valid, and it does not panic.
* `session_config_update`: at most one update of the configuration is under way.
* `session_weather_answer`: the weather that is taken is that of the selected station.
* `session_search_pages`: the pages of a search are taken one after the other.
-/

namespace WeatherApp.Tui

/-- The tasks ask the engine for the weather of the station that they name. -/
def AsksByName [Sha256] (runner : EffectRunner) : Prop :=
  ∀ id token name request, runner.tasks.get id = some (.weather token name request) →
    request.unifiedUuid = unifiedStationUuid name

/-- The application and its tasks are in step. -/
structure InStep [Sha256] (c : Core) (runner : EffectRunner) : Prop where
  core : c.Valid
  keys : runner.Valid
  owed : Owed c runner
  named : Named c runner
  asksByName : AsksByName runner
  searching : Searching c.search runner
  /-- The search is in a state that it reaches on its own. -/
  search : searchSystem.Reachable c.search

section

variable [Sha256] {c before c' : Core} {runner runner' : EffectRunner} {effects : List Effect}

omit [Sha256] in
theorem reachable_search_change (h : searchSystem.Reachable c.search)
    (hchange : Change c effects c') : searchSystem.Reachable c'.search := by
  cases hchange with
  | preview | about | point | propose | pickUp | carry | putDown => exact h
  | turn _ hfollows =>
    cases hfollows with
    | same => exact h
    | asks hasks => cases hasks <;> exact h
  | ask hasks => cases hasks <;> exact h
  | browse hnext | leave hnext => exact h.step hnext
  | search hstart =>
    have hnext : c.search.next .start = some _ := Option.map_eq_some_iff.2 ⟨_, hstart, rfl⟩
    exact h.step hnext

omit [Sha256] in
theorem reachable_search_receipt {result : EffectResult} (h : searchSystem.Reachable c.search)
    (hreceipt : Receipt c result effects c') : searchSystem.Reachable c'.search := by
  cases hreceipt with
  | page page =>
    have hnext : c.search.next (.page page) = some (c.search.applyPage page).1 := rfl
    exact h.step hnext
  | searchFailed token message =>
    have hnext : c.search.next (.error token message) =
        some (c.search.applyError token message).1 := rfl
    exact h.step hnext
  | weather | rejected | ignored => exact h
  | adopted _ _ _ hfollows =>
    cases hfollows with
    | same => exact h
    | asks hasks => cases hasks <;> exact h

/-- The effects ask for the weather by the name of a station only. -/
def ByName (effects : List Effect) : Prop :=
  ∀ token name unifiedUuid refresh, Effect.loadWeather token name unifiedUuid refresh ∈ effects →
    unifiedUuid = none

omit [Sha256] in
theorem byName_asks (hasks : Asks c effects c') : ByName effects := by
  intro token name unifiedUuid refresh hmem
  cases hasks with
  | nothing => cases hmem
  | request =>
    cases List.mem_singleton.1 hmem
    rfl

omit [Sha256] in
theorem byName_follows (hfollows : Follows before c effects c') : ByName effects := by
  cases hfollows with
  | same => exact fun _ _ _ _ hmem => by cases hmem
  | asks hasks => exact byName_asks hasks

omit [Sha256] in
theorem byName_change (hchange : Change c effects c') : ByName effects := by
  cases hchange with
  | preview | about | propose | search =>
    exact fun _ _ _ _ hmem => by cases List.mem_singleton.1 hmem
  | point | pickUp | carry | putDown | browse => exact fun _ _ _ _ hmem => by cases hmem
  | turn _ hfollows => exact byName_follows hfollows
  | ask hasks => exact byName_asks hasks
  | leave _ _ _ heffects =>
    rcases heffects with rfl | rfl
    · exact fun _ _ _ _ hmem => by cases hmem
    · exact fun _ _ _ _ hmem => by cases List.mem_singleton.1 hmem

omit [Sha256] in
theorem byName_receipt {result : EffectResult} (hreceipt : Receipt c result effects c') :
    ByName effects := by
  cases hreceipt with
  | page | searchFailed | weather | rejected | ignored => exact fun _ _ _ _ hmem => by cases hmem
  | adopted _ _ _ hfollows => exact byName_follows hfollows

theorem AsksByName.dispatchAll (h : AsksByName runner) (heffects : ByName effects) :
    AsksByName (runner.dispatchAll effects) := by
  induction effects generalizing runner with
  | nil => exact h
  | cons effect effects ih =>
    refine ih (fun id token name request htask => ?_) fun token name unifiedUuid refresh hmem =>
      heffects token name unifiedUuid refresh (List.mem_cons_of_mem _ hmem)
    rcases task_of_dispatch htask with hold | hnew
    · exact h id token name request hold
    · cases effect with
      | cancelSearch | search | preview | updateConfig | loadAbout => cases hnew
      | loadWeather of named unifiedUuid refresh =>
        obtain rfl := heffects of named unifiedUuid refresh List.mem_cons_self
        cases hnew
        rfl

theorem AsksByName.taskMove (h : AsksByName runner) (hmove : TaskMove runner runner') :
    AsksByName runner' := by
  intro id token name request htask
  cases hmove with
  | finish | cancelled | panic =>
    exact h id token name request (KeyedMap.get_of_get_remove htask)
  | page =>
    rw [KeyedMap.get_set] at htask
    split_ifs at htask
    · cases htask
    · exact h id token name request htask

/-! ## Steps -/

theorem InStep.change (h : InStep c runner) (hchange : Change c effects c') :
    InStep c' (runner.dispatchAll effects) := by
  obtain ⟨howed, hnamed⟩ := h.owed.change h.keys h.named hchange
  exact ⟨h.core.change hchange, h.keys.dispatchAll effects, howed, hnamed,
    h.asksByName.dispatchAll (byName_change hchange), h.searching.change h.keys hchange, reachable_search_change h.search hchange⟩

theorem InStep.changes (h : InStep c runner) (hchanges : Changes c effects c') :
    InStep c' (runner.dispatchAll effects) := by
  induction hchanges generalizing runner with
  | done => exact h
  | step hchange _ ih =>
    have hrest := ih (h.change hchange)
    rwa [EffectRunner.dispatchAll, EffectRunner.dispatchAll, ← List.foldl_append] at hrest

theorem InStep.receipt {result : EffectResult} {channel : List EffectResult} (h : InStep c runner)
    (hchannel : runner.channel = result :: channel) (hreceipt : Receipt c result effects c') :
    InStep c' (EffectRunner.dispatchAll { runner with channel } effects) := by
  obtain ⟨howed, hnamed⟩ := h.owed.receipt h.keys h.named hchannel hreceipt
  exact ⟨h.core.receipt hreceipt, (h.keys.take channel).dispatchAll effects, howed, hnamed,
    AsksByName.dispatchAll h.asksByName (byName_receipt hreceipt),
    h.searching.receipt h.keys hchannel hreceipt, reachable_search_receipt h.search hreceipt⟩

theorem InStep.taskMove (h : InStep c runner) (hmove : TaskMove runner runner') :
    InStep c runner' := by
  have hsame := SameOwed.taskMove h.keys hmove
  exact ⟨h.core, h.keys.taskMove hmove, h.owed.congr ⟨rfl, fun hwaits => hwaits, rfl, rfl⟩ hsame,
    h.named.congr rfl rfl hsame, h.asksByName.taskMove hmove, h.searching.taskMove hmove, h.search⟩

theorem InStep.reapCompleted (h : InStep c runner) : InStep c runner.reapCompleted := by
  have hsame := SameOwed.reapCompleted runner
  exact ⟨h.core, h.keys.reapCompleted,
    h.owed.congr ⟨rfl, fun hwaits => hwaits, rfl, rfl⟩ hsame, h.named.congr rfl rfl hsame,
    h.asksByName, h.searching.congr (.reapCompleted runner) rfl (fun hloading => hloading) rfl, h.search⟩

theorem inStep_load (config : Wire.AppConfig) (aboutStatus : Option EngineStatus) :
    InStep (App.load config aboutStatus).core .new where
  core := valid_load config aboutStatus
  keys := ⟨fun id task htask => (by cases htask), fun id hid => (by cases hid),
    fun id hid => (by cases hid)⟩
  owed := ⟨fun token name hpos => absurd hpos (lt_irrefl 0), fun hwaits => (by cases hwaits),
    fun token => rfl, fun id token config htask => by cases htask⟩
  named name selected hpos := absurd hpos (lt_irrefl 0)
  asksByName id token name request htask := by cases htask
  searching := ⟨fun id token query stage htask => (by cases htask), fun token hsome => absurd rfl hsome,
    fun hloading => by cases hloading⟩
  search := ⟨[], .start rfl⟩

/-- What a step of the loop does. -/
inductive LoopMove (s : Session) : Session → Prop
  | changes {app : App} {effects : List Effect} (exiting : Bool) :
      Changes s.app.core effects app.core →
      LoopMove s ⟨app, (s.runner.dispatchAll effects).reapCompleted, exiting⟩
  | receipt {result : EffectResult} {channel : List EffectResult} {app : App}
      {effects : List Effect} : s.runner.channel = result :: channel →
      Receipt s.app.core result effects app.core →
      LoopMove s ⟨app,
        (EffectRunner.dispatchAll { s.runner with channel } effects).reapCompleted, s.exiting⟩

theorem loopMove_of_loopStep {s s' : Session} {label : SessionLabel} (h : s.app.core.Valid)
    (hstep : s.loopStep label = some s') : LoopMove s s' := by
  have hsame {app : App} (hcore : app.core = s.app.core) : Changes s.app.core [] app.core := by
    rw [hcore]
    exact .done _
  cases label with
  | answer | fail | cancelled | panic => cases hstep
  | otherInput =>
    obtain rfl := Option.some.inj hstep
    exact .changes _ (hsame rfl)
  | event event now =>
    obtain rfl := Option.some.inj hstep
    exact .changes _ (hsame (core_applyEngineEvent s.app now event))
  | lagged skipped =>
    obtain rfl := Option.some.inj hstep
    exact .changes _ (hsame (core_pushLog _ _))
  | key key now =>
    obtain ⟨⟨app, exit, effects⟩, hkey, rfl⟩ := Option.map_eq_some_iff.1 hstep
    have hreacts := reacts_reduceKey h key now
    rw [hkey] at hreacts
    cases hreacts with
    | some hchanges => exact .changes exit hchanges
  | tick now =>
    obtain ⟨⟨app, effects⟩, htick, rfl⟩ := Option.map_eq_some_iff.1 hstep
    have hreacts := reacts_tick h now
    rw [htick] at hreacts
    cases hreacts with
    | some hchanges => exact .changes s.exiting hchanges
  | result now =>
    simp only [Session.loopStep] at hstep
    split at hstep
    next => cases hstep
    next result channel hchannel =>
      obtain ⟨⟨app, effects⟩, happly, rfl⟩ := Option.map_eq_some_iff.1 hstep
      have hreacts : Reacts (fun c => Receipt c result) s.app (s.app.applyEffectResult result now) :=
        reacts_applyEffectResult result now
      rw [happly] at hreacts
      cases hreacts with
      | some hreceipt => exact .receipt hchannel hreceipt

/-- A step is one of the loop or one of a task. -/
theorem step_cases {s s' : Session} {label : SessionLabel} (h : s.step label = some s') :
    s.loopStep label = some s' ∨ s.taskStep label = some s' := by
  rw [Session.step] at h
  split_ifs at h
  · exact .inr h
  · cases hloop : s.loopStep label with
    | none =>
      rw [hloop, Option.none_or] at h
      exact .inr h
    | some next =>
      rw [hloop, Option.some_or] at h
      exact .inl h

/-- In every state of a session the application and its tasks are in step. -/
theorem inStep_of_reachable {s : Session} (h : sessionSystem.Reachable s) :
    InStep s.app.core s.runner := by
  refine h.invariant (P := fun s => InStep s.app.core s.runner) ?_ ?_
  · rintro s ⟨config, aboutStatus, now, hstart⟩
    obtain ⟨⟨app, effects⟩, hrequest, rfl⟩ := Option.map_eq_some_iff.1 hstart
    have hreacts : Reacts Asks (App.load config aboutStatus) _ :=
      reacts_requestSelectedWeather (valid_load config aboutStatus).normal false now
    rw [hrequest] at hreacts
    cases hreacts with
    | some hasks => exact (inStep_load config aboutStatus).change (.ask hasks)
  · intro s label s' hinstep hstep
    rcases step_cases hstep with hloop | htask
    · cases loopMove_of_loopStep hinstep.core hloop with
      | changes exiting hchanges => exact (hinstep.changes hchanges).reapCompleted
      | receipt hchannel hreceipt => exact (hinstep.receipt hchannel hreceipt).reapCompleted
    · obtain ⟨hmove, happ, -⟩ := taskMove_of_taskStep htask
      rw [happ]
      exact hinstep.taskMove hmove

end

/-! ## Sessions -/

section Sample

/-- Two stations. -/
def sampleConfig : Wire.AppConfig :=
  ⟨none, none, none, none, none, [⟨"a", true⟩, ⟨"b", true⟩], 1⟩

/-- A key without modifiers. -/
def sampleKey (code : KeyCode) : SessionLabel := .key (.key ⟨code, false, false⟩) 0

/-- The other station is selected and disabled, and a search starts, of which a page arrives. -/
def sampleLabels : List SessionLabel :=
  [sampleKey (.char 'j'), sampleKey (.char 'm'), sampleKey (.char ' '), sampleKey (.char 'a'),
    sampleKey (.char 'x'), sampleKey .enter,
    .answer 3 (.page (.ok ⟨[⟨"p", "c", "x", "u"⟩], [], [], true, 12⟩))]

/-- What these lead to, from the start of a session. -/
def sampleRun : Option Session :=
  (@Session.start sampleSha256 sampleConfig none 0).bind fun s =>
    LabelledSystem.perform (@Session.step sampleSha256) (fun _ _ => true) s sampleLabels

/-- The session that waits for the weather, for an update and for more pages of a search. -/
def sampleSession : Session := sampleRun.get (by decide)

theorem sampleSession_reachable : (@sessionSystem sampleSha256).Reachable sampleSession := by
  have hrun : sampleRun = some sampleSession := (Option.some_get _).symm
  obtain ⟨s, hstart, hperform⟩ := Option.bind_eq_some_iff.1 hrun
  have hinit : (@sessionSystem sampleSha256).Run [] s := .start ⟨sampleConfig, none, 0, hstart⟩
  exact ⟨_, hinit.perform (fun _ _ _ hstep => hstep) hperform⟩

end Sample

section

variable [Sha256] {c c' before : Core} {effects : List Effect} {s : Session}

/-- In every state of a session the list is that of the displayed configuration, the selection is
normal, the entry that is pointed at is there, and a station is being moved exactly where there is a
draft, which is the list in another order while no update is under way. No key, tick or answer makes
the application panic before one of its counters is used up. -/
theorem session_app_valid (h : sessionSystem.Reachable s) :
    s.app.core.Valid ∧
      (∀ key now, s.app.reduceKey key now = none → s.app.core.Exhausted) ∧
      (∀ now, s.app.tick now = none → s.app.core.Exhausted) ∧
      ∀ result now, s.app.applyEffectResult result now = none → s.app.core.Exhausted := by
  have hvalid := (inStep_of_reachable h).core
  refine ⟨hvalid, fun key now hnone => ?_, fun now hnone => ?_, fun result now hnone => ?_⟩
  · have hreacts := reacts_reduceKey hvalid key now
    rw [hnone] at hreacts
    exact hreacts.exhausted
  · have hreacts := reacts_tick hvalid now
    rw [hnone] at hreacts
    exact hreacts.exhausted
  · have hreacts : Reacts (fun c => Receipt c result) s.app (s.app.applyEffectResult result now) :=
      reacts_applyEffectResult result now
    rw [hnone] at hreacts
    exact hreacts.exhausted

omit [Sha256] in
theorem session_app_valid_sample : sampleSession.app.moveDraft = none ∧
    sampleSession.app.core.Valid :=
  ⟨by decide, (@session_app_valid sampleSha256 sampleSession sampleSession_reachable).1⟩

omit [Sha256] in
theorem config_of_asks (hasks : Asks c effects c') : c'.config = c.config := by
  cases hasks <;> rfl

omit [Sha256] in
theorem config_of_follows (hfollows : Follows before c effects c') : c'.config = c.config := by
  cases hfollows with
  | same => rfl
  | asks hasks => exact config_of_asks hasks

omit [Sha256] in
/-- No key and no tick changes the displayed configuration. -/
theorem config_of_changes (hchanges : Changes c effects c') : c'.config = c.config := by
  induction hchanges with
  | done => rfl
  | step hchange _ ih =>
    refine ih.trans ?_
    cases hchange with
    | preview | about | point | propose | pickUp | carry | putDown | browse | leave | search => rfl
    | turn _ hfollows =>
      have hconfig := config_of_follows hfollows
      exact hconfig
    | ask hasks => exact config_of_asks hasks

omit [Sha256] in
/-- The displayed configuration becomes what the engine answers to the update. -/
theorem config_of_receipt {result : EffectResult} (hreceipt : Receipt c result effects c') :
    c'.config = c.config ∨ ∃ pending config, c.pendingConfig = some pending ∧
      result = .config pending.token (.ok config) ∧ c'.config = config := by
  cases hreceipt with
  | page | searchFailed | weather | rejected | ignored => exact .inl rfl
  | adopted hpending _ _ hfollows =>
    exact .inr ⟨_, _, hpending, rfl, config_of_follows hfollows⟩

/-- At most one update of the configuration is under way, the one that the application waits for,
and it is an edit of the displayed configuration. That stays as it is until the engine has answered
the update. -/
theorem session_config_update (h : sessionSystem.Reachable s) :
    (∀ token, s.runner.outstanding (.config token) =
      if s.app.pendingConfig.any (·.token = token) then 1 else 0) ∧
      (∀ id token config, s.runner.tasks.get id = some (.config token config) →
        s.app.core.Proposes config) ∧
      ∀ label s', s.step label = some s' → s'.app.config = s.app.config ∨
        ∃ pending config channel, s.app.pendingConfig = some pending ∧
          s.runner.channel = .config pending.token (.ok config) :: channel ∧
          s'.app.config = config := by
  have hinstep := inStep_of_reachable h
  refine ⟨hinstep.owed.config_eq, hinstep.owed.proposed, fun label s' hstep => ?_⟩
  rcases step_cases hstep with hloop | htask
  · cases loopMove_of_loopStep hinstep.core hloop with
    | changes exiting hchanges => exact .inl (config_of_changes hchanges)
    | receipt hchannel hreceipt =>
      rcases config_of_receipt hreceipt with hsame | ⟨pending, config, hpending, rfl, hconfig⟩
      · exact .inl hsame
      · exact .inr ⟨pending, config, _, hpending, hchannel, hconfig⟩
  · rw [(taskMove_of_taskStep htask).2.1]
    exact .inl rfl

omit [Sha256] in
theorem session_config_update_sample :
    sampleSession.app.pendingConfig = some ⟨1, "disabled b", some "b"⟩ ∧
      sampleSession.runner.outstanding (.config 1) = 1 := by
  have hupdate := (@session_config_update sampleSha256 sampleSession sampleSession_reachable).1 1
  have hpending : sampleSession.app.pendingConfig = some ⟨1, "disabled b", some "b"⟩ := by decide
  rw [hpending] at hupdate
  exact ⟨hpending, hupdate⟩

/-- The answer to the weather that the application takes is that for the station that is selected,
if there is one, and the task has asked for that station. As long as the application waits for the
weather, exactly one such answer is outstanding. -/
theorem session_weather_answer (h : sessionSystem.Reachable s) :
    (∀ name selected, 0 < s.runner.outstanding (.weather s.app.weatherToken name) →
      s.app.selectedName = some selected → name = selected) ∧
      (s.app.weatherPending = true → ∃ name, ∀ other,
        s.runner.outstanding (.weather s.app.weatherToken other) = if other = name then 1 else 0) ∧
      ∀ id token name request, s.runner.tasks.get id = some (.weather token name request) →
        request.unifiedUuid = unifiedStationUuid name := by
  have hinstep := inStep_of_reachable h
  exact ⟨hinstep.named, hinstep.owed.weather_pending, hinstep.asksByName⟩

omit [Sha256] in
theorem session_weather_answer_sample : sampleSession.app.weatherToken = 2 ∧
    ∃ name, ∀ other, sampleSession.runner.outstanding (.weather 2 other) =
      if other = name then 1 else 0 := by
  have htoken : sampleSession.app.weatherToken = 2 := by decide
  have hwaits : sampleSession.app.weatherPending = true := by decide
  have hanswer := (@session_weather_answer sampleSha256 sampleSession sampleSession_reachable).2.1 hwaits
  rw [htoken] at hanswer
  exact ⟨htoken, hanswer⟩

/-- The pages among some answers. -/
def pagesOf (news : List EffectResult) : List SearchPage :=
  news.filterMap fun result =>
    match result with
    | .searchPage page => some page
    | .searchFailed _ _ | .weather _ _ _ | .preview _ _ _ | .config _ _ | .about _
    | .taskFailed _ => none

omit [Sha256] in
theorem Flow.pagesContinue {lost : Prop} {offset : ℕ} {news : List EffectResult}
    {stage : Option SearchStage} (h : Flow lost offset news stage) :
    ∃ next, PagesContinue offset (pagesOf news) next := by
  induction h with
  | waits cursor => exact ⟨_, rfl⟩
  | fails | gone | failed => exact ⟨_, rfl⟩
  | page _ _ ih =>
    obtain ⟨next, hnext⟩ := ih
    exact ⟨next, rfl, hnext⟩
  | last => exact ⟨_, rfl, rfl⟩

/-- The pages of the search that is under way continue each other, and the first one that is on its
way is the one that the search waits for, so that none arrives out of order. As long as the search
is loading, something of it is still to come, unless its task has panicked. Apart from its tasks the
search is in a state that it reaches on its own. -/
theorem session_search_pages (h : sessionSystem.Reachable s) :
    (s.app.search.status = .loading →
      (∃ next, PagesContinue s.app.search.nextOffset
        (pagesOf (s.runner.news s.app.search.token)) next) ∧
      (s.runner.news s.app.search.token ≠ [] ∨
        (∃ id query stage, s.runner.tasks.get id =
          some (.search s.app.search.token query stage) ∧ id ∉ s.runner.aborted) ∨
        Lost s.runner s.app.search.token)) ∧
      searchSystem.Reachable s.app.search := by
  have hinstep := inStep_of_reachable h
  refine ⟨fun hloading => ?_, hinstep.search⟩
  obtain ⟨stage, hcarried, hflow⟩ := hinstep.searching.flow hloading
  refine ⟨hflow.pagesContinue, ?_⟩
  by_cases hnews : s.runner.news s.app.core.search.token = []
  · rw [hnews] at hflow
    rcases hflow.nil_inv with ⟨current, rfl⟩ | hlost
    · obtain ⟨id, query, htask, haborted, -⟩ := hcarried
      exact .inr (.inl ⟨id, query, current, htask, haborted⟩)
    · exact .inr (.inr hlost)
  · exact .inl hnews

omit [Sha256] in
theorem session_search_pages_sample : sampleSession.app.search.status = .loading ∧
    ∃ next, PagesContinue sampleSession.app.search.nextOffset
      (pagesOf (sampleSession.runner.news sampleSession.app.search.token)) next := by
  have hloading : sampleSession.app.search.status = .loading := by decide
  have hpages := @session_search_pages sampleSha256 sampleSession sampleSession_reachable
  exact ⟨hloading, (hpages.1 hloading).1⟩

end

end WeatherApp.Tui
