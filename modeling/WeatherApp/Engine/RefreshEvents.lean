import WeatherApp.Engine.PlainCalls
import WeatherApp.Engine.SnapshotLinks

/-!
# The events of a refresh

`get_weather_internal` announces a refresh and its end. What it asks for is answered by the
database, by the provider and by the other participants of its flight, and it can be cancelled
wherever it waits. Here the replies are arbitrary, so that the executions are those of every
state of the engine and of every interleaving with others.

## Main definitions

* `Ending`, `Execution`: the calls of an execution, and how it ends.
* `published`: the refresh events of an execution.
* `Resolved`: an execution got as far as the station.
* `Completes`: the terminal event that fits an execution.

## Main results

* `refresh_events_balanced`: a refresh publishes one started and one fitting terminal event.
-/

namespace WeatherApp.Weather

open Process

/-! ## Executions -/

/-- How an execution ends. -/
inductive Ending where
  /-- The call returns. -/
  | returned (result : Except String WeatherSnapshot)
  /-- The call is dropped where it waits. -/
  | cancelled

/-- What is left of the program at such an end. -/
def Ending.FitsRest (ending : Ending) : Process Call Reply (Except String WeatherSnapshot) → Prop
  | .ret result => ending = .returned result
  | .call c _ => c.awaits = true ∧ ending = .cancelled

/-- The program makes these calls, gets these replies, and ends so. -/
def Execution (program : Process Call Reply (Except String WeatherSnapshot))
    (events : List Event) (ending : Ending) : Prop :=
  ∃ rest, Reaches program events rest ∧ ending.FitsRest rest

/-- What calls publish about the refresh, and the guard after them. -/
def refreshEffects (completion : Option RefreshCompletionGuard) :
    List Event → List RefreshEvent × Option RefreshCompletionGuard
  | [] => ([], completion)
  | event :: events =>
    let (first, completion) := refreshEffect completion event.call
    let (rest, completion) := refreshEffects completion events
    (first ++ rest, completion)

/-- The refresh events of an execution. The guard is dropped with a call that is cancelled. -/
def published (events : List Event) : Ending → List RefreshEvent
  | .returned _ => (refreshEffects none events).1
  | .cancelled =>
    (refreshEffects none events).1 ++ dropCompletion (refreshEffects none events).2

theorem refreshEffects_append (completion : Option RefreshCompletionGuard)
    (events more : List Event) :
    refreshEffects completion (events ++ more) =
      ((refreshEffects completion events).1 ++
          (refreshEffects (refreshEffects completion events).2 more).1,
        (refreshEffects (refreshEffects completion events).2 more).2) := by
  induction events generalizing completion with
  | nil => rfl
  | cons event events ih =>
    rw [List.cons_append]
    simp only [refreshEffects, ih, List.append_assoc]

/-! ## Calls that have nothing to do with the refresh -/

/-- The call leaves the events and the guard of a refresh alone. -/
def Call.Quiet (c : Call) : Prop :=
  ∀ completion, refreshEffect completion c = ([], completion)

theorem refreshEffects_quiet {completion : Option RefreshCompletionGuard} {events : List Event}
    (h : ∀ event ∈ events, event.call.Quiet) :
    refreshEffects completion events = ([], completion) := by
  induction events with
  | nil => rfl
  | cons event events ih =>
    simp only [refreshEffects, h event List.mem_cons_self completion,
      ih fun event hmem => h event (List.mem_cons_of_mem _ hmem), List.append_nil]

/-- The program leaves them alone. -/
structure Quiet {α : Type} (p : Program α) : Prop where
  always : Always Call.Quiet (fun _ => True) p.run

section Programs

variable {α β : Type}

theorem Quiet.refreshEffects {p : Program α} (h : Quiet p) {events : List Event}
    {rest : Process Call Reply (Except String α)} (hreach : Reaches p.run events rest)
    (completion : Option RefreshCompletionGuard) :
    Weather.refreshEffects completion events = ([], completion) :=
  refreshEffects_quiet (h.always.reaches hreach).1

theorem quiet_bind {p : Program α} {f : α → Program β} (hp : Quiet p) (hf : ∀ a, Quiet (f a)) :
    Quiet (p >>= f) :=
  ⟨always_bindExcept hp.always (fun a _ => (hf a).always) fun _ _ => trivial⟩

theorem quiet_pure (a : α) : Quiet (pure a : Program α) := ⟨trivial⟩

theorem quiet_ask (query : Query) : Quiet (ask query) :=
  ⟨⟨fun _ => rfl, fun _ => trivial⟩⟩

theorem quiet_db (command : DbCommand) : Quiet (db command) :=
  ⟨⟨fun _ => rfl, fun _ => trivial⟩⟩

theorem quiet_attempt {p : Program α} (h : Quiet p) : Quiet (attempt p) :=
  ⟨always_bind h.always fun _ _ => trivial⟩

theorem quiet_persistSnapshot (snapshot : WeatherSnapshot) : Quiet (persistSnapshot snapshot) :=
  quiet_bind (quiet_ask _) fun _ => quiet_db _

theorem quiet_shareFlight {key : FlightKey} {work : Program WeatherSnapshot} (h : Quiet work) :
    Quiet (shareFlight key work) := by
  refine ⟨⟨fun _ => rfl, fun flight => ⟨fun _ => rfl, fun shared => ?_⟩⟩⟩
  cases shared with
  | some result => exact ⟨fun _ => rfl, fun _ => trivial⟩
  | none =>
    show Always Call.Quiet _ (work.run >>= _)
    refine always_bind h.always fun result _ => ?_
    exact ⟨fun _ => rfl, fun _ => ⟨fun _ => rfl, fun _ => trivial⟩⟩

/-- What only looks leaves the refresh alone. -/
theorem Plain.quiet {p : Program α} (h : Plain p) : Quiet p := by
  refine ⟨h.always.weaken (fun c hplain => ?_) fun _ => id⟩
  cases c <;> first | exact fun _ => rfl | exact hplain.elim

section Stored

variable {Tz : Type} [TzDatabase Tz] [Sha256] [FloatText] [DateText] {providerName : String}

theorem quiet_settleFetched (station : ProviderStation) (fetched : WeatherFetch) :
    Quiet (settleFetched Tz station fetched) := by
  refine quiet_bind (plain_orUnchanged (plain_applyCachedDailyHigh _ _)).quiet fun high => ?_
  refine quiet_bind (quiet_attempt (quiet_persistSnapshot _)) fun persisted => ?_
  refine quiet_bind (plain_enrich _ _).quiet fun enriched => ?_
  refine quiet_bind (quiet_attempt (quiet_db _)) fun logged => ?_
  exact quiet_bind (plain_publishFetchLog _).quiet fun _ => quiet_pure _

theorem quiet_fetchWeatherUncached (station : ProviderStation) (includeDebug : Bool) :
    Quiet (fetchWeatherUncached Tz providerName station includeDebug) := by
  refine quiet_bind (quiet_ask _) fun fetched => ?_
  cases fetched with
  | ok document => exact quiet_settleFetched _ _
  | error err => exact (plain_settleFailed _ _).quiet

end Stored

end Programs

/-! ## What a refresh does -/

/-- The uuid that a request names. -/
def requestedUuid (request : GetWeatherRequest) : Option String :=
  if isBlank request.unifiedUuid then none else some request.unifiedUuid

section Programs

variable [Sha256] [FloatText] [DateText] {Tz : Type} [TzDatabase Tz] {providerName : String}
  {request : GetWeatherRequest} {events : List Event}
  {rest : Process Call Reply (Except String WeatherSnapshot)}

omit [Sha256] [FloatText] [DateText] in
theorem run_attempt_bind {α β : Type} (p : Program α) (f : Except String α → Program β) :
    (attempt p >>= f).run = p.run >>= fun result => (f result).run :=
  bind_assoc _ _ _

/-- The work of a refresh, once its station is known. -/
theorem weatherOf_refresh (hrefresh : request.refresh = true) (station : ProviderStation) :
    (weatherOf Tz providerName request station).run =
      .call (.setUnifiedUuid station.unifiedUuid) fun _ =>
        (shareFlight (station.unifiedUuid, request.includeDebug)
            (fetchWeatherUncached Tz providerName station request.includeDebug)).run >>=
          fun result => .call (.completeRefresh (terminalOf result)) fun _ =>
            (ofExcept result >>= prepareSnapshotResources).run := by
  unfold weatherOf cachedAnswer completeIf
  rw [hrefresh]
  exact congrArg (Process.call _) (funext fun _ => run_attempt_bind _ _)

/-- The work of a refresh. -/
theorem weatherBody_run (request : GetWeatherRequest) :
    (weatherBody Tz providerName request).run =
      (resolveStation request.unifiedUuid).run >>= fun resolved =>
        match resolved with
        | .error err => (completeIf request.refresh (.failure err) >>= fun _ => throw err).run
        | .ok station => (weatherOf Tz providerName request station).run := by
  unfold weatherBody
  rw [run_attempt_bind]
  congr 1

/-- A refresh from its guard on: its terminal event is published when it ends, and where it waits
the guard holds the uuid. -/
def Settles (uuid : Option String) (completion : Option RefreshCompletionGuard)
    (events : List Event) : Process Call Reply (Except String WeatherSnapshot) → Prop
  | .ret result =>
    refreshEffects completion events = ([refreshTerminal uuid (terminalOf result)], none)
  | .call c _ => c.awaits = true → refreshEffects completion events = ([], some ⟨uuid⟩)

omit [Sha256] [FloatText] [DateText] in
/-- The links are taken out of the answer of a refresh that is completed. -/
theorem settles_prepare {uuid : Option String} {result : Except String WeatherSnapshot}
    (h : Reaches (ofExcept result >>= prepareSnapshotResources).run events rest) :
    Settles uuid (some ⟨uuid⟩)
      (⟨.completeRefresh (terminalOf result), ⟨⟩⟩ :: events) rest := by
  cases result with
  | error err =>
    obtain ⟨rfl, rfl⟩ := reaches_ret.1 h
    rfl
  | ok snapshot =>
    obtain ⟨hcalls, hrest⟩ := (always_prepareSnapshotResources snapshot).reaches h
    have hquiet : ∀ completion, refreshEffects completion events = ([], completion) :=
      fun completion => refreshEffects_quiet fun event hmem => by
        obtain ⟨url, hurl⟩ := hcalls event hmem
        intro completion
        rw [hurl]
        rfl
    cases rest with
    | ret result =>
      obtain ⟨prepared, rfl, hprepared⟩ := hrest
      simp only [Settles, refreshEffects, refreshEffect, hquiet, terminalOf, hprepared.stale]
      rfl
    | call c k =>
      obtain ⟨url, rfl⟩ := hrest.1
      exact fun hawaits => absurd hawaits Bool.false_ne_true

/-- A refresh whose station is known. -/
theorem settles_weatherOf {uuid : Option String} {station : ProviderStation}
    (hrefresh : request.refresh = true)
    (h : Reaches (weatherOf Tz providerName request station).run events rest) :
    Settles (some station.unifiedUuid) (some ⟨uuid⟩) events rest := by
  rw [weatherOf_refresh hrefresh] at h
  obtain ⟨rfl, rfl⟩ | ⟨reply, more, rfl, hmore⟩ := reaches_call.1 h
  · exact fun hawaits => absurd hawaits Bool.false_ne_true
  have hshared : Quiet (shareFlight (station.unifiedUuid, request.includeDebug)
      (fetchWeatherUncached Tz providerName station request.includeDebug)) :=
    quiet_shareFlight (quiet_fetchWeatherUncached station request.includeDebug)
  obtain ⟨c, k, hreach, rfl⟩ | ⟨before, after, result, rfl, hreach, hafter⟩ := hmore.bind_cases
  · -- still fetching
    have hquiet := hshared.refreshEffects hreach
    intro _
    simp [refreshEffects, refreshEffect, hquiet]
  · have hquiet := hshared.refreshEffects hreach
    obtain ⟨rfl, rfl⟩ | ⟨reply', after, rfl, hrest⟩ := reaches_call.1 hafter
    · exact fun hawaits => absurd hawaits Bool.false_ne_true
    · have hprepare := @settles_prepare _ _ (some station.unifiedUuid) _ hrest
      cases rest with
      | ret result =>
        simpa [Settles, refreshEffects, refreshEffect, refreshEffects_append, hquiet]
          using hprepare
      | call c k =>
        intro hawaits
        simpa [refreshEffects, refreshEffect, refreshEffects_append, hquiet]
          using hprepare hawaits

omit [Sha256] [FloatText] [DateText] in
/-- A refresh whose station is not found. -/
theorem settles_failed {err : String} (hrefresh : request.refresh = true)
    (h : Reaches (completeIf request.refresh (.failure err) >>= fun _ =>
      (throw err : Program WeatherSnapshot)).run events rest) :
    Settles (requestedUuid request) (some ⟨requestedUuid request⟩) events rest := by
  rw [hrefresh] at h
  obtain ⟨rfl, rfl⟩ | ⟨reply, more, rfl, hmore⟩ := reaches_call.1 h
  · exact fun hawaits => absurd hawaits Bool.false_ne_true
  · obtain ⟨rfl, rfl⟩ := reaches_ret.1 hmore
    rfl

/-- The uuid of a refresh after the resolution of its station. -/
def resolvedUuid (request : GetWeatherRequest) : Except String ProviderStation → Option String
  | .ok station => some station.unifiedUuid
  | .error _ => requestedUuid request

/-- A refresh waits for the resolution of its station, or the resolution has returned. -/
theorem weatherBody_cases (hrefresh : request.refresh = true)
    (h : Reaches (weatherBody Tz providerName request).run events rest) :
    (∃ c k k', Reaches (resolveStation request.unifiedUuid).run events (.call c k) ∧
      rest = .call c k' ∧
      refreshEffects (some ⟨requestedUuid request⟩) events =
        ([], some ⟨requestedUuid request⟩)) ∨
    ∃ before resolved, before <+: events ∧
      Reaches (resolveStation request.unifiedUuid).run before (.ret resolved) ∧
      Settles (resolvedUuid request resolved) (some ⟨requestedUuid request⟩) events rest := by
  rw [weatherBody_run] at h
  have hresolve := (plain_resolveStation request.unifiedUuid).quiet
  obtain ⟨c, k, hreach, rfl⟩ | ⟨before, after, resolved, rfl, hreach, hafter⟩ := h.bind_cases
  · exact Or.inl ⟨c, k, _, hreach, rfl, hresolve.refreshEffects hreach _⟩
  · refine Or.inr ⟨before, resolved, List.prefix_append _ _, hreach, ?_⟩
    have hsettles : Settles (resolvedUuid request resolved) (some ⟨requestedUuid request⟩)
        after rest := by
      cases resolved with
      | error err => exact settles_failed hrefresh hafter
      | ok station => exact settles_weatherOf hrefresh hafter
    -- the resolution publishes nothing
    cases rest with
    | ret result =>
      show refreshEffects _ (before ++ after) = _
      rw [refreshEffects_append, hresolve.refreshEffects hreach]
      exact hsettles
    | call c k =>
      intro hawaits
      rw [refreshEffects_append, hresolve.refreshEffects hreach]
      exact hsettles hawaits

/-! ## Balance -/

/-- The execution got as far as the station: `resolve_station` has returned it. -/
def Resolved (request : GetWeatherRequest) (events : List Event) (station : ProviderStation) :
    Prop :=
  ∃ before, before <+: events.tail ∧
    Reaches (resolveStation request.unifiedUuid).run before (.ret (.ok station))

/-- The terminal event of an execution with its uuid and its outcome. -/
structure Completes (request : GetWeatherRequest) (events : List Event) (ending : Ending)
    (completed : RefreshEvent) : Prop where
  phase : completed.phase = .completed
  resolved : ∀ station, Resolved request events station →
    completed.unifiedUuid = some station.unifiedUuid
  unresolved : (∀ station, ¬ Resolved request events station) →
    completed.unifiedUuid = requestedUuid request
  stale : completed.outcome = .stale ↔
    ∃ snapshot, ending = .returned (.ok snapshot) ∧ snapshot.stale = true
  failure : completed.outcome = .failure ↔
    ending = .cancelled ∨ ∃ err, ending = .returned (.error err)
  success : completed.outcome = .success ↔
    ∃ snapshot, ending = .returned (.ok snapshot) ∧ snapshot.stale = false

/-- How a refresh ends for those who listen. -/
def Ending.terminal : Ending → RefreshTerminal
  | .returned result => terminalOf result
  | .cancelled => .failure "refresh cancelled before completion"

omit [FloatText] [DateText] in
variable (events) in
/-- The uuid of the terminal event, once the resolution has returned. -/
theorem resolvedUuid_fits {before : List Event} {resolved : Except String ProviderStation}
    (hbefore : before <+: events.tail)
    (hreach : Reaches (resolveStation request.unifiedUuid).run before (.ret resolved)) :
    (∀ station, Resolved request events station →
        resolvedUuid request resolved = some station.unifiedUuid) ∧
      ((∀ station, ¬ Resolved request events station) →
        resolvedUuid request resolved = requestedUuid request) := by
  constructor
  · rintro station ⟨before', hbefore', hreach'⟩
    rw [hreach.returned_unique hreach' hbefore hbefore']
    rfl
  · intro hnone
    cases resolved with
    | error err => rfl
    | ok station => exact absurd ⟨before, hbefore, hreach⟩ (hnone station)

omit [FloatText] [DateText] in
/-- While the resolution is waiting there is no station. -/
theorem not_resolved {c : Call} {k : Reply c → Process Call Reply (Except String ProviderStation)}
    (hreach : Reaches (resolveStation request.unifiedUuid).run events.tail (.call c k))
    (station : ProviderStation) : ¬ Resolved request events station := by
  rintro ⟨before, ⟨more, hmore⟩, hbefore⟩
  rw [← hmore] at hreach
  obtain ⟨-, heq⟩ := reaches_ret.1 (hbefore.continues hreach)
  cases heq

omit [FloatText] [DateText] in
theorem completes_terminal {uuid : Option String} {ending : Ending}
    (hresolved : ∀ station, Resolved request events station → uuid = some station.unifiedUuid)
    (hunresolved : (∀ station, ¬ Resolved request events station) →
      uuid = requestedUuid request) :
    Completes request events ending (refreshTerminal uuid ending.terminal) := by
  refine ⟨?_, ?_, ?_, ?_, ?_, ?_⟩
  · exact rfl
  · exact hresolved
  · exact hunresolved
  all_goals
    -- the outcome depends on the ending alone
    cases ending with
    | cancelled => simp [refreshTerminal, refreshEvent, Ending.terminal,
        RefreshTerminal.intoDiagnostics]
    | returned result =>
      cases result with
      | error err => simp [refreshTerminal, refreshEvent, Ending.terminal, terminalOf,
          RefreshTerminal.intoDiagnostics]
      | ok snapshot =>
        cases hstale : snapshot.stale <;>
          simp [refreshTerminal, refreshEvent, Ending.terminal, terminalOf, hstale,
            RefreshTerminal.intoDiagnostics]

/-- A refresh, from its start on. -/
theorem getWeatherInternal_refresh (hrefresh : request.refresh = true) :
    getWeatherInternal Tz providerName request =
      .call (.startRefresh request.unifiedUuid) fun _ =>
        (weatherBody Tz providerName request).run >>= fun result =>
          .call .dropRefresh fun _ => .ret result := by
  unfold getWeatherInternal
  rw [if_pos hrefresh]
  rfl

/-- On every path of a refresh, and wherever it is cancelled, it publishes one started event and
then one terminal event, that names the station once it is resolved and tells how the call ends. -/
theorem refresh_events_balanced (request : GetWeatherRequest) (hrefresh : request.refresh = true)
    (events : List Event) (ending : Ending)
    (h : Execution (getWeatherInternal Tz providerName request) events ending) :
    ∃ completed, published events ending =
        [refreshStarted (requestedUuid request), completed] ∧
      Completes request events ending completed := by
  obtain ⟨rest, hreach, hends⟩ := h
  rw [getWeatherInternal_refresh hrefresh] at hreach
  obtain ⟨rfl, rfl⟩ | ⟨reply, more, rfl, hmore⟩ := reaches_call.1 hreach
  · exact absurd hends.1 Bool.false_ne_true
  have hstart (events : List Event) : refreshEffects none (⟨.startRefresh _, reply⟩ :: events) =
      (refreshStarted (requestedUuid request) ::
        (refreshEffects (some ⟨requestedUuid request⟩) events).1,
      (refreshEffects (some ⟨requestedUuid request⟩) events).2) := rfl
  obtain ⟨c, k, hbody, rfl⟩ | ⟨before, after, result, rfl, hbody, hafter⟩ := hmore.bind_cases
  · -- the body is cancelled where it waits
    obtain ⟨hawaits, rfl⟩ := hends
    unfold published
    rw [hstart]
    obtain ⟨c', k', k'', hresolving, -, heffects⟩ | ⟨before, resolved, hbefore, hresolve,
      hsettles⟩ := weatherBody_cases hrefresh hbody
    · refine ⟨_, by rw [heffects]; rfl, completes_terminal ?_ fun _ => rfl⟩
      exact fun station hstation => absurd hstation (not_resolved hresolving station)
    · obtain ⟨hresolved, hunresolved⟩ := resolvedUuid_fits
        (⟨.startRefresh _, reply⟩ :: more) hbefore hresolve
      exact ⟨_, by rw [hsettles hawaits]; rfl, completes_terminal hresolved hunresolved⟩
  · -- the body has returned, and the guard goes out of scope
    obtain ⟨rfl, rfl⟩ | ⟨dropped, after, rfl, hdropped⟩ := reaches_call.1 hafter
    · exact absurd hends.1 Bool.false_ne_true
    obtain ⟨rfl, rfl⟩ := reaches_ret.1 hdropped
    obtain rfl : ending = .returned result := hends
    obtain ⟨c', k', k'', -, heq, -⟩ | ⟨before', resolved, hbefore, hresolve, hsettles⟩ :=
      weatherBody_cases hrefresh hbody
    · cases heq
    · obtain ⟨hresolved, hunresolved⟩ := resolvedUuid_fits
        (⟨.startRefresh _, reply⟩ :: (before ++ [⟨.dropRefresh, dropped⟩]))
        (hbefore.trans (List.prefix_append _ _)) hresolve
      refine ⟨_, ?_, completes_terminal hresolved hunresolved⟩
      unfold published
      rw [hstart, refreshEffects_append, hsettles]
      rfl

end Programs

section Sample

attribute [local instance] sampleSha256 sampleFloatText sampleDateText

/-- What was stored before the upstream service failed. -/
def sampleStale : WeatherSnapshot :=
  ⟨some sampleStation, none, none, none, [], [], none, true, none⟩

/-- A refresh that joins the flight of another one. -/
def sampleRefresh : List Event :=
  [⟨.startRefresh sampleStation.unifiedUuid, ⟨⟩⟩,
    ⟨.db (.getProviderStationByUuid sampleStation.unifiedUuid), .ok (some sampleProviderStation)⟩,
    ⟨.setUnifiedUuid sampleStation.unifiedUuid, ⟨⟩⟩,
    ⟨.join (sampleStation.unifiedUuid, false), (0 : ℕ)⟩,
    ⟨.enter (sampleStation.unifiedUuid, false) 0, some (.ok sampleStale)⟩,
    ⟨.leave (sampleStation.unifiedUuid, false) 0, ⟨⟩⟩,
    ⟨.completeRefresh .stale, ⟨⟩⟩,
    ⟨.dropRefresh, ⟨⟩⟩]

/-- The refresh reports that the answer is stale. -/
theorem refresh_events_balanced_sample :
    ∃ completed, published sampleRefresh (.returned (.ok sampleStale)) =
        [refreshStarted (some sampleStation.unifiedUuid), completed] ∧
      Completes ⟨sampleStation.unifiedUuid, true, false⟩ sampleRefresh
        (.returned (.ok sampleStale)) completed :=
  @refresh_events_balanced _ _ _ SampleZone _ "nmc" ⟨sampleStation.unifiedUuid, true, false⟩ rfl
    sampleRefresh (.returned (.ok sampleStale))
    ⟨_, .next _ (.next _ (.next _ (.next _ (.next _ (.next _ (.next _ (.next _ (.refl _)))))))),
      rfl⟩

end Sample

end WeatherApp.Weather
