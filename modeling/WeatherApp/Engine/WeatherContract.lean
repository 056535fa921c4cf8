import WeatherApp.Engine.SnapshotLinks
import WeatherApp.Engine.WeatherSystem

/-!
# What the weather programs promise

A request stores a snapshot only as the provider answered it, under the station it has resolved;
what it adds for its caller is added afterwards. It completes a flight only with a snapshot of the
station of the flight, and publishes only snapshots without links. In return the database reports
stored snapshots without a debug payload and stations with the uuids of their names, and a flight
reports what its initializer completed it with.

## Main definitions

* `StationKnown`: a station that a thread has looked up.
* `OfStation`, `AnswerFor`, `FreshData`: what a snapshot is.
* `contract`, `Ensures`: the promises, and what a program ends with.

## Main results

* `ensures_fetchWeatherUncached`: a fetch stores fresh data only.
* `keeps_program`: the program of every request keeps its promises.
-/

namespace WeatherApp.Weather

open Process

variable [Sha256]

/-- The uuid of the station is that of its name. -/
def Canonical (station : ProviderStation) : Prop :=
  station.unifiedUuid = unifiedStationUuid station.name

/-- A station that the calls have looked up, under the name that was asked for. -/
inductive StationKnown (events : List Event) : ProviderStation → Prop where
  | byUuid (uuid : String) (station : ProviderStation)
      (h : (⟨.db (.getProviderStationByUuid uuid), .ok (some station)⟩ : Event) ∈ events) :
      StationKnown events station
  | byName (name : String) (station : ProviderStation)
      (h : (⟨.db (.getProviderStationByName name), .ok (some station)⟩ : Event) ∈ events) :
      StationKnown events (named name station)
  | resolved (name : String) (station : ProviderStation)
      (h : (⟨.input (.resolveName name), .ok station⟩ : Event) ∈ events) :
      StationKnown events (named name station)

/-- The snapshot is one of the station with this uuid, which is that of its name. -/
def OfStation (uuid : String) (snapshot : WeatherSnapshot) : Prop :=
  ∃ station, snapshot.station = some station ∧ station.unifiedUuid = uuid ∧
    unifiedStationUuid station.name = uuid

/-- The snapshot answers the requests of a flight. -/
structure AnswerFor (key : FlightKey) (snapshot : WeatherSnapshot) : Prop where
  station : OfStation key.1 snapshot
  debug : key.2 = false → snapshot.debug = none

/-- A flight has a snapshot for its requests, or an error. -/
def ResultFor (key : FlightKey) (result : Except String WeatherSnapshot) : Prop :=
  ∀ snapshot, result = .ok snapshot → AnswerFor key snapshot

/-- The snapshot holds only what the provider answered for the station, to one who has looked the
station up and asked the provider. -/
structure FreshData (events : List Event) (snapshot : WeatherSnapshot) : Prop where
  alerts : ∀ alert ∈ snapshot.alerts, alert.inherited = false
  stale : snapshot.stale = false
  debug : snapshot.debug = none
  air : ∃ station document includeDebug, StationKnown events station ∧
    OfStation station.unifiedUuid snapshot ∧
    (⟨.input (.weather station.providerStationId includeDebug), .ok document⟩ : Event) ∈ events ∧
    snapshot.air = document.data.air

/-- What a program promises of a call. A request that names a uuid stores snapshots of that
station only. -/
def Promised (requested : Option String) (events : List Event) : Call → Prop
  | .db (.putHistorySnapshot snapshot _) =>
    FreshData events snapshot ∧ ∀ uuid, requested = some uuid → OfStation uuid snapshot
  | .complete key _ result => ResultFor key result
  | .publishSnapshot snapshot => NoLinks snapshot
  | _ => True

/-- What the engine promises of a reply. -/
def Answered : (c : Call) → Reply c → Prop
  | .db (.getLatestSnapshot _), .ok (some stored) => stored.snapshot.debug = none
  | .db (.getProviderStationByUuid uuid), .ok (some station) =>
    station.unifiedUuid = uuid ∧ Canonical station
  | .enter key _, some result => ResultFor key result
  | .complete key _ _, result => ResultFor key result
  | _, _ => True

/-- The contract between a program and the engine. -/
def contract (requested : Option String) : Contract Unit Call Reply where
  rely _ _ := True
  rely_refl _ := trivial
  rely_trans _ _ _ _ _ := trivial
  promised _ events c := Promised requested events c
  promised_rely _ _ _ _ _ h := h
  answered _ c reply := Answered c reply

/-! ## More calls -/

section Mono

variable {events events' : List Event} (h : events <+: events')

include h

theorem StationKnown.mono {station : ProviderStation} (hknown : StationKnown events station) :
    StationKnown events' station := by
  cases hknown with
  | byUuid uuid _ hmem => exact .byUuid uuid _ (h.subset hmem)
  | byName name station hmem => exact .byName name station (h.subset hmem)
  | resolved name station hmem => exact .resolved name station (h.subset hmem)

theorem FreshData.mono {snapshot : WeatherSnapshot} (hfresh : FreshData events snapshot) :
    FreshData events' snapshot := by
  obtain ⟨station, document, includeDebug, hknown, hof, hmem, hair⟩ := hfresh.air
  exact ⟨hfresh.alerts, hfresh.stale, hfresh.debug, station, document, includeDebug,
    hknown.mono h, hof, h.subset hmem, hair⟩

theorem Promised.mono {requested : Option String} {c : Call}
    (hpromised : Promised requested events c) : Promised requested events' c := by
  unfold Promised at hpromised ⊢
  split at hpromised
  next => exact ⟨hpromised.1.mono h, hpromised.2⟩
  next => exact hpromised
  next => exact hpromised
  next => trivial

end Mono

/-! ## Rules -/

/-- The program keeps its promises, and what it returns satisfies the postcondition. -/
structure Ensures (requested : Option String) {α : Type} (p : Program α) (events : List Event)
    (P : List Event → α → Prop) : Prop where
  keeps : Keeps (contract requested)
    (fun _ events' result => ∀ a, result = .ok a → P events' a) p.run ⟨⟩ events

section Rules

variable {requested : Option String} {α β : Type} {events : List Event}
  {P P' : List Event → α → Prop} {Q : List Event → β → Prop}

theorem Ensures.weaken {p : Program α} (h : Ensures requested p events P)
    (hpost : ∀ events' a, P events' a → P' events' a) : Ensures requested p events P' :=
  ⟨h.keeps.weaken fun _ events' _ _ hresult a ha => hpost events' a (hresult a ha)⟩

theorem ensures_pure {a : α} (h : P events a) : Ensures requested (pure a) events P :=
  ⟨fun _ ha => Except.ok.inj ha ▸ h⟩

theorem ensures_throw (err : String) : Ensures requested (throw err : Program α) events P :=
  ⟨fun _ ha => nomatch ha⟩

theorem ensures_ofExcept {result : Except String α} (h : ∀ a, result = .ok a → P events a) :
    Ensures requested (ofExcept result) events P := ⟨h⟩

/-- A sequence: the calls of the second part come after those of the first. -/
theorem ensures_bind {p : Program α} {f : α → Program β} (hp : Ensures requested p events P)
    (hf : ∀ events' a, events <+: events' → P events' a → Ensures requested (f a) events' Q) :
    Ensures requested (p >>= f) events Q := by
  refine ⟨keeps_bindExcept hp.keeps.recorded ?_ fun _ _ _ _ _ _ ha => nomatch ha⟩
  rintro ⟨⟩ events' a - ⟨hresult, hbefore⟩
  exact (hf events' a hbefore (hresult a rfl)).keeps

theorem ensures_ask {query : Query} {P : List Event → query.Reply → Prop}
    (h : ∀ reply, P (events ++ [⟨.input query, reply⟩]) reply) :
    Ensures requested (ask query) events P := by
  refine ⟨trivial, fun _ reply _ _ a ha => ?_⟩
  obtain rfl := Except.ok.inj ha
  exact h reply

/-- Any answer will do. -/
theorem ensures_input (query : Query) :
    Ensures requested (ask query) events fun _ _ => True := ensures_ask fun _ => trivial

theorem ensures_db {command : DbCommand} {P : List Event → command.Reply → Prop}
    (hpromised : Promised requested events (.db command))
    (h : ∀ reply, Answered (.db command) (.ok reply) →
      P (events ++ [⟨.db command, .ok reply⟩]) reply) :
    Ensures requested (db command) events P := by
  refine ⟨hpromised, fun _ reply _ hanswered a ha => ?_⟩
  subst ha
  exact h a hanswered

/-- Any reply will do. -/
theorem ensures_command {command : DbCommand} (h : Promised requested events (.db command)) :
    Ensures requested (db command) events fun _ _ => True := ensures_db h fun _ _ => trivial

theorem ensures_emit {c : Call} (hpromised : Promised requested events c) :
    Ensures requested (emit c) events fun _ _ => True :=
  ⟨hpromised, fun _ _ _ _ _ _ => trivial⟩

theorem ensures_attempt {p : Program α} (h : Ensures requested p events P) :
    Ensures requested (attempt p) events fun events' result => ∀ a, result = .ok a → P events' a :=
  ⟨keeps_bind h.keeps fun _ _ _ _ hresult _ hok => Except.ok.inj hok ▸ hresult⟩

/-- A program that only asks the registry. -/
theorem ensures_registers {p : Program α} {R : α → Prop} (h : RegistersAndReturns R p) :
    Ensures requested p events fun _ a => R a := by
  refine ⟨(h.keeps fun _ _ c hc => ?_).weaken fun _ _ result _ hresult a ha => ?_⟩
  · obtain ⟨url, rfl⟩ := hc
    trivial
  · obtain ⟨a', hok, hR⟩ := hresult
    obtain rfl := Except.ok.inj (ha.symm.trans hok)
    exact hR

end Rules

/-! ## The programs -/

section Programs

variable {requested : Option String} {events : List Event}

omit [Sha256] in
/-- What is looked up is known. -/
theorem mem_events_append {events : List Event} {event : Event} : event ∈ events ++ [event] :=
  List.mem_append_right _ List.mem_cons_self

/-- The station of a name. -/
theorem ensures_stationByName (name : String) :
    Ensures requested (stationByName name) events fun events' station =>
      StationKnown events' station ∧ Canonical station ∧
        station.unifiedUuid = unifiedStationUuid name := by
  refine ensures_bind (P := fun events' found => ∀ station, found = some station →
    StationKnown events' (named name station)) (ensures_db trivial fun reply _ station hfound =>
      .byName name station (hfound ▸ mem_events_append)) fun events₁ known _ hknown => ?_
  cases known with
  | some station => exact ensures_pure ⟨hknown station rfl, rfl, rfl⟩
  | none =>
    refine ensures_bind (P := fun events' found => ∀ station, found = .ok station →
      StationKnown events' (named name station)) (ensures_ask fun reply station hfound =>
        .resolved name station (hfound ▸ mem_events_append)) fun events₂ resolved _ hresolved => ?_
    refine ensures_bind (ensures_ofExcept (P := fun events' station =>
      StationKnown events' (named name station)) hresolved) fun events₃ station _ hstation => ?_
    exact ensures_pure ⟨hstation, rfl, rfl⟩

/-- The station of a request. -/
theorem ensures_resolveStation (unifiedUuid : String) :
    Ensures requested (resolveStation unifiedUuid) events fun events' station =>
      StationKnown events' station ∧ Canonical station ∧
        (isBlank unifiedUuid = false → station.unifiedUuid = unifiedUuid) := by
  unfold resolveStation
  split
  next hblank =>
    refine ensures_bind (ensures_input .config) fun events₁ config _ _ => ?_
    split
    next => exact ensures_throw _
    next name _ =>
      refine (ensures_stationByName name).weaken fun events' station hstation => ?_
      exact ⟨hstation.1, hstation.2.1, fun hnamed => by rw [hblank] at hnamed; cases hnamed⟩
  next =>
    refine ensures_bind (P := fun events' found => ∀ station, found = some station →
      StationKnown events' station ∧ Canonical station ∧ station.unifiedUuid = unifiedUuid)
      (ensures_db trivial ?_) fun events₁ known _ hknown => ?_
    · rintro reply hanswered station rfl
      exact ⟨.byUuid unifiedUuid station mem_events_append, hanswered.2, hanswered.1⟩
    cases known with
    | some station =>
      obtain ⟨hstation, hcanonical, huuid⟩ := hknown station rfl
      exact ensures_pure ⟨hstation, hcanonical, fun _ => huuid⟩
    | none =>
      refine ensures_bind (ensures_input .config) fun events₂ config _ _ => ?_
      split
      next => exact ensures_throw _
      next matched hfound =>
        -- the configured name hashes to the uuid
        have huuid := List.find?_some hfound
        refine (ensures_stationByName matched.name).weaken fun events' station hstation => ?_
        exact ⟨hstation.1, hstation.2.1, fun _ => hstation.2.2.trans (of_decide_eq_true huuid)⟩

variable {Tz : Type} [TzDatabase Tz]

/-- What was stored has no debug payload. -/
theorem ensures_freshStored (uuid : String) :
    Ensures requested (freshStored Tz uuid) events fun _ found =>
      ∀ stored, found = some stored → stored.snapshot.debug = none := by
  refine ensures_bind (P := fun _ found => ∀ stored, found = some stored →
    stored.snapshot.debug = none) (ensures_db trivial ?_) fun events₁ found _ hfound => ?_
  · rintro reply hanswered stored rfl
    exact hanswered
  cases found with
  | none => exact ensures_pure fun stored hstored => nomatch hstored
  | some stored =>
    refine ensures_bind (ensures_input .config) fun _ config _ _ => ?_
    refine ensures_bind (ensures_input .now) fun _ now _ _ => ?_
    refine ensures_bind (ensures_ofExcept (P := fun _ _ => True) fun _ _ => trivial)
      fun _ fresh _ _ => ensures_pure fun stored' hstored => ?_
    split_ifs at hstored
    exact hfound stored' hstored

/-- Two snapshots of one station with one debug payload. -/
structure SameIdentity (snapshot snapshot' : WeatherSnapshot) : Prop where
  station : snapshot'.station = snapshot.station
  debug : snapshot'.debug = snapshot.debug

omit [Sha256] in
theorem SameIdentity.refl (snapshot : WeatherSnapshot) : SameIdentity snapshot snapshot :=
  ⟨rfl, rfl⟩

omit [Sha256] in
theorem sameIdentity_mergeParentAlerts (snapshot : WeatherSnapshot)
    (parentAlerts : List WeatherAlert) :
    SameIdentity snapshot (mergeParentAlerts snapshot parentAlerts) := by
  unfold mergeParentAlerts
  split_ifs <;> exact ⟨rfl, rfl⟩

theorem AnswerFor.sameIdentity {key : FlightKey} {snapshot snapshot' : WeatherSnapshot}
    (h : AnswerFor key snapshot) (hsame : SameIdentity snapshot snapshot') :
    AnswerFor key snapshot' := by
  obtain ⟨station, hstation, huuid⟩ := h.station
  refine ⟨⟨station, hsame.station.trans hstation, huuid⟩, fun hkey => ?_⟩
  exact hsame.debug.trans (h.debug hkey)

theorem ensures_applyParentAlerts (snapshot : WeatherSnapshot) (station : ProviderStation) :
    Ensures requested (applyParentAlerts Tz snapshot station) events fun _ merged =>
      SameIdentity snapshot merged := by
  unfold applyParentAlerts
  split
  next => exact ensures_pure (.refl snapshot)
  next parentName _ =>
    refine ensures_bind (ensures_freshStored _) fun events₁ found _ _ => ?_
    split
    next => exact ensures_pure (.refl snapshot)
    next stored => exact ensures_pure (sameIdentity_mergeParentAlerts snapshot _)

theorem ensures_applyCachedMunicipalityAir (snapshot : WeatherSnapshot)
    (station : ProviderStation) :
    Ensures requested (applyCachedMunicipalityAir Tz snapshot station) events fun _ merged =>
      SameIdentity snapshot merged := by
  unfold applyCachedMunicipalityAir
  split_ifs
  next => exact ensures_pure (.refl snapshot)
  next =>
    split
    next => exact ensures_pure (.refl snapshot)
    next parentName _ =>
      refine ensures_bind (ensures_freshStored _) fun events₁ found _ _ => ?_
      split
      next => exact ensures_pure (.refl snapshot)
      next stored =>
        split
        next => exact ensures_pure (.refl snapshot)
        next => exact ensures_pure ⟨rfl, rfl⟩

/-- A step that fails leaves the snapshot as it was. -/
theorem ensures_orUnchanged {snapshot : WeatherSnapshot} {step : Program WeatherSnapshot}
    {R : WeatherSnapshot → Prop} (hstep : Ensures requested step events fun _ => R)
    (h : R snapshot) :
    Ensures requested (orUnchanged snapshot step) events fun _ enriched => R enriched.1 := by
  refine ensures_bind (ensures_attempt hstep) fun events₁ result _ hresult => ?_
  cases result with
  | ok enriched => exact ensures_pure (hresult enriched rfl)
  | error err => exact ensures_pure h

theorem ensures_enrich (snapshot : WeatherSnapshot) (station : ProviderStation) :
    Ensures requested (enrich Tz snapshot station) events fun _ enriched =>
      SameIdentity snapshot enriched.1 := by
  refine ensures_bind (ensures_orUnchanged (ensures_applyCachedMunicipalityAir snapshot station)
    (.refl snapshot)) ?_
  rintro events₁ ⟨withAir, airError⟩ - hair
  refine ensures_bind (ensures_orUnchanged (ensures_applyParentAlerts withAir station)
    (.refl withAir)) ?_
  rintro events₂ ⟨withAlerts, alertError⟩ - halerts
  exact ensures_pure ⟨halerts.station.trans hair.station, halerts.debug.trans hair.debug⟩

/-- The stored high of the day changes the forecast and the chart alone. -/
theorem ensures_applyCachedDailyHigh [FloatText] [DateText] (snapshot : WeatherSnapshot)
    (station : ProviderStation) :
    Ensures requested (applyCachedDailyHigh Tz snapshot station) events fun _ merged =>
      ∃ predict tempchart, merged = { snapshot with predict, tempchart } := by
  refine ensures_bind (ensures_input .config) fun _ config _ _ => ?_
  refine ensures_bind (ensures_input .now) fun _ now _ _ => ?_
  refine ensures_bind (ensures_ofExcept (P := fun _ _ => True) fun _ _ => trivial)
    fun _ today _ _ => ?_
  refine ensures_bind (ensures_command trivial) fun _ found _ _ => ?_
  cases found with
  | none => exact ensures_pure ⟨_, _, rfl⟩
  | some stored => exact ensures_pure (mergeCachedDailyHigh_frame snapshot stored today)

/-! ### Fetching -/

/-- The merged station is the requested one. -/
theorem ofStation_mergeStation {snapshot : WeatherSnapshot} {upstream : Option StationRef}
    {station : ProviderStation} (hcanonical : Canonical station)
    (h : snapshot.station = some (mergeStation upstream station)) :
    OfStation station.unifiedUuid snapshot := by
  refine ⟨_, h, ?_, hcanonical.symm⟩
  unfold mergeStation
  dsimp only
  split_ifs
  · exact hcanonical.symm
  · rfl

/-- A snapshot is stored as promised. -/
theorem ensures_persistSnapshot {snapshot : WeatherSnapshot} (hfresh : FreshData events snapshot)
    (hrequested : ∀ uuid, requested = some uuid → OfStation uuid snapshot) :
    Ensures requested (persistSnapshot snapshot) events fun _ _ => True :=
  ensures_bind (ensures_input .now) fun _ _ hbefore _ =>
    ensures_command ⟨hfresh.mono hbefore, hrequested⟩

/-- What a request must know of a station to fetch its weather. -/
structure Fetchable (requested : Option String) (events : List Event)
    (station : ProviderStation) : Prop where
  known : StationKnown events station
  canonical : Canonical station
  requested : ∀ uuid, requested = some uuid → station.unifiedUuid = uuid

theorem Fetchable.mono {station : ProviderStation} {events' : List Event}
    (h : Fetchable requested events station) (hbefore : events <+: events') :
    Fetchable requested events' station :=
  ⟨h.known.mono hbefore, h.canonical, h.requested⟩

/-- After the provider has answered: the snapshot is stored before anything is added to it. -/
theorem ensures_settleFetched [FloatText] [DateText] {station : ProviderStation}
    {document : WeatherDocument} {providerName : String} {includeDebug : Bool}
    (hfetchable : Fetchable requested events station)
    (hdocument : (⟨.input (.weather station.providerStationId includeDebug), .ok document⟩ :
      Event) ∈ events) :
    Ensures requested (settleFetched Tz station (nmcWeather providerName includeDebug document))
      events fun _ => AnswerFor (station.unifiedUuid, includeDebug) := by
  have hprovider := freshSnapshot_nmcWeather providerName includeDebug document
  have hdebug (h : includeDebug = false) :
      (nmcWeather providerName includeDebug document).snapshot.debug = none := by
    subst h
    exact debug_nmcWeather providerName document
  generalize nmcWeather providerName includeDebug document = fetched at hprovider hdebug
  refine ensures_bind (ensures_orUnchanged (ensures_applyCachedDailyHigh _ station)
    ⟨_, _, rfl⟩) ?_
  rintro events₁ ⟨snapshot, highError⟩ hbefore₁ ⟨predict, tempchart, hsnapshot⟩
  obtain rfl := hsnapshot
  have hof : OfStation station.unifiedUuid
      { fetched.snapshot with
        station := some (mergeStation fetched.snapshot.station station), predict, tempchart } :=
    ofStation_mergeStation hfetchable.canonical rfl
  have hfresh : FreshData events₁
      { fetched.snapshot with
        station := some (mergeStation fetched.snapshot.station station), predict, tempchart
        debug := none } :=
    ⟨hprovider.alerts, hprovider.stale, rfl, station, document, includeDebug,
      hfetchable.known.mono hbefore₁, hof, hbefore₁.subset hdocument, hprovider.air⟩
  refine ensures_bind (ensures_attempt (ensures_persistSnapshot hfresh fun uuid huuid => ?_)) ?_
  · rw [← hfetchable.requested uuid huuid]
    exact hof
  intro events₂ persisted _ _
  refine ensures_bind (ensures_enrich _ station) ?_
  rintro events₃ ⟨enriched, airError⟩ - henriched
  refine ensures_bind (ensures_attempt (ensures_command trivial)) fun events₄ logged _ _ => ?_
  refine ensures_bind (ensures_emit trivial) fun events₅ _ _ _ => ensures_pure ?_
  have hanswer : AnswerFor (station.unifiedUuid, includeDebug) enriched :=
    AnswerFor.sameIdentity ⟨hof, hdebug⟩ henriched
  refine ⟨hanswer.station, fun hkey => ?_⟩
  show enriched.debug.map _ = none
  rw [hanswer.debug hkey]
  rfl

/-- After the provider has failed: what was stored is answered as stale. -/
theorem ensures_settleFailed {station : ProviderStation} (hcanonical : Canonical station)
    (fetchError : String) (includeDebug : Bool) :
    Ensures requested (settleFailed Tz station fetchError) events fun _ =>
      AnswerFor (station.unifiedUuid, includeDebug) := by
  refine ensures_bind (ensures_attempt (ensures_command trivial)) fun events₁ logged _ _ => ?_
  refine ensures_bind (ensures_emit trivial) fun events₂ _ _ _ => ?_
  refine ensures_bind (ensures_attempt (ensures_db (P := fun _ found => ∀ stored,
    found = some stored → stored.snapshot.debug = none) trivial ?_)) fun events₃ found _ hfound => ?_
  · rintro reply hanswered stored rfl
    exact hanswered
  cases found with
  | error cacheError => exact ensures_throw _
  | ok found =>
    cases found with
    | none => exact ensures_throw _
    | some stored =>
      refine ensures_bind (ensures_enrich _ station) ?_
      rintro events₄ ⟨enriched, airError⟩ - henriched
      refine ensures_pure (AnswerFor.sameIdentity ⟨?_, fun _ => ?_⟩ henriched)
      · exact ofStation_mergeStation hcanonical rfl
      · exact hfound _ rfl stored rfl

/-- A fetch stores fresh data only, and answers for its station. -/
theorem ensures_fetchWeatherUncached [FloatText] [DateText] {station : ProviderStation}
    {providerName : String} {includeDebug : Bool}
    (hfetchable : Fetchable requested events station) :
    Ensures requested (fetchWeatherUncached Tz providerName station includeDebug) events fun _ =>
      AnswerFor (station.unifiedUuid, includeDebug) := by
  refine ensures_bind (P := fun events' fetched => ∀ document, fetched = .ok document →
    (⟨.input (.weather station.providerStationId includeDebug), .ok document⟩ : Event) ∈ events')
    (ensures_ask fun reply document hreply => hreply ▸ mem_events_append)
    fun events₁ fetched hbefore hfetched => ?_
  cases fetched with
  | ok document =>
    exact ensures_settleFetched (hfetchable.mono hbefore) (hfetched document rfl)
  | error err => exact ensures_settleFailed hfetchable.canonical err includeDebug

/-- A flight ends with a snapshot for its key, whoever has initialized it. -/
theorem ensures_shareFlight {key : FlightKey} {work : Program WeatherSnapshot}
    (hwork : ∀ events', events <+: events' →
      Ensures requested work events' fun _ => AnswerFor key) :
    Ensures requested (shareFlight key work) events fun _ => AnswerFor key := by
  refine ⟨⟨trivial, fun _ flight _ _ => ⟨trivial, fun _ shared _ hshared => ?_⟩⟩⟩
  cases shared with
  | some result => exact ⟨trivial, fun _ _ _ _ => hshared⟩
  | none =>
    have hbefore : events <+: events ++ [⟨.join key, flight⟩] ++ [⟨.enter key flight, none⟩] :=
      (List.prefix_append _ _).trans (List.prefix_append _ _)
    show Keeps _ _ (work.run >>= _) _ _
    refine keeps_bind (hwork _ hbefore).keeps fun _ events₁ result _ hresult => ?_
    -- the initializer completes the flight, and returns what the flight has
    exact ⟨hresult, fun _ found _ hfound => ⟨trivial, fun _ _ _ _ => hfound⟩⟩

/-! ### Answering -/

theorem ensures_cachedAnswer (request : GetWeatherRequest) {station : ProviderStation}
    (hcanonical : Canonical station) :
    Ensures requested (cachedAnswer Tz request station) events fun _ found =>
      ∀ snapshot, found = some snapshot →
        AnswerFor (station.unifiedUuid, request.includeDebug) snapshot := by
  unfold cachedAnswer
  split_ifs
  · exact ensures_pure fun snapshot hsnapshot => nomatch hsnapshot
  · refine ensures_bind (ensures_freshStored _) fun events₁ found _ hfound => ?_
    cases found with
    | none => exact ensures_pure fun snapshot hsnapshot => nomatch hsnapshot
    | some stored =>
      refine ensures_bind (ensures_enrich _ station) ?_
      rintro events₂ ⟨enriched, airError⟩ - henriched
      refine ensures_pure fun snapshot hsnapshot => ?_
      obtain rfl := Option.some.inj hsnapshot
      refine AnswerFor.sameIdentity ⟨?_, fun _ => ?_⟩ henriched
      · exact ofStation_mergeStation hcanonical rfl
      · exact hfound stored rfl

/-- The snapshot can be sent to those who asked for a station. -/
structure Sendable (key : FlightKey) (snapshot : WeatherSnapshot) : Prop where
  answer : AnswerFor key snapshot
  links : NoLinks snapshot

/-- The links are taken out of every answer. -/
theorem ensures_prepareSnapshotResources {key : FlightKey} {snapshot : WeatherSnapshot}
    (h : AnswerFor key snapshot) :
    Ensures requested (prepareSnapshotResources snapshot) events fun _ => Sendable key :=
  (ensures_registers (always_prepareSnapshotResources snapshot)).weaken
    fun _ _ hprepared =>
      ⟨h.sameIdentity ⟨hprepared.station, hprepared.debug⟩, hprepared.links⟩

theorem ensures_completeIf (refresh : Bool) (outcome : RefreshTerminal) :
    Ensures requested (completeIf refresh outcome) events fun _ _ => True := by
  unfold completeIf
  split_ifs
  · exact ensures_emit trivial
  · exact ensures_pure trivial

variable [FloatText] [DateText] {providerName : String}

theorem ensures_weatherOf (request : GetWeatherRequest) {station : ProviderStation}
    (hfetchable : Fetchable requested events station) :
    Ensures requested (weatherOf Tz providerName request station) events fun _ =>
      Sendable (station.unifiedUuid, request.includeDebug) := by
  unfold weatherOf
  extract_lets answer
  have hanswer : ∀ events', events <+: events' → Ensures requested (answer ()) events' fun _ =>
      Sendable (station.unifiedUuid, request.includeDebug) := by
    intro events₁ hbefore
    refine ensures_bind (ensures_cachedAnswer request hfetchable.canonical)
      fun events₂ cached hbefore₂ hcached => ?_
    cases cached with
    | some snapshot => exact ensures_prepareSnapshotResources (hcached snapshot rfl)
    | none =>
      refine ensures_bind (ensures_attempt (ensures_shareFlight fun events' hbefore₃ =>
        ensures_fetchWeatherUncached
          (hfetchable.mono ((hbefore.trans hbefore₂).trans hbefore₃))))
        fun events₃ result _ hresult => ?_
      refine ensures_bind (ensures_completeIf _ _) fun events₄ _ _ _ => ?_
      refine ensures_bind (ensures_ofExcept
        (P := fun _ => AnswerFor (station.unifiedUuid, request.includeDebug)) hresult)
        fun events₅ snapshot _ hsnapshot => ?_
      exact ensures_prepareSnapshotResources hsnapshot
  split_ifs
  · exact ensures_bind (ensures_emit trivial) fun events' _ hbefore _ => hanswer events' hbefore
  · exact hanswer events List.prefix_rfl

/-- The answer to a request: what is sent, and for the station that the request names. -/
structure AnswerTo (request : GetWeatherRequest) (snapshot : WeatherSnapshot) : Prop where
  station : isBlank request.unifiedUuid = false → OfStation request.unifiedUuid snapshot
  debug : request.includeDebug = false → snapshot.debug = none
  links : NoLinks snapshot

theorem ensures_weatherBody {request : GetWeatherRequest}
    (hrequested : ∀ uuid, requested = some uuid →
      isBlank request.unifiedUuid = false ∧ request.unifiedUuid = uuid) :
    Ensures requested (weatherBody Tz providerName request) events fun _ => AnswerTo request := by
  refine ensures_bind (ensures_attempt (ensures_resolveStation request.unifiedUuid))
    fun events₁ resolved _ hresolved => ?_
  cases resolved with
  | error err =>
    exact ensures_bind (ensures_completeIf _ _) fun _ _ _ _ => ensures_throw err
  | ok station =>
    obtain ⟨hknown, hcanonical, huuid⟩ := hresolved station rfl
    have hfetchable : Fetchable requested events₁ station :=
      ⟨hknown, hcanonical, fun uuid hsome =>
        (huuid (hrequested uuid hsome).1).trans (hrequested uuid hsome).2⟩
    refine (ensures_weatherOf request hfetchable).weaken fun _ snapshot hsnapshot => ?_
    refine ⟨fun hnamed => ?_, hsnapshot.answer.debug, hsnapshot.links⟩
    rw [← huuid hnamed]
    exact hsnapshot.answer.station

omit [FloatText] [DateText] in
/-- The guard of a refresh around a program. -/
theorem keeps_guarded {body : Program WeatherSnapshot} {uuid : String}
    {P : WeatherSnapshot → Prop}
    (h : ∀ events', Ensures requested body events' fun _ => P) :
    Keeps (contract requested) (fun _ _ result => ∀ snapshot, result = .ok snapshot → P snapshot)
      (do
        let _ ← invoke (.startRefresh uuid)
        let result ← body.run
        let _ ← invoke .dropRefresh
        return result) ⟨⟩ events := by
  refine ⟨trivial, fun _ _ _ _ => ?_⟩
  show Keeps _ _ (body.run >>= _) _ _
  refine keeps_bind (h _).keeps fun _ _ result _ hresult => ?_
  exact ⟨trivial, fun _ _ _ _ => hresult⟩

/-- `get_weather_internal` keeps the promises of the request that calls it. -/
theorem keeps_getWeatherInternal {request : GetWeatherRequest}
    (hrequested : ∀ uuid, requested = some uuid →
      isBlank request.unifiedUuid = false ∧ request.unifiedUuid = uuid) :
    Keeps (contract requested)
      (fun _ _ result => ∀ snapshot, result = .ok snapshot → AnswerTo request snapshot)
      (getWeatherInternal Tz providerName request) ⟨⟩ events := by
  have hbody (events' : List Event) : Ensures requested (weatherBody Tz providerName request)
      events' fun _ => AnswerTo request := ensures_weatherBody hrequested
  unfold getWeatherInternal
  generalize weatherBody Tz providerName request = body at hbody
  split_ifs
  · exact keeps_guarded hbody
  · exact (hbody events).keeps

omit [FloatText] [DateText] in
theorem keeps_publishAnswer {request : GetWeatherRequest}
    {result : Except String WeatherSnapshot}
    (h : ∀ snapshot, result = .ok snapshot → AnswerTo request snapshot) :
    Keeps (contract requested) (fun _ _ _ => True) (publishAnswer result) ⟨⟩ events := by
  cases result with
  | error err => trivial
  | ok snapshot => exact ⟨(h snapshot rfl).links, fun _ _ _ _ => trivial⟩

/-- The uuid that a request names. -/
def Request.namedUuid : Request → Option String
  | .getWeather (.ok request) _ =>
    if isBlank request.unifiedUuid then none else some request.unifiedUuid
  | _ => none

/-- What a request returns: the snapshot of a response answers it. -/
def Returned : Request → Outcome → Prop
  | .getWeather (.ok request) _, .response (.ok snapshot) => AnswerTo request snapshot
  | _, .response (.ok _) => False
  | _, _ => True

/-- The program of every request keeps its promises. -/
theorem keeps_program (request : Request) :
    Keeps (contract request.namedUuid) (fun _ _ outcome => Returned request outcome)
      (request.program Tz providerName) ⟨⟩ events := by
  cases request with
  | getWeather payload forceRefresh =>
    cases payload with
    | error err => trivial
    | ok request =>
      refine keeps_bind (keeps_getWeatherInternal fun uuid huuid => ?_)
        fun _ _ result _ hresult => ?_
      · simp only [Request.namedUuid, Option.ite_none_left_eq_some, Option.some.injEq,
          Bool.not_eq_true] at huuid
        exact huuid
      refine keeps_bind (keeps_publishAnswer hresult) fun _ _ _ _ _ => ?_
      cases result with
      | error err => trivial
      | ok snapshot =>
        obtain ⟨hstation, hdebug, hlinks⟩ := hresult snapshot rfl
        exact ⟨hstation, hdebug, hlinks⟩
  | refreshOne name =>
    refine keeps_bind (ensures_stationByName name).keeps fun _ _ station _ _ => ?_
    cases station with
    | error err => trivial
    | ok station =>
      refine keeps_bind (keeps_getWeatherInternal fun uuid huuid => nomatch huuid)
        fun _ _ result _ hresult => ?_
      exact keeps_bind (keeps_publishAnswer hresult) fun _ _ _ _ _ => trivial

end Programs

end WeatherApp.Weather
