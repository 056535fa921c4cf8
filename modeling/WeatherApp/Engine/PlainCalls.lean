import WeatherApp.Engine.WeatherRequest

/-!
# Programs that only look

The parts of a weather request that ask their surroundings, read the database and report a fetch,
and change neither the history nor a flight nor a refresh.

## Main definitions

* `Call.Plain`: the calls of such a part. `Plain`: a program that makes no others.
* `Makes`: a program that makes only calls of some kind.

## Main results

* `plain_resolveStation`, `plain_enrich`, `plain_settleFailed`: what is such a part.
* `makes_enrich`: the snapshots that the enrichment of an answer reads.
-/

namespace WeatherApp.Weather

open Process (Always always_bind always_bindExcept)

/-- The call asks, reads or reports. -/
def Call.Plain : Call → Prop
  | .input _ | .publishFetchLog _ => True
  | .db (.putHistorySnapshot _ _) => False
  | .db _ => True
  | _ => False

/-- The program only asks, reads and reports. -/
structure Plain {α : Type} (p : Program α) : Prop where
  always : Always Call.Plain (fun _ => True) p.run

variable {α β : Type}

/-- The program makes only calls of a kind. -/
structure Makes (I : Call → Prop) (p : Program α) : Prop where
  always : Always I (fun _ => True) p.run

theorem Plain.makes {p : Program α} (h : Plain p) : Makes Call.Plain p := ⟨h.always⟩

theorem Makes.plain {p : Program α} (h : Makes Call.Plain p) : Plain p := ⟨h.always⟩

/-- A sequence makes only calls of a kind when its parts do. -/
theorem makes_bind {I : Call → Prop} {p : Program α} {f : α → Program β} (hp : Makes I p)
    (hf : ∀ a, Makes I (f a)) : Makes I (p >>= f) :=
  ⟨always_bindExcept hp.always (fun a _ => (hf a).always) fun _ _ => trivial⟩

theorem makes_pure {I : Call → Prop} (a : α) : Makes I (pure a : Program α) := ⟨trivial⟩

theorem plain_bind {p : Program α} {f : α → Program β} (hp : Plain p) (hf : ∀ a, Plain (f a)) :
    Plain (p >>= f) :=
  (makes_bind hp.makes fun a => (hf a).makes).plain

theorem plain_pure (a : α) : Plain (pure a : Program α) := ⟨trivial⟩

theorem plain_throw (err : String) : Plain (throw err : Program α) := ⟨trivial⟩

theorem plain_ofExcept (result : Except String α) : Plain (ofExcept result) := ⟨trivial⟩

theorem plain_ask (query : Query) : Plain (ask query) := ⟨⟨trivial, fun _ => trivial⟩⟩

theorem plain_db {command : DbCommand} (h : Call.Plain (.db command)) : Plain (db command) :=
  ⟨⟨h, fun _ => trivial⟩⟩

theorem plain_publishFetchLog (event : FetchLogEvent) : Plain (emit (.publishFetchLog event)) :=
  ⟨⟨trivial, fun _ => trivial⟩⟩

theorem plain_attempt {p : Program α} (h : Plain p) : Plain (attempt p) :=
  ⟨always_bind h.always fun _ _ => trivial⟩

theorem makes_orUnchanged {I : Call → Prop} {snapshot : WeatherSnapshot}
    {step : Program WeatherSnapshot} (h : Makes I step) : Makes I (orUnchanged snapshot step) := by
  have hattempt : Makes I (attempt step) := ⟨always_bind h.always fun _ _ => trivial⟩
  refine makes_bind hattempt fun result => ?_
  cases result with
  | ok enriched => exact makes_pure _
  | error err => exact makes_pure _

theorem plain_orUnchanged {snapshot : WeatherSnapshot} {step : Program WeatherSnapshot}
    (h : Plain step) : Plain (orUnchanged snapshot step) :=
  (makes_orUnchanged h.makes).plain

section Stations

variable [Sha256]

theorem plain_stationByName (name : String) : Plain (stationByName name) := by
  refine plain_bind (plain_db trivial) fun known => ?_
  cases known with
  | some station => exact plain_pure _
  | none =>
    refine plain_bind (plain_ask _) fun resolved => ?_
    exact plain_bind (plain_ofExcept _) fun station => plain_pure _

theorem plain_resolveStation (unifiedUuid : String) : Plain (resolveStation unifiedUuid) := by
  unfold resolveStation
  split
  next =>
    refine plain_bind (plain_ask _) fun config => ?_
    split
    next => exact plain_throw _
    next name _ => exact plain_stationByName name
  next =>
    refine plain_bind (plain_db trivial) fun known => ?_
    cases known with
    | some station => exact plain_pure _
    | none =>
      refine plain_bind (plain_ask _) fun config => ?_
      split
      next => exact plain_throw _
      next matched _ => exact plain_stationByName matched.name

end Stations

section Stored

variable {Tz : Type} [TzDatabase Tz]

theorem plain_applyCachedDailyHigh [FloatText] [DateText] (snapshot : WeatherSnapshot)
    (station : ProviderStation) : Plain (applyCachedDailyHigh Tz snapshot station) := by
  refine plain_bind (plain_ask _) fun config => plain_bind (plain_ask _) fun now => ?_
  refine plain_bind (plain_ofExcept _) fun today => plain_bind (plain_db trivial) fun found => ?_
  split <;> exact plain_pure _

section Inherited

variable {I : Call → Prop} (hconfig : I (.input .config)) (hnow : I (.input .now))

include hconfig hnow

/-- Reading a fresh snapshot is reading the latest one of the station. -/
theorem makes_freshStored {uuid : String} (hread : I (.db (.getLatestSnapshot uuid))) :
    Makes I (freshStored Tz uuid) := by
  have hlatest : Makes I (db (.getLatestSnapshot uuid)) := ⟨hread, fun _ => trivial⟩
  have hask : Makes I (ask .config) := ⟨hconfig, fun _ => trivial⟩
  have hclock : Makes I (ask .now) := ⟨hnow, fun _ => trivial⟩
  refine makes_bind hlatest fun found => ?_
  cases found with
  | none => exact makes_pure _
  | some stored =>
    refine makes_bind hask fun config => makes_bind hclock fun now => ?_
    exact makes_bind (p := ofExcept _) ⟨trivial⟩ fun fresh => makes_pure _

variable [Sha256] {snapshot : WeatherSnapshot} {station : ProviderStation}

theorem makes_applyParentAlerts (hread : ∀ parentName ∈ parentStationName station.name,
      I (.db (.getLatestSnapshot (unifiedStationUuid parentName)))) :
    Makes I (applyParentAlerts Tz snapshot station) := by
  unfold applyParentAlerts
  split
  next => exact makes_pure _
  next parentName hparent =>
    refine makes_bind (makes_freshStored hconfig hnow (hread parentName hparent)) fun found => ?_
    split <;> exact makes_pure _

theorem makes_applyCachedMunicipalityAir
    (hread : ∀ parentName ∈ municipalityAirParentName station.province station.city,
      I (.db (.getLatestSnapshot (unifiedStationUuid parentName)))) :
    Makes I (applyCachedMunicipalityAir Tz snapshot station) := by
  unfold applyCachedMunicipalityAir
  split_ifs
  next => exact makes_pure _
  next =>
    split
    next => exact makes_pure _
    next parentName hparent =>
      refine makes_bind (makes_freshStored hconfig hnow (hread parentName hparent)) fun found => ?_
      split
      next => exact makes_pure _
      next => split <;> exact makes_pure _

/-- The enrichment of an answer reads the snapshots of the two parents. -/
theorem makes_enrich
    (hair : ∀ parentName ∈ municipalityAirParentName station.province station.city,
      I (.db (.getLatestSnapshot (unifiedStationUuid parentName))))
    (halerts : ∀ parentName ∈ parentStationName station.name,
      I (.db (.getLatestSnapshot (unifiedStationUuid parentName)))) :
    Makes I (enrich Tz snapshot station) := by
  refine makes_bind (makes_orUnchanged (makes_applyCachedMunicipalityAir hconfig hnow hair))
    fun enriched => ?_
  exact makes_bind (makes_orUnchanged (makes_applyParentAlerts hconfig hnow halerts))
    fun _ => makes_pure _

end Inherited

variable [Sha256]

theorem plain_enrich (snapshot : WeatherSnapshot) (station : ProviderStation) :
    Plain (enrich Tz snapshot station) :=
  (makes_enrich trivial trivial (fun _ _ => trivial) fun _ _ => trivial).plain

theorem plain_settleFailed (station : ProviderStation) (fetchError : String) :
    Plain (settleFailed Tz station fetchError) := by
  refine plain_bind (plain_attempt (plain_db trivial)) fun logged => ?_
  refine plain_bind (plain_publishFetchLog _) fun _ => ?_
  refine plain_bind (plain_attempt (plain_db trivial)) fun found => ?_
  cases found with
  | error cacheError => exact plain_throw _
  | ok stored =>
    cases stored with
    | none => exact plain_throw _
    | some stored => exact plain_bind (plain_enrich _ _) fun _ => plain_pure _

end Stored

end WeatherApp.Weather
