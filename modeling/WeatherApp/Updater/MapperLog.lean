import WeatherApp.Foundation.AppendLog
import WeatherApp.Updater.Mapper

/-!
# The warnings of the mapper

Every reader of `value.rs` and every section of the mapper only adds to the warnings. What it
returns, and what it adds, does not depend on the warnings that are there before.

## Main results

* `appends_lookupAliases`, `appends_fixed`, `appends_sequence`: the readers.
* `appends_mapReal`, `appends_mapPredict`, `appends_mapFields`: the sections.
-/

namespace WeatherApp.Nmc

open AppendLog

/-! ## The readers only add warnings -/

section Readers

variable {α : Type}

theorem appends_warn (warning : String) : Appends (warn warning) := appends_modify warning

/-- A warning, and nothing else. -/
theorem appends_warned (warning : String) (a : α) :
    Appends (do warn warning; return a : Mapping α) :=
  appends_bind (appends_warn warning) fun _ => appends_pure a

theorem appends_fixed (value : Option Json) (path expected : String)
    (convert : Json → Candidate α) : Appends (fixed value path expected convert) := by
  unfold fixed
  split
  next => exact appends_pure _
  next => exact appends_pure _
  next => exact appends_pure _
  next => exact appends_warned _ _

theorem appends_lookupAliases (map : JsonMap) (aliases : List String)
    (convert : Json → Candidate α) (warning : String) :
    Appends (lookupAliases map aliases convert warning) := by
  unfold lookupAliases
  split
  next => exact appends_pure _
  next => exact appends_warned _ _
  next => exact appends_pure _

theorem appends_joinResourceUrl (base : BaseUrl) (reference path : String) :
    Appends (joinResourceUrl base reference path) := by
  unfold joinResourceUrl
  split
  next => exact appends_pure _
  next => exact appends_warned _ _

theorem appends_resourceUrl (base : BaseUrl) (value : Option Json) (path : String) :
    Appends (resourceUrl base value path) := by
  refine appends_bind (appends_fixed _ _ _ _) fun reference => ?_
  cases reference with
  | none => exact appends_pure _
  | some reference => exact appends_joinResourceUrl _ _ _

theorem appends_objectOf (value : Option Json) (warning : String) :
    Appends (objectOf value warning) := by
  unfold objectOf
  split
  next => exact appends_pure _
  next =>
    split_ifs
    next => exact appends_pure _
    next =>
      split
      next => exact appends_pure _
      next => exact appends_warned _ _

theorem appends_decodeSection (decode : JsonMap → α) (value : Option Json) (path : String) :
    Appends (decodeSection decode value path) := appends_map (appends_objectOf _ _)

theorem appends_sequence (value : Option Json) (path : String) : Appends (sequence value path) := by
  unfold sequence
  split
  next => exact appends_pure _
  next =>
    unfold sequenceCandidate
    split_ifs
    next => exact appends_pure _
    next =>
      split
      next => exact appends_pure _
      next => exact appends_pure _
      next => exact appends_warned _ _

end Readers

/-! ## The sections only add warnings -/

section Sections

variable [FloatFormat]

omit [FloatFormat] in
/-- A warning that is added if none was since the count. -/
theorem appendsSince_warnIfQuiet (warning : String) :
    AppendsSince fun before => warnIfQuiet before warning := by
  have hquiet := appendsSince_ite True (appends_warn warning)
  simp only [and_true] at hquiet
  exact hquiet

theorem appends_mapStation [Sha256] (raw : Option Json) (path : String) :
    Appends (mapStation raw path) := by
  refine appends_bind (appends_decodeSection _ _ _) fun station => ?_
  cases station with
  | none => exact appends_pure _
  | some station =>
    refine appends_count (appendsSince_bind (appends_fixed _ _ _ _) fun province => ?_)
    refine appendsSince_bind (appends_fixed _ _ _ _) fun city => ?_
    split
    next => exact (appends_pure _).since
    next => exact (appendsSince_warnIfQuiet _).bind fun _ => appends_pure _

theorem appends_mapAlert (base : BaseUrl) (raw : Option Json) : Appends (mapAlert base raw) := by
  refine appends_bind (appends_decodeSection _ _ _) fun warning => ?_
  cases warning with
  | none => exact appends_pure _
  | some warning =>
    refine appends_bind (appends_fixed _ _ _ _) fun alert => ?_
    cases alert with
    | none => exact appends_pure _
    | some alert =>
      refine appends_bind (appends_fixed _ _ _ _) fun province => ?_
      refine appends_bind (appends_fixed _ _ _ _) fun city => ?_
      refine appends_bind (appends_resourceUrl _ _ _) fun url => ?_
      iterate 4 refine appends_bind (appends_fixed _ _ _ _) fun _ => ?_
      refine appends_bind (appends_resourceUrl _ _ _) fun iconUrl => ?_
      refine appends_bind (appends_fixed _ _ _ _) fun iconName => ?_
      exact appends_pure _

theorem appends_mapObserved (real : RealDto) (weather : Option RealWeatherDto)
    (wind : Option WindDto) (alert : Option WeatherAlert) (sun : Option SunriseSunsetDto) :
    Appends (mapObserved real weather wind alert sun) := by
  iterate 17 refine appends_bind (appends_fixed _ _ _ _) fun _ => ?_
  exact appends_pure _

theorem appends_mapForecastPart (raw : Option Json) (path : String) :
    Appends (mapForecastPart raw path) := by
  refine appends_bind (appends_decodeSection _ _ _) fun part => ?_
  cases part with
  | none => exact appends_pure _
  | some part =>
    refine appends_bind (appends_decodeSection _ _ _) fun weather => ?_
    refine appends_bind (appends_decodeSection _ _ _) fun wind => ?_
    iterate 5 refine appends_bind (appends_fixed _ _ _ _) fun _ => ?_
    exact appends_pure _

theorem appends_mapForecastDay (index : ℕ) (raw : Json) : Appends (mapForecastDay index raw) := by
  refine appends_bind (appends_decodeSection _ _ _) fun day => ?_
  cases day with
  | none => exact appends_pure _
  | some day =>
    refine appends_count (appendsSince_bind (appends_fixed _ _ _ _) fun date => ?_)
    cases date with
    | none => exact (appendsSince_warnIfQuiet _).bind fun _ => appends_pure _
    | some date =>
      refine appendsSince_bind (appends_mapForecastPart _ _) fun dayPart => ?_
      refine appendsSince_bind (appends_mapForecastPart _ _) fun nightPart => ?_
      iterate 2 refine appendsSince_bind (appends_fixed _ _ _ _) fun _ => ?_
      exact (appends_pure _).since

omit [FloatFormat] in
theorem appends_mapEntries {α : Type} {mapEntry : ℕ → Json → Mapping (Option α)}
    (h : ∀ index raw, Appends (mapEntry index raw)) (entries : List (ℕ × Json)) :
    Appends (mapEntries mapEntry entries) := by
  induction entries with
  | nil => exact appends_pure _
  | cons entry entries ih =>
    exact appends_bind (h _ _) fun mapped => appends_bind ih fun rest => appends_pure _

omit [FloatFormat] in
theorem appends_mapUsable {α : Type} {path : String} {map : JsonMap} {fields : Mapping α}
    {hasFields : α → Bool} (h : Appends fields) : Appends (mapUsable path map fields hasFields) := by
  refine appends_count (appendsSince_bind h fun a => ?_)
  split
  next => exact (appends_pure _).since
  next =>
    have hunusable := appendsSince_ite (hasNonMissingValues map = true)
      (appends_warn s!"{path}: no usable known fields; ignored")
    exact hunusable.bind fun _ => appends_pure _

omit [FloatFormat] in
theorem appends_mapFields {α : Type} {raw : Option Json} {path : String}
    {fields : JsonMap → Mapping α} {hasFields : α → Bool} (h : ∀ map, Appends (fields map)) :
    Appends (mapFields raw path fields hasFields) := by
  refine appends_bind (appends_objectOf _ _) fun map => ?_
  cases map with
  | none => exact appends_pure _
  | some map => exact appends_mapUsable (h map)

theorem appends_mapAirLevel (map : JsonMap) : Appends (mapAirLevel map) := by
  refine appends_bind (appends_lookupAliases _ _ _ _) fun level => ?_
  cases level with
  | some level => exact appends_pure _
  | none =>
    refine appends_bind (appends_lookupAliases _ _ _ _) fun grade => ?_
    split
    next => exact appends_pure _
    iterate 6 next => exact appends_pure _
    next => exact appends_warned _ _

theorem appends_airFields (map : JsonMap) : Appends (airFields map) := by
  iterate 2 refine appends_bind (appends_lookupAliases _ _ _ _) fun _ => ?_
  refine appends_bind (appends_mapAirLevel _) fun level => ?_
  iterate 8 refine appends_bind (appends_lookupAliases _ _ _ _) fun _ => ?_
  exact appends_pure _

theorem appends_mapAirQuality (raw : Option Json) : Appends (mapAirQuality raw) :=
  appends_mapFields appends_airFields

omit [FloatFormat] in
theorem appends_climateMonthFields (path : String) (map : JsonMap) :
    Appends (climateMonthFields path map) := by
  iterate 4 refine appends_bind (appends_lookupAliases _ _ _ _) fun _ => ?_
  exact appends_pure _

omit [FloatFormat] in
theorem appends_mapClimateMonth (index : ℕ) (raw : Json) : Appends (mapClimateMonth index raw) :=
  appends_mapFields (appends_climateMonthFields _)

theorem appends_climateFields (map : JsonMap) : Appends (climateFields map) := by
  refine appends_bind (appends_lookupAliases _ _ _ _) fun period => ?_
  refine appends_bind (appends_map (appends_lookupAliases _ _ _ _)) fun entries => ?_
  refine appends_bind (appends_mapEntries appends_mapClimateMonth _) fun month => ?_
  exact appends_pure _

theorem appends_mapClimate (raw : Option Json) : Appends (mapClimate raw) :=
  appends_mapFields appends_climateFields

theorem appends_radarFields (base : BaseUrl) (map : JsonMap) : Appends (radarFields base map) := by
  iterate 3 refine appends_bind (appends_lookupAliases _ _ _ _) fun _ => ?_
  exact appends_pure _

theorem appends_mapRadar (base : BaseUrl) (raw : Option Json) : Appends (mapRadar base raw) :=
  appends_mapFields (appends_radarFields base)

theorem appends_temperatureChartFields (path : String) (map : JsonMap) :
    Appends (temperatureChartFields path map) := by
  iterate 7 refine appends_bind (appends_lookupAliases _ _ _ _) fun _ => ?_
  exact appends_pure _

theorem appends_mapTemperatureChart (index : ℕ) (raw : Json) :
    Appends (mapTemperatureChart index raw) :=
  appends_mapFields (appends_temperatureChartFields _)

theorem appends_passedChartFields (path : String) (map : JsonMap) :
    Appends (passedChartFields path map) := by
  iterate 11 refine appends_bind (appends_lookupAliases _ _ _ _) fun _ => ?_
  exact appends_pure _

theorem appends_mapPassedChart (index : ℕ) (raw : Json) : Appends (mapPassedChart index raw) :=
  appends_mapFields (appends_passedChartFields _)

theorem appends_mapReal [Sha256] (base : BaseUrl) (raw : Option Json) :
    Appends (mapReal base raw) := by
  refine appends_bind (appends_decodeSection _ _ _) fun real => ?_
  cases real with
  | none => exact appends_pure _
  | some real =>
    refine appends_bind (appends_mapStation _ _) fun station => ?_
    refine appends_bind (appends_decodeSection _ _ _) fun weather => ?_
    refine appends_bind (appends_decodeSection _ _ _) fun wind => ?_
    refine appends_bind (appends_mapAlert _ _) fun alert => ?_
    refine appends_bind (appends_decodeSection _ _ _) fun sun => ?_
    refine appends_bind (appends_mapObserved _ _ _ _ _) fun observed => ?_
    exact appends_pure _

theorem appends_mapPredict [Sha256] (raw : Option Json) : Appends (mapPredict raw) := by
  refine appends_bind (appends_decodeSection _ _ _) fun predict => ?_
  cases predict with
  | none => exact appends_pure _
  | some predict =>
    refine appends_bind (appends_mapStation _ _) fun station => ?_
    refine appends_bind (appends_fixed _ _ _ _) fun publishTime => ?_
    refine appends_bind (appends_sequence _ _) fun entries => ?_
    refine appends_bind (appends_mapEntries appends_mapForecastDay _) fun days => ?_
    exact appends_pure _

end Sections

end WeatherApp.Nmc
