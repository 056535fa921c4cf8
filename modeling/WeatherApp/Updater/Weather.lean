import WeatherApp.Schema.Weather

/-!
# The weather of a station upstream

`updater/src/provider/nmc`: the snapshot that the provider makes of a response. The sections of a
response come decoded; which of them are there and what they hold is up to the upstream service.

## Main definitions

* `WeatherSections`: the decoded response.
* `mapWeather`, `nmcWeather`: the snapshot, and the answer of the provider.
-/

namespace WeatherApp

/-- The fields of an alert upstream. -/
structure WarnSection where
  alert : String
  province : Option String
  city : Option String
  url : Option String
  issueContent : Option String
  prevention : Option String
  signalType : Option String
  signalLevel : Option String
  iconUrl : Option String
  iconName : Option String
  deriving DecidableEq, Repr

/-- `MappedSection`: a section, with the station it names. -/
structure MappedSection (α : Type) where
  station : Option StationRef
  value : α
  deriving DecidableEq, Repr

/-- The fields of the radar upstream. -/
structure RadarSection where
  title : Option String
  imageUrl : Option String
  pageUrl : Option String
  deriving DecidableEq, Repr

/-- `WeatherDataDto`, with its sections decoded, and the warnings about them. -/
structure WeatherSections where
  real : Option (MappedSection (Option WarnSection))
  predict : Option (MappedSection ForecastReport)
  air : Option AirQuality
  tempchart : List TemperatureChart
  passedchart : List PassedWeatherChart
  radar : Option RadarSection
  warnings : List String
  deriving DecidableEq, Repr

/-- `map_alert`. -/
def mapAlert (warning : WarnSection) : WeatherAlert where
  alert := some warning.alert
  province := warning.province
  city := warning.city
  url := warning.url
  issueContent := warning.issueContent
  prevention := warning.prevention
  signalType := warning.signalType
  signalLevel := warning.signalLevel
  iconUrl := warning.iconUrl
  iconName := warning.iconName
  iconResourceId := none
  inherited := false

/-- `map_radar`. -/
def mapRadar (radar : RadarSection) : RadarInfo :=
  ⟨radar.title, radar.imageUrl, radar.pageUrl, none⟩

/-- `map_weather`: the snapshot without its warnings. -/
def mapWeather (data : WeatherSections) : WeatherSnapshot where
  station := (data.real.bind (·.station)) <|> (data.predict.bind (·.station))
  real := data.real.map fun mapped => ⟨(mapped.value.map mapAlert).toList⟩
  predict := data.predict.map (·.value)
  air := data.air
  tempchart := data.tempchart
  passedchart := data.passedchart
  radar := data.radar.map mapRadar
  stale := false
  debug := none

/-- A response of the upstream service. -/
structure WeatherDocument where
  endpoint : String
  body : String
  data : WeatherSections
  deriving DecidableEq, Repr

/-- `WeatherFetch`. -/
structure WeatherFetch where
  snapshot : WeatherSnapshot
  warnings : List String
  deriving DecidableEq, Repr

/-- `weather`: what the provider makes of a response. -/
def nmcWeather (providerName : String) (includeDebug : Bool) (document : WeatherDocument) :
    WeatherFetch :=
  let snapshot := mapWeather document.data
  let warnings := document.data.warnings
  if includeDebug then
    let debug : DebugPayload := ⟨providerName, "weather", document.endpoint, document.body, warnings⟩
    ⟨{ snapshot with debug := some debug }, warnings⟩
  else ⟨snapshot, warnings⟩

/-- The provider answers with fresh data of the station alone. -/
structure FreshSnapshot (air : Option AirQuality) (snapshot : WeatherSnapshot) : Prop where
  alerts : ∀ alert ∈ snapshot.alerts, alert.inherited = false
  air : snapshot.air = air
  stale : snapshot.stale = false

theorem freshSnapshot_nmcWeather (providerName : String) (includeDebug : Bool)
    (document : WeatherDocument) :
    FreshSnapshot document.data.air (nmcWeather providerName includeDebug document).snapshot := by
  have hmapped : FreshSnapshot document.data.air (mapWeather document.data) := by
    refine ⟨fun alert halert => ?_, rfl, rfl⟩
    unfold WeatherSnapshot.alerts mapWeather at halert
    cases hreal : document.data.real with
    | none => simp [hreal] at halert
    | some mapped =>
      simp only [hreal, Option.map_some, Option.mem_toList, Option.map_eq_some_iff] at halert
      obtain ⟨warning, -, rfl⟩ := halert
      rfl
  unfold nmcWeather
  split
  · exact ⟨hmapped.alerts, hmapped.air, hmapped.stale⟩
  · exact hmapped

/-- The provider adds a debug payload on request only. -/
theorem debug_nmcWeather (providerName : String) (document : WeatherDocument) :
    (nmcWeather providerName false document).snapshot.debug = none := rfl

end WeatherApp
