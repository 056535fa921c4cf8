import WeatherApp.Updater.MapperTypes

/-!
# The mapper

How a response of the provider becomes a weather snapshot with warnings, from `mapper/mod.rs`,
`mapper/core.rs`, `mapper/optional.rs` and `mapper/charts.rs`.

## Main definitions

* `mapReal`, `mapPredict`: the observed weather with its alert, and the forecast.
* `mapAirQuality`, `mapTemperatureCharts`, `mapPassedCharts`, `mapClimate`, `mapRadar`: the sections
  whose fields have aliases.
* `mapWeather`: the snapshot and the warnings.
-/

namespace WeatherApp.Nmc

section Mapper

variable [Sha256] [FloatFormat]

/-! ## The observed weather and the forecast -/

/-- `MappedSection`. -/
structure MappedSection (α : Type) where
  station : Option StationRef
  value : α
  deriving DecidableEq, Repr

/-- Warn if nothing was warned of since `before`. -/
def warnIfQuiet (before : ℕ) (warning : String) : Mapping Unit := do
  if (← warningCount) = before then warn warning

/-- `map_station`. -/
def mapStation (raw : Option Json) (path : String) : Mapping (Option StationRef) := do
  let station ← decodeSection StationDto.decode raw path
  match station with
  | none => return none
  | some station =>
    let before ← warningCount
    let province ← fixedString station.province s!"{path}.province"
    let city ← fixedString station.city s!"{path}.city"
    match province, city with
    | some province, some city =>
      let name := canonicalStationName province city
      return some ⟨province, city, name, unifiedStationUuid name⟩
    | _, _ =>
      warnIfQuiet before s!"{path}: incomplete station; ignored"
      return none

/-- `map_alert`. -/
def mapAlert (base : BaseUrl) (raw : Option Json) : Mapping (Option WeatherAlert) := do
  let warning ← decodeSection WarnDto.decode raw "real.warn"
  match warning with
  | none => return none
  | some warning =>
    let alert ← fixedString warning.alert "real.warn.alert"
    match alert with
    | none => return none
    | some alert =>
      let province ← fixedString warning.province "real.warn.province"
      let city ← fixedString warning.city "real.warn.city"
      let url ← resourceUrl base warning.url "real.warn.url"
      let issueContent ← fixedString warning.issuecontent "real.warn.issuecontent"
      let prevention ← fixedString warning.fmeans "real.warn.fmeans"
      let signalType ← fixedString warning.signaltype "real.warn.signaltype"
      let signalLevel ← fixedString warning.signallevel "real.warn.signallevel"
      let iconUrl ← resourceUrl base warning.pic "real.warn.pic"
      let iconName ← fixedString warning.pic2 "real.warn.pic2"
      return some ⟨some alert, province, city, url, issueContent, prevention, signalType,
        signalLevel, iconUrl, iconName, none, false⟩

/-- The fields of the observed weather. -/
def mapObserved (real : RealDto) (weather : Option RealWeatherDto) (wind : Option WindDto)
    (alert : Option WeatherAlert) (sun : Option SunriseSunsetDto) : Mapping ObservedWeather := do
  let publishTime ← fixedString real.publishTime "real.publish_time"
  let info ← fixedString (weather.bind (·.info)) "real.weather.info"
  let temperature ← fixedF64 (weather.bind (·.temperature)) "real.weather.temperature"
  let feelTemperature ← fixedF64 (weather.bind (·.feelst)) "real.weather.feelst"
  let humidity ← fixedF64 (weather.bind (·.humidity)) "real.weather.humidity"
  let rain ← fixedF64 (weather.bind (·.rain)) "real.weather.rain"
  let windDirect ← fixedString (wind.bind (·.direct)) "real.wind.direct"
  let windPower ← fixedString (wind.bind (·.power)) "real.wind.power"
  let windSpeed ← fixedF64 (wind.bind (·.speed)) "real.wind.speed"
  let sunrise ← fixedString (sun.bind (·.sunrise)) "real.sunriseSunset.sunrise"
  let sunset ← fixedString (sun.bind (·.sunset)) "real.sunriseSunset.sunset"
  let temperatureDiff ← fixedF64 (weather.bind (·.temperatureDiff)) "real.weather.temperatureDiff"
  let airPressure ← fixedF64 (weather.bind (·.airPressure)) "real.weather.airpressure"
  let comfortIndex ← fixedString (weather.bind (·.comfortIndex)) "real.weather.icomfort"
  let comfortLabel ← fixedString (weather.bind (·.comfortLabel)) "real.weather.rcomfort"
  let weatherIcon ← fixedString (weather.bind (·.weatherIcon)) "real.weather.img"
  let windDegree ← fixedF64 (wind.bind (·.degree)) "real.wind.degree"
  return ⟨publishTime, info, temperature, feelTemperature, humidity, rain, windDirect, windPower,
    windSpeed, sunrise, sunset, alert.toList, temperatureDiff, airPressure, comfortIndex,
    comfortLabel, weatherIcon, windDegree⟩

/-- `map_real`. -/
def mapReal (base : BaseUrl) (raw : Option Json) :
    Mapping (Option (MappedSection ObservedWeather)) := do
  let real ← decodeSection RealDto.decode raw "real"
  match real with
  | none => return none
  | some real =>
    let station ← mapStation real.station "real.station"
    let weather ← decodeSection RealWeatherDto.decode real.weather "real.weather"
    let wind ← decodeSection WindDto.decode real.wind "real.wind"
    let alert ← mapAlert base real.warn
    let sun ← decodeSection SunriseSunsetDto.decode real.sunriseSunset "real.sunriseSunset"
    let observed ← mapObserved real weather wind alert sun
    return some ⟨station, observed⟩

/-- `ForecastPart`. -/
structure ForecastPart where
  info : Option String
  temperature : Option String
  icon : Option String
  windDirect : Option String
  windPower : Option String
  deriving DecidableEq, Repr

/-- `map_forecast_part`. -/
def mapForecastPart (raw : Option Json) (path : String) : Mapping ForecastPart := do
  let part ← decodeSection ForecastPartDto.decode raw path
  match part with
  | none => return ⟨none, none, none, none, none⟩
  | some part =>
    let weather ← decodeSection ForecastWeatherDto.decode part.weather s!"{path}.weather"
    let wind ← decodeSection WindDto.decode part.wind s!"{path}.wind"
    let info ← fixedString (weather.bind (·.info)) s!"{path}.weather.info"
    let temperature ← fixedString (weather.bind (·.temperature)) s!"{path}.weather.temperature"
    let icon ← fixedString (weather.bind (·.icon)) s!"{path}.weather.img"
    let windDirect ← fixedString (wind.bind (·.direct)) s!"{path}.wind.direct"
    let windPower ← fixedString (wind.bind (·.power)) s!"{path}.wind.power"
    return ⟨info, temperature, icon, windDirect, windPower⟩

/-- `map_forecast_day`. -/
def mapForecastDay (index : ℕ) (raw : Json) : Mapping (Option ForecastDay) := do
  let path := s!"predict.detail[{index}]"
  let day ← decodeSection ForecastDayDto.decode (some raw) path
  match day with
  | none => return none
  | some day =>
    let before ← warningCount
    let date ← fixedString day.date s!"{path}.date"
    match date with
    | none =>
      warnIfQuiet before s!"{path}: missing usable date; entry ignored"
      return none
    | some date =>
      let dayPart ← mapForecastPart day.day s!"{path}.day"
      let nightPart ← mapForecastPart day.night s!"{path}.night"
      let precipitation ← fixedF64 day.precipitation s!"{path}.precipitation"
      let publishTime ← fixedString day.pt s!"{path}.pt"
      return some ⟨date, dayPart.info, nightPart.info, dayPart.temperature, nightPart.temperature,
        dayPart.windDirect, dayPart.windPower, precipitation, publishTime, dayPart.icon,
        nightPart.icon, dayPart.windDirect, dayPart.windPower, nightPart.windDirect,
        nightPart.windPower⟩

/-- The entries that are mapped, in their order. -/
def mapEntries {α : Type} (mapEntry : ℕ → Json → Mapping (Option α)) :
    List (ℕ × Json) → Mapping (List α)
  | [] => return []
  | (index, raw) :: entries => do
    let mapped ← mapEntry index raw
    let rest ← mapEntries mapEntry entries
    return mapped.toList ++ rest

/-- `map_predict`. -/
def mapPredict (raw : Option Json) : Mapping (Option (MappedSection ForecastReport)) := do
  let predict ← decodeSection PredictDto.decode raw "predict"
  match predict with
  | none => return none
  | some predict =>
    let station ← mapStation predict.station "predict.station"
    let publishTime ← fixedString predict.publishTime "predict.publish_time"
    let entries ← sequence predict.detail "predict.detail"
    let days ← mapEntries mapForecastDay entries
    return some ⟨station, publishTime, days⟩

/-! ## The sections with aliases -/

/-- `warn_if_unusable`. -/
def warnIfUnusable (path : String) (map : JsonMap) (before : ℕ) : Mapping Unit := do
  if (← warningCount) = before ∧ hasNonMissingValues map then
    warn s!"{path}: no usable known fields; ignored"

/-- The fields of a section, if one of them is usable. -/
def mapUsable {α : Type} (path : String) (map : JsonMap) (fields : Mapping α)
    (hasFields : α → Bool) : Mapping (Option α) := do
  let before ← warningCount
  let value ← fields
  if hasFields value then return some value
  else
    warnIfUnusable path map before
    return none

/-- A section of fields with aliases. -/
def mapFields {α : Type} (raw : Option Json) (path : String) (fields : JsonMap → Mapping α)
    (hasFields : α → Bool) : Mapping (Option α) := do
  let map ← sectionObject raw path
  match map with
  | none => return none
  | some map => mapUsable path map (fields map) hasFields

/-- `map_air_level`. -/
def mapAirLevel (map : JsonMap) : Mapping (Option String) := do
  let level ← aliasString map ["level", "aqi_level", "aqiLevel"] "air.level"
  match level with
  | some level => return some level
  | none =>
    let grade ← aliasU32 map ["aq"] "air.level"
    match grade with
    | none => return none
    | some 1 => return some "一级"
    | some 2 => return some "二级"
    | some 3 => return some "三级"
    | some 4 => return some "四级"
    | some 5 => return some "五级"
    | some 6 => return some "六级"
    | some _ =>
      warn "air.level: AQ grade outside 1-6; field ignored"
      return none

/-- `has_air_fields`. -/
def hasAirFields (air : AirQuality) : Bool :=
  air.publishTime.isSome || air.aqi.isSome || air.level.isSome || air.category.isSome ||
    air.primaryPollutant.isSome || air.pm25.isSome || air.pm10.isSome || air.no2.isSome ||
    air.so2.isSome || air.co.isSome || air.o3.isSome

/-- The fields of the air quality. -/
def airFields (map : JsonMap) : Mapping AirQuality := do
  let publishTime ← aliasString map
    ["publish_time", "publishTime", "pubtime", "pub_time", "forecasttime", "forecastTime"]
    "air.publish_time"
  let aqi ← aliasF64 map ["aqi", "AQI"] "air.aqi"
  let level ← mapAirLevel map
  let category ← aliasString map ["category", "quality", "text"] "air.category"
  let primaryPollutant ← aliasString map
    ["primary_pollutant", "primaryPollutant", "primary", "main_pollutant"] "air.primary_pollutant"
  let pm25 ← aliasF64 map ["pm2_5", "pm25", "pm2.5", "PM2_5", "PM25"] "air.pm2_5"
  let pm10 ← aliasF64 map ["pm10", "PM10"] "air.pm10"
  let no2 ← aliasF64 map ["no2", "NO2"] "air.no2"
  let so2 ← aliasF64 map ["so2", "SO2"] "air.so2"
  let co ← aliasF64 map ["co", "CO"] "air.co"
  let o3 ← aliasF64 map ["o3", "O3"] "air.o3"
  return ⟨publishTime, aqi, level, category, primaryPollutant, pm25, pm10, no2, so2, co, o3⟩

/-- `map_air_quality`. -/
def mapAirQuality (raw : Option Json) : Mapping (Option AirQuality) :=
  mapFields raw "air" airFields hasAirFields

/-- The fields of a month. -/
def climateMonthFields (path : String) (map : JsonMap) : Mapping ClimateMonth := do
  let month ← aliasU32 map ["month", "mon"] s!"{path}.month"
  let averageMaxTemperature ← aliasF64 map
    ["average_max_temperature", "avg_max_temperature", "max_temperature", "maxTemp"]
    s!"{path}.average_max_temperature"
  let averageMinTemperature ← aliasF64 map
    ["average_min_temperature", "avg_min_temperature", "min_temperature", "minTemp"]
    s!"{path}.average_min_temperature"
  let precipitation ← aliasF64 map ["precipitation", "rain", "pre"] s!"{path}.precipitation"
  return ⟨month, averageMaxTemperature, averageMinTemperature, precipitation⟩

/-- A month with a usable field. -/
def hasMonthFields (month : ClimateMonth) : Bool :=
  month.month.isSome || month.averageMaxTemperature.isSome ||
    month.averageMinTemperature.isSome || month.precipitation.isSome

/-- `map_climate_month`. -/
def mapClimateMonth (index : ℕ) (raw : Json) : Mapping (Option ClimateMonth) :=
  let path := s!"climate.month[{index}]"
  mapFields (some raw) path (climateMonthFields path) hasMonthFields

/-- The period and the months. -/
def climateFields (map : JsonMap) : Mapping ClimateSummary := do
  let period ← aliasString map ["period", "range"] "climate.period"
  let entries ← aliasSequence map ["month", "months"] "climate.month"
  let month ← mapEntries mapClimateMonth entries
  return ⟨period, month⟩

/-- `map_climate`. -/
def mapClimate (raw : Option Json) : Mapping (Option ClimateSummary) :=
  mapFields raw "climate" climateFields fun climate =>
    climate.period.isSome || !climate.month.isEmpty

/-- The title and the links of the radar. -/
def radarFields (base : BaseUrl) (map : JsonMap) : Mapping RadarInfo := do
  let title ← aliasString map ["title", "name"] "radar.title"
  let imageUrl ← aliasResourceUrl base map ["image", "image_url", "img"] "radar.image_url"
  let pageUrl ← aliasResourceUrl base map ["url", "page_url", "page"] "radar.page_url"
  return ⟨title, imageUrl, pageUrl, none⟩

/-- `map_radar`. -/
def mapRadar (base : BaseUrl) (raw : Option Json) : Mapping (Option RadarInfo) :=
  mapFields raw "radar" (radarFields base) fun radar =>
    radar.title.isSome || radar.imageUrl.isSome || radar.pageUrl.isSome

/-! ## The charts -/

/-- The fields of a temperature chart. -/
def temperatureChartFields (path : String) (map : JsonMap) : Mapping TemperatureChart := do
  let date ← aliasString map ["date", "time"] s!"{path}.date"
  let maxTemperature ← aliasF64 map ["max_temperature", "maxTemperature", "max_temp", "max"]
    s!"{path}.max_temperature"
  let minTemperature ← aliasF64 map ["min_temperature", "minTemperature", "min_temp", "min"]
    s!"{path}.min_temperature"
  let dayInfo ← aliasString map ["day_info", "dayInfo", "day_weather", "dayWeather"]
    s!"{path}.day_info"
  let dayIcon ← aliasString map ["day_icon", "dayIcon", "day_img", "dayImg"] s!"{path}.day_icon"
  let nightInfo ← aliasString map ["night_info", "nightInfo", "night_weather", "nightWeather"]
    s!"{path}.night_info"
  let nightIcon ← aliasString map ["night_icon", "nightIcon", "night_img", "nightImg"]
    s!"{path}.night_icon"
  return ⟨date, maxTemperature, minTemperature, dayInfo, dayIcon, nightInfo, nightIcon⟩

/-- `has_temperature_chart_fields`. -/
def hasTemperatureChartFields (chart : TemperatureChart) : Bool :=
  chart.date.isSome || chart.maxTemperature.isSome || chart.minTemperature.isSome ||
    chart.dayInfo.isSome || chart.dayIcon.isSome || chart.nightInfo.isSome ||
    chart.nightIcon.isSome

/-- `map_temperature_chart`. -/
def mapTemperatureChart (index : ℕ) (raw : Json) : Mapping (Option TemperatureChart) :=
  let path := s!"tempchart[{index}]"
  mapFields (some raw) path (temperatureChartFields path) hasTemperatureChartFields

/-- `map_temperature_charts`. -/
def mapTemperatureCharts (raw : Option Json) : Mapping (List TemperatureChart) := do
  let entries ← sequence raw "tempchart"
  mapEntries mapTemperatureChart entries

/-- The fields of the weather that has passed. -/
def passedChartFields (path : String) (map : JsonMap) : Mapping PassedWeatherChart := do
  let time ← aliasString map ["time", "publish_time", "publishTime"] s!"{path}.time"
  let rain1h ← aliasF64 map ["rain_1h", "rain1h", "rain1H"] s!"{path}.rain_1h"
  let rain6h ← aliasF64 map ["rain_6h", "rain6h", "rain6H"] s!"{path}.rain_6h"
  let rain12h ← aliasF64 map ["rain_12h", "rain12h", "rain12H"] s!"{path}.rain_12h"
  let rain24h ← aliasF64 map ["rain_24h", "rain24h", "rain24H"] s!"{path}.rain_24h"
  let temperature ← aliasF64 map ["temperature", "temp"] s!"{path}.temperature"
  let temperatureDiff ← aliasF64 map ["temperature_diff", "temperatureDiff", "tempDiff"]
    s!"{path}.temperature_diff"
  let humidity ← aliasF64 map ["humidity"] s!"{path}.humidity"
  let pressure ← aliasF64 map ["pressure", "airpressure", "air_pressure"] s!"{path}.pressure"
  let windDirectionDegree ← aliasF64 map
    ["wind_direction_degree", "windDirectionDegree", "winddegree"]
    s!"{path}.wind_direction_degree"
  let windSpeed ← aliasF64 map ["wind_speed", "windSpeed", "windspeed"] s!"{path}.wind_speed"
  return ⟨time, rain1h, rain6h, rain12h, rain24h, temperature, temperatureDiff, humidity, pressure,
    windDirectionDegree, windSpeed⟩

/-- `has_passed_chart_fields`. -/
def hasPassedChartFields (chart : PassedWeatherChart) : Bool :=
  chart.time.isSome || chart.rain1h.isSome || chart.rain6h.isSome || chart.rain12h.isSome ||
    chart.rain24h.isSome || chart.temperature.isSome || chart.temperatureDiff.isSome ||
    chart.humidity.isSome || chart.pressure.isSome || chart.windDirectionDegree.isSome ||
    chart.windSpeed.isSome

/-- `map_passed_chart`. -/
def mapPassedChart (index : ℕ) (raw : Json) : Mapping (Option PassedWeatherChart) :=
  let path := s!"passedchart[{index}]"
  mapFields (some raw) path (passedChartFields path) hasPassedChartFields

/-- `map_passed_charts`. -/
def mapPassedCharts (raw : Option Json) : Mapping (List PassedWeatherChart) := do
  let entries ← sequence raw "passedchart"
  mapEntries mapPassedChart entries

/-! ## The whole response -/

/-- The computation of `map_weather`. -/
def mapSnapshot (base : BaseUrl) (data : WeatherDataDto) : Mapping WeatherSnapshot := do
  let real ← mapReal base data.real
  let predict ← mapPredict data.predict
  let station := (real.bind (·.station)) <|> (predict.bind (·.station))
  let air ← mapAirQuality data.air
  let tempchart ← mapTemperatureCharts data.tempchart
  let passedchart ← mapPassedCharts data.passedchart
  let climate ← mapClimate data.climate
  let radar ← mapRadar base data.radar
  return ⟨station, real.map (·.value), predict.map (·.value), air, tempchart, passedchart, climate,
    radar, false⟩

/-- `MapOutcome`. -/
structure MapOutcome (α : Type) where
  value : α
  warnings : List String
  deriving DecidableEq, Repr

/-- `map_weather`. -/
def mapWeather (base : BaseUrl) (data : WeatherDataDto) : MapOutcome WeatherSnapshot :=
  let (value, warnings) := (mapSnapshot base data).run []
  ⟨value, warnings⟩

end Mapper

end WeatherApp.Nmc
