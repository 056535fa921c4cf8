import WeatherApp.Schema.Station
import WeatherApp.Updater.MapperValue

/-!
# Responses and snapshots

The sections of a response of the provider, from `dto.rs`, and the records that the mapper makes of
them, from `weather-schema`, with all the fields that it fills in.

## Main definitions

* `WeatherDataDto`: the sections of a response; the other `Dto` records are decoded from objects.
* `WeatherSnapshot` and the records in it.
-/

namespace WeatherApp.Nmc

/-! ## The sections of a response -/

/-- `WeatherDataDto`. -/
structure WeatherDataDto where
  real : Option Json
  predict : Option Json
  air : Option Json
  tempchart : Option Json
  passedchart : Option Json
  climate : Option Json
  radar : Option Json

/-- `RealDto`. -/
structure RealDto where
  station : Option Json
  publishTime : Option Json
  weather : Option Json
  wind : Option Json
  warn : Option Json
  sunriseSunset : Option Json

def RealDto.decode (map : JsonMap) : RealDto where
  station := map.field "station"
  publishTime := map.field "publish_time"
  weather := map.field "weather"
  wind := map.field "wind"
  warn := map.field "warn"
  sunriseSunset := map.field "sunriseSunset"

/-- `StationDto`. -/
structure StationDto where
  province : Option Json
  city : Option Json

def StationDto.decode (map : JsonMap) : StationDto where
  province := map.field "province"
  city := map.field "city"

/-- `RealWeatherDto`. -/
structure RealWeatherDto where
  temperature : Option Json
  humidity : Option Json
  rain : Option Json
  info : Option Json
  feelst : Option Json
  temperatureDiff : Option Json
  airPressure : Option Json
  comfortIndex : Option Json
  comfortLabel : Option Json
  weatherIcon : Option Json

def RealWeatherDto.decode (map : JsonMap) : RealWeatherDto where
  temperature := map.field "temperature"
  humidity := map.field "humidity"
  rain := map.field "rain"
  info := map.field "info"
  feelst := map.field "feelst"
  temperatureDiff := map.field "temperatureDiff"
  airPressure := map.field "airpressure"
  comfortIndex := map.field "icomfort"
  comfortLabel := map.field "rcomfort"
  weatherIcon := map.field "img"

/-- `WindDto`. -/
structure WindDto where
  direct : Option Json
  power : Option Json
  speed : Option Json
  degree : Option Json

def WindDto.decode (map : JsonMap) : WindDto where
  direct := map.field "direct"
  power := map.field "power"
  speed := map.field "speed"
  degree := map.field "degree"

/-- `WarnDto`. -/
structure WarnDto where
  alert : Option Json
  province : Option Json
  city : Option Json
  url : Option Json
  issuecontent : Option Json
  fmeans : Option Json
  signaltype : Option Json
  signallevel : Option Json
  pic : Option Json
  pic2 : Option Json

def WarnDto.decode (map : JsonMap) : WarnDto where
  alert := map.field "alert"
  province := map.field "province"
  city := map.field "city"
  url := map.field "url"
  issuecontent := map.field "issuecontent"
  fmeans := map.field "fmeans"
  signaltype := map.field "signaltype"
  signallevel := map.field "signallevel"
  pic := map.field "pic"
  pic2 := map.field "pic2"

/-- `SunriseSunsetDto`. -/
structure SunriseSunsetDto where
  sunrise : Option Json
  sunset : Option Json

def SunriseSunsetDto.decode (map : JsonMap) : SunriseSunsetDto where
  sunrise := map.field "sunrise"
  sunset := map.field "sunset"

/-- `PredictDto`. -/
structure PredictDto where
  station : Option Json
  publishTime : Option Json
  detail : Option Json

def PredictDto.decode (map : JsonMap) : PredictDto where
  station := map.field "station"
  publishTime := map.field "publish_time"
  detail := map.field "detail"

/-- `ForecastDayDto`. -/
structure ForecastDayDto where
  date : Option Json
  pt : Option Json
  day : Option Json
  night : Option Json
  precipitation : Option Json

def ForecastDayDto.decode (map : JsonMap) : ForecastDayDto where
  date := map.field "date"
  pt := map.field "pt"
  day := map.field "day"
  night := map.field "night"
  precipitation := map.field "precipitation"

/-- `ForecastPartDto`. -/
structure ForecastPartDto where
  weather : Option Json
  wind : Option Json

def ForecastPartDto.decode (map : JsonMap) : ForecastPartDto where
  weather := map.field "weather"
  wind := map.field "wind"

/-- `ForecastWeatherDto`. -/
structure ForecastWeatherDto where
  info : Option Json
  temperature : Option Json
  icon : Option Json

def ForecastWeatherDto.decode (map : JsonMap) : ForecastWeatherDto where
  info := map.field "info"
  temperature := map.field "temperature"
  icon := map.field "img"

/-! ## The snapshot -/

/-- `WeatherAlert`. -/
structure WeatherAlert where
  alert : Option String
  province : Option String
  city : Option String
  url : Option String
  issueContent : Option String
  prevention : Option String
  signalType : Option String
  signalLevel : Option String
  iconUrl : Option String
  iconName : Option String
  iconResourceId : Option String
  inherited : Bool
  deriving DecidableEq, Repr

/-- `ObservedWeather`. -/
structure ObservedWeather where
  publishTime : Option String
  info : Option String
  temperature : Option F64
  feelTemperature : Option F64
  humidity : Option F64
  rain : Option F64
  windDirect : Option String
  windPower : Option String
  windSpeed : Option F64
  sunrise : Option String
  sunset : Option String
  alerts : List WeatherAlert
  temperatureDiff : Option F64
  airPressure : Option F64
  comfortIndex : Option String
  comfortLabel : Option String
  weatherIcon : Option String
  windDegree : Option F64
  deriving DecidableEq, Repr

/-- `ForecastDay`. -/
structure ForecastDay where
  date : String
  dayInfo : Option String
  nightInfo : Option String
  dayTemperature : Option String
  nightTemperature : Option String
  windDirect : Option String
  windPower : Option String
  precipitation : Option F64
  publishTime : Option String
  dayWeatherIcon : Option String
  nightWeatherIcon : Option String
  dayWindDirect : Option String
  dayWindPower : Option String
  nightWindDirect : Option String
  nightWindPower : Option String
  deriving DecidableEq, Repr

/-- `ForecastReport`. -/
structure ForecastReport where
  publishTime : Option String
  days : List ForecastDay
  deriving DecidableEq, Repr

/-- `AirQuality`. -/
structure AirQuality where
  publishTime : Option String
  aqi : Option F64
  level : Option String
  category : Option String
  primaryPollutant : Option String
  pm25 : Option F64
  pm10 : Option F64
  no2 : Option F64
  so2 : Option F64
  co : Option F64
  o3 : Option F64
  deriving DecidableEq, Repr

/-- `TemperatureChart`. -/
structure TemperatureChart where
  date : Option String
  maxTemperature : Option F64
  minTemperature : Option F64
  dayInfo : Option String
  dayIcon : Option String
  nightInfo : Option String
  nightIcon : Option String
  deriving DecidableEq, Repr

/-- `PassedWeatherChart`. -/
structure PassedWeatherChart where
  time : Option String
  rain1h : Option F64
  rain6h : Option F64
  rain12h : Option F64
  rain24h : Option F64
  temperature : Option F64
  temperatureDiff : Option F64
  humidity : Option F64
  pressure : Option F64
  windDirectionDegree : Option F64
  windSpeed : Option F64
  deriving DecidableEq, Repr

/-- `ClimateMonth`. -/
structure ClimateMonth where
  month : Option ℕ
  averageMaxTemperature : Option F64
  averageMinTemperature : Option F64
  precipitation : Option F64
  deriving DecidableEq, Repr

/-- `ClimateSummary`. -/
structure ClimateSummary where
  period : Option String
  month : List ClimateMonth
  deriving DecidableEq, Repr

/-- `RadarInfo`. -/
structure RadarInfo where
  title : Option String
  imageUrl : Option String
  pageUrl : Option String
  imageResourceId : Option String
  deriving DecidableEq, Repr

/-- `WeatherSnapshot`. The mapper sets no debug payload. -/
structure WeatherSnapshot where
  station : Option StationRef
  real : Option ObservedWeather
  predict : Option ForecastReport
  air : Option AirQuality
  tempchart : List TemperatureChart
  passedchart : List PassedWeatherChart
  climate : Option ClimateSummary
  radar : Option RadarInfo
  stale : Bool
  deriving DecidableEq, Repr

end WeatherApp.Nmc
