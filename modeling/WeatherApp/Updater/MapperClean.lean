import WeatherApp.Foundation.AppendLog
import WeatherApp.Updater.Mapper

/-!
# What the mapper lets through

Whatever the response is, the texts of the snapshot are trimmed, and neither its texts nor its
numbers stand for missing values.

## Main definitions

* `CleanText`, `CleanNumber`, `IsLink`: what is let through.
* `Contents`: all the texts, numbers, counts and links of a record.
* `ReadsBack`: what the code relies on in the texts of doubles.

## Main results

* `cleanText_of_stringCandidate`, `cleanNumber_of_f64Candidate`, `ne_of_u32Candidate`: what the
  readers of `value.rs` return.
* `mapper_output_clean`: what the mapper returns.
-/

namespace WeatherApp.Nmc

open AppendLog DecimalFloat

/-! ## Clean values -/

/-- A text that is trimmed and stands for no missing value. -/
structure CleanText (text : String) : Prop where
  trimmed : trim text = text
  nonempty : text ≠ ""
  present : isSentinelString text = false

/-- A finite number other than 9999. -/
structure CleanNumber (value : F64) : Prop where
  finite : value.isFinite = true
  present : isSentinelNumber (some value) = false

/-- A link is a clean reference, joined with the base. -/
def IsLink (base : BaseUrl) (url : String) : Prop :=
  ∃ reference, CleanText reference ∧ base.join reference = some url

/-- The texts of finite doubles are read back. -/
def ReadsBack [FloatFormat] : Prop :=
  ∀ value : F64, value.isFinite = true → parseDouble (FloatFormat.formatFinite value) = some value

/-- What is trimmed and no sentinel is clean. -/
theorem cleanText_trim {text : String} (h : isSentinelString (trim text) = false) :
    CleanText (trim text) := by
  refine ⟨trim_trim text, fun hempty => ?_, h⟩
  rw [hempty] at h
  exact absurd h (by decide)

/-- A text that is read as a number is clean, unless the number is 9999. -/
theorem cleanText_of_parseDouble {text : String} {value : F64}
    (hparse : parseDouble text = some value) (hpresent : isSentinelNumber (some value) = false) :
    CleanText text := by
  have hunread : ∀ other ∈ ["", "-", "--", "—"], text ≠ other := by
    rintro other hother rfl
    have hnone : parseDouble text = none := by
      revert hother
      simp only [List.mem_cons, List.not_mem_nil, or_false]
      rintro (rfl | rfl | rfl | rfl) <;> rfl
    rw [hnone] at hparse
    cases hparse
  have hempty := hunread "" (by decide)
  refine ⟨trim_eq_self_of_parseDouble hparse, hempty, ?_⟩
  have hdash : decide (text ∈ ["-", "--", "—"]) = false :=
    decide_eq_false fun hmem => hunread text (List.mem_cons_of_mem _ hmem) rfl
  rw [isSentinelString, hdash, hparse, hpresent]
  simpa using hempty

section Readers

variable [FloatFormat]

/-- The text of a number is read back. -/
theorem parseDouble_toText (hreads : ReadsBack) (number : Number) :
    parseDouble number.toText = some number.asF64 := by
  have hdigits : ∀ n : ℕ, ∀ c ∈ Nat.toDigits 10 n, c.isDigit = true := fun n c hc =>
    Nat.isDigit_of_mem_toDigits (by decide) (by decide) hc
  cases number with
  | posInt value =>
    have htext : (toString value.toNat).toList = Nat.toDigits 10 value.toNat := Nat.toList_repr
    show parseDouble (toString value.toNat) = _
    rw [parseDouble_digits (.inl htext) (hdigits _) Nat.toDigits_ne_nil,
      Nat.ofDigitChars_ten_toDigits]
    rfl
  | negInt value inRange =>
    obtain ⟨n, rfl⟩ : ∃ n : ℕ, value = Int.negSucc n := Int.eq_negSucc_of_lt_zero inRange.2
    have htext : (toString (Int.negSucc n)).toList = '-' :: Nat.toDigits 10 (n + 1) := by
      show ("-" ++ Nat.repr (n + 1)).toList = _
      rw [String.toList_append, Nat.toList_repr]
      rfl
    show parseDouble (toString (Int.negSucc n)) = _
    rw [parseDouble_negative htext (hdigits _) Nat.toDigits_ne_nil, Nat.ofDigitChars_ten_toDigits]
    rfl
  | float value finite => exact hreads value finite

/-- What `string_candidate` returns. -/
theorem cleanText_of_stringCandidate (hreads : ReadsBack) {value : Json} {text : String}
    (h : stringCandidate value = .value text) : CleanText text := by
  unfold stringCandidate at h
  split_ifs at h with hmissing
  rw [Bool.not_eq_true] at hmissing
  cases value with
  | string value =>
    cases h
    exact cleanText_trim hmissing
  | number number =>
    cases h
    exact cleanText_of_parseDouble (parseDouble_toText hreads number) hmissing
  | null | bool value | array values | object map => cases h

omit [FloatFormat] in
/-- What `resource_reference_candidate` returns. -/
theorem cleanText_of_resourceReferenceCandidate {value : Json} {reference : String}
    (h : resourceReferenceCandidate value = .value reference) : CleanText reference := by
  unfold resourceReferenceCandidate at h
  split_ifs at h with hmissing
  rw [Bool.not_eq_true] at hmissing
  cases value with
  | string value =>
    cases h
    exact cleanText_trim hmissing
  | null | bool value | number value | array values | object map => cases h

omit [FloatFormat] in
/-- The number in a text that is no sentinel is not 9999. -/
theorem isSentinelNumber_of_isSentinelString {text : String} {value : F64}
    (h : isSentinelString text = false) (hparse : parseDouble text = some value) :
    isSentinelNumber (some value) = false := by
  rw [isSentinelString, hparse, Bool.or_eq_false_iff] at h
  exact h.2

omit [FloatFormat] in
/-- What `f64_candidate` returns. -/
theorem cleanNumber_of_f64Candidate {value : Json} {number : F64}
    (h : f64Candidate value = .value number) : CleanNumber number := by
  unfold f64Candidate at h
  split_ifs at h with hmissing
  rw [Bool.not_eq_true] at hmissing
  have hfinite : ∀ parsed : F64,
      (if parsed.isFinite then Candidate.value parsed else .invalid) = .value number →
        parsed = number ∧ number.isFinite = true := by
    intro parsed hparsed
    split_ifs at hparsed with hfinite
    cases hparsed
    exact ⟨rfl, hfinite⟩
  cases value with
  | number value =>
    obtain ⟨rfl, hnumber⟩ := hfinite _ h
    exact ⟨hnumber, hmissing⟩
  | string value =>
    cases hparse : parseDouble (trim value) with
    | none =>
      simp only [hparse] at h
      cases h
    | some parsed =>
      simp only [hparse] at h
      obtain ⟨rfl, hnumber⟩ := hfinite _ h
      exact ⟨hnumber, isSentinelNumber_of_isSentinelString hmissing hparse⟩
  | null | bool value | array values | object map => cases h

omit [FloatFormat] in
/-- What `u32_candidate` returns. -/
theorem ne_of_u32Candidate {value : Json} {n : ℕ} (h : u32Candidate value = .value n) :
    n ≠ 9999 := by
  have hsentinel : isSentinelNumber (some (f64OfNat 9999)) = true := by decide +kernel
  unfold u32Candidate at h
  split_ifs at h with hmissing
  rw [Bool.not_eq_true] at hmissing
  rintro rfl
  cases value with
  | number value =>
    cases hparse : value.asU64.filter (· < 2 ^ 32) with
    | none =>
      simp only [hparse] at h
      cases h
    | some parsed =>
      simp only [hparse] at h
      cases h
      have hvalue := (Option.filter_eq_some_iff.1 hparse).1
      cases value with
      | posInt value =>
        rw [isMissingValue, Number.asF64, Option.some.inj hvalue, hsentinel] at hmissing
        cases hmissing
      | negInt value inRange => cases hvalue
      | float value finite => cases hvalue
  | string value =>
    cases hparse : parseU32 (trim value) with
    | none =>
      simp only [hparse] at h
      cases h
    | some parsed =>
      simp only [hparse] at h
      cases h
      have hnumber := isSentinelNumber_of_isSentinelString hmissing (parseDouble_of_parseU32 hparse)
      exact absurd hsentinel (Bool.eq_false_iff.1 hnumber)
  | null | bool value | array values | object map => cases h

end Readers

/-! ## What the fields are -/

section Fields

variable {α : Type} {P : α → Prop} {convert : Json → Candidate α}

/-- A field, where it is there, is what its conversion returns. -/
theorem yields_fixed (h : ∀ value a, convert value = .value a → P a) (value : Option Json)
    (path expected : String) :
    Yields (fun field => ∀ a ∈ field, P a) (fixed value path expected convert) := by
  unfold fixed
  split
  next => exact yields_pure fun _ ha => nomatch ha
  next => exact yields_pure fun _ ha => nomatch ha
  next a hvalue =>
    obtain ⟨raw, -, hconvert⟩ := Option.map_eq_some_iff.1 hvalue
    exact yields_pure fun b hb => Option.some.inj hb ▸ h raw a hconvert
  next =>
    refine yields_bind (yields_true _) fun _ _ => ?_
    exact yields_pure fun _ ha => nomatch ha

/-- The loop over the aliases returns what the conversion returns. -/
theorem forall_mem_tryAliases (h : ∀ value a, convert value = .value a → P a) (map : JsonMap)
    (aliases : List String) (sawInvalid : Bool) :
    ∀ a ∈ (tryAliases map convert aliases sawInvalid).1, P a := by
  induction aliases generalizing sawInvalid with
  | nil => exact fun _ ha => nomatch ha
  | cons name aliases ih =>
    rw [tryAliases]
    split
    next => exact ih sawInvalid
    next value _ =>
      split
      next => exact ih sawInvalid
      next => exact ih true
      next a hconvert => exact fun b hb => Option.some.inj hb ▸ h value a hconvert

theorem yields_lookupAliases (h : ∀ value a, convert value = .value a → P a) (map : JsonMap)
    (aliases : List String) (warning : String) :
    Yields (fun field => ∀ a ∈ field, P a) (lookupAliases map aliases convert warning) := by
  have hfound := forall_mem_tryAliases h map aliases false
  unfold lookupAliases
  split
  next a _ hloop =>
    rw [hloop] at hfound
    exact yields_pure hfound
  next =>
    refine yields_bind (yields_true _) fun _ _ => ?_
    exact yields_pure fun _ ha => nomatch ha
  next => exact yields_pure fun _ ha => nomatch ha

variable [FloatFormat]

theorem yields_fixedString (hreads : ReadsBack) (value : Option Json) (path : String) :
    Yields (fun field => ∀ text ∈ field, CleanText text) (fixedString value path) :=
  yields_fixed (fun _ _ => cleanText_of_stringCandidate hreads) value path _

theorem yields_aliasString (hreads : ReadsBack) (map : JsonMap) (aliases : List String)
    (path : String) :
    Yields (fun field => ∀ text ∈ field, CleanText text) (aliasString map aliases path) :=
  yields_lookupAliases (fun _ _ => cleanText_of_stringCandidate hreads) map aliases _

omit [FloatFormat] in
theorem yields_fixedF64 (value : Option Json) (path : String) :
    Yields (fun field => ∀ number ∈ field, CleanNumber number) (fixedF64 value path) :=
  yields_fixed (fun _ _ => cleanNumber_of_f64Candidate) value path _

omit [FloatFormat] in
theorem yields_aliasF64 (map : JsonMap) (aliases : List String) (path : String) :
    Yields (fun field => ∀ number ∈ field, CleanNumber number) (aliasF64 map aliases path) :=
  yields_lookupAliases (fun _ _ => cleanNumber_of_f64Candidate) map aliases _

omit [FloatFormat] in
theorem yields_aliasU32 (map : JsonMap) (aliases : List String) (path : String) :
    Yields (fun field => ∀ n ∈ field, n ≠ 9999) (aliasU32 map aliases path) :=
  yields_lookupAliases (fun _ _ => ne_of_u32Candidate) map aliases _

omit [FloatFormat] in
theorem yields_resourceUrl (base : BaseUrl) (value : Option Json) (path : String) :
    Yields (fun field => ∀ url ∈ field, IsLink base url) (resourceUrl base value path) := by
  refine yields_bind (yields_fixed (fun _ _ => cleanText_of_resourceReferenceCandidate) value path _)
    fun reference hreference => ?_
  cases reference with
  | none => exact yields_pure fun _ ha => nomatch ha
  | some reference =>
    show Yields _ (joinResourceUrl base reference path)
    unfold joinResourceUrl
    split
    next url hjoin =>
      exact yields_pure fun _ hurl =>
        Option.some.inj hurl ▸ ⟨reference, hreference reference rfl, hjoin⟩
    next =>
      refine yields_bind (yields_true _) fun _ _ => ?_
      exact yields_pure fun _ ha => nomatch ha

omit [FloatFormat] in
theorem yields_aliasResourceUrl (base : BaseUrl) (map : JsonMap) (aliases : List String)
    (path : String) :
    Yields (fun field => ∀ url ∈ field, IsLink base url)
      (aliasResourceUrl base map aliases path) := by
  refine yields_lookupAliases (fun value url h => ?_) map aliases _
  unfold joinedCandidate at h
  split at h
  next => cases h
  next => cases h
  next reference hreference =>
    split at h
    next joined hjoin =>
      cases h
      exact ⟨reference, cleanText_of_resourceReferenceCandidate hreference, hjoin⟩
    next => cases h

end Fields

/-! ## Records -/

/-- The texts, numbers, counts and links of a record. -/
structure Contents where
  texts : List (Option String) := []
  numbers : List (Option F64) := []
  counts : List (Option ℕ) := []
  links : List (Option String) := []

/-- The contents of several records. -/
def Contents.join (contents : List Contents) : Contents where
  texts := contents.flatMap (·.texts)
  numbers := contents.flatMap (·.numbers)
  counts := contents.flatMap (·.counts)
  links := contents.flatMap (·.links)

/-- What holds of each field that is there. -/
def Each {α : Type} (P : α → Prop) (fields : List (Option α)) : Prop :=
  ∀ field ∈ fields, ∀ a ∈ field, P a

@[simp]
theorem each_nil {α : Type} (P : α → Prop) : Each P [] := fun _ hfield => nomatch hfield

@[simp]
theorem each_cons {α : Type} (P : α → Prop) (field : Option α) (fields : List (Option α)) :
    Each P (field :: fields) ↔ (∀ a ∈ field, P a) ∧ Each P fields := List.forall_mem_cons

/-- All that is there is clean. -/
structure Contents.Clean (base : BaseUrl) (contents : Contents) : Prop where
  texts : Each CleanText contents.texts
  numbers : Each CleanNumber contents.numbers
  counts : Each (· ≠ 9999) contents.counts
  links : Each (IsLink base) contents.links

theorem Contents.clean_join {base : BaseUrl} {contents : List Contents}
    (h : ∀ part ∈ contents, part.Clean base) : (Contents.join contents).Clean base := by
  refine ⟨fun field hfield => ?_, fun field hfield => ?_, fun field hfield => ?_,
    fun field hfield => ?_⟩
  · obtain ⟨part, hpart, hmem⟩ := List.mem_flatMap.1 hfield
    exact (h part hpart).texts field hmem
  · obtain ⟨part, hpart, hmem⟩ := List.mem_flatMap.1 hfield
    exact (h part hpart).numbers field hmem
  · obtain ⟨part, hpart, hmem⟩ := List.mem_flatMap.1 hfield
    exact (h part hpart).counts field hmem
  · obtain ⟨part, hpart, hmem⟩ := List.mem_flatMap.1 hfield
    exact (h part hpart).links field hmem

/-- The province and the city; the name and the uuid are made from them. -/
def stationContents (station : StationRef) : Contents where
  texts := [some station.province, some station.city]

def WeatherAlert.contents (alert : WeatherAlert) : Contents where
  texts := [alert.alert, alert.province, alert.city, alert.issueContent, alert.prevention,
    alert.signalType, alert.signalLevel, alert.iconName]
  links := [alert.url, alert.iconUrl]

def ObservedWeather.contents (real : ObservedWeather) : Contents :=
  .join ({ texts := [real.publishTime, real.info, real.windDirect, real.windPower, real.sunrise,
             real.sunset, real.comfortIndex, real.comfortLabel, real.weatherIcon]
           numbers := [real.temperature, real.feelTemperature, real.humidity, real.rain,
             real.windSpeed, real.temperatureDiff, real.airPressure, real.windDegree] } ::
    real.alerts.map (·.contents))

def ForecastDay.contents (day : ForecastDay) : Contents where
  texts := [some day.date, day.dayInfo, day.nightInfo, day.dayTemperature, day.nightTemperature,
    day.windDirect, day.windPower, day.publishTime, day.dayWeatherIcon, day.nightWeatherIcon,
    day.dayWindDirect, day.dayWindPower, day.nightWindDirect, day.nightWindPower]
  numbers := [day.precipitation]

def ForecastReport.contents (report : ForecastReport) : Contents :=
  .join ({ texts := [report.publishTime] } :: report.days.map (·.contents))

def AirQuality.contents (air : AirQuality) : Contents where
  texts := [air.publishTime, air.level, air.category, air.primaryPollutant]
  numbers := [air.aqi, air.pm25, air.pm10, air.no2, air.so2, air.co, air.o3]

def TemperatureChart.contents (chart : TemperatureChart) : Contents where
  texts := [chart.date, chart.dayInfo, chart.dayIcon, chart.nightInfo, chart.nightIcon]
  numbers := [chart.maxTemperature, chart.minTemperature]

def PassedWeatherChart.contents (chart : PassedWeatherChart) : Contents where
  texts := [chart.time]
  numbers := [chart.rain1h, chart.rain6h, chart.rain12h, chart.rain24h, chart.temperature,
    chart.temperatureDiff, chart.humidity, chart.pressure, chart.windDirectionDegree,
    chart.windSpeed]

def ClimateMonth.contents (month : ClimateMonth) : Contents where
  numbers := [month.averageMaxTemperature, month.averageMinTemperature, month.precipitation]
  counts := [month.month]

def ClimateSummary.contents (climate : ClimateSummary) : Contents :=
  .join ({ texts := [climate.period] } :: climate.month.map (·.contents))

def RadarInfo.contents (radar : RadarInfo) : Contents where
  texts := [radar.title]
  links := [radar.imageUrl, radar.pageUrl]

/-- The contents of all the sections. -/
def WeatherSnapshot.contents (snapshot : WeatherSnapshot) : Contents :=
  .join [.join (snapshot.station.toList.map stationContents),
    .join (snapshot.real.toList.map (·.contents)),
    .join (snapshot.predict.toList.map (·.contents)),
    .join (snapshot.air.toList.map (·.contents)),
    .join (snapshot.tempchart.map (·.contents)),
    .join (snapshot.passedchart.map (·.contents)),
    .join (snapshot.climate.toList.map (·.contents)),
    .join (snapshot.radar.toList.map (·.contents))]

/-! ## Sections -/

/-- An optional record that is clean, where it is there. -/
def CleanRecord {α : Type} (base : BaseUrl) (contents : α → Contents) (record : Option α) : Prop :=
  ∀ a ∈ record, (contents a).Clean base

theorem cleanRecord_none {α : Type} {base : BaseUrl} {contents : α → Contents} :
    CleanRecord base contents none := fun _ ha => nomatch ha

theorem cleanRecord_some {α : Type} {base : BaseUrl} {contents : α → Contents} {a : α}
    (h : (contents a).Clean base) : CleanRecord base contents (some a) :=
  fun _ ha => Option.some.inj ha ▸ h

section Sections

variable [FloatFormat] (base : BaseUrl)

theorem yields_mapStation [Sha256] (hreads : ReadsBack) (raw : Option Json) (path : String) :
    Yields (CleanRecord base stationContents) (mapStation raw path) := by
  refine yields_bind (yields_true _) fun station _ => ?_
  cases station with
  | none => exact yields_pure cleanRecord_none
  | some station =>
    refine yields_bind (yields_true _) fun before _ => ?_
    refine yields_bind (yields_fixedString hreads _ _) fun province hprovince => ?_
    refine yields_bind (yields_fixedString hreads _ _) fun city hcity => ?_
    split
    next province city =>
      refine yields_pure (cleanRecord_some ⟨?_, ?_, ?_, ?_⟩)
      all_goals simp only [stationContents, each_cons, each_nil, and_true]
      exact ⟨hprovince, hcity⟩
    next =>
      refine yields_bind (yields_true _) fun _ _ => ?_
      exact yields_pure cleanRecord_none

theorem yields_mapAlert (hreads : ReadsBack) (raw : Option Json) :
    Yields (CleanRecord base WeatherAlert.contents) (mapAlert base raw) := by
  refine yields_bind (yields_true _) fun warning _ => ?_
  cases warning with
  | none => exact yields_pure cleanRecord_none
  | some warning =>
    refine yields_bind (yields_fixedString hreads _ _) fun alert halert => ?_
    cases alert with
    | none => exact yields_pure cleanRecord_none
    | some alert =>
      refine yields_bind (yields_fixedString hreads _ _) fun province hprovince => ?_
      refine yields_bind (yields_fixedString hreads _ _) fun city hcity => ?_
      refine yields_bind (yields_resourceUrl base _ _) fun url hurl => ?_
      refine yields_bind (yields_fixedString hreads _ _) fun issueContent hissueContent => ?_
      refine yields_bind (yields_fixedString hreads _ _) fun prevention hprevention => ?_
      refine yields_bind (yields_fixedString hreads _ _) fun signalType hsignalType => ?_
      refine yields_bind (yields_fixedString hreads _ _) fun signalLevel hsignalLevel => ?_
      refine yields_bind (yields_resourceUrl base _ _) fun iconUrl hiconUrl => ?_
      refine yields_bind (yields_fixedString hreads _ _) fun iconName hiconName => ?_
      refine yields_pure (cleanRecord_some ⟨?_, ?_, ?_, ?_⟩)
      all_goals simp only [WeatherAlert.contents, each_cons, each_nil, and_true]
      · exact ⟨halert, hprovince, hcity, hissueContent, hprevention, hsignalType, hsignalLevel,
          hiconName⟩
      · exact ⟨hurl, hiconUrl⟩

theorem yields_mapObserved (hreads : ReadsBack) (real : RealDto) (weather : Option RealWeatherDto)
    (wind : Option WindDto) {alert : Option WeatherAlert}
    (halert : CleanRecord base WeatherAlert.contents alert) (sun : Option SunriseSunsetDto) :
    Yields (fun observed => observed.contents.Clean base)
      (mapObserved real weather wind alert sun) := by
  refine yields_bind (yields_fixedString hreads _ _) fun publishTime hpublishTime => ?_
  refine yields_bind (yields_fixedString hreads _ _) fun info hinfo => ?_
  refine yields_bind (yields_fixedF64 _ _) fun temperature htemperature => ?_
  refine yields_bind (yields_fixedF64 _ _) fun feelTemperature hfeelTemperature => ?_
  refine yields_bind (yields_fixedF64 _ _) fun humidity hhumidity => ?_
  refine yields_bind (yields_fixedF64 _ _) fun rain hrain => ?_
  refine yields_bind (yields_fixedString hreads _ _) fun windDirect hwindDirect => ?_
  refine yields_bind (yields_fixedString hreads _ _) fun windPower hwindPower => ?_
  refine yields_bind (yields_fixedF64 _ _) fun windSpeed hwindSpeed => ?_
  refine yields_bind (yields_fixedString hreads _ _) fun sunrise hsunrise => ?_
  refine yields_bind (yields_fixedString hreads _ _) fun sunset hsunset => ?_
  refine yields_bind (yields_fixedF64 _ _) fun temperatureDiff htemperatureDiff => ?_
  refine yields_bind (yields_fixedF64 _ _) fun airPressure hairPressure => ?_
  refine yields_bind (yields_fixedString hreads _ _) fun comfortIndex hcomfortIndex => ?_
  refine yields_bind (yields_fixedString hreads _ _) fun comfortLabel hcomfortLabel => ?_
  refine yields_bind (yields_fixedString hreads _ _) fun weatherIcon hweatherIcon => ?_
  refine yields_bind (yields_fixedF64 _ _) fun windDegree hwindDegree => ?_
  refine yields_pure (Contents.clean_join (List.forall_mem_cons.2 ⟨⟨?_, ?_, ?_, ?_⟩, ?_⟩))
  -- the fields of the weather, and then the alert
  on_goal 5 =>
    intro part hpart
    obtain ⟨alert, hmem, rfl⟩ := List.mem_map.1 hpart
    exact halert alert (Option.mem_toList.1 hmem)
  all_goals simp only [each_cons, each_nil, and_true]
  · exact ⟨hpublishTime, hinfo, hwindDirect, hwindPower, hsunrise, hsunset, hcomfortIndex,
      hcomfortLabel, hweatherIcon⟩
  · exact ⟨htemperature, hfeelTemperature, hhumidity, hrain, hwindSpeed, htemperatureDiff,
      hairPressure, hwindDegree⟩

/-- A section with the station that it names. -/
def CleanSection {α : Type} (base : BaseUrl) (contents : α → Contents)
    (mapped : Option (MappedSection α)) : Prop :=
  CleanRecord base contents (mapped.map (·.value)) ∧
    CleanRecord base stationContents (mapped.bind (·.station))

theorem yields_mapReal [Sha256] (hreads : ReadsBack) (raw : Option Json) :
    Yields (CleanSection base ObservedWeather.contents) (mapReal base raw) := by
  refine yields_bind (yields_true _) fun real _ => ?_
  cases real with
  | none => exact yields_pure ⟨cleanRecord_none, cleanRecord_none⟩
  | some real =>
    refine yields_bind (yields_mapStation base hreads _ _) fun station hstation => ?_
    refine yields_bind (yields_true _) fun weather _ => ?_
    refine yields_bind (yields_true _) fun wind _ => ?_
    refine yields_bind (yields_mapAlert base hreads _) fun alert halert => ?_
    refine yields_bind (yields_true _) fun sun _ => ?_
    refine yields_bind (yields_mapObserved base hreads real weather wind halert sun)
      fun observed hobserved => ?_
    exact yields_pure ⟨cleanRecord_some hobserved, hstation⟩

/-- What holds of every part of a forecast day. -/
def CleanPart (part : ForecastPart) : Prop :=
  Each CleanText [part.info, part.temperature, part.icon, part.windDirect, part.windPower]

theorem yields_mapForecastPart (hreads : ReadsBack) (raw : Option Json) (path : String) :
    Yields CleanPart (mapForecastPart raw path) := by
  refine yields_bind (yields_true _) fun part _ => ?_
  cases part with
  | none => exact yields_pure (by simp [CleanPart])
  | some part =>
    refine yields_bind (yields_true _) fun weather _ => ?_
    refine yields_bind (yields_true _) fun wind _ => ?_
    refine yields_bind (yields_fixedString hreads _ _) fun info hinfo => ?_
    refine yields_bind (yields_fixedString hreads _ _) fun temperature htemperature => ?_
    refine yields_bind (yields_fixedString hreads _ _) fun icon hicon => ?_
    refine yields_bind (yields_fixedString hreads _ _) fun windDirect hwindDirect => ?_
    refine yields_bind (yields_fixedString hreads _ _) fun windPower hwindPower => ?_
    refine yields_pure ?_
    simp only [CleanPart, each_cons, each_nil, and_true]
    exact ⟨hinfo, htemperature, hicon, hwindDirect, hwindPower⟩

theorem yields_mapForecastDay (hreads : ReadsBack) (index : ℕ) (raw : Json) :
    Yields (CleanRecord base ForecastDay.contents) (mapForecastDay index raw) := by
  refine yields_bind (yields_true _) fun day _ => ?_
  cases day with
  | none => exact yields_pure cleanRecord_none
  | some day =>
    refine yields_bind (yields_true _) fun before _ => ?_
    refine yields_bind (yields_fixedString hreads _ _) fun date hdate => ?_
    cases date with
    | none =>
      refine yields_bind (yields_true _) fun _ _ => ?_
      exact yields_pure cleanRecord_none
    | some date =>
      refine yields_bind (yields_mapForecastPart hreads _ _) fun dayPart hday => ?_
      refine yields_bind (yields_mapForecastPart hreads _ _) fun nightPart hnight => ?_
      refine yields_bind (yields_fixedF64 _ _) fun precipitation hprecipitation => ?_
      refine yields_bind (yields_fixedString hreads _ _) fun publishTime hpublishTime => ?_
      simp only [CleanPart, each_cons, each_nil, and_true] at hday hnight
      obtain ⟨hdayInfo, hdayTemperature, hdayIcon, hdayDirect, hdayPower⟩ := hday
      obtain ⟨hnightInfo, hnightTemperature, hnightIcon, hnightDirect, hnightPower⟩ := hnight
      refine yields_pure (cleanRecord_some ⟨?_, ?_, ?_, ?_⟩)
      all_goals simp only [ForecastDay.contents, each_cons, each_nil, and_true]
      · exact ⟨hdate, hdayInfo, hnightInfo, hdayTemperature, hnightTemperature, hdayDirect,
          hdayPower, hpublishTime, hdayIcon, hnightIcon, hdayDirect, hdayPower, hnightDirect,
          hnightPower⟩
      · exact hprecipitation

omit [FloatFormat] in
/-- The entries are mapped one by one. -/
theorem yields_mapEntries {α : Type} {contents : α → Contents}
    {mapEntry : ℕ → Json → Mapping (Option α)}
    (h : ∀ index raw, Yields (CleanRecord base contents) (mapEntry index raw))
    (entries : List (ℕ × Json)) :
    Yields (fun mapped => ∀ a ∈ mapped, (contents a).Clean base) (mapEntries mapEntry entries) := by
  induction entries with
  | nil => exact yields_pure fun _ ha => nomatch ha
  | cons entry entries ih =>
    refine yields_bind (h _ _) fun mapped hmapped => ?_
    refine yields_bind ih fun rest hrest => ?_
    refine yields_pure fun a ha => ?_
    rcases List.mem_append.1 ha with hfirst | hlater
    · exact hmapped a (Option.mem_toList.1 hfirst)
    · exact hrest a hlater

theorem yields_mapPredict [Sha256] (hreads : ReadsBack) (raw : Option Json) :
    Yields (CleanSection base ForecastReport.contents) (mapPredict raw) := by
  refine yields_bind (yields_true _) fun predict _ => ?_
  cases predict with
  | none => exact yields_pure ⟨cleanRecord_none, cleanRecord_none⟩
  | some predict =>
    refine yields_bind (yields_mapStation base hreads _ _) fun station hstation => ?_
    refine yields_bind (yields_fixedString hreads _ _) fun publishTime hpublishTime => ?_
    refine yields_bind (yields_true _) fun entries _ => ?_
    refine yields_bind (yields_mapEntries base (yields_mapForecastDay base hreads) entries)
      fun days hdays => ?_
    refine yields_pure ⟨cleanRecord_some (Contents.clean_join
      (List.forall_mem_cons.2 ⟨?_, List.forall_mem_map.2 hdays⟩)), hstation⟩
    exact ⟨by simpa using hpublishTime, each_nil _, each_nil _, each_nil _⟩

omit [FloatFormat] in
/-- A section of fields with aliases. -/
theorem yields_mapFields {α : Type} {contents : α → Contents} {fields : JsonMap → Mapping α}
    (h : ∀ map, Yields (fun a => (contents a).Clean base) (fields map)) (raw : Option Json)
    (path : String) (hasFields : α → Bool) :
    Yields (CleanRecord base contents) (mapFields raw path fields hasFields) := by
  refine yields_bind (yields_true _) fun map _ => ?_
  cases map with
  | none => exact yields_pure cleanRecord_none
  | some map =>
    refine yields_bind (yields_true _) fun before _ => ?_
    refine yields_bind (h map) fun a ha => ?_
    split_ifs
    next => exact yields_pure (cleanRecord_some ha)
    next =>
      refine yields_bind (yields_true _) fun _ _ => ?_
      exact yields_pure cleanRecord_none

omit [FloatFormat] in
/-- The names of the grades. -/
theorem cleanText_level : ∀ level ∈ ["一级", "二级", "三级", "四级", "五级", "六级"],
    CleanText level := by
  simp only [List.mem_cons, List.not_mem_nil, or_false]
  rintro level (rfl | rfl | rfl | rfl | rfl | rfl) <;> exact ⟨by decide, by decide, by decide⟩

theorem yields_mapAirLevel (hreads : ReadsBack) (map : JsonMap) :
    Yields (fun level => ∀ text ∈ level, CleanText text) (mapAirLevel map) := by
  have hgrade : ∀ level ∈ ["一级", "二级", "三级", "四级", "五级", "六级"],
      Yields (fun level => ∀ text ∈ level, CleanText text) (pure (some level) : Mapping _) :=
    fun level hlevel => yields_pure fun text htext =>
      Option.some.inj htext ▸ cleanText_level level hlevel
  refine yields_bind (yields_aliasString hreads _ _ _) fun level hlevel => ?_
  cases level with
  | some level => exact yields_pure hlevel
  | none =>
    refine yields_bind (yields_true _) fun grade _ => ?_
    split
    next => exact yields_pure fun _ htext => nomatch htext
    next => exact hgrade _ (by simp)
    next => exact hgrade _ (by simp)
    next => exact hgrade _ (by simp)
    next => exact hgrade _ (by simp)
    next => exact hgrade _ (by simp)
    next => exact hgrade _ (by simp)
    next =>
      refine yields_bind (yields_true _) fun _ _ => ?_
      exact yields_pure fun _ htext => nomatch htext

theorem yields_mapAirQuality (hreads : ReadsBack) (raw : Option Json) :
    Yields (CleanRecord base AirQuality.contents) (mapAirQuality raw) := by
  refine yields_mapFields base (fun map => ?_) raw _ _
  refine yields_bind (yields_aliasString hreads _ _ _) fun publishTime hpublishTime => ?_
  refine yields_bind (yields_aliasF64 _ _ _) fun aqi haqi => ?_
  refine yields_bind (yields_mapAirLevel hreads _) fun level hlevel => ?_
  refine yields_bind (yields_aliasString hreads _ _ _) fun category hcategory => ?_
  refine yields_bind (yields_aliasString hreads _ _ _) fun pollutant hpollutant => ?_
  refine yields_bind (yields_aliasF64 _ _ _) fun pm25 hpm25 => ?_
  refine yields_bind (yields_aliasF64 _ _ _) fun pm10 hpm10 => ?_
  refine yields_bind (yields_aliasF64 _ _ _) fun no2 hno2 => ?_
  refine yields_bind (yields_aliasF64 _ _ _) fun so2 hso2 => ?_
  refine yields_bind (yields_aliasF64 _ _ _) fun co hco => ?_
  refine yields_bind (yields_aliasF64 _ _ _) fun o3 ho3 => ?_
  refine yields_pure ⟨?_, ?_, ?_, ?_⟩
  all_goals simp only [AirQuality.contents, each_cons, each_nil, and_true]
  · exact ⟨hpublishTime, hlevel, hcategory, hpollutant⟩
  · exact ⟨haqi, hpm25, hpm10, hno2, hso2, hco, ho3⟩

omit [FloatFormat] in
theorem yields_mapClimateMonth (index : ℕ) (raw : Json) :
    Yields (CleanRecord base ClimateMonth.contents) (mapClimateMonth index raw) := by
  refine yields_mapFields base (fun map => ?_) _ _ _
  refine yields_bind (yields_aliasU32 _ _ _) fun month hmonth => ?_
  refine yields_bind (yields_aliasF64 _ _ _) fun maxTemperature hmaxTemperature => ?_
  refine yields_bind (yields_aliasF64 _ _ _) fun minTemperature hminTemperature => ?_
  refine yields_bind (yields_aliasF64 _ _ _) fun precipitation hprecipitation => ?_
  refine yields_pure ⟨?_, ?_, ?_, ?_⟩
  all_goals simp only [ClimateMonth.contents, each_cons, each_nil, and_true]
  · exact ⟨hmaxTemperature, hminTemperature, hprecipitation⟩
  · exact hmonth

theorem yields_mapClimate (hreads : ReadsBack) (raw : Option Json) :
    Yields (CleanRecord base ClimateSummary.contents) (mapClimate raw) := by
  refine yields_mapFields base (fun map => ?_) raw _ _
  refine yields_bind (yields_aliasString hreads _ _ _) fun period hperiod => ?_
  refine yields_bind (yields_true _) fun entries _ => ?_
  refine yields_bind (yields_mapEntries base (yields_mapClimateMonth base) entries)
    fun month hmonth => ?_
  refine yields_pure (Contents.clean_join (List.forall_mem_cons.2 ⟨?_, ?_⟩))
  · exact ⟨by simpa using hperiod, each_nil _, each_nil _, each_nil _⟩
  · exact List.forall_mem_map.2 hmonth

theorem yields_mapRadar (hreads : ReadsBack) (raw : Option Json) :
    Yields (CleanRecord base RadarInfo.contents) (mapRadar base raw) := by
  refine yields_mapFields base (fun map => ?_) raw _ _
  refine yields_bind (yields_aliasString hreads _ _ _) fun title htitle => ?_
  refine yields_bind (yields_aliasResourceUrl base _ _ _) fun imageUrl himageUrl => ?_
  refine yields_bind (yields_aliasResourceUrl base _ _ _) fun pageUrl hpageUrl => ?_
  refine yields_pure ⟨?_, ?_, ?_, ?_⟩
  all_goals simp only [RadarInfo.contents, each_cons, each_nil, and_true]
  · exact htitle
  · exact ⟨himageUrl, hpageUrl⟩

theorem yields_mapTemperatureChart (hreads : ReadsBack) (index : ℕ) (raw : Json) :
    Yields (CleanRecord base TemperatureChart.contents) (mapTemperatureChart index raw) := by
  refine yields_mapFields base (fun map => ?_) _ _ _
  refine yields_bind (yields_aliasString hreads _ _ _) fun date hdate => ?_
  refine yields_bind (yields_aliasF64 _ _ _) fun maxTemperature hmaxTemperature => ?_
  refine yields_bind (yields_aliasF64 _ _ _) fun minTemperature hminTemperature => ?_
  refine yields_bind (yields_aliasString hreads _ _ _) fun dayInfo hdayInfo => ?_
  refine yields_bind (yields_aliasString hreads _ _ _) fun dayIcon hdayIcon => ?_
  refine yields_bind (yields_aliasString hreads _ _ _) fun nightInfo hnightInfo => ?_
  refine yields_bind (yields_aliasString hreads _ _ _) fun nightIcon hnightIcon => ?_
  refine yields_pure ⟨?_, ?_, ?_, ?_⟩
  all_goals simp only [TemperatureChart.contents, each_cons, each_nil, and_true]
  · exact ⟨hdate, hdayInfo, hdayIcon, hnightInfo, hnightIcon⟩
  · exact ⟨hmaxTemperature, hminTemperature⟩

theorem yields_mapPassedChart (hreads : ReadsBack) (index : ℕ) (raw : Json) :
    Yields (CleanRecord base PassedWeatherChart.contents) (mapPassedChart index raw) := by
  refine yields_mapFields base (fun map => ?_) _ _ _
  refine yields_bind (yields_aliasString hreads _ _ _) fun time htime => ?_
  refine yields_bind (yields_aliasF64 _ _ _) fun rain1h hrain1h => ?_
  refine yields_bind (yields_aliasF64 _ _ _) fun rain6h hrain6h => ?_
  refine yields_bind (yields_aliasF64 _ _ _) fun rain12h hrain12h => ?_
  refine yields_bind (yields_aliasF64 _ _ _) fun rain24h hrain24h => ?_
  refine yields_bind (yields_aliasF64 _ _ _) fun temperature htemperature => ?_
  refine yields_bind (yields_aliasF64 _ _ _) fun temperatureDiff htemperatureDiff => ?_
  refine yields_bind (yields_aliasF64 _ _ _) fun humidity hhumidity => ?_
  refine yields_bind (yields_aliasF64 _ _ _) fun pressure hpressure => ?_
  refine yields_bind (yields_aliasF64 _ _ _) fun windDegree hwindDegree => ?_
  refine yields_bind (yields_aliasF64 _ _ _) fun windSpeed hwindSpeed => ?_
  refine yields_pure ⟨?_, ?_, ?_, ?_⟩
  all_goals simp only [PassedWeatherChart.contents, each_cons, each_nil, and_true]
  · exact htime
  · exact ⟨hrain1h, hrain6h, hrain12h, hrain24h, htemperature, htemperatureDiff, hhumidity,
      hpressure, hwindDegree, hwindSpeed⟩

/-! ## The snapshot -/

omit [FloatFormat] in
/-- An optional record in a snapshot. -/
theorem CleanRecord.join {α : Type} {contents : α → Contents} {record : Option α}
    (h : CleanRecord base contents record) :
    (Contents.join (record.toList.map contents)).Clean base :=
  Contents.clean_join (List.forall_mem_map.2 fun a ha => h a (Option.mem_toList.1 ha))

/-- Whatever the response is, everything in the snapshot is clean. -/
theorem mapper_output_clean [Sha256] (hreads : ReadsBack) (data : WeatherDataDto) :
    (mapWeather base data).value.contents.Clean base := by
  have hsnapshot : Yields (fun snapshot => snapshot.contents.Clean base) (mapSnapshot base data) := by
    refine yields_bind (yields_mapReal base hreads _) fun real hreal => ?_
    refine yields_bind (yields_mapPredict base hreads _) fun predict hpredict => ?_
    refine yields_bind (yields_mapAirQuality base hreads _) fun air hair => ?_
    refine yields_bind (yields_bind (yields_true _) fun entries _ =>
      yields_mapEntries base (yields_mapTemperatureChart base hreads) entries)
      fun tempchart htempchart => ?_
    refine yields_bind (yields_bind (yields_true _) fun entries _ =>
      yields_mapEntries base (yields_mapPassedChart base hreads) entries)
      fun passedchart hpassedchart => ?_
    refine yields_bind (yields_mapClimate base hreads _) fun climate hclimate => ?_
    refine yields_bind (yields_mapRadar base hreads _) fun radar hradar => ?_
    -- the station is that of the observed weather, or else that of the forecast
    have hstation : CleanRecord base stationContents
        ((real.bind (·.station)) <|> (predict.bind (·.station))) := by
      cases hfirst : real.bind (·.station) with
      | none => exact hpredict.2
      | some station =>
        have hreal := hreal.2
        rw [hfirst] at hreal
        exact hreal
    refine yields_pure (Contents.clean_join ?_)
    simp only [List.forall_mem_cons]
    exact ⟨hstation.join, hreal.1.join, hpredict.1.join, hair.join,
      Contents.clean_join (List.forall_mem_map.2 htempchart),
      Contents.clean_join (List.forall_mem_map.2 hpassedchart), hclimate.join, hradar.join,
      List.forall_mem_nil _⟩
  exact hsnapshot []

end Sections

/-! ### A response with texts around its values -/

theorem readsBack_sampleFloats : @ReadsBack sampleFloats := fun _ hfinite =>
  parseDouble_doubleText (of_decide_eq_true hfinite)

/-- Observed weather with white space around a text and without a temperature, and a radar. -/
def sampleResponse : WeatherDataDto where
  real := some (.object [("weather",
    .object [("info", .string " 晴 "), ("temperature", .number (.posInt 9999))])])
  predict := none
  air := none
  tempchart := none
  passedchart := none
  climate := none
  radar := some (.object [("title", .string "雷达"), ("url", .string "/publish/radar.html")])

/-- The response is mapped to clean values. -/
theorem mapper_output_clean_sample :
    (@mapWeather sampleSha256 sampleFloats sampleBase sampleResponse).value.contents.Clean
      sampleBase :=
  @mapper_output_clean sampleFloats sampleBase sampleSha256 readsBack_sampleFloats sampleResponse

end WeatherApp.Nmc
