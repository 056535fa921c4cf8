import WeatherApp.Engine.Weather
import WeatherApp.Schema.IsoDate

/-!
# The high of the day

What `merge_cached_daily_high` keeps and what it changes: a snapshot that has an entry for today
has the high of the day afterwards, if it or the stored snapshot had one before.

## Main definitions

* `PrintsNumbers`: what the code relies on in the texts of numbers.
* `Selected`: a snapshot has an entry for a date.

## Main results

* `snapshotDailyHigh_merge`: the high of the day is kept.
* `mergeCachedDailyHigh_changes`: all that a merge changes.
-/

namespace WeatherApp.Weather

/-- The text has the characters of a decimal number. -/
def IsNumberText (text : String) : Prop :=
  ∀ c ∈ text.toList, c.isDigit = true ∨ c = '-' ∨ c = '.'

/-- Finite numbers are printed as decimal numbers, and read back. -/
structure PrintsNumbers [FloatText] : Prop where
  whole : ∀ value : F64, value.isFinite = true → FloatText.isWhole value = true →
    IsNumberText (FloatText.toWholeText value) ∧
      FloatText.parse (FloatText.toWholeText value) = some value
  text : ∀ value : F64, value.isFinite = true →
    IsNumberText (FloatText.toText value) ∧
      FloatText.parse (FloatText.toText value) = some value

theorem IsNumberText.isWhitespace {text : String} (h : IsNumberText text) {c : Char}
    (hc : c ∈ text.toList) : isWhitespace c = false := by
  rcases h c hc with hdigit | rfl | rfl
  · obtain ⟨hlow, hhigh⟩ := toNat_of_isDigit hdigit
    simp only [WeatherApp.isWhitespace, Bool.or_eq_false_iff, Bool.and_eq_false_iff,
      decide_eq_false_iff_not]
    omega
  · decide
  · decide

/-- A decimal number has no unit. -/
theorem IsNumberText.rdropWhile_unit {text : String} (h : IsNumberText text) :
    text.toList.rdropWhile (fun c => decide (c = '°') || decide (c = '℃')) = text.toList := by
  rw [List.rdropWhile_eq_self_iff]
  intro hne
  have hunit : ∀ c ∈ text.toList, c ≠ '°' ∧ c ≠ '℃' := by
    intro c hc
    rcases h c hc with hdigit | rfl | rfl
    · obtain ⟨hlow, hhigh⟩ := toNat_of_isDigit hdigit
      constructor <;> rintro rfl <;> revert hhigh <;> decide
    · decide
    · decide
  obtain ⟨hdegree, hcelsius⟩ := hunit _ (List.getLast_mem hne)
  simp [hdegree, hcelsius]

/-- The text of a temperature is read back. -/
theorem parseTemperature_temperatureText [FloatText] (hprints : PrintsNumbers) {value : F64}
    (hfinite : value.isFinite = true) :
    parseTemperature (some (temperatureText value)) = some value := by
  have htext : IsNumberText (temperatureText value) ∧
      FloatText.parse (temperatureText value) = some value := by
    unfold temperatureText
    split_ifs with hwhole
    · exact hprints.whole value hfinite hwhole
    · exact hprints.text value hfinite
  obtain ⟨hnumber, hparse⟩ := htext
  have htrim := trim_eq_self fun c hc => hnumber.isWhitespace hc
  show FloatText.parse (trim (String.ofList
    ((trim (temperatureText value)).toList.rdropWhile _))) = _
  rw [htrim, hnumber.rdropWhile_unit, String.ofList_toList, htrim, hparse]

/-! ## The selected entries -/

/-- A modification that keeps what is looked at keeps the index that is found. -/
theorem findIdx?_modify {α β : Type} {key : α → β} {f : α → α} (hkey : ∀ a, key (f a) = key a)
    (p : β → Bool) (l : List α) (i : ℕ) :
    (l.modify i f).findIdx? (fun a => p (key a)) = l.findIdx? fun a => p (key a) := by
  have hmap : (l.modify i f).map key = l.map key := by
    apply List.ext_getElem?
    intro j
    rw [List.getElem?_map, List.getElem?_map, List.getElem?_modify]
    cases l[j]? with
    | none => rfl
    | some a =>
      by_cases hij : i = j
      · simp [hij, hkey]
      · simp [hij]
  have hfind : ∀ l : List α, l.findIdx? (fun a => p (key a)) = (l.map key).findIdx? p :=
    fun l => by rw [List.findIdx?_map]; rfl
  rw [hfind, hfind, hmap]

/-- The modification of an element is its replacement. -/
theorem modify_eq_set {α : Type} {l : List α} {i : ℕ} {a : α} (h : l[i]? = some a) (f : α → α) :
    l.modify i f = l.set i (f a) := by
  rw [List.modify_eq_set_getElem?, h]
  rfl

/-- Nothing changes where the element does not. -/
theorem modify_eq_self {α : Type} {l : List α} {i : ℕ} {a : α} (h : l[i]? = some a) {f : α → α}
    (hf : f a = a) : l.modify i f = l := by
  obtain ⟨hi, rfl⟩ := List.getElem?_eq_some_iff.1 h
  rw [modify_eq_set h, hf, List.set_getElem_self]

section DailyHigh

variable [FloatText] [DateText]

/-- A snapshot has a forecast or a chart for a date. -/
def Selected (snapshot : WeatherSnapshot) (today : CivilDate) : Prop :=
  currentForecastIndex snapshot today ≠ none ∨ currentTemperatureChartIndex snapshot today ≠ none

/-- The snapshot with the high of the day in the forecast of a date. -/
def fillForecast (high : F64) (today : CivilDate) (snapshot : WeatherSnapshot) : WeatherSnapshot :=
  match currentForecastIndex snapshot today with
  | none => snapshot
  | some index =>
    { snapshot with
      predict := snapshot.predict.map fun forecast =>
        ⟨forecast.days.modify index (fillDay high)⟩ }

/-- The snapshot with the high of the day in the chart of a date. -/
def fillTempchart (high : F64) (today : CivilDate) (snapshot : WeatherSnapshot) :
    WeatherSnapshot :=
  match currentTemperatureChartIndex snapshot today with
  | none => snapshot
  | some index => { snapshot with tempchart := snapshot.tempchart.modify index (fillChart high) }

/-- The high that a merge writes is that of the snapshot, or else that of the stored one. -/
theorem mergeCachedDailyHigh_eq {snapshot : WeatherSnapshot}
    {stored : StoredSnapshot WeatherSnapshot} {today : String} {date : CivilDate}
    (hstored : stored.date = today) (hread : parseFullDate today = some date) :
    mergeCachedDailyHigh snapshot stored today =
      match snapshotDailyHigh snapshot date <|> snapshotDailyHigh stored.snapshot date with
      | none => snapshot
      | some high => fillTempchart high date (fillForecast high date snapshot) := by
  rw [mergeCachedDailyHigh, if_neg (not_not.2 hstored), hread]
  rfl

omit [DateText] in
theorem fillDay_date (high : F64) (day : ForecastDay) : (fillDay high day).date = day.date := by
  unfold fillDay
  split_ifs <;> rfl

omit [FloatText] [DateText] in
theorem fillChart_date (high : F64) (chart : TemperatureChart) :
    (fillChart high chart).date = chart.date := by
  unfold fillChart
  split_ifs <;> rfl

omit [DateText] in
/-- A forecast that is filled in has a high. -/
theorem fillDay_high (hprints : PrintsNumbers) {high : F64} (hfinite : high.isFinite = true)
    (day : ForecastDay) :
    ((parseTemperature (fillDay high day).dayTemperature).filter F64.isFinite).isSome := by
  unfold fillDay
  split_ifs with hmissing
  · simp [parseTemperature_temperatureText hprints hfinite, hfinite]
  · exact Option.isSome_iff_ne_none.2 fun hnone => hmissing (Option.isNone_iff_eq_none.2 hnone)

omit [FloatText] [DateText] in
/-- A chart that is filled in has a high. -/
theorem fillChart_high {high : F64} (hfinite : high.isFinite = true) (chart : TemperatureChart) :
    ((fillChart high chart).maxTemperature.filter F64.isFinite).isSome := by
  unfold fillChart
  split_ifs with hmissing
  · simp [hfinite]
  · exact Option.isSome_iff_ne_none.2 fun hnone => hmissing (Option.isNone_iff_eq_none.2 hnone)

/-- The forecast of a date, where there is one. -/
theorem exists_forecast {snapshot : WeatherSnapshot} {today : CivilDate} {index : ℕ}
    (h : currentForecastIndex snapshot today = some index) :
    ∃ forecast day, snapshot.predict = some forecast ∧ forecast.days[index]? = some day ∧
      ∀ high, fillForecast high today snapshot =
        { snapshot with predict := some ⟨forecast.days.modify index (fillDay high)⟩ } := by
  have hfill : ∀ high, fillForecast high today snapshot =
      { snapshot with
        predict := snapshot.predict.map fun forecast =>
          ⟨forecast.days.modify index (fillDay high)⟩ } := by
    intro high
    rw [fillForecast, h]
  simp only [currentForecastIndex] at h
  cases hpredict : snapshot.predict with
  | none =>
    rw [hpredict] at h
    cases h
  | some forecast =>
    rw [hpredict] at h
    obtain ⟨hindex, -⟩ := List.findIdx?_eq_some_iff_getElem.1 h
    refine ⟨forecast, _, rfl, List.getElem?_eq_getElem hindex, fun high => ?_⟩
    rw [hfill, hpredict, Option.map_some]

/-- Filling in the forecast keeps the entries that are selected. -/
theorem currentForecastIndex_fillForecast (high : F64) (today : CivilDate)
    (snapshot : WeatherSnapshot) :
    currentForecastIndex (fillForecast high today snapshot) today =
      currentForecastIndex snapshot today := by
  cases hindex : currentForecastIndex snapshot today with
  | none =>
    have hfill : fillForecast high today snapshot = snapshot := by rw [fillForecast, hindex]
    rw [hfill, hindex]
  | some index =>
    obtain ⟨forecast, day, hpredict, -, hfill⟩ := exists_forecast hindex
    rw [hfill, ← hindex, currentForecastIndex, currentForecastIndex, hpredict]
    exact findIdx?_modify (fillDay_date high)
      (fun date => decide (parseRelativeDate date today = some today)) forecast.days index

theorem tempchart_fillForecast (high : F64) (today : CivilDate) (snapshot : WeatherSnapshot) :
    (fillForecast high today snapshot).tempchart = snapshot.tempchart := by
  unfold fillForecast
  split <;> rfl

omit [FloatText] in
theorem predict_fillTempchart (high : F64) (today : CivilDate) (snapshot : WeatherSnapshot) :
    (fillTempchart high today snapshot).predict = snapshot.predict := by
  unfold fillTempchart
  split <;> rfl

omit [FloatText] in
/-- The chart that is selected depends on the charts. -/
theorem currentTemperatureChartIndex_congr {snapshot other : WeatherSnapshot}
    (h : snapshot.tempchart = other.tempchart) (today : CivilDate) :
    currentTemperatureChartIndex snapshot today = currentTemperatureChartIndex other today := by
  unfold currentTemperatureChartIndex
  rw [h]

omit [FloatText] in
/-- The forecast that is selected depends on the forecasts. -/
theorem currentForecastIndex_congr {snapshot other : WeatherSnapshot}
    (h : snapshot.predict = other.predict) (today : CivilDate) :
    currentForecastIndex snapshot today = currentForecastIndex other today := by
  unfold currentForecastIndex
  rw [h]

omit [FloatText] in
/-- The chart of a date, where there is one. -/
theorem exists_chart {snapshot : WeatherSnapshot} {today : CivilDate} {index : ℕ}
    (h : currentTemperatureChartIndex snapshot today = some index) :
    ∃ chart, snapshot.tempchart[index]? = some chart ∧
      ∀ high, fillTempchart high today snapshot =
        { snapshot with tempchart := snapshot.tempchart.modify index (fillChart high) } := by
  have hfill : ∀ high, fillTempchart high today snapshot =
      { snapshot with tempchart := snapshot.tempchart.modify index (fillChart high) } := by
    intro high
    rw [fillTempchart, h]
  refine (Option.ne_none_iff_exists'.1 fun hnone => ?_).imp fun chart hchart => ⟨hchart, hfill⟩
  rw [List.getElem?_eq_none_iff] at hnone
  unfold currentTemperatureChartIndex at h
  dsimp only at h
  split at h
  next dated hdated =>
    obtain rfl := Option.some.inj h
    obtain ⟨hindex, -⟩ := List.findIdx?_eq_some_iff_getElem.1 hdated
    omega
  next chart _ hsingle =>
    split_ifs at h
    obtain rfl := Option.some.inj h
    rw [hsingle] at hnone
    simp at hnone
  next => cases h

omit [FloatText] in
/-- Filling in a chart keeps the entry that is selected. -/
theorem currentTemperatureChartIndex_fillTempchart (high : F64) (today : CivilDate)
    (snapshot : WeatherSnapshot) :
    currentTemperatureChartIndex (fillTempchart high today snapshot) today =
      currentTemperatureChartIndex snapshot today := by
  cases hindex : currentTemperatureChartIndex snapshot today with
  | none =>
    have hfill : fillTempchart high today snapshot = snapshot := by rw [fillTempchart, hindex]
    rw [hfill, hindex]
  | some index =>
    obtain ⟨-, -, hfill⟩ := exists_chart hindex
    have hdated := findIdx?_modify (fillChart_date high) (fun date : Option String =>
      decide ((date.bind fun value => parseRelativeDate value today) = some today))
      snapshot.tempchart index
    rw [hfill, ← hindex]
    unfold currentTemperatureChartIndex
    dsimp only
    rw [hdated]
    generalize List.findIdx? _ snapshot.tempchart = dated
    cases dated with
    | some dated => rfl
    | none =>
      -- a single chart stays a single chart with its date
      rcases snapshot.tempchart with _ | ⟨chart, _ | ⟨second, rest⟩⟩
      · cases index <;> rfl
      · cases index with
        | zero => simp [fillChart_date]
        | succ index => rw [List.modify_succ_cons]; cases index <;> rfl
      · rcases index with _ | _ | index <;> simp

/-! ## The merge -/

/-- A snapshot with a finite high in its forecast has a high of the day. -/
theorem snapshotDailyHigh_of_forecast {snapshot : WeatherSnapshot} {today : CivilDate} {index : ℕ}
    {forecast : ForecastReport} {day : ForecastDay}
    (hindex : currentForecastIndex snapshot today = some index)
    (hpredict : snapshot.predict = some forecast) (hday : forecast.days[index]? = some day)
    (hhigh : ((parseTemperature day.dayTemperature).filter F64.isFinite).isSome) :
    (snapshotDailyHigh snapshot today).isSome := by
  obtain ⟨high, hhigh⟩ := Option.isSome_iff_exists.1 hhigh
  simp [snapshotDailyHigh, hindex, hpredict, hday, hhigh]

/-- A snapshot with a finite high in its chart has a high of the day. -/
theorem snapshotDailyHigh_of_chart {snapshot : WeatherSnapshot} {today : CivilDate} {index : ℕ}
    {chart : TemperatureChart}
    (hindex : currentTemperatureChartIndex snapshot today = some index)
    (hchart : snapshot.tempchart[index]? = some chart)
    (hhigh : (chart.maxTemperature.filter F64.isFinite).isSome) :
    (snapshotDailyHigh snapshot today).isSome := by
  obtain ⟨high, hhigh⟩ := Option.isSome_iff_exists.1 hhigh
  simp [snapshotDailyHigh, hindex, hchart, hhigh]

/-- The high of a snapshot is finite. -/
theorem isFinite_snapshotDailyHigh {snapshot : WeatherSnapshot} {today : CivilDate} {high : F64}
    (h : snapshotDailyHigh snapshot today = some high) : high.isFinite = true := by
  have hfilter : ∀ {value : Option F64}, value.filter F64.isFinite = some high →
      high.isFinite = true := fun hvalue => (Option.filter_eq_some_iff.1 hvalue).2
  simp only [snapshotDailyHigh, Option.orElse_eq_orElse, Option.orElse_eq_or,
    Option.or_eq_some_iff, Option.bind_eq_bind, Option.bind_eq_some_iff] at h
  rcases h with ⟨_, -, _, -, _, -, hvalue⟩ | ⟨-, _, -, _, -, hvalue⟩
  · exact hfilter hvalue
  · exact hfilter hvalue

/-- A snapshot that is filled in for a date has a high of that date, if it has an entry for it. -/
theorem snapshotDailyHigh_fill (hprints : PrintsNumbers) {snapshot : WeatherSnapshot}
    {today : CivilDate} (hselected : Selected snapshot today) {high : F64}
    (hfinite : high.isFinite = true) :
    (snapshotDailyHigh (fillTempchart high today (fillForecast high today snapshot))
      today).isSome := by
  have hforecastIndex : currentForecastIndex (fillTempchart high today
      (fillForecast high today snapshot)) today = currentForecastIndex snapshot today :=
    (currentForecastIndex_congr (predict_fillTempchart ..) today).trans
      (currentForecastIndex_fillForecast high today snapshot)
  have hchartIndex : currentTemperatureChartIndex (fillForecast high today snapshot) today =
      currentTemperatureChartIndex snapshot today :=
    currentTemperatureChartIndex_congr (tempchart_fillForecast ..) today
  rcases hselected with hforecast | hchart
  · obtain ⟨index, hindex⟩ := Option.ne_none_iff_exists'.1 hforecast
    obtain ⟨forecast, day, hpredict, hday, hfill⟩ := exists_forecast hindex
    have hfilled : (fillTempchart high today (fillForecast high today snapshot)).predict =
        some ⟨forecast.days.modify index (fillDay high)⟩ := by
      rw [predict_fillTempchart, hfill]
    refine snapshotDailyHigh_of_forecast (hforecastIndex.trans hindex) hfilled ?_
      (fillDay_high hprints hfinite day)
    rw [List.getElem?_modify_eq, hday]
    rfl
  · obtain ⟨index, hindex⟩ := Option.ne_none_iff_exists'.1 hchart
    obtain ⟨chart, hmem, hfill⟩ := exists_chart (hchartIndex.trans hindex)
    refine snapshotDailyHigh_of_chart ((currentTemperatureChartIndex_fillTempchart ..).trans
      (hchartIndex.trans hindex)) ?_ (fillChart_high hfinite chart)
    rw [hfill, List.getElem?_modify_eq, hmem]
    rfl

/-- The high of the day is kept: a snapshot with an entry for today has one after the merge, if it
or the stored snapshot has one. -/
theorem snapshotDailyHigh_merge (hprints : PrintsNumbers) {snapshot : WeatherSnapshot}
    {stored : StoredSnapshot WeatherSnapshot} {today : String} {date : CivilDate}
    (hstored : stored.date = today) (hread : parseFullDate today = some date)
    (hselected : Selected snapshot date)
    (hhigh : (snapshotDailyHigh snapshot date).isSome ∨
      (snapshotDailyHigh stored.snapshot date).isSome) :
    (snapshotDailyHigh (mergeCachedDailyHigh snapshot stored today) date).isSome := by
  rw [mergeCachedDailyHigh_eq hstored hread]
  obtain ⟨high, hwritten, hfinite⟩ : ∃ high,
      (snapshotDailyHigh snapshot date <|> snapshotDailyHigh stored.snapshot date) = some high ∧
        high.isFinite = true := by
    cases hown : snapshotDailyHigh snapshot date with
    | some high => exact ⟨high, rfl, isFinite_snapshotDailyHigh hown⟩
    | none =>
      rw [hown] at hhigh
      obtain ⟨high, hstoredHigh⟩ := Option.isSome_iff_exists.1 (hhigh.resolve_left (by simp))
      exact ⟨high, by rw [hstoredHigh]; rfl, isFinite_snapshotDailyHigh hstoredHigh⟩
  rw [hwritten]
  exact snapshotDailyHigh_fill hprints hselected hfinite

omit [DateText] in
/-- A forecast day that differs in its temperature had none. -/
theorem fillDay_eq (high : F64) (day : ForecastDay) :
    fillDay high day = day ∨ (parseTemperature day.dayTemperature).filter F64.isFinite = none ∧
      fillDay high day = { day with dayTemperature := some (temperatureText high) } := by
  unfold fillDay
  split_ifs with hmissing
  · exact .inr ⟨Option.isNone_iff_eq_none.1 hmissing, rfl⟩
  · exact .inl rfl

omit [FloatText] [DateText] in
/-- A chart that differs in its maximum had none. -/
theorem fillChart_eq (high : F64) (chart : TemperatureChart) :
    fillChart high chart = chart ∨ chart.maxTemperature.filter F64.isFinite = none ∧
      fillChart high chart = { chart with maxTemperature := some high } := by
  unfold fillChart
  split_ifs with hmissing
  · exact .inr ⟨Option.isNone_iff_eq_none.1 hmissing, rfl⟩
  · exact .inl rfl

/-- All that a merge changes in a forecast: the temperature of the day, if it had none. -/
def ForecastKept (date : Option CivilDate) (snapshot merged : WeatherSnapshot) : Prop :=
  merged.predict = snapshot.predict ∨ ∃ today index forecast day text, date = some today ∧
    currentForecastIndex snapshot today = some index ∧ snapshot.predict = some forecast ∧
    forecast.days[index]? = some day ∧
    (parseTemperature day.dayTemperature).filter F64.isFinite = none ∧
    merged.predict = some ⟨forecast.days.set index { day with dayTemperature := some text }⟩

/-- All that a merge changes in the charts: the maximum of the chart of the day, if it had none. -/
def TempchartKept (date : Option CivilDate) (snapshot merged : WeatherSnapshot) : Prop :=
  merged.tempchart = snapshot.tempchart ∨ ∃ today index chart high, date = some today ∧
    currentTemperatureChartIndex snapshot today = some index ∧
    snapshot.tempchart[index]? = some chart ∧ chart.maxTemperature.filter F64.isFinite = none ∧
    merged.tempchart = snapshot.tempchart.set index { chart with maxTemperature := some high }

/-- Filling in concerns the forecast and the charts. -/
theorem fill_frame (high : F64) (today : CivilDate) (snapshot : WeatherSnapshot) :
    let merged := fillTempchart high today (fillForecast high today snapshot)
    merged = { snapshot with predict := merged.predict, tempchart := merged.tempchart } := by
  intro merged
  have hforecast : ∃ predict, fillForecast high today snapshot = { snapshot with predict } := by
    unfold fillForecast
    split <;> exact ⟨_, rfl⟩
  have hchart : ∃ tempchart, merged = { fillForecast high today snapshot with tempchart } := by
    show ∃ tempchart, fillTempchart high today (fillForecast high today snapshot) = _
    unfold fillTempchart
    split <;> exact ⟨_, rfl⟩
  obtain ⟨predict, hforecast⟩ := hforecast
  obtain ⟨tempchart, hchart⟩ := hchart
  rw [hforecast] at hchart
  rw [hchart]

theorem forecastKept_fill (high : F64) (today : CivilDate) (snapshot : WeatherSnapshot) :
    ForecastKept (some today) snapshot
      (fillTempchart high today (fillForecast high today snapshot)) := by
  unfold ForecastKept
  rw [predict_fillTempchart]
  cases hindex : currentForecastIndex snapshot today with
  | none => exact .inl (by rw [fillForecast, hindex])
  | some index =>
    obtain ⟨forecast, day, hpredict, hday, hfill⟩ := exists_forecast hindex
    rw [hfill]
    rcases fillDay_eq high day with hsame | ⟨hmissing, hnew⟩
    · refine .inl ?_
      rw [modify_eq_self hday hsame, hpredict]
    · refine .inr ⟨today, index, forecast, day, temperatureText high, rfl, hindex, hpredict, hday,
        hmissing, ?_⟩
      rw [modify_eq_set hday, hnew]

theorem tempchartKept_fill (high : F64) (today : CivilDate) (snapshot : WeatherSnapshot) :
    TempchartKept (some today) snapshot
      (fillTempchart high today (fillForecast high today snapshot)) := by
  have hcharts := tempchart_fillForecast high today snapshot
  have hchartIndex := currentTemperatureChartIndex_congr hcharts today
  cases hindex : currentTemperatureChartIndex snapshot today with
  | none =>
    refine .inl ?_
    rw [fillTempchart, hchartIndex, hindex]
    exact hcharts
  | some index =>
    obtain ⟨chart, hchart, hfill⟩ := exists_chart (hchartIndex.trans hindex)
    rw [hcharts] at hchart
    rw [hfill, TempchartKept]
    dsimp only
    rw [hcharts]
    rcases fillChart_eq high chart with hsame | ⟨hmissing, hnew⟩
    · exact .inl (modify_eq_self hchart hsame)
    · refine .inr ⟨today, index, chart, high, rfl, hindex, hchart, hmissing, ?_⟩
      rw [modify_eq_set hchart, hnew]

/-- A merge changes nothing but the temperature of today's forecast and the maximum of today's
chart, and these only where they are missing. -/
theorem mergeCachedDailyHigh_changes (snapshot : WeatherSnapshot)
    (stored : StoredSnapshot WeatherSnapshot) (today : String) :
    let merged := mergeCachedDailyHigh snapshot stored today
    merged = { snapshot with predict := merged.predict, tempchart := merged.tempchart } ∧
      ForecastKept (parseFullDate today) snapshot merged ∧
      TempchartKept (parseFullDate today) snapshot merged := by
  by_cases hstored : stored.date = today
  · cases hread : parseFullDate today with
    | none =>
      have hmerged : mergeCachedDailyHigh snapshot stored today = snapshot := by
        rw [mergeCachedDailyHigh, if_neg (not_not.2 hstored), hread]
      rw [hmerged]
      exact ⟨rfl, .inl rfl, .inl rfl⟩
    | some date =>
      rw [mergeCachedDailyHigh_eq hstored hread]
      cases snapshotDailyHigh snapshot date <|> snapshotDailyHigh stored.snapshot date with
      | none => exact ⟨rfl, .inl rfl, .inl rfl⟩
      | some high => exact ⟨fill_frame high date snapshot, forecastKept_fill high date snapshot,
          tempchartKept_fill high date snapshot⟩
  · have hmerged : mergeCachedDailyHigh snapshot stored today = snapshot := by
      rw [mergeCachedDailyHigh, if_pos hstored]
    rw [hmerged]
    exact ⟨rfl, .inl rfl, .inl rfl⟩

end DailyHigh

end WeatherApp.Weather
