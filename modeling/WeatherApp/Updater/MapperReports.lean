import WeatherApp.Updater.MapperLog

/-!
# What the mapper reports

Each part of a response is mapped on its own: what comes of it, and which warnings it adds, does not
depend on the other parts. A part that is not missing is in the snapshot, or adds a warning; all but
the warning of the observed weather, which is dropped without a word when its own text is missing.

## Main definitions

* `Part`, `parts`: the sections and entries of a response, with what becomes of them.
* `Assembled`: the snapshot and the warnings are put together from the parts.
* `NothingDropped`: every part is mapped or reported.

## Main results

* `lookupAliases_fst`: an alias lookup returns the value of the first alias that has one.
* `mapWeather_assembled`: how the outcome comes about.
* `mapper_reports_iff`: when nothing is dropped.
-/

namespace WeatherApp.Nmc

open AppendLog

/-! ## What the readers return -/

section Values

variable {α : Type}

/-- The value of the first alias that has one that can be used. -/
def firstUsable (map : JsonMap) (aliases : List String) (convert : Json → Candidate α) : Option α :=
  aliases.findSome? fun name => (map.get name).bind fun value => (convert value).usable

theorem tryAliases_fst (map : JsonMap) (convert : Json → Candidate α) (aliases : List String)
    (sawInvalid : Bool) :
    (tryAliases map convert aliases sawInvalid).1 = firstUsable map aliases convert := by
  unfold firstUsable
  induction aliases generalizing sawInvalid with
  | nil => rfl
  | cons name aliases ih =>
    rw [tryAliases, List.findSome?_cons]
    cases map.get name with
    | none => exact ih sawInvalid
    | some value =>
      dsimp only [Option.bind_some]
      cases convert value with
      | missing => exact ih sawInvalid
      | invalid => exact ih true
      | value a => rfl

theorem lookupAliases_value (map : JsonMap) (aliases : List String) (convert : Json → Candidate α)
    (warning : String) :
    value (lookupAliases map aliases convert warning) = firstUsable map aliases convert := by
  rw [← tryAliases_fst map convert aliases false]
  unfold lookupAliases
  cases tryAliases map convert aliases false with
  | mk found sawInvalid =>
    cases found with
    | some a => rfl
    | none => cases sawInvalid <;> rfl

/-- Whatever was warned of before. -/
theorem lookupAliases_fst (map : JsonMap) (aliases : List String) (convert : Json → Candidate α)
    (warning : String) (warnings : List String) :
    ((lookupAliases map aliases convert warning).run warnings).1 =
      firstUsable map aliases convert := by
  rw [(appends_lookupAliases map aliases convert warning).logs, lookupAliases_value]

/-- An object that is not missing is decoded. -/
theorem objectOf_object {map : JsonMap} (h : isMissingValue (.object map) = false)
    (warning : String) : objectOf (some (.object map)) warning = pure (some map) := by
  show (if isMissingValue (.object map) = true then pure none else pure (some map)) = _
  rw [h]
  rfl

/-- Nothing is decoded of what is missing. -/
theorem objectOf_missing {raw : Json} (h : isMissingValue raw = true) (warning : String) :
    objectOf (some raw) warning = pure none := by
  unfold objectOf
  exact if_pos h

/-- What is not missing and no object is reported. -/
theorem logs_objectOf_other {raw : Json} (h : isMissingValue raw = false)
    (hother : ∀ map, raw ≠ .object map) (warning : String) :
    Logs (objectOf (some raw) warning) none [warning] := by
  unfold objectOf
  dsimp only
  rw [h]
  cases raw with
  | object map => exact absurd rfl (hother map)
  | null | bool value | number value | string value | array values => exact fun log => rfl

theorem decodeSection_object {map : JsonMap} (h : isMissingValue (.object map) = false)
    (decode : JsonMap → α) (path : String) :
    decodeSection decode (some (.object map)) path = pure (some (decode map)) := by
  rw [decodeSection, objectOf_object h]
  rfl

theorem logs_decodeSection_object {map : JsonMap} (h : isMissingValue (.object map) = false)
    (decode : JsonMap → α) (path : String) :
    Logs (decodeSection decode (some (.object map)) path) (some (decode map)) [] := by
  rw [decodeSection_object h]
  exact logs_pure _

theorem decodeSection_missing {raw : Json} (h : isMissingValue raw = true) (decode : JsonMap → α)
    (path : String) : decodeSection decode (some raw) path = pure none := by
  rw [decodeSection, objectOf_missing h]
  rfl

theorem logs_decodeSection_other {raw : Json} (h : isMissingValue raw = false)
    (hother : ∀ map, raw ≠ .object map) (decode : JsonMap → α) (path : String) :
    Logs (decodeSection decode (some raw) path) none [s!"{path}: malformed object; ignored"] :=
  logs_map (logs_objectOf_other h hother _) _

/-- A field that is not missing gives a value or a warning. -/
theorem added_fixed {raw : Json} {convert : Json → Candidate α} (hpresent : convert raw ≠ .missing)
    {path expected : String} (hnone : value (fixed (some raw) path expected convert) = none) :
    added (fixed (some raw) path expected convert) ≠ [] := by
  unfold fixed at hnone ⊢
  rw [Option.map_some] at hnone ⊢
  cases hconvert : convert raw with
  | missing => exact absurd hconvert hpresent
  | invalid => exact List.cons_ne_nil _ _
  | value a =>
    rw [hconvert] at hnone
    cases hnone

/-- A field that is missing gives neither. -/
theorem fixed_missing {field : Option Json} {convert : Json → Candidate α}
    (hmissing : ∀ raw ∈ field, convert raw = .missing) (path expected : String) :
    fixed field path expected convert = pure none := by
  unfold fixed
  cases field with
  | none => rfl
  | some raw =>
    rw [Option.map_some, hmissing raw rfl]

theorem stringCandidate_missing_iff [FloatFormat] {raw : Json} :
    stringCandidate raw = .missing ↔ isMissingValue raw = true := by
  unfold stringCandidate
  split_ifs with h
  · simp [h]
  · cases raw <;> simp_all

end Values

/-! ## Parts -/

/-- A part of a response: what it is, whether something of it is mapped, and the warnings that its
mapping adds. -/
structure Part where
  raw : Json
  mapped : Bool
  warnings : List String

/-- The part that a computation maps. -/
def Part.of {α : Type} (raw : Json) (m : Mapping (Option α)) : Part :=
  ⟨raw, (value m).isSome, added m⟩

/-- The entries of a section: those of an array, or the object itself. -/
def entriesOf : Option Json → List (ℕ × Json)
  | some (.array values) => values.zipIdx.map Prod.swap
  | some (.object map) => [(0, .object map)]
  | _ => []

/-- A field of a section that is an object. -/
def fieldOf (raw : Option Json) (key : String) : Option Json :=
  match raw with
  | some (.object map) => JsonMap.field map key
  | _ => none

/-- The months of the climate: what the first alias has that can be used. -/
def monthsOf (raw : Option Json) : Option Json :=
  match raw with
  | some (.object map) => ["month", "months"].findSome? fun name =>
      (JsonMap.get map name).filter fun value => (entriesCandidate value).usable.isSome
  | _ => none

section Response

variable [Sha256] [FloatFormat] (base : BaseUrl) (data : WeatherDataDto)

/-- The parts of a response that the mapper can drop. -/
def parts : List Part :=
  (data.air.toList.map fun raw => .of raw (mapAirQuality (some raw))) ++
  (data.climate.toList.map fun raw => .of raw (mapClimate (some raw))) ++
  (data.radar.toList.map fun raw => .of raw (mapRadar base (some raw))) ++
  ((entriesOf data.tempchart).map fun entry =>
    .of entry.2 (mapTemperatureChart entry.1 entry.2)) ++
  ((entriesOf data.passedchart).map fun entry => .of entry.2 (mapPassedChart entry.1 entry.2)) ++
  ((entriesOf (monthsOf data.climate)).map fun entry =>
    .of entry.2 (mapClimateMonth entry.1 entry.2)) ++
  ((entriesOf (fieldOf data.predict "detail")).map fun entry =>
    .of entry.2 (mapForecastDay entry.1 entry.2)) ++
  ((fieldOf data.real "warn").toList.map fun raw => .of raw (mapAlert base (some raw)))

/-- A part that is not missing is mapped, or its mapping adds a warning. -/
def NothingDropped : Prop :=
  ∀ part ∈ parts base data, isMissingValue part.raw = false → part.mapped = false →
    part.warnings ≠ []

/-- The snapshot is made of what comes of the parts, and the warnings are those of the parts and
others. -/
structure Assembled (outcome : MapOutcome WeatherSnapshot) : Prop where
  air : outcome.value.air = data.air.bind fun raw => value (mapAirQuality (some raw))
  climate : outcome.value.climate = data.climate.bind fun raw => value (mapClimate (some raw))
  radar : outcome.value.radar = data.radar.bind fun raw => value (mapRadar base (some raw))
  tempchart : outcome.value.tempchart = (entriesOf data.tempchart).flatMap fun entry =>
    (value (mapTemperatureChart entry.1 entry.2)).toList
  passedchart : outcome.value.passedchart = (entriesOf data.passedchart).flatMap fun entry =>
    (value (mapPassedChart entry.1 entry.2)).toList
  months : outcome.value.climate.toList.flatMap (·.month) =
    (entriesOf (monthsOf data.climate)).flatMap fun entry =>
      (value (mapClimateMonth entry.1 entry.2)).toList
  days : outcome.value.predict.toList.flatMap (·.days) =
    (entriesOf (fieldOf data.predict "detail")).flatMap fun entry =>
      (value (mapForecastDay entry.1 entry.2)).toList
  alerts : outcome.value.real.toList.flatMap (·.alerts) =
    (fieldOf data.real "warn").toList.flatMap fun raw => (value (mapAlert base (some raw))).toList
  warnings : ∀ part ∈ parts base data, part.warnings.Sublist outcome.warnings

/-- An alias lookup returns the value of the first alias that has one that can be used. -/
structure AliasLaw : Prop where
  fields : ∀ {α : Type} (map : JsonMap) (aliases : List String) (path expected : String)
    (convert : Json → Candidate α) (warnings : List String),
    ((aliasValue map aliases path expected convert).run warnings).1 =
      firstUsable map aliases convert
  links : ∀ (map : JsonMap) (aliases : List String) (path : String) (warnings : List String),
    ((aliasResourceUrl base map aliases path).run warnings).1 =
      firstUsable map aliases (joinedCandidate base)
  entries : ∀ (map : JsonMap) (aliases : List String) (path : String) (warnings : List String),
    ((aliasSequence map aliases path).run warnings).1 =
      (firstUsable map aliases entriesCandidate).getD []

/-- The warning of the observed weather, where it is an object that is not missing, says what it
warns of. -/
def AlertNamed : Prop :=
  ∀ map : JsonMap, fieldOf data.real "warn" = some (.object map) → isMissingValue (.object map) = false →
    ∃ alert ∈ map.field "alert", isMissingValue alert = false

end Response

/-! ## What becomes of one part -/

/-- What is not mapped is reported. -/
def Reported {α : Type} (m : Mapping (Option α)) : Prop := value m = none → added m ≠ []

section Single

variable {α β : Type}

/-- The computation finds something. -/
def Finds (m : Mapping (Option α)) : Prop := ∃ a more, Logs m (some a) more

theorem finds_pure (a : α) : Finds (pure (some a)) := ⟨a, [], logs_pure _⟩

theorem finds_bind {m : Mapping β} {f : β → Mapping (Option α)} (hm : Appends m)
    (hf : ∀ b, Finds (f b)) : Finds (m >>= f) := by
  obtain ⟨a, more, hlogs⟩ := hf (value m)
  exact ⟨a, _, logs_bind hm.logs hlogs⟩

/-- What is found is not dropped. -/
theorem Finds.reported {m : Mapping (Option α)} (h : Finds m) : Reported m := by
  obtain ⟨a, more, hlogs⟩ := h
  intro hnone
  rw [hlogs.value_eq] at hnone
  cases hnone

/-- On an empty list nothing was counted before. -/
theorem run_counted {m : Mapping β} {k : ℕ → β → Mapping α} (hm : Appends m) :
    (warningCount >>= fun before => m >>= k before).run [] = (k 0 (value m)).run (added m) := by
  show (k 0 (m.run []).1).run (m.run []).2 = _
  rw [hm.logs]
  rfl

/-- A computation that finds nothing without a certain value, and then adds a warning if there was
none since. -/
theorem reported_counted {m : Mapping β} {k : ℕ → β → Mapping (Option α)} (good : β → Prop)
    (warning : String) (hm : Appends m) (hgood : ∀ before b, good b → Finds (k before b))
    (hbad : ∀ before b, ¬ good b → k before b = do
      warnIfQuiet before warning
      return none) :
    Reported (warningCount >>= fun before => m >>= k before) := by
  intro hdropped
  rw [value, run_counted hm] at hdropped
  rw [added, run_counted hm]
  by_cases h : good (value m)
  · obtain ⟨a, more, hfinds⟩ := hgood 0 (value m) h
    rw [hfinds] at hdropped
    cases hdropped
  · rw [hbad 0 (value m) h]
    show ((if (added m).length = 0 then warn warning else pure ⟨⟩ : Mapping Unit).run _).2 ≠ []
    split_ifs with hquiet
    · exact List.append_ne_nil_of_right_ne_nil _ (List.cons_ne_nil _ _)
    · intro hempty
      exact hquiet (List.length_eq_zero_iff.2 hempty)

/-- An object that is not missing has values that are not. -/
theorem hasNonMissingValues_eq (map : JsonMap) :
    hasNonMissingValues map = !allValuesMissing map := by
  induction map with
  | nil => rfl
  | cons entry map ih =>
    rw [hasNonMissingValues, List.any_cons, ← hasNonMissingValues, ih, allValuesMissing,
      Bool.not_and]

variable {fields : JsonMap → Mapping α} {hasFields : α → Bool} {raw : Json}

/-- A section without a usable field is reported, where it is not missing. -/
theorem reported_mapUsable {map : JsonMap} (h : Appends (fields map))
    (hpresent : isMissingValue (.object map) = false) (path : String) :
    Reported (mapUsable path map (fields map) hasFields) := by
  have hvalues : hasNonMissingValues map = true := by
    rw [isMissingValue, Bool.or_eq_false_iff] at hpresent
    rw [hasNonMissingValues_eq, hpresent.2]
    rfl
  refine reported_counted (fun a => hasFields a = true)
    s!"{path}: no usable known fields; ignored" h ?_ ?_
  · intro before a hgood
    rw [if_pos hgood]
    exact finds_pure a
  · intro before a hbad
    rw [if_neg hbad, warnIfUnusable, hvalues]
    simp only [and_true]
    rfl

theorem reported_mapFields (h : ∀ map, Appends (fields map))
    (hpresent : isMissingValue raw = false) (path : String) :
    Reported (mapFields (some raw) path fields hasFields) := by
  by_cases hobject : ∃ map, raw = .object map
  · obtain ⟨map, rfl⟩ := hobject
    rw [mapFields, sectionObject, objectOf_object hpresent, pure_bind]
    exact reported_mapUsable (h map) hpresent path
  · have hother : ∀ map, raw ≠ .object map := fun map heq => hobject ⟨map, heq⟩
    intro _
    have hlogs := logs_objectOf_other hpresent hother s!"{path}: expected object; ignored"
    have hrest : Logs (mapFields (some raw) path fields hasFields) none _ :=
      logs_bind hlogs (logs_pure none)
    rw [hrest.added_eq]
    exact List.cons_ne_nil _ _

theorem mapFields_missing (hmissing : isMissingValue raw = true) (path : String) :
    mapFields (some raw) path fields hasFields = pure none := by
  rw [mapFields, sectionObject, objectOf_missing hmissing]
  rfl

variable [FloatFormat]

theorem reported_mapForecastDay {raw : Json} (hpresent : isMissingValue raw = false) (index : ℕ) :
    Reported (mapForecastDay index raw) := by
  by_cases hobject : ∃ map, raw = .object map
  · obtain ⟨map, rfl⟩ := hobject
    rw [mapForecastDay, decodeSection_object hpresent, pure_bind]
    refine reported_counted (fun date => date.isSome = true)
      (s!"predict.detail[{index}]" ++ ": missing usable date; entry ignored")
      (appends_fixed _ _ _ _) ?_ ?_
    · intro before date hgood
      obtain ⟨date, rfl⟩ := Option.isSome_iff_exists.1 hgood
      refine finds_bind (appends_mapForecastPart _ _) fun dayPart => ?_
      refine finds_bind (appends_mapForecastPart _ _) fun nightPart => ?_
      iterate 2 refine finds_bind (appends_fixed _ _ _ _) fun _ => ?_
      exact finds_pure _
    · intro before date hbad
      obtain rfl := Option.not_isSome_iff_eq_none.1 hbad
      rfl
  · have hother : ∀ map, raw ≠ .object map := fun map heq => hobject ⟨map, heq⟩
    intro _
    have hlogs := logs_decodeSection_other hpresent hother ForecastDayDto.decode
      s!"predict.detail[{index}]"
    have hrest : Logs (mapForecastDay index raw) none _ := logs_bind hlogs (logs_pure none)
    rw [hrest.added_eq]
    exact List.cons_ne_nil _ _

theorem mapForecastDay_missing {raw : Json} (hmissing : isMissingValue raw = true) (index : ℕ) :
    mapForecastDay index raw = pure none := by
  rw [mapForecastDay, decodeSection_missing hmissing]
  rfl

theorem mapAlert_missing {raw : Json} (hmissing : isMissingValue raw = true) (base : BaseUrl) :
    mapAlert base (some raw) = pure none := by
  rw [mapAlert, decodeSection_missing hmissing]
  rfl

/-- Of a warning that is an object its text is read first. -/
theorem mapAlert_object {map : JsonMap} (hpresent : isMissingValue (.object map) = false)
    (base : BaseUrl) :
    ∃ k, mapAlert base (some (.object map)) =
        fixedString (map.field "alert") "real.warn.alert" >>= k ∧
      k none = pure none ∧ ∀ alert, Finds (k (some alert)) := by
  rw [mapAlert, decodeSection_object hpresent, pure_bind]
  refine ⟨_, rfl, rfl, fun alert => ?_⟩
  refine finds_bind (appends_fixed _ _ _ _) fun province => ?_
  refine finds_bind (appends_fixed _ _ _ _) fun city => ?_
  refine finds_bind (appends_resourceUrl _ _ _) fun url => ?_
  iterate 4 refine finds_bind (appends_fixed _ _ _ _) fun _ => ?_
  refine finds_bind (appends_resourceUrl _ _ _) fun iconUrl => ?_
  refine finds_bind (appends_fixed _ _ _ _) fun iconName => ?_
  exact finds_pure _

/-- The warning of the observed weather is reported, unless it is an object without a text. -/
theorem reported_mapAlert_iff {raw : Json} (hpresent : isMissingValue raw = false)
    (base : BaseUrl) : Reported (mapAlert base (some raw)) ↔
      ∀ map : JsonMap, raw = .object map →
        ∃ alert ∈ map.field "alert", isMissingValue alert = false := by
  by_cases hobject : ∃ map, raw = .object map
  · obtain ⟨map, rfl⟩ := hobject
    obtain ⟨k, hmap, hnone, hsome⟩ := mapAlert_object hpresent base
    rw [hmap]
    constructor
    · rintro hreported _ ⟨⟩
      by_contra hunnamed
      -- without the text nothing is read of the warning
      have hmissing : ∀ alert ∈ JsonMap.field map "alert", stringCandidate alert = .missing := by
        intro alert halert
        rw [stringCandidate_missing_iff]
        by_contra hnamed
        exact hunnamed ⟨alert, halert, Bool.eq_false_iff.2 hnamed⟩
      rw [fixedString, fixed_missing hmissing, pure_bind, hnone] at hreported
      exact hreported rfl rfl
    · intro hnamed
      obtain ⟨alert, halert, hpresentAlert⟩ := hnamed map rfl
      have hcandidate : stringCandidate alert ≠ .missing := by
        rw [ne_eq, stringCandidate_missing_iff, hpresentAlert]
        exact Bool.false_ne_true
      have htext := (appends_fixed (some alert) "real.warn.alert" "string" stringCandidate).logs
      have hadded : value (fixed (some alert) "real.warn.alert" "string" stringCandidate) = none →
          added (fixed (some alert) "real.warn.alert" "string" stringCandidate) ≠ [] :=
        added_fixed hcandidate
      rw [show JsonMap.field map "alert" = some alert from halert, fixedString]
      cases hvalue : value (fixed (some alert) "real.warn.alert" "string" stringCandidate) with
      | some text =>
        rw [hvalue] at htext
        obtain ⟨a, more, hfinds⟩ := hsome text
        have hrest : Finds (fixed (some alert) "real.warn.alert" "string" stringCandidate >>= k) :=
          ⟨a, _, logs_bind htext hfinds⟩
        exact hrest.reported
      | none =>
        rw [hvalue] at htext
        have hrest := logs_bind htext (hnone ▸ logs_pure none)
        intro _
        rw [hrest.added_eq, List.append_nil]
        exact hadded hvalue
  · have hother : ∀ map, raw ≠ .object map := fun map heq => hobject ⟨map, heq⟩
    refine ⟨fun _ map heq => absurd heq (hother map), fun _ _ => ?_⟩
    have hlogs := logs_decodeSection_other hpresent hother WarnDto.decode "real.warn"
    have hrest : Logs (mapAlert base (some raw)) none _ := logs_bind hlogs (logs_pure none)
    rw [hrest.added_eq]
    exact List.cons_ne_nil _ _

end Single

/-! ## What becomes of the entries -/

theorem isMissingValue_of_allMissing {values : List Json} (h : allMissing values = true) :
    ∀ value ∈ values, isMissingValue value = true := by
  induction values with
  | nil => exact fun _ hvalue => nomatch hvalue
  | cons value values ih =>
    rw [allMissing, Bool.and_eq_true] at h
    exact List.forall_mem_cons.2 ⟨h.1, ih h.2⟩

theorem isMissingValue_of_allValuesMissing {map : JsonMap} (h : allValuesMissing map = true) :
    ∀ entry ∈ map, isMissingValue entry.2 = true := by
  induction map with
  | nil => exact fun _ hentry => nomatch hentry
  | cons entry map ih =>
    rw [allValuesMissing, Bool.and_eq_true] at h
    exact List.forall_mem_cons.2 ⟨h.1, ih h.2⟩

/-- An object that is missing has no value that is not. -/
theorem isMissingValue_get {map : JsonMap} (h : isMissingValue (.object map) = true)
    {key : String} {raw : Json} (hraw : JsonMap.get map key = some raw) :
    isMissingValue raw = true := by
  obtain ⟨before, after, hmap, -⟩ := List.lookup_eq_some_iff.1 hraw
  rw [isMissingValue, Bool.or_eq_true, List.isEmpty_iff] at h
  rcases h with hempty | hvalues
  · rw [hempty] at hmap
    exact absurd hmap (by simp)
  · exact isMissingValue_of_allValuesMissing hvalues (key, raw) (by simp [hmap])

/-- The entries of a section that are not missing. -/
def presentOf (raw : Option Json) : List (ℕ × Json) :=
  (entriesOf raw).filter fun entry => !isMissingValue entry.2

/-- What is missing has no entries that are not. -/
theorem presentOf_missing {raw : Json} (h : isMissingValue raw = true) :
    presentOf (some raw) = [] := by
  refine List.filter_eq_nil_iff.2 ?_
  cases raw with
  | null | bool value | number value | string value => exact fun _ hentry => nomatch hentry
  | array values =>
    rintro ⟨index, entry⟩ hentry
    rw [isMissingValue, Bool.or_eq_true, List.isEmpty_iff] at h
    have hvalue : entry ∈ values := by
      obtain ⟨⟨value, i⟩, hmem, heq⟩ := List.mem_map.1 hentry
      cases heq
      exact List.fst_mem_of_mem_zipIdx hmem
    rcases h with rfl | hvalues
    · cases hvalue
    · simp [isMissingValue_of_allMissing hvalues entry hvalue]
  | object map =>
    intro entry hentry
    rw [List.mem_singleton.1 hentry, h]
    decide

/-- The entries that are read from a section. -/
theorem value_sequence (raw : Option Json) (path : String) :
    value (sequence raw path) = presentOf raw := by
  cases raw with
  | none => rfl
  | some raw =>
    unfold sequence sequenceCandidate
    dsimp only
    cases hmissing : isMissingValue raw with
    | true =>
      rw [presentOf_missing hmissing]
      rfl
    | false =>
      cases raw with
      | null | bool value | number value | string value | array values => rfl
      | object map =>
        have hpresent : presentOf (some (.object map)) = [(0, .object map)] :=
          List.filter_cons_of_pos (by simp [hmissing])
        rw [hpresent]
        rfl

theorem usable_entriesCandidate {raw : Json} {entries : List (ℕ × Json)}
    (h : (entriesCandidate raw).usable = some entries) : entries = presentOf (some raw) := by
  unfold entriesCandidate at h
  split_ifs at h with hmissing
  · cases h
  · cases raw with
    | null | bool value | number value | string value => cases h
    | array values =>
      cases h
      rfl
    | object map =>
      cases h
      simp [presentOf, entriesOf, hmissing]

section Entries

variable {α β : Type}

/-- Of the first value that can be used, what it can be used as. -/
theorem findSome?_bind (get : String → Option Json) (use : Json → Option β)
    (names : List String) : (names.findSome? fun name => (get name).bind use) =
      (names.findSome? fun name => (get name).filter fun raw => (use raw).isSome).bind use := by
  induction names with
  | nil => rfl
  | cons name names ih =>
    rw [List.findSome?_cons, List.findSome?_cons]
    cases get name with
    | none => exact ih
    | some raw =>
      rw [Option.bind_some, Option.filter_some]
      cases huse : use raw with
      | none => exact ih
      | some b => exact huse.symm

/-- The months are read from the first alias that can be used. -/
theorem value_aliasSequence (map : JsonMap) (path : String) :
    value (aliasSequence map ["month", "months"] path) =
      presentOf (monthsOf (some (.object map))) := by
  have hvalue : value (aliasSequence map ["month", "months"] path) =
      (value (lookupAliases map ["month", "months"] entriesCandidate
        s!"{path}: no alias contained an array or object; ignored")).getD [] := rfl
  rw [hvalue, lookupAliases_value, firstUsable, findSome?_bind]
  show ((monthsOf (some (.object map))).bind _).getD [] = _
  cases hmonths : monthsOf (some (.object map)) with
  | none => rfl
  | some months =>
    obtain ⟨name, -, hname⟩ := List.exists_of_findSome?_eq_some hmonths
    obtain ⟨entries, hentries⟩ := Option.isSome_iff_exists.1 (Option.filter_eq_some_iff.1 hname).2
    rw [Option.bind_some, hentries, Option.getD_some]
    exact usable_entriesCandidate hentries

/-- The entries are mapped one by one. -/
theorem logs_mapEntries {mapEntry : ℕ → Json → Mapping (Option α)}
    (h : ∀ index raw, Appends (mapEntry index raw)) (entries : List (ℕ × Json)) :
    Logs (mapEntries mapEntry entries)
      (entries.flatMap fun entry => (value (mapEntry entry.1 entry.2)).toList)
      (entries.flatMap fun entry => added (mapEntry entry.1 entry.2)) := by
  induction entries with
  | nil => exact logs_pure []
  | cons entry entries ih =>
    have hrest : Logs (do
        let rest ← mapEntries mapEntry entries
        return (value (mapEntry entry.1 entry.2)).toList ++ rest) _ _ :=
      logs_bind ih (logs_pure _)
    rw [List.append_nil] at hrest
    exact logs_bind (h entry.1 entry.2).logs hrest

/-- What is missing gives nothing. -/
theorem flatMap_present {f : ℕ × Json → List β}
    (hmissing : ∀ entry, isMissingValue entry.2 = true → f entry = [])
    (entries : List (ℕ × Json)) :
    (entries.filter fun entry => !isMissingValue entry.2).flatMap f = entries.flatMap f := by
  induction entries with
  | nil => rfl
  | cons entry entries ih =>
    rw [List.flatMap_cons, ← ih]
    cases h : isMissingValue entry.2 with
    | true =>
      rw [List.filter_cons_of_neg (by simp [h]), hmissing entry h]
      rfl
    | false => rw [List.filter_cons_of_pos (by simp [h]), List.flatMap_cons]

/-- The entries of a section and their warnings, where nothing comes of those that are missing. -/
theorem logs_mapEntries_present {mapEntry : ℕ → Json → Mapping (Option α)}
    (h : ∀ index raw, Appends (mapEntry index raw))
    (hmissing : ∀ index raw, isMissingValue raw = true → mapEntry index raw = pure none)
    (raw : Option Json) :
    Logs (mapEntries mapEntry (presentOf raw))
      ((entriesOf raw).flatMap fun entry => (value (mapEntry entry.1 entry.2)).toList)
      ((entriesOf raw).flatMap fun entry => added (mapEntry entry.1 entry.2)) := by
  have hlogs := logs_mapEntries h (presentOf raw)
  rw [presentOf, flatMap_present, flatMap_present] at hlogs
  · exact hlogs
  · intro entry hentry
    rw [hmissing _ _ hentry]
    rfl
  · intro entry hentry
    rw [hmissing _ _ hentry]
    rfl

end Entries

/-! ## What becomes of the sections -/

section Assembly

variable {α β : Type}

theorem sublist_flatMap (f : α → List β) {a : α} {as : List α} (h : a ∈ as) :
    (f a).Sublist (as.flatMap f) := by
  rw [List.flatMap_def]
  exact List.sublist_flatten_of_mem (List.mem_map_of_mem h)

section Usable

variable {fields : Mapping α} {hasFields : α → Bool}

/-- A section is what its fields are, if one of them is usable. -/
theorem value_mapUsable (h : Appends fields) (path : String) (map : JsonMap) :
    value (mapUsable path map fields hasFields) =
      if hasFields (value fields) then some (value fields) else none := by
  rw [value, mapUsable, run_counted h]
  cases hasFields (value fields) <;> rfl

/-- The warnings of its fields are warnings of the section. -/
theorem sublist_mapUsable (h : Appends fields) (path : String) (map : JsonMap) :
    (added fields).Sublist (added (mapUsable path map fields hasFields)) := by
  rw [added, added, mapUsable, run_counted h]
  cases hasFields (value fields) with
  | true => exact List.Sublist.refl _
  | false =>
    show (added fields).Sublist ((if _ then warn _ else pure ⟨⟩ : Mapping Unit).run _).2
    split_ifs
    · exact List.sublist_append_left _ _
    · exact List.Sublist.refl _

end Usable

variable [Sha256] [FloatFormat] (base : BaseUrl)

omit [Sha256] [FloatFormat] in
/-- What is missing has no months that can be used. -/
theorem monthsOf_missing {raw : Json} (h : isMissingValue raw = true) :
    monthsOf (some raw) = none := by
  cases raw with
  | null | bool value | number value | string value | array values => rfl
  | object map =>
    refine List.findSome?_eq_none_iff.2 fun name _ => ?_
    refine Option.filter_eq_none_iff.2 fun months hmonths => ?_
    unfold entriesCandidate
    rw [if_pos (isMissingValue_get h hmonths)]
    exact Bool.false_ne_true

omit [Sha256] in
/-- The climate has the months that are mapped, and their warnings are among its own. -/
theorem mapClimate_months (raw : Option Json) :
    (value (mapClimate raw)).toList.flatMap (·.month) =
        value (mapEntries mapClimateMonth (presentOf (monthsOf raw))) ∧
      (added (mapEntries mapClimateMonth (presentOf (monthsOf raw)))).Sublist
        (added (mapClimate raw)) := by
  cases raw with
  | none => exact ⟨rfl, List.nil_sublist _⟩
  | some raw =>
    cases hmissing : isMissingValue raw with
    | true =>
      rw [monthsOf_missing hmissing, mapClimate, mapFields_missing hmissing]
      exact ⟨rfl, List.nil_sublist _⟩
    | false =>
      by_cases hobject : ∃ map, raw = .object map
      · obtain ⟨map, rfl⟩ := hobject
        have hperiod : Appends (aliasString map ["period", "range"] "climate.period") :=
          appends_lookupAliases _ _ _ _
        have hentries : Appends (aliasSequence map ["month", "months"] "climate.month") :=
          appends_map (appends_lookupAliases _ _ _ _)
        have hmonths := (appends_mapEntries appends_mapClimateMonth
          (value (aliasSequence map ["month", "months"] "climate.month"))).logs
        have hfields : Logs (climateFields map) _ _ :=
          logs_bind hperiod.logs (logs_bind hentries.logs (logs_bind hmonths (logs_pure _)))
        have hsection : mapClimate (some (.object map)) =
            mapUsable "climate" map (climateFields map)
              fun climate => climate.period.isSome || !climate.month.isEmpty := by
          rw [mapClimate, mapFields, sectionObject, objectOf_object hmissing, pure_bind]
        rw [hsection, ← value_aliasSequence map "climate.month"]
        constructor
        · rw [value_mapUsable (appends_climateFields map), hfields.value_eq]
          split_ifs with husable
          · exact List.append_nil _
          · -- a climate without a usable field has no months
            rw [Bool.or_eq_true, not_or, Bool.not_eq_true', Bool.not_eq_false,
              List.isEmpty_iff] at husable
            exact husable.2.symm
        · refine List.Sublist.trans ?_ (sublist_mapUsable (appends_climateFields map) _ _)
          rw [hfields.added_eq, List.append_nil]
          exact (List.sublist_append_right _ _).trans (List.sublist_append_right _ _)
      · have hraw : monthsOf (some raw) = none := by
          cases raw with
          | object map => exact absurd ⟨map, rfl⟩ hobject
          | null | bool value | number value | string value | array values => rfl
        have hother : ∀ map, raw ≠ .object map := fun map heq => hobject ⟨map, heq⟩
        have hnone : Logs (mapClimate (some raw)) none _ :=
          logs_bind (logs_objectOf_other hmissing hother _) (logs_pure none)
        rw [hraw, hnone.value_eq]
        exact ⟨rfl, List.nil_sublist _⟩

omit [Sha256] [FloatFormat] in
/-- The fields of what is missing are missing. -/
theorem isMissingValue_fieldOf {raw : Json} (h : isMissingValue raw = true) {key : String}
    {field : Json} (hfield : fieldOf (some raw) key = some field) :
    isMissingValue field = true := by
  cases raw with
  | null | bool value | number value | string value | array values => cases hfield
  | object map =>
    have hget : JsonMap.get map key = some field := by
      unfold fieldOf JsonMap.field at hfield
      dsimp only at hfield
      split at hfield
      next => cases hfield
      next => exact hfield
    exact isMissingValue_get h hget

omit [Sha256] [FloatFormat] in
/-- What is no object has no fields. -/
theorem fieldOf_other {raw : Json} (h : ∀ map, raw ≠ .object map) (key : String) :
    fieldOf (some raw) key = none := by
  cases raw with
  | object map => exact absurd rfl (h map)
  | null | bool value | number value | string value | array values => rfl

/-- The forecast has the days that are mapped, and their warnings are among its own. -/
theorem mapPredict_days (raw : Option Json) :
    (value (mapPredict raw)).toList.flatMap (·.value.days) =
        value (mapEntries mapForecastDay (presentOf (fieldOf raw "detail"))) ∧
      (added (mapEntries mapForecastDay (presentOf (fieldOf raw "detail")))).Sublist
        (added (mapPredict raw)) := by
  cases raw with
  | none => exact ⟨rfl, List.nil_sublist _⟩
  | some raw =>
    cases hmissing : isMissingValue raw with
    | true =>
      have hdetail : presentOf (fieldOf (some raw) "detail") = [] := by
        cases hfield : fieldOf (some raw) "detail" with
        | none => rfl
        | some detail => exact presentOf_missing (isMissingValue_fieldOf hmissing hfield)
      rw [hdetail, mapPredict, decodeSection_missing hmissing]
      exact ⟨rfl, List.nil_sublist _⟩
    | false =>
      by_cases hobject : ∃ map, raw = .object map
      · obtain ⟨map, rfl⟩ := hobject
        have hstation := appends_mapStation (JsonMap.field map "station") "predict.station"
        have hpublishTime : Appends
            (fixedString (JsonMap.field map "publish_time") "predict.publish_time") :=
          appends_fixed _ _ _ _
        have hentries := appends_sequence (JsonMap.field map "detail") "predict.detail"
        have hdays := (appends_mapEntries appends_mapForecastDay
          (value (sequence (JsonMap.field map "detail") "predict.detail"))).logs
        have hpredict : Logs (mapPredict (some (.object map))) _ _ :=
          logs_bind (logs_decodeSection_object hmissing _ _) (logs_bind hstation.logs
            (logs_bind hpublishTime.logs (logs_bind hentries.logs (logs_bind hdays (logs_pure _)))))
        have hdetail : value (sequence (JsonMap.field map "detail") "predict.detail") =
            presentOf (fieldOf (some (.object map)) "detail") := value_sequence _ _
        rw [hpredict.value_eq, hpredict.added_eq, hdetail, List.append_nil, List.nil_append]
        exact ⟨List.append_nil _, (List.sublist_append_right _ _).trans
          ((List.sublist_append_right _ _).trans (List.sublist_append_right _ _))⟩
      · have hother : ∀ map, raw ≠ .object map := fun map heq => hobject ⟨map, heq⟩
        have hnone : Logs (mapPredict (some raw)) none _ :=
          logs_bind (logs_decodeSection_other hmissing hother _ _) (logs_pure none)
        rw [fieldOf_other hother, hnone.value_eq]
        exact ⟨rfl, List.nil_sublist _⟩

omit [Sha256] in
/-- Of the alerts the observed weather has only the one that is given. -/
theorem yields_mapObserved_alerts (real : RealDto) (weather : Option RealWeatherDto)
    (wind : Option WindDto) (alert : Option WeatherAlert) (sun : Option SunriseSunsetDto) :
    Yields (fun observed => observed.alerts = alert.toList)
      (mapObserved real weather wind alert sun) := by
  iterate 17 refine yields_bind (yields_true _) fun _ _ => ?_
  exact yields_pure rfl

/-- The observed weather has the alert that is mapped, and its warnings are among its own. -/
theorem mapReal_alerts (raw : Option Json) :
    (value (mapReal base raw)).toList.flatMap (·.value.alerts) =
        (value (mapAlert base (fieldOf raw "warn"))).toList ∧
      (added (mapAlert base (fieldOf raw "warn"))).Sublist (added (mapReal base raw)) := by
  cases raw with
  | none => exact ⟨rfl, List.nil_sublist _⟩
  | some raw =>
    cases hmissing : isMissingValue raw with
    | true =>
      have hwarn : mapAlert base (fieldOf (some raw) "warn") = pure none := by
        cases hfield : fieldOf (some raw) "warn" with
        | none => rfl
        | some warn => exact mapAlert_missing (isMissingValue_fieldOf hmissing hfield) base
      rw [hwarn, mapReal, decodeSection_missing hmissing]
      exact ⟨rfl, List.nil_sublist _⟩
    | false =>
      by_cases hobject : ∃ map, raw = .object map
      · obtain ⟨map, rfl⟩ := hobject
        have hstation := appends_mapStation (JsonMap.field map "station") "real.station"
        have hweather := appends_decodeSection RealWeatherDto.decode
          (JsonMap.field map "weather") "real.weather"
        have hwind := appends_decodeSection WindDto.decode (JsonMap.field map "wind") "real.wind"
        have halert := appends_mapAlert base (JsonMap.field map "warn")
        have hsun := appends_decodeSection SunriseSunsetDto.decode
          (JsonMap.field map "sunriseSunset") "real.sunriseSunset"
        have hreal : Logs (mapReal base (some (.object map))) _ _ :=
          logs_bind (logs_decodeSection_object hmissing _ _) (logs_bind hstation.logs
            (logs_bind hweather.logs (logs_bind hwind.logs (logs_bind halert.logs
              (logs_bind hsun.logs (logs_bind (appends_mapObserved _ _ _ _ _).logs (logs_pure _)))))))
        rw [hreal.value_eq, hreal.added_eq, List.nil_append]
        constructor
        · exact (List.append_nil _).trans (yields_mapObserved_alerts _ _ _ _ _).value
        · have hpart := List.sublist_append_left (added (mapAlert base (JsonMap.field map "warn")))
          exact (hpart _).trans ((List.sublist_append_right _ _).trans
            ((List.sublist_append_right _ _).trans (List.sublist_append_right _ _)))
      · have hother : ∀ map, raw ≠ .object map := fun map heq => hobject ⟨map, heq⟩
        have hnone : Logs (mapReal base (some raw)) none _ :=
          logs_bind (logs_decodeSection_other hmissing hother _ _) (logs_pure none)
        rw [fieldOf_other hother, hnone.value_eq]
        exact ⟨rfl, List.nil_sublist _⟩

omit [Sha256] [FloatFormat] in
/-- The entries of a section, with the warnings of the section before those of its entries. -/
theorem logs_entries {mapEntry : ℕ → Json → Mapping (Option α)}
    (h : ∀ index raw, Appends (mapEntry index raw))
    (hmissing : ∀ index raw, isMissingValue raw = true → mapEntry index raw = pure none)
    (raw : Option Json) (path : String) :
    Logs (sequence raw path >>= mapEntries mapEntry)
      ((entriesOf raw).flatMap fun entry => (value (mapEntry entry.1 entry.2)).toList)
      (added (sequence raw path) ++
        (entriesOf raw).flatMap fun entry => added (mapEntry entry.1 entry.2)) := by
  refine logs_bind (appends_sequence raw path).logs ?_
  rw [value_sequence]
  exact logs_mapEntries_present h hmissing raw

omit [Sha256] [FloatFormat] in
/-- The warnings of an entry are among those of all. -/
theorem sublist_mapEntries {mapEntry : ℕ → Json → Mapping (Option α)}
    (h : ∀ index raw, Appends (mapEntry index raw))
    (hmissing : ∀ index raw, isMissingValue raw = true → mapEntry index raw = pure none)
    {raw : Option Json} {entry : ℕ × Json} (hentry : entry ∈ entriesOf raw) :
    (added (mapEntry entry.1 entry.2)).Sublist
      (added (mapEntries mapEntry (presentOf raw))) := by
  rw [(logs_mapEntries_present h hmissing raw).added_eq]
  exact sublist_flatMap (fun entry => added (mapEntry entry.1 entry.2)) hentry

/-- How the snapshot and the warnings come about. -/
theorem mapWeather_assembled (data : WeatherDataDto) :
    Assembled base data (mapWeather base data) := by
  have htempchart := logs_entries appends_mapTemperatureChart
    (fun index raw h => mapFields_missing h _) data.tempchart "tempchart"
  have hpassedchart := logs_entries appends_mapPassedChart
    (fun index raw h => mapFields_missing h _) data.passedchart "passedchart"
  have hsnapshot : Logs (mapSnapshot base data) _ _ :=
    logs_bind (appends_mapReal base data.real).logs <|
      logs_bind (appends_mapPredict data.predict).logs <|
      logs_bind (appends_mapAirQuality data.air).logs <|
      logs_bind htempchart <| logs_bind hpassedchart <|
      logs_bind (appends_mapClimate data.climate).logs <|
      logs_bind (appends_mapRadar base data.radar).logs (logs_pure _)
  have hvalue : (mapWeather base data).value = _ := hsnapshot.value_eq
  have hwarnings : (mapWeather base data).warnings = _ := hsnapshot.added_eq
  have hmonths := mapClimate_months data.climate
  have hdays := mapPredict_days data.predict
  have halerts := mapReal_alerts base data.real
  have hmonth := logs_mapEntries_present appends_mapClimateMonth
    (fun index raw h => mapFields_missing h _) (monthsOf data.climate)
  have hday := logs_mapEntries_present appends_mapForecastDay
    (fun index raw h => mapForecastDay_missing h index) (fieldOf data.predict "detail")
  constructor
  case air =>
    rw [hvalue]
    cases data.air <;> rfl
  case climate =>
    rw [hvalue]
    cases data.climate <;> rfl
  case radar =>
    rw [hvalue]
    cases data.radar <;> rfl
  case tempchart => rw [hvalue]
  case passedchart => rw [hvalue]
  case months => rw [hvalue, ← hmonth.value_eq, ← hmonths.1]
  case days =>
    rw [hvalue, ← hday.value_eq, ← hdays.1]
    cases value (mapPredict data.predict) <;> rfl
  case alerts =>
    have hwarn : (fieldOf data.real "warn").toList.flatMap
        (fun raw => (value (mapAlert base (some raw))).toList) =
          (value (mapAlert base (fieldOf data.real "warn"))).toList := by
      cases fieldOf data.real "warn" with
      | none => rfl
      | some raw => exact List.append_nil _
    rw [hvalue, hwarn, ← halerts.1]
    cases value (mapReal base data.real) <;> rfl
  case warnings =>
    have hflat : (mapWeather base data).warnings = [added (mapReal base data.real),
        added (mapPredict data.predict), added (mapAirQuality data.air),
        added (sequence data.tempchart "tempchart"),
        (entriesOf data.tempchart).flatMap fun entry => added (mapTemperatureChart entry.1 entry.2),
        added (sequence data.passedchart "passedchart"),
        (entriesOf data.passedchart).flatMap fun entry => added (mapPassedChart entry.1 entry.2),
        added (mapClimate data.climate), added (mapRadar base data.radar)].flatten := by
      rw [hwarnings]
      simp only [List.flatten_cons, List.flatten_nil, List.append_assoc]
    rw [hflat]
    intro part hpart
    simp only [parts, List.mem_append, List.mem_map, Option.mem_toList] at hpart
    rcases hpart with ((((((hair | hclimate) | hradar) | htemp) | hpassed) | hmonth) | hday) | hwarn
    · obtain ⟨raw, hraw, rfl⟩ := hair
      rw [hraw]
      exact List.sublist_flatten_of_mem (by simp [Part.of])
    · obtain ⟨raw, hraw, rfl⟩ := hclimate
      rw [hraw]
      exact List.sublist_flatten_of_mem (by simp [Part.of])
    · obtain ⟨raw, hraw, rfl⟩ := hradar
      rw [hraw]
      exact List.sublist_flatten_of_mem (by simp [Part.of])
    · obtain ⟨entry, hentry, rfl⟩ := htemp
      have hchart := sublist_flatMap (fun entry => added (mapTemperatureChart entry.1 entry.2)) hentry
      exact hchart.trans (List.sublist_flatten_of_mem (by simp))
    · obtain ⟨entry, hentry, rfl⟩ := hpassed
      have hchart := sublist_flatMap (fun entry => added (mapPassedChart entry.1 entry.2)) hentry
      exact hchart.trans (List.sublist_flatten_of_mem (by simp))
    · obtain ⟨entry, hentry, rfl⟩ := hmonth
      have hclimate := (sublist_mapEntries appends_mapClimateMonth
        (fun index raw h => mapFields_missing h _) hentry).trans hmonths.2
      exact hclimate.trans (List.sublist_flatten_of_mem (by simp))
    · obtain ⟨entry, hentry, rfl⟩ := hday
      have hpredict := (sublist_mapEntries appends_mapForecastDay
        (fun index raw h => mapForecastDay_missing h index) hentry).trans hdays.2
      exact hpredict.trans (List.sublist_flatten_of_mem (by simp))
    · obtain ⟨raw, hraw, rfl⟩ := hwarn
      have hreal := halerts.2
      rw [hraw] at hreal
      exact hreal.trans (List.sublist_flatten_of_mem (by simp))

omit [Sha256] in
/-- Each part but the warning of the observed weather is reported. -/
theorem nothingDropped_iff (data : WeatherDataDto) :
    NothingDropped base data ↔ ∀ raw ∈ fieldOf data.real "warn", isMissingValue raw = false →
      Reported (mapAlert base (some raw)) := by
  have hreported : ∀ {γ : Type} {raw : Json} {m : Mapping (Option γ)},
      Reported m → (Part.of raw m).mapped = false → (Part.of raw m).warnings ≠ [] :=
    fun h hmapped => h (Option.not_isSome_iff_eq_none.1 (Bool.eq_false_iff.1 hmapped))
  constructor
  · intro hnothing raw hraw hpresent hvalue
    have hpart : Part.of raw (mapAlert base (some raw)) ∈ parts base data :=
      List.mem_append_right _ (List.mem_map.2 ⟨raw, Option.mem_toList.2 hraw, rfl⟩)
    refine hnothing _ hpart hpresent ?_
    show (value (mapAlert base (some raw))).isSome = false
    rw [hvalue]
    rfl
  · intro hwarn part hpart hpresent hmapped
    simp only [parts, List.mem_append, List.mem_map, Option.mem_toList] at hpart
    rcases hpart with ((((((hair | hclimate) | hradar) | htemp) | hpassed) | hmonth) | hday) | halert
    · obtain ⟨raw, -, rfl⟩ := hair
      exact hreported (reported_mapFields appends_airFields hpresent _) hmapped
    · obtain ⟨raw, -, rfl⟩ := hclimate
      exact hreported (reported_mapFields appends_climateFields hpresent _) hmapped
    · obtain ⟨raw, -, rfl⟩ := hradar
      exact hreported (reported_mapFields (appends_radarFields base) hpresent _) hmapped
    · obtain ⟨entry, -, rfl⟩ := htemp
      exact hreported (reported_mapFields (appends_temperatureChartFields _) hpresent _) hmapped
    · obtain ⟨entry, -, rfl⟩ := hpassed
      exact hreported (reported_mapFields (appends_passedChartFields _) hpresent _) hmapped
    · obtain ⟨entry, -, rfl⟩ := hmonth
      exact hreported (reported_mapFields (appends_climateMonthFields _) hpresent _) hmapped
    · obtain ⟨entry, -, rfl⟩ := hday
      exact hreported (reported_mapForecastDay hpresent _) hmapped
    · obtain ⟨raw, hraw, rfl⟩ := halert
      exact hreported (hwarn raw hraw hpresent) hmapped

omit [Sha256] [FloatFormat] in
theorem aliasLaw : AliasLaw base where
  fields map aliases _ _ convert warnings := lookupAliases_fst map aliases convert _ warnings
  links map aliases _ warnings := lookupAliases_fst map aliases _ _ warnings
  entries map aliases _ warnings :=
    congrArg (Option.getD · []) (lookupAliases_fst map aliases _ _ warnings)

/-- A response is put together of its parts, an alias lookup returns the value of the first alias
that has one, and nothing is dropped exactly if the warning of the observed weather has a text. -/
theorem mapper_reports_iff (data : WeatherDataDto) :
    Assembled base data (mapWeather base data) ∧ AliasLaw base ∧
      (NothingDropped base data ↔ AlertNamed data) := by
  refine ⟨mapWeather_assembled base data, aliasLaw base, ?_⟩
  rw [nothingDropped_iff]
  constructor
  · intro hreported map hraw hpresent
    exact (reported_mapAlert_iff hpresent base).1 (hreported _ hraw hpresent) map rfl
  · intro hnamed raw hraw hpresent
    refine (reported_mapAlert_iff hpresent base).2 fun map heq => ?_
    subst heq
    exact hnamed map hraw hpresent

end Assembly

/-- Observed weather with a warning that only has a level. -/
def sampleUnnamedAlert : WeatherDataDto where
  real := some (.object [("warn", .object [("signallevel", .string "黄色")])])
  predict := none
  air := none
  tempchart := none
  passedchart := none
  climate := none
  radar := none

/-- The warning is dropped without a word. -/
theorem mapper_drops_alert :
    ¬ @NothingDropped sampleFloats sampleBase sampleUnnamedAlert := by
  intro hnothing
  have hpart := hnothing (@Part.of _ (.object [("signallevel", .string "黄色")])
    (@mapAlert sampleFloats sampleBase (some (.object [("signallevel", .string "黄色")]))))
    (List.mem_singleton.2 rfl)
  exact hpart (by decide +kernel) (by decide +kernel) (by decide +kernel)

end WeatherApp.Nmc
