import WeatherApp.Engine.PlainCalls
import WeatherApp.Schema.StationPath

/-!
# The parent of a station

An answer inherits the alerts of the station that the first two pieces of its name give, and the air
of the station that is put together from its province. Both are one station.

## Main definitions

* `StationRow`: a row of the catalog whose texts can stand in a name. `StationRow.path`: the path
  of its station.
* `Call.InheritsFrom`: the calls of a program that inherits from one station alone.

## Main results

* `StationRow.name_path`: the canonical name is the text of the path.
* `parentNames_agree`: the two ways to the parent agree.
-/

namespace WeatherApp

/-- A row of the catalog: its province, what is left of it without its suffix, and its city can
stand in a station path. -/
structure StationRow where
  province : String
  city : String
  region_clean : IsComponent (shortRegionName province)
  province_clean : IsComponent province
  city_clean : IsComponent city

namespace StationRow

/-- The city says no more than the province. -/
def Redundant (row : StationRow) : Prop :=
  row.city = shortRegionName row.province ∨ row.city = row.province

instance (row : StationRow) : Decidable row.Redundant := by
  unfold Redundant
  infer_instance

/-- The path of the province's own station. -/
def provincePath (row : StationRow) : StationPath where
  components := [shortRegionName row.province, row.province]
  clean := by simp [row.region_clean, row.province_clean]

/-- The path of the station. -/
def path (row : StationRow) : StationPath :=
  if row.Redundant then row.provincePath
  else
    { components := [shortRegionName row.province, row.province, row.city]
      clean := by simp [row.region_clean, row.province_clean, row.city_clean] }

/-- The canonical name is the text of the path. -/
theorem name_path (row : StationRow) :
    row.path.name = canonicalStationName row.province row.city := by
  rw [path]
  by_cases h : row.Redundant
  · rw [if_pos h]
    exact (if_pos h).symm
  · rw [if_neg h]
    exact (if_neg h).symm

theorem name_provincePath (row : StationRow) : row.provincePath.name =
    canonicalStationName row.province (shortRegionName row.province) :=
  (if_pos (Or.inl rfl)).symm

/-- The parent is the province's own station, unless the station is that itself. -/
theorem parent_path (row : StationRow) :
    row.path.parent = if row.Redundant then none else some row.provincePath := by
  rw [path]
  split_ifs <;> rfl

/-- The same of the names. -/
theorem parentStationName_canonicalStationName (row : StationRow) :
    parentStationName (canonicalStationName row.province row.city) =
      if row.Redundant then none
      else some (canonicalStationName row.province (shortRegionName row.province)) := by
  rw [← name_path, parentStationName_name, parent_path]
  split_ifs
  · rfl
  · rw [Option.map_some, name_provincePath]

end StationRow

namespace Weather

/-- In a municipality the name for the air is put together as that for the alerts. -/
theorem municipalityAirParentName_eq {province municipality : String}
    (hprovince : province = municipality ++ "市") (hne : shortRegionName province ≠ "")
    (city : String) :
    municipalityAirParentName province city =
      if city = shortRegionName province ∨ city = province then none
      else some (canonicalStationName province (shortRegionName province)) := by
  have hsuffix : stripSuffix province "市" ≠ none := by
    rw [hprovince, stripSuffix_append]
    exact Option.some_ne_none municipality
  have hempty : (shortRegionName province).isEmpty = false := by
    rw [Bool.eq_false_iff, ne_eq, String.isEmpty_iff]
    exact hne
  rw [municipalityAirParentName, if_neg hsuffix]
  simp only [hempty, Bool.false_eq_true, false_or]

/-- The call reads the snapshot of a station, or what its freshness depends on. -/
def Call.InheritsFrom [Sha256] (name : String) : Call → Prop
  | .db command => command = .getLatestSnapshot (unifiedStationUuid name)
  | .input query => query = .config ∨ query = .now
  | _ => False

section Agreement

variable [Sha256] {Tz : Type} [TzDatabase Tz]

/-- For a row whose texts are trimmed and free of hyphens, the parent of the canonical name is the
province's own station exactly if the city names another one, and absent otherwise. In a
municipality the station for the air is the same one, so that an answer inherits everything from
it. -/
theorem parentNames_agree {province city : String} (hcity : city ≠ "")
    (hregion : shortRegionName province ≠ "")
    (hclean : ∀ value ∈ [province, shortRegionName province, city],
      trim value = value ∧ '-' ∉ value.toList) :
    (parentStationName (canonicalStationName province city) =
        some (canonicalStationName province (shortRegionName province)) ↔
      city ≠ province ∧ city ≠ shortRegionName province) ∧
    (¬ (city ≠ province ∧ city ≠ shortRegionName province) →
      parentStationName (canonicalStationName province city) = none) ∧
    ∀ municipality, province = municipality ++ "市" →
      municipalityAirParentName province city =
        parentStationName (canonicalStationName province city) ∧
      ∀ snapshot (station : ProviderStation), station.province = province → station.city = city →
        station.name = canonicalStationName province city →
        Makes (Call.InheritsFrom (canonicalStationName province (shortRegionName province)))
          (enrich Tz snapshot station) := by
  -- a province with an empty text would have an empty short form
  have hprovince : province ≠ "" := by
    rintro rfl
    exact hregion (by decide)
  simp only [List.forall_mem_cons, List.not_mem_nil] at hclean
  obtain ⟨hprovinceClean, hregionClean, hcityClean, -⟩ := hclean
  let row : StationRow :=
    { province, city
      region_clean := ⟨hregionClean.1, hregion, hregionClean.2⟩
      province_clean := ⟨hprovinceClean.1, hprovince, hprovinceClean.2⟩
      city_clean := ⟨hcityClean.1, hcity, hcityClean.2⟩ }
  have hparent : parentStationName (canonicalStationName province city) =
      if city = shortRegionName province ∨ city = province then none
      else some (canonicalStationName province (shortRegionName province)) :=
    row.parentStationName_canonicalStationName
  have hredundant : ¬ (city = shortRegionName province ∨ city = province) ↔
      city ≠ province ∧ city ≠ shortRegionName province := by
    rw [not_or, and_comm]
  rw [hparent, ← hredundant]
  refine ⟨?_, fun h => if_pos (not_not.1 h), fun municipality hmunicipality => ⟨?_, ?_⟩⟩
  · simp
  · exact municipalityAirParentName_eq hmunicipality hregion city
  · rintro snapshot station rfl rfl hname
    have hair := municipalityAirParentName_eq hmunicipality hregion station.city
    -- whichever way the parent is found, it is the province's own station
    refine makes_enrich (.inl rfl) (.inr rfl) ?_ ?_
    · intro parentName hparentName
      rw [hair, Option.mem_def] at hparentName
      split_ifs at hparentName
      cases hparentName
      rfl
    · intro parentName hparentName
      rw [hname, hparent, Option.mem_def] at hparentName
      split_ifs at hparentName
      cases hparentName
      rfl

end Agreement

/-- A district of Beijing. -/
theorem parentNames_agree_sample :
    parentStationName (canonicalStationName "北京市" "朝阳") = some "北京-北京市" ∧
      municipalityAirParentName "北京市" "朝阳" = some "北京-北京市" := by
  have hagree := @parentNames_agree sampleSha256 SampleZone _ "北京市" "朝阳" (by decide) (by decide)
    (by decide)
  have hparent := hagree.1.2 ⟨by decide, by decide⟩
  exact ⟨hparent, (hagree.2.2 "北京" (by decide)).1.trans hparent⟩

end Weather

end WeatherApp
