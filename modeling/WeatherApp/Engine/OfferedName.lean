import WeatherApp.Engine.Fuzzy
import WeatherApp.Updater.Catalog

/-!
# Offered names in the configuration

A search offers a station under its canonical name, which the provider's rows are put together to
as they are. A configuration that takes the name trims its pieces and drops the empty ones. The
name survives if and only if the row leaves nothing to trim or drop.

## Main definitions

* `CleanPieces`, `CleanRow`: texts with nothing to trim or drop between their separators.
* `FirstOfName`: the station that a lookup of its name finds first.

## Main results

* `normalizeStationName_eq_self_iff`: the names that are normalized already.
* `offeredName_survives_iff`: the rows whose canonical name survives.
-/

namespace WeatherApp

open Ranking

/-! ## Normalized names -/

/-- Every piece between separators is trimmed and not empty. -/
def CleanPieces (value : String) : Prop :=
  ∀ piece ∈ splitOnChar value '-', piece ≠ "" ∧ trim piece = piece

instance (value : String) : Decidable (CleanPieces value) := by
  unfold CleanPieces
  infer_instance

/-- The pieces of joined texts are those of each. -/
theorem splitOnChar_append (first second : String) :
    splitOnChar (first ++ "-" ++ second) '-' =
      splitOnChar first '-' ++ splitOnChar second '-' := by
  have hchars : (first ++ "-" ++ second).toList = first.toList ++ '-' :: second.toList := by
    simp [String.toList_append]
  rw [splitOnChar, hchars, List.splitOn_append_cons_self, List.map_append]
  rfl

theorem cleanPieces_append {first second : String} :
    CleanPieces (first ++ "-" ++ second) ↔ CleanPieces first ∧ CleanPieces second := by
  unfold CleanPieces
  rw [splitOnChar_append, List.forall_mem_append]

/-- Joining undoes splitting at the separator. -/
theorem intercalate_splitOnChar (value : String) :
    "-".intercalate (splitOnChar value '-') = value := by
  apply String.toList_inj.1
  have hpieces : (splitOnChar value '-').map String.toList = value.toList.splitOn '-' := by
    rw [splitOnChar, List.map_map]
    exact List.map_id'' (fun cs => String.toList_ofList) _
  rw [String.toList_intercalate, hpieces]
  exact List.intercalate_splitOn '-'

/-- The names that are normalized already. -/
theorem normalizeStationName_eq_self_iff {name : String} (hname : name ≠ "") :
    normalizeStationName name = name ↔ CleanPieces name := by
  constructor
  · intro h piece hpiece
    have hparts := fun part => @mem_stationParts name part
    unfold normalizeStationName at h
    generalize ((splitOnChar name '-').map trim).filter (· ≠ "") = parts at h hparts
    have hne : parts ≠ [] := by
      rintro rfl
      exact hname h.symm
    -- The name is its parts joined, so that its pieces are its parts.
    have hsplit : splitOnChar ("-".intercalate parts) '-' = parts :=
      splitOnChar_intercalate hne fun part hpart => (hparts part hpart).2.2
    rw [h] at hsplit
    rw [hsplit] at hpiece
    obtain ⟨htrim, hempty, -⟩ := hparts piece hpiece
    exact ⟨hempty, htrim⟩
  · intro h
    have htrimmed : (splitOnChar name '-').map trim = splitOnChar name '-' := by
      rw [List.map_congr_left fun piece hpiece => (h piece hpiece).2, List.map_id']
    rw [normalizeStationName, htrimmed, List.filter_eq_self.2, intercalate_splitOnChar]
    intro piece hpiece
    exact decide_eq_true (h piece hpiece).1

/-- A row of the catalog whose texts have nothing to trim or drop: the province, what is left of it
without its suffix, and the city where it is part of the name. -/
def CleanRow (province city : String) : Prop :=
  CleanPieces (shortRegionName province) ∧ CleanPieces province ∧
    (city ≠ shortRegionName province → city ≠ province → CleanPieces city)

instance (province city : String) : Decidable (CleanRow province city) := by
  unfold CleanRow
  infer_instance

/-- A canonical name is normalized if and only if its row is clean. -/
theorem normalize_canonicalStationName_iff {province city : String} :
    normalizeStationName (canonicalStationName province city) = canonicalStationName province city ↔
      CleanRow province city := by
  have hne : canonicalStationName province city ≠ "" := by
    obtain ⟨rest, hrest⟩ := canonicalStationName_toList province city
    intro hempty
    rw [hempty] at hrest
    simp at hrest
  rw [normalizeStationName_eq_self_iff hne]
  unfold CleanRow
  by_cases hcity : city = shortRegionName province ∨ city = province
  · have hname : canonicalStationName province city = shortRegionName province ++ "-" ++ province := by
      simp only [canonicalStationName, if_pos hcity]
      rfl
    rw [hname, cleanPieces_append]
    constructor
    · rintro ⟨hshort, hprovince⟩
      refine ⟨hshort, hprovince, ?_⟩
      intro hshort' hprovince'
      exact absurd hcity (not_or.2 ⟨hshort', hprovince'⟩)
    · rintro ⟨hshort, hprovince, -⟩
      exact ⟨hshort, hprovince⟩
  · have hname : canonicalStationName province city =
        shortRegionName province ++ "-" ++ province ++ "-" ++ city := by
      simp only [canonicalStationName, if_neg hcity]
      rfl
    obtain ⟨hshort', hprovince'⟩ := not_or.1 hcity
    rw [hname, cleanPieces_append, cleanPieces_append, and_assoc]
    simp only [ne_eq, hshort', hprovince', not_false_eq_true, true_imp_iff]

/-! ## Looking the name up -/

section Lookup

variable [Sha256]

/-- The station is among the cities and comes before the others of its name, by province, city
and code. -/
def FirstOfName (providerName : String) (cities : List ProviderCity) (station : ProviderStation) :
    Prop :=
  (∃ city ∈ cities, city.station providerName = station) ∧
    ∀ other ∈ cities, canonicalStationName other.province other.city = station.name →
      toLex (station.province, toLex (station.city, station.providerStationId)) ≤
        toLex (other.province, toLex (other.city, other.providerCode))

variable [UnicodeTables] {providerName : String} {provinces : List ProviderProvince}
  {scopes : String → List ProviderCity}

omit [Sha256] [UnicodeTables] in
theorem lookupCities_subset {name : String} {city : ProviderCity}
    (hcity : city ∈ lookupCities provinces scopes name) : city ∈ indexCities scopes provinces := by
  unfold lookupCities at hcity
  split_ifs at hcity
  · exact hcity
  · exact indexCities_subset List.filter_sublist hcity

omit [Sha256] [UnicodeTables] in
/-- Stations of one name are ranked by province, city and code. -/
theorem stationRank_le_iff {a b : ProviderStation} (hname : a.name = b.name) :
    stationRank a ≤ stationRank b ↔
      toLex (a.province, toLex (a.city, a.providerStationId)) ≤
        toLex (b.province, toLex (b.city, b.providerStationId)) := by
  simp only [stationRank, Prod.Lex.toLex_le_toLex, hname, lt_irrefl, true_and, false_or]

omit [UnicodeTables] in
/-- A lookup of its name finds a station if and only if it is the first of that name among the
cities that the lookup searches. -/
theorem resolve_station_iff (hvalid : ValidCatalog provinces scopes) {station : ProviderStation} :
    resolveStationNameFromTargetedIndex providerName provinces scopes station.name = .ok station ↔
      FirstOfName providerName (lookupCities provinces scopes station.name) station := by
  rw [resolve_eq hvalid]
  constructor
  · intro h
    split at h
    next => exact nomatch h
    next found hhead =>
      obtain rfl := Except.ok.inj h
      have hleast : ∀ other ∈ lookupCandidates providerName provinces scopes found.name,
          stationRank found ≤ stationRank other :=
        fun other hother => (head_sortBy_le stationStableCmp_ne_gt hhead hother).2
      obtain ⟨city, hcity, hname, hstation⟩ :=
        mem_lookupCandidates.1 (mem_sortBy.1 (List.mem_of_head? hhead))
      refine ⟨⟨city, hcity, hstation⟩, ?_⟩
      intro other hother hotherName
      have hrank := hleast (other.station providerName)
        (mem_lookupCandidates.2 ⟨other, hother, hotherName, rfl⟩)
      exact (stationRank_le_iff hotherName.symm).1 hrank
  · rintro ⟨⟨city, hcity, rfl⟩, hfirst⟩
    have hmem : city.station providerName ∈ lookupCandidates providerName provinces scopes
        (city.station providerName).name := mem_lookupCandidates.2 ⟨city, hcity, rfl, rfl⟩
    cases hhead : (sortBy stationStableCmp (lookupCandidates providerName provinces scopes
        (city.station providerName).name)).head? with
    | none =>
      rw [List.head?_eq_none_iff] at hhead
      exact absurd (mem_sortBy.2 hmem) (hhead ▸ List.not_mem_nil)
    | some found =>
      obtain ⟨other, hother, hname, rfl⟩ :=
        mem_lookupCandidates.1 (mem_sortBy.1 (List.mem_of_head? hhead))
      -- Each ranks before the other, so that they have one code.
      have hle := (stationRank_le_iff hname).1 (head_sortBy_le stationStableCmp_ne_gt hhead hmem).2
      have heq := le_antisymm hle (hfirst other hother hname)
      have hcode : other.providerCode = city.providerCode := by
        injection heq with _ hrest
        injection hrest
      have hsame := hvalid.eq_of_code_eq (lookupCities_subset hother) (lookupCities_subset hcity) hcode
      rw [hsame]

/-- The canonical name of a row that the mapper accepts is normalized if and only if the row is
clean. A station that is offered keeps its name and its identity in a configuration, and a lookup
finds it there, if and only if its row is clean and it is the first of its name among the cities
that the lookup searches. -/
theorem offeredName_survives_iff :
    (∀ requiredResourceUrl rows providerProvinceCode cities,
      mapCities requiredResourceUrl rows providerProvinceCode = .ok cities →
      ∀ city ∈ cities, normalizeStationName (canonicalStationName city.province city.city) =
        canonicalStationName city.province city.city ↔ CleanRow city.province city.city) ∧
    (∀ providerName provinces scopes, ValidCatalog provinces scopes →
      ∀ offered, FoundBy providerName provinces scopes offered →
        ((normalizeStationName offered.name = offered.name ∧
            unifiedStationUuid (normalizeStationName offered.name) = offered.unifiedUuid ∧
            resolveStationNameFromTargetedIndex providerName provinces scopes
              (normalizeStationName offered.name) = .ok offered) ↔
          CleanRow offered.province offered.city ∧
            FirstOfName providerName (lookupCities provinces scopes offered.name) offered)) := by
  refine ⟨fun _ _ _ _ _ _ _ => normalize_canonicalStationName_iff, ?_⟩
  intro providerName provinces scopes hvalid offered hfound
  obtain ⟨_, city, -, -, rfl⟩ := hfound.least hvalid
  have hclean : normalizeStationName (city.station providerName).name =
      (city.station providerName).name ↔ CleanRow city.province city.city :=
    normalize_canonicalStationName_iff
  constructor
  · rintro ⟨hname, -, hresolve⟩
    rw [hname] at hresolve
    exact ⟨hclean.1 hname, (resolve_station_iff hvalid).1 hresolve⟩
  · rintro ⟨hrow, hfirst⟩
    have hname := hclean.2 hrow
    rw [hname]
    exact ⟨rfl, rfl, (resolve_station_iff hvalid).2 hfirst⟩

end Lookup

/-- A station in Beijing is offered, and a configuration keeps it. -/
theorem offeredName_survives_sample :
    @resolveStationNameFromTargetedIndex sampleSha256 "nmc" [sampleProvince] sampleScopes
      (normalizeStationName "北京-北京市") =
        .ok (@ProviderCity.station sampleSha256 "nmc" ⟨"BJ", "ABJ", "北京市", "北京", ""⟩) := by
  have hcatalog : providerCatalogForProvinces sampleScopes [sampleProvince] =
      .ok ⟨[sampleProvince], sortProviderCities (sampleScopes "ABJ")⟩ := by
    decide +kernel
  have hfound := @FoundBy.nationwide sampleSha256 sampleUnicode "nmc" _ _ _ ""
    (@ProviderCity.station sampleSha256 "nmc" ⟨"BJ", "ABJ", "北京市", "北京", ""⟩) hcatalog
    (by decide +kernel)
  have hsurvives := (@offeredName_survives_iff sampleSha256 sampleUnicode).2 "nmc"
    [sampleProvince] sampleScopes validCatalog_sample _ hfound
  refine (hsurvives.2 ⟨by decide +kernel, ⟨_, by decide +kernel, rfl⟩, ?_⟩).2.2
  decide +kernel

/-- The mapper accepts a city that ends in a blank, and the configuration drops the blank. -/
theorem offeredName_trimmed :
    ¬ ∀ requiredResourceUrl rows providerProvinceCode cities,
      mapCities requiredResourceUrl rows providerProvinceCode = .ok cities →
      ∀ city ∈ cities, normalizeStationName (canonicalStationName city.province city.city) =
        canonicalStationName city.province city.city := by
  intro h
  have hkept := h (fun url => .ok ("https://www.nmc.cn" ++ url))
    [⟨"54433", "北京市", "朝阳 ", "/publish/forecast/ABJ/chaoyang.html"⟩] "ABJ"
    [⟨"54433", "ABJ", "北京市", "朝阳 ", "https://www.nmc.cn/publish/forecast/ABJ/chaoyang.html"⟩]
    (by decide +kernel) _ List.mem_cons_self
  revert hkept
  decide +kernel

end WeatherApp
