import WeatherApp.Engine.Fuzzy

/-!
# The candidates of a search

`search_candidates` sorts the matching candidates and keeps the first one of each public key. The
comparison ends with the codes of the provider, so that it leaves no ties where the codes are
unique: which candidate of a key is kept, and its place, follows from the catalog as a set.

## Main results

* `candidateRank_injOn`: the rank tells the matching candidates apart.
* `search_candidates_well_defined`: what the search offers.
-/

namespace WeatherApp

open Ranking

variable [Sha256] [UnicodeTables] {providerName query : String} {catalog catalog' : ProviderCatalog}

/-- The codes of the provinces and of the cities are unique. -/
structure UniqueCodes (catalog : ProviderCatalog) : Prop where
  provinces : (catalog.provinces.map (·.providerCode)).Nodup
  cities : (catalog.cities.map (·.providerCode)).Nodup

/-- The candidates that match: the station and the city of each matching city, and each matching
province. -/
theorem mem_matchingCandidates {candidate : SearchCandidate} :
    candidate ∈ matchingCandidates providerName catalog query ↔
      (∃ city ∈ catalog.cities, cityMatches city query = true ∧
        (candidate = .station (city.station providerName) ∨ candidate = .city city)) ∨
      ∃ province ∈ catalog.provinces, provinceMatchesQuery province query = true ∧
        candidate = .province province := by
  simp only [matchingCandidates, List.mem_append, List.mem_flatMap, List.mem_filter, List.mem_cons,
    List.not_mem_nil, or_false, List.mem_map, and_assoc, eq_comm (b := candidate)]

/-- The candidates that match do not depend on the order of the catalog, but for their own. -/
theorem matchingCandidates_perm (hprovinces : catalog'.provinces.Perm catalog.provinces)
    (hcities : catalog'.cities.Perm catalog.cities) :
    (matchingCandidates providerName catalog' query).Perm
      (matchingCandidates providerName catalog query) :=
  ((hcities.filter _).flatMap_right _).append ((hprovinces.filter _).map _)

omit [Sha256] in
/-- Candidates of one rank are of one kind and equal in all that their comparison looks at. -/
theorem eq_of_candidateRank_eq {a b : SearchCandidate}
    (h : candidateRank query a = candidateRank query b) :
    candidateKindRank a = candidateKindRank b ∧ stableRank a = stableRank b := by
  obtain ⟨hkind, hrest⟩ := Prod.ext_iff.1 (toLex.injective h)
  exact ⟨hkind, (Prod.ext_iff.1 (toLex.injective hrest)).2⟩

/-- The code of the provider is the last thing that is compared. -/
theorem candidateRank_injOn (hunique : UniqueCodes catalog) :
    ∀ a ∈ matchingCandidates providerName catalog query,
      ∀ b ∈ matchingCandidates providerName catalog query,
        candidateRank query a = candidateRank query b → a = b := by
  intro a ha b hb hrank
  obtain ⟨hkind, hstable⟩ := eq_of_candidateRank_eq hrank
  have hcity : ∀ {city other : ProviderCity}, city ∈ catalog.cities → other ∈ catalog.cities →
      city.providerCode = other.providerCode → city = other :=
    fun hcity hother hcode => List.inj_on_of_nodup_map hunique.cities hcity hother hcode
  rcases mem_matchingCandidates.1 ha with ⟨cityA, hA, -, rfl | rfl⟩ | ⟨provinceA, hA, -, rfl⟩ <;>
    rcases mem_matchingCandidates.1 hb with ⟨cityB, hB, -, rfl | rfl⟩ | ⟨provinceB, hB, -, rfl⟩
  -- candidates of different kinds differ in rank
  case inl.inl.inl.inr | inl.inl.inr | inl.inr.inl.inl | inl.inr.inr | inr.inl.inl | inr.inl.inr =>
    cases hkind
  · obtain ⟨-, hrest⟩ := Prod.ext_iff.1 (toLex.injective hstable)
    obtain ⟨-, hrest⟩ := Prod.ext_iff.1 (toLex.injective hrest)
    obtain ⟨-, hcode⟩ := Prod.ext_iff.1 (toLex.injective hrest)
    rw [hcity hA hB hcode]
  · obtain ⟨-, hrest⟩ := Prod.ext_iff.1 (toLex.injective hstable)
    obtain ⟨-, hrest⟩ := Prod.ext_iff.1 (toLex.injective hrest)
    obtain ⟨-, hcode⟩ := Prod.ext_iff.1 (toLex.injective hrest)
    rw [hcity hA hB hcode]
  · obtain ⟨-, hrest⟩ := Prod.ext_iff.1 (toLex.injective hstable)
    obtain ⟨hcode, -⟩ := Prod.ext_iff.1 (toLex.injective hrest)
    rw [List.inj_on_of_nodup_map hunique.provinces hA hB hcode]

/-- The key of each matching candidate is offered. -/
theorem candidateKey_mem_search {candidate : SearchCandidate}
    (h : candidate ∈ matchingCandidates providerName catalog query) :
    candidateKey candidate ∈
      (searchCandidates providerName catalog query).map candidateKey :=
  mem_map_retainFirst.2 ⟨List.mem_map_of_mem (mem_sortBy.2 h), List.not_mem_nil⟩

/-- On a catalog with unique codes, what a search offers depends on the provinces and cities, and
not on their order; it offers each public key once, the keys of every matching city and province,
sorted by kind, then by match and then by the stable rank. -/
theorem search_candidates_well_defined (hunique : UniqueCodes catalog)
    (providerName query : String) :
    (∀ catalog' : ProviderCatalog, catalog'.provinces.Perm catalog.provinces →
      catalog'.cities.Perm catalog.cities →
        searchCandidates providerName catalog' query =
          searchCandidates providerName catalog query) ∧
    ((searchCandidates providerName catalog query).map candidateKey).Nodup ∧
    (∀ city ∈ catalog.cities, cityMatches city query = true →
      candidateKey (.station (city.station providerName)) ∈
          (searchCandidates providerName catalog query).map candidateKey ∧
        candidateKey (.city city) ∈
          (searchCandidates providerName catalog query).map candidateKey) ∧
    (∀ province ∈ catalog.provinces, provinceMatchesQuery province query = true →
      candidateKey (.province province) ∈
        (searchCandidates providerName catalog query).map candidateKey) ∧
    (searchCandidates providerName catalog query).Pairwise fun a b =>
      candidateRank query a ≤ candidateRank query b := by
  refine ⟨fun catalog' hprovinces hcities => ?_, nodup_map_retainFirst _ _, fun city hcity hmatch =>
    ⟨?_, ?_⟩, fun province hprovince hmatch => ?_, ?_⟩
  · have hperm : (matchingCandidates providerName catalog' query).Perm
        (matchingCandidates providerName catalog query) :=
      matchingCandidates_perm hprovinces hcities
    rw [searchCandidates, searchCandidates,
      sortBy_eq_of_perm (candidateCmp_ne_gt query) (candidateRank_injOn hunique) hperm]
  · exact candidateKey_mem_search
      (mem_matchingCandidates.2 (.inl ⟨city, hcity, hmatch, .inl rfl⟩))
  · exact candidateKey_mem_search
      (mem_matchingCandidates.2 (.inl ⟨city, hcity, hmatch, .inr rfl⟩))
  · exact candidateKey_mem_search
      (mem_matchingCandidates.2 (.inr ⟨province, hprovince, hmatch, rfl⟩))
  · exact (pairwise_sortBy (candidateCmp_ne_gt query) _).sublist (retainFirst_sublist _ _)

/-- The two cities of one public name, in one catalog. -/
def sampleIndex : ProviderCatalog := ⟨[sampleProvince], sampleScopes "ABJ"⟩

omit [Sha256] [UnicodeTables] in
/-- In either order the search keeps the same one of two cities that share a public name. -/
theorem search_candidates_well_defined_sample :
    @searchCandidates sampleSha256 sampleUnicode "nmc"
        { sampleIndex with cities := sampleIndex.cities.reverse } "北京" =
      @searchCandidates sampleSha256 sampleUnicode "nmc" sampleIndex "北京" :=
  (@search_candidates_well_defined sampleSha256 sampleUnicode sampleIndex
    ⟨by decide, by decide⟩ "nmc" "北京").1 _ (.refl _) (List.reverse_perm _)

end WeatherApp
