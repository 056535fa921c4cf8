import WeatherApp.Engine.Load
import WeatherApp.Foundation.Surroundings

/-!
# The population of the catalog

`populate_provider_catalog` takes the fresh city lists from the database and loads the others in a
pool of tasks, which end in any order. Its result is put together in the order of the provinces from
sorted lists, so that it depends neither on the order of the loads nor on which lists were stored.

## Main definitions

* `LoadPool`, `PopulationEnv`: the pool of loads, and how it answers.
* `Rows`: a list has the rows of its scope in the stored order.
* `Populated`: what holds of the result of a population.

## Main results

* `safe_loadProviderCityScopes`: the loop over the pool.
* `population_deterministic`: every run of the population.
-/

namespace WeatherApp

namespace Engine

open Process

/-! ## The pool of loads -/

/-- The tasks that load city lists, by their codes. -/
structure LoadPool where
  /-- The tasks that are not joined yet. -/
  running : List String
  /-- The database or a load has failed. -/
  failed : Bool
  deriving DecidableEq, Repr

/-- A list has the rows of its scope, in the order of `sort_provider_cities`. -/
structure Rows (rows : String → List ProviderCity) (code : String) (cities : List ProviderCity) :
    Prop where
  perm : cities.Perm (rows code)
  sorted : cities.Pairwise fun left right =>
    toLex (left.city, left.providerCode) ≤ toLex (right.city, right.providerCode)

/-- The answers to the calls of a population. The database answers with the stored lists; a load
that succeeds has the rows of its scope in any order; any of the running loads may be joined first,
with an error, or because it panicked. -/
inductive PopulationEnv (cached : List ProviderCityScopeCache) (rows : String → List ProviderCity) :
    Surroundings LoadPool Call Reply
  | input (s : LoadPool) (query : Query) (reply : query.Reply) :
      PopulationEnv cached rows s (.input query) reply s
  | scopes (s : LoadPool) :
      PopulationEnv cached rows s (.db .getAllProviderCityScopes) (.ok cached) s
  | scopesFailed (s : LoadPool) (e : String) :
      PopulationEnv cached rows s (.db .getAllProviderCityScopes) (.error e)
        { s with failed := true }
  | spawned (s : LoadPool) (code : String) :
      PopulationEnv cached rows s (.spawn code) ⟨⟩ { s with running := s.running ++ [code] }
  | loaded (s : LoadPool) {code : String} {cities : List ProviderCity} (hrunning : code ∈ s.running)
      (hrows : cities.Perm (rows code)) :
      PopulationEnv cached rows s .joinNext (.ok (code, .ok cities))
        { s with running := s.running.erase code }
  | loadFailed (s : LoadPool) {code : String} (hrunning : code ∈ s.running) (e : String) :
      PopulationEnv cached rows s .joinNext (.ok (code, .error e))
        ⟨s.running.erase code, true⟩
  | panicked (s : LoadPool) {code : String} (hrunning : code ∈ s.running) (e : String) :
      PopulationEnv cached rows s .joinNext (.error e) ⟨s.running.erase code, true⟩
  | aborted (s : LoadPool) :
      PopulationEnv cached rows s .abortAll ⟨⟩ { s with running := [] }

/-- At most `MAX_CONCURRENT_CATALOG_FETCHES` loads run. -/
def LoadPool.Bounded (s : LoadPool) : Prop := s.running.length ≤ maxConcurrentCatalogFetches

section Loop

variable {cached : List ProviderCityScopeCache} {rows : String → List ProviderCity} {s : LoadPool}
  {codes pending : List String} {loaded : String → Option (List ProviderCity)}

/-- Spawning a few loads. -/
theorem safe_spawnCityScopes
    (hroom : s.running.length + codes.length ≤ maxConcurrentCatalogFetches) :
    Safe (PopulationEnv cached rows) LoadPool.Bounded
      (fun result s' => result = .ok ⟨⟩ ∧ s' = { s with running := s.running ++ codes })
      (spawnCityScopes codes).run s := by
  induction codes generalizing s with
  | nil =>
    refine ⟨(Nat.le_add_right _ _).trans hroom, rfl, ?_⟩
    rw [List.append_nil]
  | cons code codes ih =>
    rw [List.length_cons] at hroom
    refine ⟨(Nat.le_add_right _ _).trans hroom, ⟨_, _, .spawned s code⟩, fun r s' hreply => ?_⟩
    cases hreply
    have hrest : (s.running ++ [code]).length + codes.length ≤ maxConcurrentCatalogFetches := by
      rw [List.length_append, List.length_singleton]
      omega
    refine (ih (s := { s with running := s.running ++ [code] }) hrest).weaken ?_
    rintro result s' ⟨rfl, rfl⟩
    refine ⟨rfl, ?_⟩
    rw [List.append_assoc, List.singleton_append]

/-- A sorted load has the rows of its scope. -/
theorem rows_sortProviderCities {code : String} {cities : List ProviderCity}
    (h : cities.Perm (rows code)) : Rows rows code (sortProviderCities cities) := by
  refine ⟨(List.perm_insertionSort _ _).trans h, ?_⟩
  have : Std.Total fun left right : ProviderCity =>
      toLex (left.city, left.providerCode) ≤ toLex (right.city, right.providerCode) :=
    ⟨fun _ _ => le_total _ _⟩
  have : IsTrans ProviderCity fun left right =>
      toLex (left.city, left.providerCode) ≤ toLex (right.city, right.providerCode) :=
    ⟨fun _ _ _ => le_trans⟩
  exact List.pairwise_insertionSort _ _

/-- What the loop of `load_provider_city_scopes` knows before it joins the next load. -/
structure Loading (rows : String → List ProviderCity) (codes : List String) (tasks : ℕ)
    (pending : List String) (loaded : String → Option (List ProviderCity)) (s : LoadPool) :
    Prop where
  count : s.running.length + pending.length = tasks
  bounded : s.Bounded
  /-- A load waits only behind others. -/
  busy : pending ≠ [] → s.running ≠ []
  clean : s.failed = false
  rows : ∀ code cities, loaded code = some cities → Rows rows code cities
  covered : ∀ code ∈ codes, code ∈ s.running ∨ code ∈ pending ∨ (loaded code).isSome

/-- What the loop ends with. -/
def LoopEnd (rows : String → List ProviderCity) (codes : List String)
    (result : Except String (String → Option (List ProviderCity))) (s : LoadPool) : Prop :=
  s.running = [] ∧
    match result with
    | .ok loaded => s.failed = false ∧
      (∀ code cities, loaded code = some cities → Rows rows code cities) ∧
      ∀ code ∈ codes, (loaded code).isSome
    | .error _ => s.failed = true

/-- After a failed load the others are aborted and awaited. -/
theorem safe_abortAll (hbounded : s.Bounded) (hfailed : s.failed = true) (e : String) :
    Safe (PopulationEnv cached rows) LoadPool.Bounded (LoopEnd rows codes)
      (do
        let _ ← ExceptT.lift (invoke .abortAll)
        throw e : Program (String → Option (List ProviderCity))).run s := by
  refine ⟨hbounded, ⟨_, _, .aborted s⟩, fun r s' hreply => ?_⟩
  cases hreply
  exact ⟨Nat.zero_le _, rfl, hfailed⟩

/-- A joined load is replaced by the next one. -/
theorem Loading.join {tasks : ℕ} (h : Loading rows codes (tasks + 1) pending loaded s)
    {code : String} (hrunning : code ∈ s.running) {cities : List ProviderCity}
    (hrows : cities.Perm (rows code)) :
    Loading rows codes tasks (pending.drop 1)
      (Function.update loaded code (some (sortProviderCities cities)))
      { s with running := s.running.erase code ++ pending.take 1 } := by
  have hcount := h.count
  have hbounded := h.bounded
  have hlength : (s.running.erase code ++ pending.take 1).length + 1 =
      s.running.length + min 1 pending.length := by
    have hpositive := List.length_pos_of_mem hrunning
    rw [List.length_append, List.length_erase_of_mem hrunning, List.length_take]
    omega
  refine ⟨?_, ?_, ?_, h.clean, ?_, ?_⟩
  · show (s.running.erase code ++ pending.take 1).length + (pending.drop 1).length = tasks
    rw [List.length_drop]
    omega
  · show (s.running.erase code ++ pending.take 1).length ≤ maxConcurrentCatalogFetches
    rw [LoadPool.Bounded] at hbounded
    omega
  · intro hmore hnone
    cases pending with
    | nil => exact hmore rfl
    | cons next pending => exact absurd (List.append_eq_nil_iff.1 hnone).2 (List.cons_ne_nil _ _)
  · intro other list hlist
    by_cases hsame : other = code
    · subst hsame
      rw [Function.update_self] at hlist
      cases hlist
      exact rows_sortProviderCities hrows
    · rw [Function.update_of_ne hsame] at hlist
      exact h.rows other list hlist
  · intro other hother
    by_cases hsame : other = code
    · subst hsame
      rw [Function.update_self]
      exact .inr (.inr rfl)
    · rw [Function.update_of_ne hsame]
      rcases h.covered other hother with hrun | hwait | hloaded
      · exact .inl (List.mem_append_left _ ((List.mem_erase_of_ne hsame).2 hrun))
      · rw [← List.take_append_drop 1 pending, List.mem_append] at hwait
        exact hwait.imp (List.mem_append_right _) .inl
      · exact .inr (.inr hloaded)

/-- The loop joins every load, in any order, and ends at the first that fails. -/
theorem safe_joinCityScopes {tasks : ℕ} (h : Loading rows codes tasks pending loaded s) :
    Safe (PopulationEnv cached rows) LoadPool.Bounded (LoopEnd rows codes)
      (joinCityScopes tasks pending loaded).run s := by
  induction tasks generalizing pending loaded s with
  | zero =>
    have hcount := h.count
    have hrunning : s.running = [] := List.eq_nil_of_length_eq_zero (by omega)
    have hpending : pending = [] := List.eq_nil_of_length_eq_zero (by omega)
    refine ⟨h.bounded, hrunning, h.clean, h.rows, fun code hcode => ?_⟩
    rcases h.covered code hcode with hrun | hwait | hloaded
    · rw [hrunning] at hrun
      cases hrun
    · rw [hpending] at hwait
      cases hwait
    · exact hloaded
  | succ tasks ih =>
    have hcount := h.count
    -- some load is running, so that the join returns
    have hnonempty : s.running ≠ [] := by
      intro hnone
      have hpending : pending = [] := by
        by_contra hpending
        exact h.busy hpending hnone
      rw [hnone, hpending] at hcount
      cases hcount
    obtain ⟨first, hfirst⟩ := List.exists_mem_of_ne_nil _ hnonempty
    have hshrinks : ∀ (code : String) (failed : Bool),
        LoadPool.Bounded ⟨s.running.erase code, failed⟩ :=
      fun code _ => (List.length_erase_le).trans h.bounded
    refine ⟨h.bounded, ⟨_, _, .panicked s hfirst ""⟩, fun r s' hreply => ?_⟩
    cases hreply with
    | @loaded _ code cities hrunning hrows =>
      have hjoined := h.join hrunning hrows
      have hspawn : (s.running.erase code).length + (pending.take 1).length ≤
          maxConcurrentCatalogFetches := by
        have hbounded := hjoined.bounded
        rw [LoadPool.Bounded, List.length_append] at hbounded
        exact hbounded
      refine safe_bindExcept (safe_spawnCityScopes
        (s := { s with running := s.running.erase code }) hspawn) ?_ ?_
      · rintro ⟨⟩ s' ⟨-, rfl⟩
        exact ih hjoined
      · rintro e s' ⟨hspawned, -⟩
        cases hspawned
    | loadFailed _ e => exact safe_abortAll (hshrinks _ _) rfl _
    | panicked _ e => exact safe_abortAll (hshrinks _ _) rfl _

/-- `load_provider_city_scopes` on an empty pool. -/
theorem safe_loadProviderCityScopes (codes : List String) :
    Safe (PopulationEnv cached rows) LoadPool.Bounded (LoopEnd rows codes)
      (loadProviderCityScopes codes).run ⟨[], false⟩ := by
  have hfirst : ([] : List String).length + (codes.take maxConcurrentCatalogFetches).length ≤
      maxConcurrentCatalogFetches := by
    rw [List.length_nil, Nat.zero_add]
    exact List.length_take_le _ _
  refine safe_bindExcept (safe_spawnCityScopes (s := ⟨[], false⟩) hfirst) ?_ ?_
  · rintro ⟨⟩ s' ⟨-, rfl⟩
    rw [List.nil_append]
    refine safe_joinCityScopes ⟨?_, List.length_take_le _ _, ?_, rfl, ?_, ?_⟩
    · show (codes.take _).length + (codes.drop _).length = codes.length
      rw [← List.length_append, List.take_append_drop]
    · intro hmore hnone
      rw [List.take_eq_nil_iff] at hnone
      rcases hnone with hzero | rfl
      · exact absurd hzero (by decide)
      · exact hmore List.drop_nil
    · intro code cities hcities
      cases hcities
    · intro code hcode
      rw [← List.take_append_drop maxConcurrentCatalogFetches codes, List.mem_append] at hcode
      exact hcode.imp_right .inl
  · rintro e s' ⟨hspawned, -⟩
    cases hspawned

end Loop

/-! ## The stored lists -/

/-- A scope that is found under a code is one of the stored ones, and of that code. -/
theorem cachedScopes_eq_some {scopes : List ProviderCityScopeCache} {code : String}
    {scope : ProviderCityScopeCache} (h : cachedScopes scopes code = some scope) :
    scope ∈ scopes ∧ scope.providerProvinceCode = code := by
  rw [cachedScopes] at h
  induction scopes using List.reverseRecOn with
  | nil => cases h
  | append_singleton scopes last ih =>
    rw [List.foldl_append, List.foldl_cons, List.foldl_nil] at h
    by_cases hsame : code = last.providerProvinceCode
    · rw [hsame, Function.update_self] at h
      cases h
      exact ⟨List.mem_append_right _ List.mem_cons_self, hsame.symm⟩
    · rw [Function.update_of_ne hsame] at h
      exact (ih h).imp_left (List.mem_append_left _)

/-- Each code is left to load or has a stored list. -/
theorem splitFreshScopes_spec (now : ℤ) (ttlSeconds : ℕ) (codes : List String)
    (cached : String → Option ProviderCityScopeCache) :
    (∀ code cities, (splitFreshScopes now ttlSeconds codes cached).2 code = some cities →
      ∃ scope, cached code = some scope ∧ cities = scope.items) ∧
    ∀ code ∈ codes, code ∈ (splitFreshScopes now ttlSeconds codes cached).1 ∨
      ((splitFreshScopes now ttlSeconds codes cached).2 code).isSome := by
  induction codes generalizing cached with
  | nil => exact ⟨fun _ _ h => (nomatch h), fun _ h => (nomatch h)⟩
  | cons first codes ih =>
    obtain ⟨hfresh, hcovered⟩ := ih (Function.update cached first none)
    have hfresh' : ∀ code cities, (splitFreshScopes now ttlSeconds codes
        (Function.update cached first none)).2 code = some cities →
          ∃ scope, cached code = some scope ∧ cities = scope.items := by
      intro code cities hcode
      obtain ⟨scope, hscope, hitems⟩ := hfresh code cities hcode
      by_cases hsame : code = first
      · rw [hsame, Function.update_self] at hscope
        cases hscope
      · rw [Function.update_of_ne hsame] at hscope
        exact ⟨scope, hscope, hitems⟩
    have hpending : ∀ code ∈ first :: codes,
        code ∈ first :: (splitFreshScopes now ttlSeconds codes
          (Function.update cached first none)).1 ∨
        ((splitFreshScopes now ttlSeconds codes
          (Function.update cached first none)).2 code).isSome := by
      intro code hcode
      rcases List.mem_cons.1 hcode with rfl | hrest
      · exact .inl List.mem_cons_self
      · exact (hcovered code hrest).imp_left (List.mem_cons_of_mem _)
    simp only [splitFreshScopes]
    cases hcached : cached first with
    | none => exact ⟨hfresh', hpending⟩
    | some scope =>
      dsimp only
      split_ifs with hage
      · refine ⟨fun code cities hcode => ?_, fun code hcode => ?_⟩
        · dsimp only at hcode
          by_cases hsame : code = first
          · rw [hsame, Function.update_self] at hcode
            cases hcode
            exact ⟨scope, hsame ▸ hcached, rfl⟩
          · rw [Function.update_of_ne hsame] at hcode
            exact hfresh' code cities hcode
        · dsimp only
          by_cases hsame : code = first
          · rw [hsame, Function.update_self]
            exact .inr rfl
          · rw [Function.update_of_ne hsame]
            exact hcovered code ((List.mem_cons.1 hcode).resolve_left hsame)
      · exact ⟨hfresh', hpending⟩

/-- The stored list of a scope is in the order of `sort_provider_cities`. -/
theorem selectCities_sorted (tables : Tables) (provider scope : String) :
    (tables.selectCities provider scope).Pairwise fun left right =>
      toLex (left.city, left.providerCode) ≤ toLex (right.city, right.providerCode) := by
  have : Std.Total fun a b : CityRow =>
      toLex (a.city, a.providerCode) ≤ toLex (b.city, b.providerCode) :=
    ⟨fun _ _ => le_total _ _⟩
  have : IsTrans CityRow fun a b =>
      toLex (a.city, a.providerCode) ≤ toLex (b.city, b.providerCode) :=
    ⟨fun _ _ _ => le_trans⟩
  rw [Tables.selectCities, List.pairwise_map]
  exact List.pairwise_insertionSort (fun a b : CityRow =>
    toLex (a.city, a.providerCode) ≤ toLex (b.city, b.providerCode)) _

/-! ## The index -/

/-- With unique codes the rows of a scope have one sorted list. -/
theorem Rows.eq_sort {rows : String → List ProviderCity} {code : String}
    {cities : List ProviderCity} (h : Rows rows code cities)
    (hcodes : ((rows code).map (·.providerCode)).Nodup) :
    cities = sortProviderCities (rows code) := by
  have hsorted : Rows rows code (sortProviderCities (rows code)) :=
    rows_sortProviderCities (.refl _)
  refine (h.perm.trans hsorted.perm.symm).eq_of_pairwise ?_ h.sorted hsorted.sorted
  intro a b ha hb hab hba
  obtain ⟨-, hcode⟩ := Prod.ext_iff.1 (toLex.injective (le_antisymm hab hba))
  exact List.inj_on_of_nodup_map hcodes (h.perm.subset ha) (hsorted.perm.subset hb) hcode

/-- A flattened list has each scope once, in order. -/
theorem flattenCityScopes_ok {codes : List String}
    {scopes : String → Option (List ProviderCity)} {cities : List ProviderCity}
    (h : flattenCityScopes codes scopes = .ok cities) :
    codes.Nodup ∧ (∀ code ∈ codes, (scopes code).isSome) ∧
      cities = codes.flatMap fun code => (scopes code).getD [] := by
  induction codes generalizing scopes cities with
  | nil =>
    cases h
    exact ⟨List.nodup_nil, fun _ h => (nomatch h), rfl⟩
  | cons code codes ih =>
    rw [flattenCityScopes] at h
    split at h
    next => cases h
    next scope hscope =>
      split at h
      next => cases h
      next rest hrest =>
        cases h
        obtain ⟨hnodup, hsome, rfl⟩ := ih hrest
        -- the scope of the code is taken, so that the code does not occur again
        have hfresh : code ∉ codes := by
          intro hmem
          have htaken := hsome code hmem
          rw [Function.update_self] at htaken
          cases htaken
        have hothers : ∀ other ∈ codes, Function.update scopes code none other = scopes other :=
          fun other hother => Function.update_of_ne (ne_of_mem_of_not_mem hother hfresh) _ _
        refine ⟨List.nodup_cons.2 ⟨hfresh, hnodup⟩, fun other hother => ?_, ?_⟩
        · rcases List.mem_cons.1 hother with rfl | hmem
          · rw [hscope, Option.isSome_some]
          · rw [← hothers other hmem]
            exact hsome other hmem
        · rw [List.flatMap_cons, hscope, Option.getD_some]
          refine congrArg (scope ++ ·) (List.flatMap_congr fun other hother => ?_)
          rw [hothers other hother]

/-- The cities of the provinces, each scope sorted. -/
def populatedCities (rows : String → List ProviderCity) (provinces : List ProviderProvince) :
    List ProviderCity :=
  provinces.flatMap fun province => sortProviderCities (rows province.providerCode)

/-- No city code occurs twice in the scopes of the provinces. -/
def DistinctCityCodes (rows : String → List ProviderCity) (provinces : List ProviderProvince) :
    Prop :=
  ((provinces.flatMap fun province => rows province.providerCode).map (·.providerCode)).Nodup

/-- The index over lists that have the rows of their scopes. -/
theorem indexOfScopes_spec {rows : String → List ProviderCity} (provinces : List ProviderProvince)
    {scopes : String → Option (List ProviderCity)}
    (hrows : ∀ code cities, scopes code = some cities → Rows rows code cities) :
    (∀ catalog, indexOfScopes provinces scopes = .ok catalog →
      DistinctCityCodes rows provinces ∧ catalog = ⟨provinces, populatedCities rows provinces⟩) ∧
    ((∀ province ∈ provinces, (scopes province.providerCode).isSome) →
      (provinces.map (·.providerCode)).Nodup → DistinctCityCodes rows provinces →
        ∃ catalog, indexOfScopes provinces scopes = .ok catalog) := by
  -- the lists in place of the rows of their scopes
  have hperm : (∀ code ∈ provinces.map (·.providerCode), (scopes code).isSome) →
      ((provinces.map (·.providerCode)).flatMap fun code => (scopes code).getD []).Perm
        (provinces.flatMap fun province => rows province.providerCode) := by
    intro hsome
    rw [List.flatMap_map]
    refine List.Perm.flatMap_left _ fun province hprovince => ?_
    obtain ⟨cities, hcities⟩ :=
      Option.isSome_iff_exists.1 (hsome _ (List.mem_map_of_mem hprovince))
    rw [hcities, Option.getD_some]
    exact (hrows _ _ hcities).perm
  constructor
  · intro catalog hcatalog
    rw [indexOfScopes] at hcatalog
    cases hflatten : flattenCityScopes (provinces.map (·.providerCode)) scopes with
    | error e =>
      rw [hflatten] at hcatalog
      cases hcatalog
    | ok cities =>
      rw [hflatten] at hcatalog
      replace hcatalog : (do
        validatePopulationCityCodes cities []
        pure ⟨provinces, cities⟩ : Except String ProviderCatalog) = .ok catalog := hcatalog
      cases hvalid : validatePopulationCityCodes cities [] with
      | error e =>
        rw [hvalid] at hcatalog
        cases hcatalog
      | ok =>
        rw [hvalid] at hcatalog
        cases hcatalog
        obtain ⟨-, hsome, rfl⟩ := flattenCityScopes_ok hflatten
        have hcodes := (validatePopulationCityCodes_eq_ok.1 hvalid).1
        have hdistinct : DistinctCityCodes rows provinces :=
          ((hperm hsome).map _).nodup_iff.1 hcodes
        refine ⟨hdistinct, congrArg _ ?_⟩
        rw [List.flatMap_map, populatedCities]
        refine List.flatMap_congr fun province hprovince => ?_
        obtain ⟨cities, hcities⟩ :=
          Option.isSome_iff_exists.1 (hsome _ (List.mem_map_of_mem hprovince))
        rw [hcities, Option.getD_some]
        refine (hrows _ _ hcities).eq_sort (hdistinct.sublist ?_)
        rw [List.map_flatMap, List.flatMap_def]
        exact List.sublist_flatten_of_mem (List.mem_map.2 ⟨province, hprovince, rfl⟩)
  · intro hsome hnodup hdistinct
    have hsome' : ∀ code ∈ provinces.map (·.providerCode), (scopes code).isSome := by
      intro code hcode
      obtain ⟨province, hprovince, rfl⟩ := List.mem_map.1 hcode
      exact hsome province hprovince
    have hflatten : flattenCityScopes (provinces.map (·.providerCode)) scopes =
        .ok ((provinces.map (·.providerCode)).flatMap fun code => (scopes code).getD []) :=
      flattenCityScopes_eq_ok hnodup fun code hcode => by
        obtain ⟨cities, hcities⟩ := Option.isSome_iff_exists.1 (hsome' code hcode)
        rw [hcities, Option.getD_some]
    have hvalid : validatePopulationCityCodes ((provinces.map (·.providerCode)).flatMap
        fun code => (scopes code).getD []) [] = .ok ⟨⟩ :=
      validatePopulationCityCodes_eq_ok.2
        ⟨((hperm hsome').map _).nodup_iff.2 hdistinct, fun _ _ => rfl⟩
    generalize ((provinces.map (·.providerCode)).flatMap fun code => (scopes code).getD []) = cities
      at hflatten hvalid
    refine ⟨⟨provinces, cities⟩, ?_⟩
    rw [indexOfScopes, hflatten]
    show (do
      validatePopulationCityCodes cities []
      pure ⟨provinces, cities⟩ : Except String ProviderCatalog) = _
    rw [hvalid]
    rfl

/-! ## The population -/

/-- What holds when a population has ended: no load is running, a failure has made it fail, its
cities are the sorted rows of the scopes, and it has succeeded if nothing stands against it. -/
structure Populated (rows : String → List ProviderCity) (provinces : List ProviderProvince)
    (result : Except String ProviderCatalog) (s : LoadPool) : Prop where
  drained : s.running = []
  failed : s.failed = true → ∃ e, result = .error e
  catalog : ∀ catalog, result = .ok catalog → DistinctCityCodes rows provinces ∧
    catalog = ⟨provinces, populatedCities rows provinces⟩
  succeeded : s.failed = false → (provinces.map (·.providerCode)).Nodup →
    DistinctCityCodes rows provinces → ∃ catalog, result = .ok catalog

/-- Every population is safe. -/
theorem safe_populateProviderCatalog {cached : List ProviderCityScopeCache}
    {rows : String → List ProviderCity}
    (hcached : ∀ scope ∈ cached, Rows rows scope.providerProvinceCode scope.items)
    (provinces : List ProviderProvince) :
    Safe (PopulationEnv cached rows) LoadPool.Bounded (Populated rows provinces)
      (populateProviderCatalog provinces).run ⟨[], false⟩ := by
  have hempty : LoadPool.Bounded ⟨[], false⟩ := Nat.zero_le _
  refine ⟨hempty, ⟨(0 : ℕ), _, .input _ _ _⟩, fun (ttlSeconds : ℕ) s₁ hreply => ?_⟩
  cases hreply
  refine ⟨hempty, ⟨(0 : ℤ), _, .input _ _ _⟩, fun (now : ℤ) s₂ hreply => ?_⟩
  cases hreply
  refine ⟨hempty, ⟨_, _, .scopes _⟩, fun reply s₃ hreply => ?_⟩
  cases hreply with
  | scopesFailed _ e =>
    exact ⟨hempty, rfl, fun _ => ⟨e, rfl⟩, fun catalog h => (nomatch h), fun h => (nomatch h)⟩
  | scopes =>
    obtain ⟨hfresh, hcovered⟩ := splitFreshScopes_spec now ttlSeconds
      (provinces.map (·.providerCode)) (cachedScopes cached)
    show Safe _ _ _ (loadProviderCityScopes _ >>= _).run _
    generalize splitFreshScopes now ttlSeconds (provinces.map (·.providerCode))
      (cachedScopes cached) = split at hfresh hcovered
    refine safe_bindExcept (safe_loadProviderCityScopes split.1) ?_ ?_
    · rintro loaded s' ⟨hrunning, hclean, hloaded, hall⟩
      have hrows : ∀ code cities, (loaded code <|> split.2 code) = some cities →
          Rows rows code cities := by
        intro code cities hcities
        rw [Option.orElse_eq_some] at hcities
        rcases hcities with hnew | ⟨-, hstored⟩
        · exact hloaded code cities hnew
        · obtain ⟨scope, hscope, rfl⟩ := hfresh code cities hstored
          obtain ⟨hmem, rfl⟩ := cachedScopes_eq_some hscope
          exact hcached scope hmem
      obtain ⟨hok, hsucceeds⟩ := indexOfScopes_spec provinces hrows
      refine ⟨?_, hrunning, fun hfailed => ?_, hok, fun _ hnodup hdistinct => ?_⟩
      · rw [LoadPool.Bounded, hrunning]
        exact Nat.zero_le _
      · rw [hclean] at hfailed
        cases hfailed
      · refine hsucceeds (fun province hprovince => ?_) hnodup hdistinct
        rcases hcovered _ (List.mem_map_of_mem hprovince) with hpending | hstored
        · obtain ⟨cities, hcities⟩ := Option.isSome_iff_exists.1 (hall _ hpending)
          rw [hcities]
          rfl
        · cases loaded province.providerCode with
          | none => exact hstored
          | some cities => rfl
    · rintro e s' ⟨hrunning, hfailed⟩ -
      refine ⟨hrunning, fun _ => ⟨e, rfl⟩, fun catalog h => (nomatch h), fun hclean => ?_⟩
      rw [hfailed] at hclean
      cases hclean

/-- In every run of a population, for any stored lists and any order in which the loads end: at most
`MAX_CONCURRENT_CATALOG_FETCHES` loads run at once, and the run goes on until the population ends.
When it ends no load is running; it has failed if the database or a load has, or if a city code
occurs twice; and otherwise its cities are those of the provinces in their order, each scope sorted,
wherever its rows came from. -/
theorem population_deterministic {provider : String} {tables tables' : Tables}
    {cached : List ProviderCityScopeCache} {rows : String → List ProviderCity}
    (hcached : (getAllProviderCityScopes provider).Returns tables cached tables')
    (hsame : ∀ scope ∈ cached, scope.items.Perm (rows scope.providerProvinceCode))
    {provinces : List ProviderProvince} {p : Process Call Reply (Except String ProviderCatalog)}
    {s : LoadPool} (h : (system (PopulationEnv cached rows)
      (populateProviderCatalog provinces).run ⟨[], false⟩).Reachable (p, s)) :
    s.running.length ≤ maxConcurrentCatalogFetches ∧
    ((∃ result, p = ret result) ∨ ∃ event x, (system (PopulationEnv cached rows)
      (populateProviderCatalog provinces).run ⟨[], false⟩).step (p, s) event x) ∧
    ∀ result, p = ret result →
      s.running = [] ∧
      (s.failed = true → ∃ e, result = .error e) ∧
      (¬ DistinctCityCodes rows provinces → ∃ e, result = .error e) ∧
      (∀ catalog, result = .ok catalog →
        catalog = ⟨provinces, populatedCities rows provinces⟩) ∧
      (s.failed = false → (provinces.map (·.providerCode)).Nodup →
        DistinctCityCodes rows provinces → ∃ catalog, result = .ok catalog) := by
  have hrows : ∀ scope ∈ cached, Rows rows scope.providerProvinceCode scope.items := by
    intro scope hscope
    refine ⟨hsame scope hscope, ?_⟩
    rw [((getAllProviderCityScopes_returns hcached).2 scope hscope).1]
    exact selectCities_sorted _ _ _
  have hsafe := safe_populateProviderCatalog hrows provinces
  refine ⟨(hsafe.reachable h).invariant, hsafe.progress h, ?_⟩
  rintro result rfl
  have hend := hsafe.returned h
  refine ⟨hend.drained, hend.failed, fun hshared => ?_, fun catalog hok => (hend.catalog _ hok).2,
    hend.succeeded⟩
  cases result with
  | error e => exact ⟨e, rfl⟩
  | ok catalog => exact absurd (hend.catalog catalog rfl).1 hshared

/-! ## A sample population -/

/-- Two provinces, the first of which has a stored list. -/
def sampleProvinces : List ProviderProvince :=
  [⟨"ABJ", "北京市", ""⟩, ⟨"ASD", "山东省", ""⟩]

/-- The rows of their scopes. -/
def sampleRows (code : String) : List ProviderCity :=
  if code = "ABJ" then [⟨"54511", "ABJ", "北京市", "北京", ""⟩]
  else [⟨"54823", "ASD", "山东省", "济南", ""⟩, ⟨"54857", "ASD", "山东省", "青岛", ""⟩]

/-- The stored list. -/
def sampleStored : List ProviderCityScopeCache :=
  [⟨"ABJ", [⟨"54511", "ABJ", "北京市", "北京", ""⟩], 7⟩]

theorem sampleStored_returns :
    (getAllProviderCityScopes "nmc").Returns sampleCatalog sampleStored sampleCatalog := by
  have hread : (atomically (getAllProviderCityScopes "nmc") noFaults sampleCatalog).1 =
      .ok sampleStored := by
    decide +kernel
  generalize hresult : atomically (getAllProviderCityScopes "nmc") noFaults sampleCatalog = result
    at hread
  obtain ⟨answer, tables⟩ := result
  obtain rfl : answer = .ok sampleStored := hread
  have hreturns := atomically_ok hresult
  rwa [(getAllProviderCityScopes_returns hreturns).1] at hreturns

/-- The stored list is taken and the other one loaded, in the order of the provider. -/
theorem population_deterministic_sample :
    ∃ catalog s, (system (PopulationEnv sampleStored sampleRows)
      (populateProviderCatalog sampleProvinces).run ⟨[], false⟩).Reachable (ret (.ok catalog), s) ∧
      s.running = [] ∧ catalog = ⟨sampleProvinces, populatedCities sampleRows sampleProvinces⟩ := by
  have hsame : ∀ scope ∈ sampleStored,
      scope.items.Perm (sampleRows scope.providerProvinceCode) := by
    intro scope hscope
    rw [List.mem_singleton.1 hscope]
    exact .refl _
  have hreach : (system (PopulationEnv sampleStored sampleRows)
      (populateProviderCatalog sampleProvinces).run ⟨[], false⟩).Reachable
        (ret (.ok ⟨sampleProvinces, populatedCities sampleRows sampleProvinces⟩), ⟨[], false⟩) := by
    have hstart : (system (PopulationEnv sampleStored sampleRows)
        (populateProviderCatalog sampleProvinces).run ⟨[], false⟩).Reachable
          ((populateProviderCatalog sampleProvinces).run, ⟨[], false⟩) := ⟨_, .start rfl⟩
    have hconfigured := reachable_reply hstart (3600 : ℕ) (.input _ .provinceTtlSeconds _)
    have htimed := reachable_reply hconfigured (7 : ℤ) (.input _ .unixTimestampMs _)
    have hread := reachable_reply htimed (.ok sampleStored) (.scopes _)
    have hspawned := reachable_reply hread ⟨⟩ (.spawned _ "ASD")
    exact reachable_reply hspawned (.ok ("ASD", .ok (sampleRows "ASD")))
      (.loaded _ List.mem_cons_self (.refl _))
  have hend := (population_deterministic sampleStored_returns hsame hreach).2.2 _ rfl
  exact ⟨_, _, hreach, hend.1, hend.2.2.2.1 _ rfl⟩

end Engine

end WeatherApp
