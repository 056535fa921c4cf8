import WeatherApp.Engine.System

/-!
# What the catalog programs promise

The programs of the requests keep a contract with the engine they run in: they store only lists
that the provider answered and that passed the validation, they write mappings only for cities of
the index they name, and they complete a flight only with the outcome of a refresh. In return the
engine reports stored lists, the results of flights and the lists of tasks truthfully.

## Main definitions

* `CompleteList`: a whole, validated answer of the provider in the engine's order.
* `RefreshOutcome`: what a refresh ends with.
* `contract`: what the programs and the engine promise each other.
* `Returned`: what a request returns.

## Main results

* `keeps_refreshCatalog`, `keeps_loadCatalog`: the load of a list keeps the contract.
* `keeps_program`: the program of every request keeps the contract.
-/


namespace WeatherApp

namespace Engine

open Process

/-! ## Lists of the provider -/

/-- The list is an answer of the provider that passed the validation, in the engine's order. -/
def CompleteList (s : State) (scope : CatalogScope) (items : List scope.Item) : Prop :=
  ∃ answer, ⟨scope, answer⟩ ∈ s.responses ∧ scope.validate answer = .ok ⟨⟩ ∧
    items = scope.sort answer

/-- The provider failed or answered an invalid list. -/
def UpstreamRejected (scope : CatalogScope) (work : List Event) : Prop :=
  ∃ reply : Except String (List scope.Item),
    (⟨.input (.upstream scope), reply⟩ : Event) ∈ work ∧
      ∀ items, reply = .ok items → scope.validate items ≠ .ok ⟨⟩

/-- The result is the stored list that the work read, and an error when there was none. -/
def StaleAnswer (scope : CatalogScope) (work : List Event)
    (result : Except String (List scope.Item)) : Prop :=
  ∃ read : Option (CatalogCache scope.Item),
    (∀ reply, (⟨.db (.get scope), reply⟩ : Event) ∈ work ↔ reply = .ok read) ∧
      match read with
      | some cache => result = .ok cache.items
      | none => ∃ e, result = .error e

/-- The work replaced no stored list. -/
def WritesNothing (work : List Event) : Prop :=
  ∀ scope items reply, (⟨.db (.replace scope items), reply⟩ : Event) ∉ work

/-- What a refresh of a list ends with: a whole list or an error, and the stored list it read
after the provider failed or answered an invalid list. -/
structure RefreshOutcome (s : State) (scope : CatalogScope) (work : List Event)
    (result : Except String (List scope.Item)) : Prop where
  complete : ∀ items, result = .ok items → CompleteList s scope items
  rejected : UpstreamRejected scope work → StaleAnswer scope work result ∧ WritesNothing work

/-- What others can change while a program waits: the provider's answers stay answers, and a
flight keeps its result. -/
structure Grows (s s' : State) : Prop where
  responses : ∀ response ∈ s.responses, response ∈ s'.responses
  flights : ∀ key flight result, s.flights.result key flight = some result →
    s'.flights.result key flight = some result

theorem Grows.refl (s : State) : Grows s s := ⟨fun _ h => h, fun _ _ _ h => h⟩

theorem Grows.trans {s s' s'' : State} (h : Grows s s') (h' : Grows s' s'') : Grows s s'' :=
  ⟨fun response hmem => h'.responses response (h.responses response hmem),
    fun key flight result hresult =>
      h'.flights key flight result (h.flights key flight result hresult)⟩

theorem CompleteList.grows {s s' : State} {scope : CatalogScope} {items : List scope.Item}
    (h : CompleteList s scope items) (hgrows : Grows s s') : CompleteList s' scope items := by
  obtain ⟨answer, hmem, hvalid, hitems⟩ := h
  exact ⟨answer, hgrows.responses _ hmem, hvalid, hitems⟩

theorem RefreshOutcome.grows {s s' : State} {scope : CatalogScope} {work : List Event}
    {result : Except String (List scope.Item)} (h : RefreshOutcome s scope work result)
    (hgrows : Grows s s') : RefreshOutcome s' scope work result :=
  ⟨fun items hitems => (h.complete items hitems).grows hgrows, h.rejected⟩

/-! ## The contract of the programs -/

/-- What a program promises of a call: a list that it stores was answered by the provider to it,
a mapping that it stores is that of a city of the index it names, and the result of a load is the
outcome of a refresh that it made. -/
def Promised (provider : String) (s : State) (events : List Event) : Call → Prop
  | .db (.replace scope items) => CompleteList s scope items ∧
    ∃ answer, (⟨.input (.upstream scope), .ok answer⟩ : Event) ∈ events ∧
      scope.validate answer = .ok ⟨⟩ ∧ items = scope.sort answer
  | .db (.putProviderStationMapping index station) =>
    station.providerName = provider ∧ ∃ city ∈ index.cities,
      city.providerCode = station.providerStationId ∧
        city.providerProvinceCode = station.providerProvinceCode
  | .complete (.load scope) _ result =>
    ∃ before work, events = before ++ work ∧ RefreshOutcome s scope work result
  | _ => True

/-- The flight has this result, and the participant that completed it kept its promise. -/
def HasResult (provider : String) (s : State) (key : FlightKey) (flight : ℕ)
    (result : Except String key.Value) : Prop :=
  ∃ found, s.flights.result key flight = some found ∧ found.result = result ∧
    Promised provider s found.events (.complete key flight result)

/-- What the engine promises of a reply: a stored list and the list of a task are whole answers of
the provider, and a flight has the result that is reported, which was promised. -/
def Answered (provider : String) (s : State) : (c : Call) → Reply c → Prop
  | .input (.upstream scope), .ok items => ⟨scope, items⟩ ∈ s.responses
  | .db (.get scope), .ok (some cache) => CompleteList s scope cache.items
  | .db .getAllProviderCityScopes, .ok scopes =>
    ∀ scope ∈ scopes, CompleteList s (.cities scope.providerProvinceCode) scope.items
  | .enter key flight, some result => HasResult provider s key flight result
  | .complete key flight _, result => HasResult provider s key flight result
  | .joinNext, .ok (code, .ok items) => CompleteList s (.cities code) items
  | _, _ => True

theorem Promised.grows {provider : String} {s s' : State} {events : List Event} {c : Call}
    (h : Promised provider s events c) (hgrows : Grows s s') : Promised provider s' events c := by
  cases c with
  | db command =>
    cases command with
    | replace scope items => exact ⟨h.1.grows hgrows, h.2⟩
    | putProviderStationMapping => exact h
    | get => trivial
    | getAllProviderCityScopes => trivial
    | logFetch => trivial
  | complete key flight result =>
    cases key with
    | load scope =>
      obtain ⟨before, work, hevents, houtcome⟩ := h
      exact ⟨before, work, hevents, houtcome.grows hgrows⟩
    | population => trivial
  | input => trivial
  | join => trivial
  | enter => trivial
  | leave => trivial
  | spawn => trivial
  | joinNext => trivial
  | abortAll => trivial

theorem HasResult.grows {provider : String} {s s' : State} {key : FlightKey} {flight : ℕ}
    {result : Except String key.Value} (h : HasResult provider s key flight result)
    (hgrows : Grows s s') : HasResult provider s' key flight result := by
  obtain ⟨found, hfound, hresult, hpromised⟩ := h
  exact ⟨found, hgrows.flights _ _ _ hfound, hresult, hpromised.grows hgrows⟩

/-- The contract between the programs and the engine. -/
def contract (provider : String) : Contract State Call Reply where
  rely := Grows
  rely_refl := Grows.refl
  rely_trans _ _ _ h h' := h.trans h'
  promised := Promised provider
  promised_rely _ _ _ _ hgrows h := h.grows hgrows
  answered := Answered provider

section Programs

variable {provider : String} {s : State} {events : List Event}

/-! ## The load of one list -/

/-- A pure computation that can fail. -/
theorem keeps_ofExcept {α β : Type} {x : Except String α} {f : α → Program β}
    {Q : State → List Event → Except String β → Prop}
    (hok : ∀ a, x = .ok a → Keeps (contract provider) Q (f a).run s events)
    (herror : ∀ e, x = .error e → Q s events (.error e)) :
    Keeps (contract provider) Q (ofExcept x >>= f).run s events := by
  cases x with
  | ok a => exact hok a rfl
  | error e => exact herror e rfl

/-- A logged fetch changes nothing that a contract is about. -/
theorem keeps_recordCatalogFetch {α : Type} {endpoint : String} {ok : Bool}
    {message : Option String} {f : Unit → Program α}
    {Q : State → List Event → Except String α → Prop}
    (h : ∀ s' reply, Grows s s' → Keeps (contract provider) Q (f ⟨⟩).run s'
      (events ++ [⟨.db (.logFetch endpoint ok message), reply⟩])) :
    Keeps (contract provider) Q (recordCatalogFetch endpoint ok message >>= f).run s events :=
  ⟨trivial, fun s' reply hgrows _ => h s' reply hgrows⟩

/-- What a refresh has done before it asks the provider: one read of the stored list. -/
structure ReadOnce (scope : CatalogScope) (work : List Event)
    (read : Option (CatalogCache scope.Item)) : Prop where
  reads : ∀ reply, (⟨.db (.get scope), reply⟩ : Event) ∈ work ↔ reply = .ok read
  asksNothing : ∀ reply, (⟨.input (.upstream scope), reply⟩ : Event) ∉ work
  writesNothing : WritesNothing work

/-- A refresh whose provider answered a valid list was not rejected. -/
theorem not_upstreamRejected {scope : CatalogScope} {work : List Event}
    {answer : List scope.Item} (hvalid : scope.validate answer = .ok ⟨⟩)
    (h : ∀ reply, (⟨.input (.upstream scope), reply⟩ : Event) ∈ work → reply = .ok answer) :
    ¬ UpstreamRejected scope work := by
  rintro ⟨reply, hmem, hinvalid⟩
  exact hinvalid answer (h reply hmem) hvalid

/-- Storing a list that the provider answered. -/
theorem keeps_persistCatalog {scope : CatalogScope} {answer : List scope.Item}
    (hanswer : ⟨scope, answer⟩ ∈ s.responses) (hvalid : scope.validate answer = .ok ⟨⟩)
    (hevent : (⟨.input (.upstream scope), .ok answer⟩ : Event) ∈ events) :
    Keeps (contract provider)
      (fun s' events' result => ∃ items warning, result = .ok (items, warning) ∧
        CompleteList s' scope items ∧ ∃ more, events' = events ++ more ∧
          ∀ reply, (⟨.input (.upstream scope), reply⟩ : Event) ∉ more)
      (persistCatalog scope (scope.sort answer)).run s events := by
  have hcomplete : CompleteList s scope (scope.sort answer) := ⟨answer, hanswer, hvalid, rfl⟩
  refine ⟨⟨hcomplete, answer, hevent, hvalid, rfl⟩, fun s₁ written hgrows₁ _ => ?_⟩
  cases written with
  | error e =>
    exact ⟨_, _, rfl, hcomplete.grows hgrows₁, _, rfl, by simp⟩
  | ok =>
    refine ⟨trivial, fun s₂ stored hgrows₂ hstored => ?_⟩
    have hkept : CompleteList s₂ scope (scope.sort answer) :=
      hcomplete.grows (hgrows₁.trans hgrows₂)
    cases stored with
    | error e => exact ⟨_, _, rfl, hkept, _, List.append_assoc _ _ _, by simp⟩
    | ok cache =>
      cases cache with
      | none => exact ⟨_, _, rfl, hkept, _, List.append_assoc _ _ _, by simp⟩
      | some cache => exact ⟨_, _, rfl, hstored, _, List.append_assoc _ _ _, by simp⟩

/-- A refresh whose provider failed or answered an invalid list. -/
theorem keeps_settleCatalog_error {scope : CatalogScope}
    {read : Option (CatalogCache scope.Item)} {before work : List Event} {message : String}
    {fetched : Except String (List scope.Item)} (hwork : ReadOnce scope work read)
    (hread : ∀ cache, read = some cache → CompleteList s scope cache.items)
    (hrejected : (fetched.bind fun items => (scope.validate items).map fun _ => items) =
      .error message) :
    Keeps (contract provider)
      (fun s' events' result => ∃ work, events' = before ++ work ∧
        RefreshOutcome s' scope work result)
      (settleCatalog scope (read.map (·.items)) fetched).run s
      (before ++ (work ++ [⟨.input (.upstream scope), fetched⟩])) := by
  unfold settleCatalog
  rw [hrejected]
  refine keeps_recordCatalogFetch fun s' reply hgrows => ?_
  rw [List.append_assoc]
  have hstale : ∀ result, (match read with
      | some cache => result = .ok cache.items
      | none => ∃ e, result = .error e) →
      StaleAnswer scope (work ++ [⟨.input (.upstream scope), fetched⟩] ++
        [⟨.db (.logFetch scope.endpoint false (some message)), reply⟩]) result := by
    intro result hresult
    refine ⟨read, fun other => ?_, hresult⟩
    simp [hwork.reads]
  have hnothing : WritesNothing (work ++ [⟨.input (.upstream scope), fetched⟩] ++
      [⟨.db (.logFetch scope.endpoint false (some message)), reply⟩]) := by
    intro other items written
    simpa using hwork.writesNothing other items written
  cases read with
  | none =>
    refine ⟨_, rfl, fun items hitems => ?_, fun _ => ⟨hstale _ ⟨_, rfl⟩, hnothing⟩⟩
    cases hitems
  | some cache =>
    refine ⟨_, rfl, fun items hitems => ?_, fun _ => ⟨hstale _ rfl, hnothing⟩⟩
    cases hitems
    exact (hread cache rfl).grows hgrows

/-- A refresh whose provider answered a valid list. -/
theorem keeps_settleCatalog_ok {scope : CatalogScope} {stale : Option (List scope.Item)}
    {read : Option (CatalogCache scope.Item)} {before work : List Event}
    {fetched : Except String (List scope.Item)} {answer : List scope.Item}
    (hwork : ReadOnce scope work read) (hfetched : Answered provider s (.input (.upstream scope)) fetched)
    (haccepted : (fetched.bind fun items => (scope.validate items).map fun _ => items) =
      .ok answer) :
    Keeps (contract provider)
      (fun s' events' result => ∃ work, events' = before ++ work ∧
        RefreshOutcome s' scope work result)
      (settleCatalog scope stale fetched).run s
      (before ++ (work ++ [⟨.input (.upstream scope), fetched⟩])) := by
  obtain ⟨rfl, hvalid⟩ : fetched = .ok answer ∧ scope.validate answer = .ok ⟨⟩ := by
    cases fetched with
    | error e => cases haccepted
    | ok items =>
      cases hvalid : scope.validate items with
      | error e => simp [Except.bind, hvalid, Except.map] at haccepted
      | ok =>
        simp only [Except.bind, hvalid, Except.map, Except.ok.injEq] at haccepted
        subst haccepted
        exact ⟨rfl, hvalid⟩
  unfold settleCatalog
  rw [haccepted]
  refine keeps_bindExcept (keeps_persistCatalog hfetched hvalid (by simp)) ?_ ?_
  · rintro s₁ events₁ ⟨items, warning⟩ hgrows₁ ⟨items', warning', hresult, hcomplete, more,
      rfl, hmore⟩
    cases hresult
    refine keeps_recordCatalogFetch fun s₂ reply hgrows₂ => ?_
    refine ⟨work ++ [⟨.input (.upstream scope), .ok answer⟩] ++ more ++
      [⟨.db (.logFetch scope.endpoint true warning), reply⟩], by simp, fun list hlist => ?_,
      fun hrejected => absurd hrejected (not_upstreamRejected hvalid fun other hmem => ?_)⟩
    · cases hlist
      exact hcomplete.grows hgrows₂
    · simpa [hwork.asksNothing, hmore] using hmem
  · rintro s₁ events₁ e - ⟨items, warning, hresult, -⟩
    cases hresult

/-- A refresh that found a stored list missing or stale. -/
theorem keeps_fetchCatalog {scope : CatalogScope} {read : Option (CatalogCache scope.Item)}
    {before work : List Event} (hwork : ReadOnce scope work read)
    (hread : ∀ cache, read = some cache → CompleteList s scope cache.items) :
    Keeps (contract provider)
      (fun s' events' result => ∃ work, events' = before ++ work ∧
        RefreshOutcome s' scope work result)
      (fetchCatalog scope (read.map (·.items))).run s (before ++ work) := by
  refine ⟨trivial, fun s₁ fetched hgrows₁ hfetched => ?_⟩
  rw [List.append_assoc]
  cases haccepted : fetched.bind fun items => (scope.validate items).map fun _ => items with
  | ok answer => exact keeps_settleCatalog_ok hwork hfetched haccepted
  | error message =>
    exact keeps_settleCatalog_error hwork (fun cache hcache => (hread cache hcache).grows hgrows₁)
      haccepted

/-- A refresh ends with its outcome. -/
theorem keeps_refreshCatalog (scope : CatalogScope) :
    Keeps (contract provider)
      (fun s' events' result => ∃ before work, events' = before ++ work ∧
        RefreshOutcome s' scope work result)
      (refreshCatalog scope).run s events := by
  refine ⟨trivial, fun s₁ ttlSeconds _ _ => ⟨trivial, fun s₂ cached _ hcached => ?_⟩⟩
  rw [List.append_assoc]
  cases cached with
  | error e =>
    refine ⟨events, _, rfl, fun items hitems => ?_, ?_⟩
    · cases hitems
    · rintro ⟨reply, hmem, -⟩
      simp at hmem
  | ok cached =>
    cases cached with
    | none =>
      have hwork : ReadOnce scope ([⟨.input .provinceTtlSeconds, ttlSeconds⟩] ++
          [⟨.db (.get scope), .ok none⟩]) none :=
        ⟨by simp, by simp, by simp [WritesNothing]⟩
      exact (keeps_fetchCatalog hwork nofun).weaken fun _ _ _ _ h => ⟨events, h⟩
    | some cache =>
      refine ⟨trivial, fun s₃ now hgrows₃ _ => ?_⟩
      rw [List.append_assoc]
      have hwork : ReadOnce scope ([⟨.input .provinceTtlSeconds, ttlSeconds⟩] ++
          [⟨.db (.get scope), .ok (some cache)⟩] ++ [⟨.input .unixTimestampMs, now⟩])
          (some cache) :=
        ⟨by simp, by simp, by simp [WritesNothing]⟩
      have hcomplete : CompleteList s₃ scope cache.items := CompleteList.grows hcached hgrows₃
      change Keeps _ _ (ExceptT.run (if catalogCacheIsFresh cache.fetchedAtUnixMs now ttlSeconds then
        return cache.items else fetchCatalog scope (some cache.items))) _ _
      split_ifs with hfresh
      · refine ⟨events, _, rfl, fun items hitems => ?_, ?_⟩
        · cases hitems
          exact hcomplete
        · rintro ⟨reply, hmem, -⟩
          exact absurd hmem (hwork.asksNothing reply)
      · refine (keeps_fetchCatalog hwork fun other hother => ?_).weaken
          fun _ _ _ _ h => ⟨events, h⟩
        cases hother
        exact hcomplete

/-! ## Shared loads -/

/-- A shared flight reports the result that the flight has. -/
theorem keeps_shareFlight {key : FlightKey} {work : Program key.Value}
    (hwork : ∀ s' events', Grows s s' → Keeps (contract provider)
      (fun s'' events'' result => ∀ flight,
        Promised provider s'' events'' (.complete key flight result)) work.run s' events') :
    Keeps (contract provider)
      (fun s' events' result => ∃ flight, (⟨.join key, flight⟩ : Event) ∈ events' ∧
        HasResult provider s' key flight result)
      (shareFlight key work).run s events := by
  refine ⟨trivial, fun s₁ flight hgrows₁ _ => ⟨trivial, fun s₂ shared hgrows₂ hshared => ?_⟩⟩
  cases shared with
  | some result =>
    refine ⟨trivial, fun s₃ _ hgrows₃ _ => ?_⟩
    exact ⟨flight, by simp, HasResult.grows hshared hgrows₃⟩
  | none =>
    change Keeps _ _ (work.run >>= fun result => (do
      let result ← invoke (.complete key flight result)
      let _ ← invoke (.leave key flight)
      return result : Process Call Reply (Except String key.Value))) _ _
    refine keeps_bind (hwork s₂ _ (hgrows₁.trans hgrows₂)).recorded ?_
    rintro s₃ events₃ result hgrows₃ ⟨hpromised, hrecorded⟩
    refine ⟨hpromised flight, fun s₄ result hgrows₄ hresult => ⟨trivial, fun s₅ _ hgrows₅ _ => ?_⟩⟩
    refine ⟨flight, ?_, HasResult.grows hresult hgrows₅⟩
    have hjoined : (⟨.join key, flight⟩ : Event) ∈ events₃ := hrecorded.subset (by simp)
    simp [hjoined]

/-- What the load of a list returns: a stored list that it read and found fresh, the outcome of a
flight of the list that it joined, or the error of its read. -/
inductive Loaded (s : State) (scope : CatalogScope) (events : List Event) :
    Except String (List scope.Item) → Prop
  | stored {cache : CatalogCache scope.Item} {now : ℤ} {ttlSeconds : ℕ} :
      (⟨.db (.get scope), .ok (some cache)⟩ : Event) ∈ events →
      (⟨.input .unixTimestampMs, now⟩ : Event) ∈ events →
      (⟨.input .provinceTtlSeconds, ttlSeconds⟩ : Event) ∈ events →
      catalogCacheIsFresh cache.fetchedAtUnixMs now ttlSeconds = true →
      CompleteList s scope cache.items → Loaded s scope events (.ok cache.items)
  | flight {flight : ℕ} {found : FlightResult (.load scope)} {before work : List Event} :
      (⟨.join (.load scope), flight⟩ : Event) ∈ events →
      s.flights.result (.load scope) flight = some found → found.events = before ++ work →
      RefreshOutcome s scope work found.result → Loaded s scope events found.result
  | failed {e : String} :
      (⟨.db (.get scope), .error e⟩ : Event) ∈ events → Loaded s scope events (.error e)

/-- A loaded list is a whole answer of the provider. -/
theorem Loaded.complete {scope : CatalogScope} {result : Except String (List scope.Item)}
    {items : List scope.Item} (h : Loaded s scope events result) (hresult : result = .ok items) :
    CompleteList s scope items := by
  cases h with
  | stored _ _ _ _ hcomplete =>
    cases hresult
    exact hcomplete
  | flight _ _ _ houtcome => exact houtcome.complete items hresult
  | failed => cases hresult

theorem Loaded.grows {s' : State} {scope : CatalogScope}
    {result : Except String (List scope.Item)} (h : Loaded s scope events result)
    (hgrows : Grows s s') : Loaded s' scope events result := by
  cases h with
  | stored hread hnow httl hfresh hcomplete =>
    exact .stored hread hnow httl hfresh (hcomplete.grows hgrows)
  | flight hjoined hfound hevents houtcome =>
    exact .flight hjoined (hgrows.flights _ _ _ hfound) hevents (houtcome.grows hgrows)
  | failed hread => exact .failed hread

theorem keeps_loadCatalog (scope : CatalogScope) :
    Keeps (contract provider) (fun s' events' result => Loaded s' scope events' result)
      (loadCatalog scope).run s events := by
  have hshare : ∀ s' events', Keeps (contract provider)
      (fun s'' events'' result => Loaded s'' scope events'' result)
      (shareFlight (.load scope) (refreshCatalog scope)).run s' events' := by
    intro s' events'
    refine (keeps_shareFlight fun s₁ events₁ _ =>
      (keeps_refreshCatalog scope).weaken fun _ _ _ _ h _ => h).weaken ?_
    rintro s₁ events₁ result - ⟨flight, hjoined, found, hfound, rfl, before, work, hevents, hout⟩
    exact .flight hjoined hfound hevents hout
  refine ⟨trivial, fun s₁ cached _ hcached => ?_⟩
  cases cached with
  | error e => exact .failed (by simp)
  | ok cached =>
    cases cached with
    | none => exact hshare _ _
    | some cache =>
      refine ⟨trivial, fun s₂ now hgrows₂ _ => ⟨trivial, fun s₃ ttlSeconds hgrows₃ _ => ?_⟩⟩
      change Keeps _ _ (ExceptT.run (if catalogCacheIsFresh cache.fetchedAtUnixMs now ttlSeconds then
        return cache.items else shareFlight (.load scope) (refreshCatalog scope))) _ _
      split_ifs with hfresh
      · exact .stored (by simp) (by simp) (by simp) hfresh
          (CompleteList.grows hcached (hgrows₂.trans hgrows₃))
      · exact hshare _ _

/-! ## The load of an index -/

/-- No promise is made about the result. -/
abbrev anyResult {α : Type} : State → List Event → α → Prop := fun _ _ _ => True

theorem keeps_spawnCityScopes (codes : List String) :
    Keeps (contract provider) anyResult (spawnCityScopes codes).run s events := by
  induction codes generalizing s events with
  | nil => trivial
  | cons code codes ih => exact ⟨trivial, fun _ _ _ _ => ih⟩

theorem keeps_joinCityScopes (tasks : ℕ) (pending : List String)
    (loaded : String → Option (List ProviderCity)) :
    Keeps (contract provider) anyResult (joinCityScopes tasks pending loaded).run s events := by
  induction tasks generalizing s events pending loaded with
  | zero => trivial
  | succ tasks ih =>
    refine ⟨trivial, fun s₁ joined _ _ => ?_⟩
    rcases joined with e | ⟨code, e | cities⟩
    · exact ⟨trivial, fun _ _ _ _ => trivial⟩
    · exact ⟨trivial, fun _ _ _ _ => trivial⟩
    · exact keeps_bindExcept (keeps_spawnCityScopes _) (fun _ _ _ _ _ => ih _ _)
        fun _ _ _ _ _ => trivial

theorem keeps_loadProviderCityScopes (codes : List String) :
    Keeps (contract provider) anyResult (loadProviderCityScopes codes).run s events :=
  keeps_bindExcept (keeps_spawnCityScopes _) (fun _ _ _ _ _ => keeps_joinCityScopes _ _ _)
    fun _ _ _ _ _ => trivial

theorem keeps_populateProviderCatalog (provinces : List ProviderProvince) :
    Keeps (contract provider) anyResult (populateProviderCatalog provinces).run s events := by
  refine ⟨trivial, fun _ _ _ _ => ⟨trivial, fun _ _ _ _ => ⟨trivial, fun _ scopes _ _ => ?_⟩⟩⟩
  cases scopes with
  | error e => trivial
  | ok scopes =>
    exact keeps_bindExcept (keeps_loadProviderCityScopes _) (fun _ _ _ _ _ => trivial)
      fun _ _ _ _ _ => trivial

theorem keeps_providerCatalogFromProvinces (provinces : List ProviderProvince) :
    Keeps (contract provider) anyResult (providerCatalogFromProvinces provinces).run s events :=
  (keeps_shareFlight fun _ _ _ => (keeps_populateProviderCatalog provinces).weaken
    fun _ _ _ _ _ _ => trivial).weaken fun _ _ _ _ _ => trivial

theorem keeps_providerCatalog :
    Keeps (contract provider) anyResult providerCatalog.run s events := by
  refine (keeps_shareFlight fun _ _ _ => ?_).weaken fun _ _ _ _ _ => trivial
  exact keeps_bindExcept (keeps_loadCatalog .provinces)
    (fun _ _ provinces _ _ => (keeps_populateProviderCatalog provinces).weaken
      fun _ _ _ _ _ _ => trivial)
    fun _ _ _ _ _ _ => trivial

theorem keeps_providerCatalogForProvinces (provinces : List ProviderProvince) :
    Keeps (contract provider) anyResult (providerCatalogForProvinces provinces).run s events :=
  keeps_bindExcept (keeps_loadProviderCityScopes _) (fun _ _ _ _ _ => trivial)
    fun _ _ _ _ _ => trivial

theorem keeps_providerCatalogForProvince (province : String) :
    Keeps (contract provider) anyResult
      (providerCatalogForProvince provider province).run s events := by
  refine keeps_bindExcept (keeps_loadCatalog .provinces) (fun _ _ provinces _ _ => ?_)
    fun _ _ _ _ _ => trivial
  exact keeps_ofExcept (fun found _ => keeps_providerCatalogForProvinces [found])
    fun _ _ => trivial

/-! ## Searches -/

theorem keeps_putMappings {index : ProviderCatalog} {rows : List ProviderStation}
    (h : ∀ row ∈ rows, row.providerName = provider ∧ ∃ city ∈ index.cities,
      city.providerCode = row.providerStationId ∧
        city.providerProvinceCode = row.providerProvinceCode) :
    Keeps (contract provider) anyResult (putMappings index rows).run s events := by
  induction rows generalizing s events with
  | nil => trivial
  | cons row rows ih =>
    refine ⟨h row List.mem_cons_self, fun s₁ reply _ _ => ?_⟩
    cases reply with
    | error e => trivial
    | ok => exact ih fun other hother => h other (List.mem_cons_of_mem _ hother)

variable [Sha256]

/-- The rows that are written for the station of a city are those of the city. -/
theorem stationMappings_of_city {index : ProviderCatalog} {city : ProviderCity}
    (hcity : city ∈ index.cities) {row : ProviderStation}
    (hrow : row ∈ stationMappings (city.station provider)) :
    row.providerName = provider ∧ ∃ city ∈ index.cities,
      city.providerCode = row.providerStationId ∧
        city.providerProvinceCode = row.providerProvinceCode := by
  simp only [stationMappings, List.mem_map] at hrow
  obtain ⟨name, -, rfl⟩ := hrow
  exact ⟨rfl, city, hcity, rfl, rfl⟩

theorem selectStation_ok {catalog : ProviderCatalog} {name : String}
    {station : ProviderStation} (h : selectStation provider name catalog = .ok station) :
    ∃ city ∈ catalog.cities, station = city.station provider := by
  simp only [selectStation] at h
  split at h
  next => cases h
  next found hhead =>
    cases h
    have hmem := Ranking.mem_sortBy.1 (List.mem_of_head? hhead)
    obtain ⟨city, hcity, rfl⟩ := List.mem_map.1 (List.mem_filter.1 hmem).1
    exact ⟨city, hcity, rfl⟩

theorem keeps_resolveStationNameFromTargetedIndex (name : String) :
    Keeps (contract provider) anyResult
      (resolveStationNameFromTargetedIndex provider name).run s events := by
  refine keeps_bindExcept (keeps_loadCatalog .provinces) (fun s₁ events₁ provinces _ _ => ?_)
    fun _ _ _ _ _ => trivial
  refine keeps_bindExcept (P := anyResult) ?_ (fun s₂ events₂ catalog _ _ => ?_)
    fun _ _ _ _ _ => trivial
  · simp only [lookupIndex]
    split_ifs
    · exact keeps_providerCatalogFromProvinces provinces
    · exact keeps_providerCatalogForProvinces _
  · refine keeps_ofExcept (fun station hstation => ?_) fun _ _ => trivial
    obtain ⟨city, hcity, rfl⟩ := selectStation_ok hstation
    exact keeps_bindExcept (keeps_putMappings fun row => stationMappings_of_city hcity)
      (fun _ _ _ _ _ => trivial) fun _ _ _ _ _ => trivial

variable [UnicodeTables]

/-- The stations of a page are those of cities of the searched index. -/
theorem mem_pageStations {catalog : ProviderCatalog} {query : String} {offset pageSize : ℕ}
    {station : ProviderStation} (h : station ∈ pageStations
      (paginate (searchCandidates provider catalog query) offset pageSize).1) :
    ∃ city ∈ catalog.cities, station = city.station provider := by
  obtain ⟨candidate, hcandidate, hstation⟩ := List.mem_filterMap.1 h
  have hmem : candidate ∈ searchCandidates provider catalog query :=
    List.mem_of_mem_take (List.mem_of_mem_drop hcandidate)
  cases candidate with
  | station found =>
    cases hstation
    obtain ⟨city, hleast, rfl⟩ := search_least hmem
    exact ⟨city, hleast.1, rfl⟩
  | city => cases hstation
  | province => cases hstation

theorem keeps_fuzzy (query : String) (province : Option String) (offset pageSize : ℕ) :
    Keeps (contract provider) anyResult (fuzzy provider query province offset pageSize).run s
      events := by
  refine keeps_bindExcept (P := anyResult) ?_ (fun s₁ events₁ catalog _ _ => ?_)
    fun _ _ _ _ _ => trivial
  · cases province with
    | none => exact keeps_providerCatalog
    | some province => exact keeps_providerCatalogForProvince province
  · refine keeps_bindExcept (keeps_putMappings fun row hrow => ?_)
      (fun _ _ _ _ _ => trivial) fun _ _ _ _ _ => trivial
    obtain ⟨station, hstation, hrow⟩ := List.mem_flatMap.1 hrow
    obtain ⟨city, hcity, rfl⟩ := mem_pageStations hstation
    exact stationMappings_of_city hcity hrow

/-! ## The program of a request -/

/-- What a request ends with: a list request with a loaded list of what it names, or with an
error. -/
def Returned (provider : String) (s : State) (events : List Event) : Request → Outcome → Prop
  | .listProvinces, .provinces result => Loaded s .provinces events result
  | .cityScope code, .cities result => Loaded s (.cities code) events result
  | .listCities province, .cities result => (∃ e, result = .error e) ∨
    ∃ provinces found, CompleteList s .provinces provinces ∧
      resolveProviderProvince provinces provider province = .ok found ∧
        Loaded s (.cities found.providerCode) events result
  | .fuzzyMatchStations _ _ _ _, .page _ => True
  | .resolveStation _, .station _ => True
  | _, _ => False

/-- The program of every request keeps the contract and ends as the request is answered. -/
theorem keeps_program (request : Request) :
    Keeps (contract provider)
      (fun s' events' outcome => Returned provider s' events' request outcome)
      (request.program provider) s events := by
  cases request with
  | listProvinces => exact keeps_bind (keeps_loadCatalog .provinces) fun _ _ _ _ h => h
  | cityScope code => exact keeps_bind (keeps_loadCatalog (.cities code)) fun _ _ _ _ h => h
  | fuzzyMatchStations query province offset pageSize =>
    exact keeps_bind (keeps_fuzzy query province offset pageSize) fun _ _ _ _ h => h
  | resolveStation name =>
    exact keeps_bind (keeps_resolveStationNameFromTargetedIndex name) fun _ _ _ _ h => h
  | listCities province =>
    refine keeps_bind ?_ fun _ _ _ _ h => h
    refine keeps_bindExcept (keeps_loadCatalog .provinces)
      (fun s₁ events₁ provinces _ hloaded => ?_) fun _ _ e _ _ => Or.inl ⟨e, rfl⟩
    refine keeps_ofExcept (fun found hfound => ?_) fun e _ => Or.inl ⟨e, rfl⟩
    refine (keeps_loadCatalog (.cities found.providerCode)).weaken
      fun s₂ events₂ result hgrows₂ hresult => Or.inr ⟨provinces, found, ?_, hfound, hresult⟩
    exact (hloaded.complete rfl).grows hgrows₂

end Programs

end Engine

end WeatherApp
