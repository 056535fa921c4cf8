import WeatherApp.Engine.Resource
import WeatherApp.Foundation.Run

/-!
# The resource manager

What the operations of the resource manager do is said once, as a few elementary moves
(`ResourceMove`) and one effect for each operation that has one. The representation invariant is
read off these.

## Main definitions

* `ResourceMove`: the moves all operations are made of.
* `RegistryInv`, `AccountingInv`: the representation invariant.
* `resourceSystem`: the manager under any sequence of operations.

## Main results

* `resourceManager_invariant`: the invariant, for every sequence of operations.
* `resourceManager_miscounts`: where the counter is not the sum of the lengths.
-/

namespace WeatherApp

open Relation ResourceState

/-! ## Elementary moves -/

/-- The sum of the cached resources' lengths. -/
def ResourceState.cachedBytes (s : ResourceState) : ℕ := s.cache.total CacheEntry.byteLength

/-- A move of the manager. None of them starts or ends a fetch, or caches a resource. -/
inductive ResourceMove [Sha256] (limits : ResourceLimits) : ResourceState → ResourceState → Prop
  | sequence (s : ResourceState) : ResourceMove limits s s.nextSequence
  | touchRegistration {s : ResourceState} {resourceId : String} {registration : Registration}
      (hget : s.registrations.get resourceId = some registration) (lastUsed : ℕ) :
      ResourceMove limits s (s.setRegistration resourceId { registration with lastUsed })
  | addRegistration {s : ResourceState} {sourceUrl : String}
      (hget : s.registrations.get (resourceIdOf sourceUrl) = none)
      (hroom : s.registrations.size < limits.maxRegistrations) (lastUsed : ℕ) :
      ResourceMove limits s (s.setRegistration (resourceIdOf sourceUrl) ⟨sourceUrl, lastUsed⟩)
  | touchEntry {s : ResourceState} {resourceId : String} {entry : CacheEntry}
      (hget : s.cache.get resourceId = some entry) (lastUsed : ℕ) :
      ResourceMove limits s
        { s with cache := s.cache.set resourceId { entry with lastUsed } }
  | dropEntry {s : ResourceState} {resourceId : String} {entry : CacheEntry}
      (hget : s.cache.get resourceId = some entry) :
      ResourceMove limits s (s.removeCacheEntry resourceId)
  | evict {s : ResourceState} {resourceId : String}
      (hidle : s.fetches.get resourceId ≠ some .pending) :
      ResourceMove limits s (s.evict resourceId)
  | forgetFailure {s : ResourceState} {resourceId : String}
      (hidle : s.fetches.get resourceId ≠ some .pending) :
      ResourceMove limits s { s with fetches := s.fetches.remove resourceId }

/-- Any number of moves. -/
abbrev ResourceMoves [Sha256] (limits : ResourceLimits) :
    ResourceState → ResourceState → Prop := ReflTransGen (ResourceMove limits)

namespace ResourceState

/-! ### Dropping cached resources -/

theorem removeCacheEntry_of_get_none {s : ResourceState} {resourceId : String}
    (h : s.cache.get resourceId = none) : s.removeCacheEntry resourceId = s := by
  rw [removeCacheEntry, h]

theorem removeCacheEntry_of_get_some {s : ResourceState} {resourceId : String}
    {entry : CacheEntry} (h : s.cache.get resourceId = some entry) :
    s.removeCacheEntry resourceId =
      { s with
        cache := s.cache.remove resourceId
        cacheBytes := s.cacheBytes - entry.byteLength } := by
  rw [removeCacheEntry, h]

@[simp]
theorem registrations_removeCacheEntry (s : ResourceState) (resourceId : String) :
    (s.removeCacheEntry resourceId).registrations = s.registrations := by
  unfold removeCacheEntry
  split <;> rfl

@[simp]
theorem fetches_removeCacheEntry (s : ResourceState) (resourceId : String) :
    (s.removeCacheEntry resourceId).fetches = s.fetches := by
  unfold removeCacheEntry
  split <;> rfl

theorem get_cache_removeCacheEntry (s : ResourceState) (resourceId other : String) :
    (s.removeCacheEntry resourceId).cache.get other =
      if other = resourceId then none else s.cache.get other := by
  cases h : s.cache.get resourceId with
  | none =>
    rw [removeCacheEntry_of_get_none h]
    split_ifs with hother
    · rw [hother, h]
    · rfl
  | some entry => rw [removeCacheEntry_of_get_some h, KeyedMap.get_remove]

theorem isSome_cache_removeCacheEntry {s : ResourceState} {resourceId other : String} :
    ((s.removeCacheEntry resourceId).cache.get other).isSome ↔
      other ≠ resourceId ∧ (s.cache.get other).isSome := by
  rw [get_cache_removeCacheEntry]
  split_ifs with h <;> simp [h]

/-- Dropping a cached resource is a move, or nothing. -/
theorem moves_removeCacheEntry [Sha256] (limits : ResourceLimits) (s : ResourceState)
    (resourceId : String) : ResourceMoves limits s (s.removeCacheEntry resourceId) := by
  cases h : s.cache.get resourceId with
  | none =>
    rw [removeCacheEntry_of_get_none h]
  | some entry => exact .single (.dropEntry h)

/-- What holds of the state and of its successor when a cached resource is dropped is kept by
`purge_expired`. -/
theorem purgeExpired_induction {P : ResourceState → Prop}
    (hstep : ∀ s resourceId, P s → P (s.removeCacheEntry resourceId)) {s : ResourceState}
    (hs : P s) (now : Instant) : P (s.purgeExpired now) := by
  unfold purgeExpired
  generalize (s.cache.rows.filter fun entry => entry.2.expiresAt ≤ now).map Prod.fst = expired
  induction expired generalizing s with
  | nil => exact hs
  | cons resourceId expired ih => exact ih (hstep s resourceId hs)

/-- The same for the loop of `cache`. -/
theorem makeRoom_induction {P : ResourceState → Prop}
    (hstep : ∀ s resourceId, P s → P (s.removeCacheEntry resourceId)) {s : ResourceState}
    (hs : P s) (maxBytes resourceBytes n : ℕ) : P (makeRoom maxBytes resourceBytes n s) := by
  induction n generalizing s with
  | zero => exact hs
  | succ n ih =>
    unfold makeRoom
    split_ifs
    · split
      next => exact hs
      next oldest _ => exact ih (hstep s oldest hs)
    · exact hs

/-- And for all that `cache` does before it stores the resource. -/
theorem clearedFor_induction {P : ResourceState → Prop}
    (hdrop : ∀ s resourceId, P s → P (s.removeCacheEntry resourceId))
    (hsequence : ∀ s, P s → P s.nextSequence) {s : ResourceState} (hs : P s)
    (limits : ResourceLimits) (resourceId : String) (resource : ProviderResource)
    (purgedAt : Instant) : P (s.clearedFor limits resourceId resource purgedAt) :=
  hsequence _ (makeRoom_induction hdrop
    (hdrop _ _ (purgeExpired_induction hdrop hs purgedAt)) _ _ _)

@[simp]
theorem registrations_clearedFor (limits : ResourceLimits) (s : ResourceState)
    (resourceId : String) (resource : ProviderResource) (purgedAt : Instant) :
    (s.clearedFor limits resourceId resource purgedAt).registrations = s.registrations :=
  clearedFor_induction (P := fun s' => s'.registrations = s.registrations)
    (fun _ _ h => (registrations_removeCacheEntry _ _).trans h) (fun _ h => h) rfl _ _ _ _

@[simp]
theorem fetches_clearedFor (limits : ResourceLimits) (s : ResourceState) (resourceId : String)
    (resource : ProviderResource) (purgedAt : Instant) :
    (s.clearedFor limits resourceId resource purgedAt).fetches = s.fetches :=
  clearedFor_induction (P := fun s' => s'.fetches = s.fetches)
    (fun _ _ h => (fetches_removeCacheEntry _ _).trans h) (fun _ h => h) rfl _ _ _ _

/-- `cache` drops what is stored under the identifier. -/
theorem get_cache_clearedFor (limits : ResourceLimits) (s : ResourceState) (resourceId : String)
    (resource : ProviderResource) (purgedAt : Instant) :
    (s.clearedFor limits resourceId resource purgedAt).cache.get resourceId = none := by
  refine makeRoom_induction (P := fun s' => s'.cache.get resourceId = none)
    (fun s' other h => ?_) ?_ _ _ _
  · rw [get_cache_removeCacheEntry, h, ite_self]
  · rw [get_cache_removeCacheEntry, if_pos rfl]

theorem moves_clearedFor [Sha256] (limits : ResourceLimits) (s : ResourceState)
    (resourceId : String) (resource : ProviderResource) (purgedAt : Instant) :
    ResourceMoves limits s (s.clearedFor limits resourceId resource purgedAt) :=
  clearedFor_induction (P := fun s' => ResourceMoves limits s s')
    (fun s' other h => h.trans (moves_removeCacheEntry limits s' other))
    (fun s' h => h.tail (.sequence s')) .refl _ _ _ _

/-! ### Evicting registrations -/

/-- The entry used least recently is one of the entries. -/
theorem oldestEntry_eq_some {α : Type} {lastUsed : α → ℕ} {entries : List (String × α)}
    {oldest : String} (h : oldestEntry lastUsed entries = some oldest) :
    ∃ a, (oldest, a) ∈ entries := by
  obtain ⟨entry, hentry, rfl⟩ := Option.map_eq_some_iff.1 h
  exact ⟨entry.2, List.argmin_mem hentry⟩

theorem oldestEntry_eq_none {α : Type} {lastUsed : α → ℕ} {entries : List (String × α)}
    (h : oldestEntry lastUsed entries = none) : entries = [] :=
  List.argmin_eq_none.1 (Option.map_eq_none_iff.1 h)

theorem oldestIdle_eq_some {s : ResourceState} {oldest : String}
    (h : s.oldestIdle = some oldest) :
    (∃ registration, s.registrations.get oldest = some registration) ∧
      s.fetches.get oldest ≠ some .pending := by
  obtain ⟨registration, hmem⟩ := oldestEntry_eq_some h
  obtain ⟨hrow, hidle⟩ := List.mem_filter.1 hmem
  exact ⟨⟨registration, KeyedMap.get_eq_some_iff.2 hrow⟩, of_decide_eq_true hidle⟩

@[simp]
theorem registrations_evict (s : ResourceState) (resourceId : String) :
    (s.evict resourceId).registrations = s.registrations.remove resourceId :=
  registrations_removeCacheEntry _ _

@[simp]
theorem fetches_evict (s : ResourceState) (resourceId : String) :
    (s.evict resourceId).fetches = s.fetches.remove resourceId :=
  fetches_removeCacheEntry _ _

theorem isSome_cache_evict {s : ResourceState} {resourceId other : String} :
    ((s.evict resourceId).cache.get other).isSome ↔
      other ≠ resourceId ∧ (s.cache.get other).isSome :=
  isSome_cache_removeCacheEntry

/-- The loop of `register`: it makes moves, registers nothing, and there is room when it
succeeds. -/
theorem evictRegistrations_spec [Sha256] (limits : ResourceLimits)
    (hlimit : 0 < limits.maxRegistrations) {n : ℕ} {s : ResourceState}
    (hn : s.registrations.size ≤ n) :
    ResourceMoves limits s (evictRegistrations limits.maxRegistrations n s).2 ∧
      (∀ resourceId, s.registrations.get resourceId = none →
        (evictRegistrations limits.maxRegistrations n s).2.registrations.get resourceId = none) ∧
      ((evictRegistrations limits.maxRegistrations n s).1 = true →
        (evictRegistrations limits.maxRegistrations n s).2.registrations.size <
          limits.maxRegistrations) := by
  induction n generalizing s with
  | zero =>
    refine ⟨.refl, fun _ h => h, fun _ => ?_⟩
    rw [evictRegistrations]
    exact Nat.lt_of_le_of_lt hn hlimit
  | succ n ih =>
    unfold evictRegistrations
    split_ifs with hfull
    · split
      next => exact ⟨.refl, fun _ h => h, fun h => by cases h⟩
      next oldest holdest =>
        obtain ⟨⟨registration, hregistered⟩, hidle⟩ := oldestIdle_eq_some holdest
        have hsize : (s.evict oldest).registrations.size ≤ n := by
          have hremoved := KeyedMap.size_remove hregistered
          rw [registrations_evict]
          omega
        obtain ⟨hmoves, hnone, hroom⟩ := ih hsize
        refine ⟨.head (.evict hidle) hmoves, fun resourceId h => hnone resourceId ?_, hroom⟩
        rw [registrations_evict, KeyedMap.get_remove, h, ite_self]
    · exact ⟨.refl, fun _ h => h, fun _ => not_le.1 hfull⟩

/-! ### What each operation does -/

/-- `register` makes moves only. -/
theorem moves_register [Sha256] (limits : ResourceLimits) (s : ResourceState)
    (sourceUrl : String) : ResourceMoves limits s (s.register limits sourceUrl).2 := by
  simp only [register]
  split_ifs with hrefused
  · exact .refl
  · rw [not_or] at hrefused
    have hlimit : 0 < limits.maxRegistrations := Nat.pos_of_ne_zero hrefused.2
    have hsequence : ResourceMoves limits s s.nextSequence := .single (.sequence s)
    split
    next registration hget =>
      split_ifs
      · exact hsequence.tail (.touchRegistration hget _)
      · exact hsequence
    next hget =>
      obtain ⟨hmoves, hnone, hroom⟩ :=
        evictRegistrations_spec limits hlimit (s := s.nextSequence) le_rfl
      have hget' := hnone _ hget
      split
      next s' hloop =>
        rw [hloop] at hmoves
        exact hsequence.trans hmoves
      next s' hloop =>
        rw [hloop] at hmoves hget' hroom
        exact (hsequence.trans hmoves).tail (.addRegistration hget' (hroom rfl) _)

/-- What `begin_fetch` does with the manager after its moves, and what its answer says about
it. -/
def FetchPlanned (resourceId : String) (mid s' : ResourceState) : ResourceFetchPlan → Prop
  | .ready resource => s' = mid ∧
    ∃ entry, mid.cache.get resourceId = some entry ∧ entry.resource = resource
  | .start sourceUrl => mid.fetches.get resourceId = none ∧
    (∃ registration, mid.registrations.get resourceId = some registration ∧
      registration.sourceUrl = sourceUrl) ∧
    s' = { mid with fetches := mid.fetches.set resourceId .pending }
  | .pending => s' = mid
  | .failed _ => s' = mid ∧ mid.fetches.get resourceId ≠ some .pending
  | .missing => s' = mid ∧ mid.registrations.get resourceId = none

theorem moves_dropFailure [Sha256] (limits : ResourceLimits) (s : ResourceState)
    (resourceId : String) (now : Instant) :
    ResourceMoves limits s (s.dropFailure resourceId now) := by
  unfold dropFailure
  split_ifs with hexpired
  · refine .single (.forgetFailure fun hpending => ?_)
    rw [hpending] at hexpired
    cases hexpired
  · exact .refl

theorem registrations_dropFailure (s : ResourceState) (resourceId : String) (now : Instant) :
    (s.dropFailure resourceId now).registrations = s.registrations := by
  unfold dropFailure
  split_ifs <;> rfl

/-- The end of `begin_fetch` forgets a failure that is over, and starts a fetch unless one runs or
has failed. -/
theorem planFetch_spec {s : ResourceState} {resourceId : String} {registration : Registration}
    (hregistered : s.registrations.get resourceId = some registration) (now : Instant) :
    FetchPlanned resourceId (s.dropFailure resourceId now)
      (s.planFetch resourceId registration.sourceUrl now).2
      (s.planFetch resourceId registration.sourceUrl now).1 := by
  simp only [planFetch]
  split
  next => exact rfl
  next message _ hfailed => exact ⟨rfl, by simp [hfailed]⟩
  next hnone =>
    refine ⟨hnone, ⟨registration, ?_, rfl⟩, rfl⟩
    rw [registrations_dropFailure, hregistered]

theorem moves_dropExpired [Sha256] (limits : ResourceLimits) (s : ResourceState)
    (resourceId : String) (now : Instant) :
    ResourceMoves limits s (s.dropExpired resourceId now) := by
  unfold dropExpired
  split_ifs
  · exact moves_removeCacheEntry limits s resourceId
  · exact .refl

theorem registrations_dropExpired (s : ResourceState) (resourceId : String) (now : Instant) :
    (s.dropExpired resourceId now).registrations = s.registrations := by
  unfold dropExpired
  split_ifs
  · exact registrations_removeCacheEntry s resourceId
  · rfl

/-- `begin_fetch` makes moves, and starts a fetch if its answer says so. -/
theorem beginFetch_spec [Sha256] (limits : ResourceLimits) (s : ResourceState)
    (resourceId : String) (now : Instant) :
    ∃ mid, ResourceMoves limits s mid ∧
      FetchPlanned resourceId mid (s.beginFetch resourceId now).2
        (s.beginFetch resourceId now).1 := by
  have hsequence : ResourceMoves limits s s.nextSequence := .single (.sequence s)
  simp only [beginFetch]
  split
  next hnone => exact ⟨_, hsequence, rfl, hnone⟩
  next registration hget =>
    set touched := s.nextSequence.setRegistration resourceId
      { registration with lastUsed := s.nextSequence.sequence } with htouched
    have hmoves : ResourceMoves limits s (touched.dropExpired resourceId now) :=
      (hsequence.tail (.touchRegistration hget _)).trans (moves_dropExpired limits _ _ _)
    split
    next entry hentry =>
      refine ⟨_, hmoves.tail (.touchEntry hentry _), rfl, _, KeyedMap.get_set_self _ _ _, rfl⟩
    next hentry =>
      have hregistered : (touched.dropExpired resourceId now).registrations.get resourceId =
          some { registration with lastUsed := s.nextSequence.sequence } := by
        rw [registrations_dropExpired]
        exact KeyedMap.get_set_self _ _ _
      exact ⟨_, hmoves.trans (moves_dropFailure limits _ resourceId now),
        planFetch_spec hregistered now⟩

/-- What `finish_fetch` does: it forgets the fetch, keeps its failure for a while, or panics. -/
theorem finishFetch_cases {s s' : ResourceState} {resourceId : String} {error : Option String}
    {now : Instant} (h : s.finishFetch resourceId error now = s') :
    s' = { s with fetches := s.fetches.remove resourceId } ∨
      ((s.registrations.get resourceId).isSome ∧ ∃ message expiresAt,
        s' = { s with fetches := s.fetches.set resourceId (.failed message expiresAt) }) ∨
      s' = s := by
  unfold finishFetch at h
  split_ifs at h with hnone
  · exact .inl h.symm
  · rw [Bool.not_eq_true, Option.isNone_eq_false_iff] at hnone
    split at h
    next message =>
      split at h
      next expiresAt _ => exact .inr (.inl ⟨hnone, message, expiresAt, h.symm⟩)
      next => exact .inr (.inr h.symm)
    next => exact .inl h.symm

/-- The state after the bytes of a resource are counted and before it is stored. -/
def counted (s : ResourceState) (resource : ProviderResource) : ResourceState :=
  { s with cacheBytes := saturatingAdd s.cacheBytes resource.bytes.length }

/-- What `cache` does: it refuses the resource, makes room and stores it, or panics when the
resource is counted. -/
theorem cacheResource_cases {limits : ResourceLimits} {s s' : ResourceState}
    {resourceId : String} {resource : ProviderResource} {purgedAt storedAt : Instant}
    {result : Option (Except String Unit)}
    (h : s.cacheResource limits resourceId resource purgedAt storedAt = (result, s')) :
    s' = s ∧ (∃ message, result = some (.error message)) ∨
      resource.bytes.length ≤ limits.maxBytes ∧ (s.registrations.get resourceId).isSome ∧
        ∃ mid, mid = (s.clearedFor limits resourceId resource purgedAt).counted resource ∧
          ((∃ expiresAt, storedAt.checkedAdd limits.ttl = some expiresAt ∧
              result = some (.ok ⟨⟩) ∧
              s' = { mid with
                cache := mid.cache.set resourceId ⟨resource, expiresAt, mid.sequence⟩ }) ∨
            storedAt.checkedAdd limits.ttl = none ∧ result = none ∧ s' = mid) := by
  simp only [cacheResource] at h
  split_ifs at h with hlarge hunregistered
  · cases h
    exact .inl ⟨rfl, _, rfl⟩
  · cases h
    exact .inl ⟨rfl, _, rfl⟩
  · rw [Bool.not_eq_true, Option.isNone_eq_false_iff] at hunregistered
    refine .inr ⟨not_lt.1 hlarge, hunregistered, _, rfl, ?_⟩
    split at h
    next expiresAt hexpiry =>
      cases h
      exact .inl ⟨expiresAt, hexpiry, rfl, rfl⟩
    next hexpiry =>
      cases h
      exact .inr ⟨hexpiry, rfl, rfl⟩

/-! ### Where cached resources come from -/

/-- A resource is cached under an identifier. -/
def Caches (s : ResourceState) (resourceId : String) (resource : ProviderResource) : Prop :=
  ∃ entry, s.cache.get resourceId = some entry ∧ entry.resource = resource

theorem Caches.of_removeCacheEntry {s : ResourceState} {resourceId other : String}
    {resource : ProviderResource} (h : (s.removeCacheEntry other).Caches resourceId resource) :
    s.Caches resourceId resource := by
  obtain ⟨entry, hget, hresource⟩ := h
  rw [get_cache_removeCacheEntry] at hget
  split_ifs at hget
  exact ⟨entry, hget, hresource⟩

/-- No move caches a resource. -/
theorem Caches.of_moves [Sha256] {limits : ResourceLimits} {s s' : ResourceState}
    {resourceId : String} {resource : ProviderResource} (hmoves : ResourceMoves limits s s')
    (h : s'.Caches resourceId resource) : s.Caches resourceId resource := by
  induction hmoves with
  | refl => exact h
  | tail _ hmove ih =>
    refine ih ?_
    cases hmove with
    | sequence => exact h
    | touchRegistration => exact h
    | addRegistration => exact h
    | forgetFailure => exact h
    | dropEntry => exact h.of_removeCacheEntry
    | evict => exact h.of_removeCacheEntry
    | @touchEntry _ entry hget lastUsed =>
      obtain ⟨entry', hget', hresource⟩ := h
      rw [KeyedMap.get_set] at hget'
      split_ifs at hget' with hsame
      · cases hget'
        exact ⟨entry, hsame ▸ hget, hresource⟩
      · exact ⟨entry', hget', hresource⟩

theorem Caches.of_beginFetch [Sha256] {s : ResourceState} {resourceId other : String}
    {now : Instant} {resource : ProviderResource}
    (h : (s.beginFetch other now).2.Caches resourceId resource) :
    s.Caches resourceId resource := by
  obtain ⟨mid, hmoves, hplanned⟩ := beginFetch_spec ResourceLimits.default s other now
  refine .of_moves hmoves ?_
  generalize s.beginFetch other now = result at hplanned h
  obtain ⟨plan, s'⟩ := result
  cases plan with
  | start =>
    obtain ⟨-, -, rfl⟩ := hplanned
    exact h
  | ready => exact hplanned.1 ▸ h
  | pending => exact Eq.symm hplanned ▸ h
  | failed => exact hplanned.1 ▸ h
  | missing => exact hplanned.1 ▸ h

/-- After `cache` a resource is cached that was before, or the one that is given. -/
theorem Caches.of_cacheResource [Sha256] {limits : ResourceLimits} {s : ResourceState}
    {resourceId other : String} {resource stored : ProviderResource} {purgedAt storedAt : Instant}
    (h : (s.cacheResource limits other stored purgedAt storedAt).2.Caches resourceId resource) :
    s.Caches resourceId resource ∨ resourceId = other ∧ resource = stored := by
  generalize hresult : s.cacheResource limits other stored purgedAt storedAt = result at h
  obtain ⟨result, s'⟩ := result
  have hcleared : (s.clearedFor limits other stored purgedAt).Caches resourceId resource →
      s.Caches resourceId resource := .of_moves (moves_clearedFor limits s other stored purgedAt)
  rcases cacheResource_cases hresult with ⟨rfl, -⟩ | ⟨-, -, mid, rfl, hstored⟩
  · exact .inl h
  · rcases hstored with ⟨expiresAt, -, -, rfl⟩ | ⟨-, -, rfl⟩
    · obtain ⟨entry, hget, hresource⟩ := h
      rw [KeyedMap.get_set] at hget
      split_ifs at hget with hsame
      · cases hget
        exact .inr ⟨hsame, hresource.symm⟩
      · exact .inl (hcleared ⟨entry, hget, hresource⟩)
    · exact .inl (hcleared h)

theorem Caches.of_finishFetch {s : ResourceState} {resourceId other : String}
    {error : Option String} {now : Instant} {resource : ProviderResource}
    (h : (s.finishFetch other error now).Caches resourceId resource) :
    s.Caches resourceId resource := by
  rcases finishFetch_cases (rfl : s.finishFetch other error now = _) with
    hcase | ⟨-, message, expiresAt, hcase⟩ | hcase
  all_goals
    rw [hcase] at h
    exact h

/-- A resource that is ready is cached and has not expired. -/
theorem beginFetch_ready {s : ResourceState} {resourceId : String} {now : Instant}
    {resource : ProviderResource} (h : (s.beginFetch resourceId now).1 = .ready resource) :
    ∃ entry, s.cache.get resourceId = some entry ∧ now < entry.expiresAt ∧
      entry.resource = resource := by
  simp only [beginFetch] at h
  split at h
  next => cases h
  next registration _ =>
    split at h
    next entry hentry =>
      cases h
      rw [dropExpired] at hentry
      split_ifs at hentry with hexpired
      · rw [get_cache_removeCacheEntry, if_pos rfl] at hentry
        cases hentry
      · have hget : s.cache.get resourceId = some entry := hentry
        rw [hentry, Option.any_some, decide_eq_true_eq] at hexpired
        exact ⟨entry, hget, not_le.1 hexpired, rfl⟩
    next =>
      simp only [planFetch] at h
      split at h <;> cases h

end ResourceState

/-! ## The representation invariant -/

/-- The maps agree, and the registrations are within their limit. -/
structure RegistryInv [Sha256] (limits : ResourceLimits) (s : ResourceState) : Prop where
  bounded : s.registrations.size ≤ limits.maxRegistrations
  cached : ∀ resourceId, (s.cache.get resourceId).isSome →
    (s.registrations.get resourceId).isSome
  fetched : ∀ resourceId, (s.fetches.get resourceId).isSome →
    (s.registrations.get resourceId).isSome
  derived : ∀ resourceId registration, s.registrations.get resourceId = some registration →
    resourceId = resourceIdOf registration.sourceUrl

/-- The counter never exceeds the limit or what is cached, and is exact when the limit is less than
the greatest `usize`: it cannot be capped then. -/
structure AccountingInv (limits : ResourceLimits) (s : ResourceState) : Prop where
  bounded : s.cacheBytes ≤ limits.maxBytes
  covered : s.cacheBytes ≤ s.cachedBytes
  exact : limits.maxBytes < usizeMax → s.cacheBytes = s.cachedBytes

section Invariant

variable [Sha256] {limits : ResourceLimits} {s s' : ResourceState}

/-- A registration that replaces one of the same URL keeps the registry. -/
theorem RegistryInv.touchRegistration (hinv : RegistryInv limits s) {resourceId : String}
    {registration : Registration} (hget : s.registrations.get resourceId = some registration)
    (lastUsed : ℕ) :
    RegistryInv limits (s.setRegistration resourceId { registration with lastUsed }) where
  bounded := (KeyedMap.size_set_of_get_some hget _).trans_le hinv.bounded
  cached other h := KeyedMap.isSome_get_set.2 (.inr (hinv.cached other h))
  fetched other h := KeyedMap.isSome_get_set.2 (.inr (hinv.fetched other h))
  derived other registration' h := by
    rw [ResourceState.setRegistration, KeyedMap.get_set] at h
    split_ifs at h with hother
    · cases h
      rw [hother]
      exact hinv.derived resourceId registration hget
    · exact hinv.derived other registration' h

theorem RegistryInv.addRegistration (hinv : RegistryInv limits s) {sourceUrl : String}
    (hget : s.registrations.get (resourceIdOf sourceUrl) = none)
    (hroom : s.registrations.size < limits.maxRegistrations) (lastUsed : ℕ) :
    RegistryInv limits (s.setRegistration (resourceIdOf sourceUrl) ⟨sourceUrl, lastUsed⟩) where
  bounded := (KeyedMap.size_set_of_get_none hget _).trans_le hroom
  cached other h := KeyedMap.isSome_get_set.2 (.inr (hinv.cached other h))
  fetched other h := KeyedMap.isSome_get_set.2 (.inr (hinv.fetched other h))
  derived other registration' h := by
    rw [ResourceState.setRegistration, KeyedMap.get_set] at h
    split_ifs at h with hother
    · cases h
      exact hother
    · exact hinv.derived other registration' h

/-- What is evicted leaves all three maps. -/
theorem RegistryInv.evict (hinv : RegistryInv limits s) (resourceId : String) :
    RegistryInv limits (s.evict resourceId) where
  bounded := by
    rw [registrations_evict]
    exact (KeyedMap.size_remove_le _ _).trans hinv.bounded
  cached other h := by
    rw [isSome_cache_evict] at h
    rw [registrations_evict, KeyedMap.isSome_get_remove]
    exact ⟨h.1, hinv.cached other h.2⟩
  fetched other h := by
    rw [fetches_evict, KeyedMap.isSome_get_remove] at h
    rw [registrations_evict, KeyedMap.isSome_get_remove]
    exact ⟨h.1, hinv.fetched other h.2⟩
  derived other registration h := by
    rw [registrations_evict, KeyedMap.get_remove] at h
    split_ifs at h
    exact hinv.derived other registration h

/-- Fewer cached resources keep the registry. -/
theorem RegistryInv.dropEntry (hinv : RegistryInv limits s) (resourceId : String) :
    RegistryInv limits (s.removeCacheEntry resourceId) where
  bounded := by
    rw [registrations_removeCacheEntry]
    exact hinv.bounded
  cached other h := by
    rw [isSome_cache_removeCacheEntry] at h
    rw [registrations_removeCacheEntry]
    exact hinv.cached other h.2
  fetched other h := by
    rw [fetches_removeCacheEntry] at h
    rw [registrations_removeCacheEntry]
    exact hinv.fetched other h
  derived other registration h := by
    rw [registrations_removeCacheEntry] at h
    exact hinv.derived other registration h

/-- A fetch of a registered resource is recorded. -/
theorem RegistryInv.setFetch (hinv : RegistryInv limits s) {resourceId : String}
    (hregistered : (s.registrations.get resourceId).isSome) (fetch : ResourceFetchState) :
    RegistryInv limits { s with fetches := s.fetches.set resourceId fetch } where
  bounded := hinv.bounded
  cached := hinv.cached
  fetched other h := by
    rcases KeyedMap.isSome_get_set.1 h with rfl | h
    · exact hregistered
    · exact hinv.fetched other h
  derived := hinv.derived

theorem RegistryInv.removeFetch (hinv : RegistryInv limits s) (resourceId : String) :
    RegistryInv limits { s with fetches := s.fetches.remove resourceId } where
  bounded := hinv.bounded
  cached := hinv.cached
  fetched other h := hinv.fetched other (KeyedMap.isSome_get_remove.1 h).2
  derived := hinv.derived

/-- A registered resource is stored. -/
theorem RegistryInv.setEntry (hinv : RegistryInv limits s) {resourceId : String}
    (hregistered : (s.registrations.get resourceId).isSome) (entry : CacheEntry) :
    RegistryInv limits { s with cache := s.cache.set resourceId entry } where
  bounded := hinv.bounded
  cached other h := by
    rcases KeyedMap.isSome_get_set.1 h with rfl | h
    · exact hregistered
    · exact hinv.cached other h
  fetched := hinv.fetched
  derived := hinv.derived

/-- Every move keeps the registry. -/
theorem RegistryInv.move (hinv : RegistryInv limits s) (h : ResourceMove limits s s') :
    RegistryInv limits s' := by
  cases h with
  | sequence => exact ⟨hinv.bounded, hinv.cached, hinv.fetched, hinv.derived⟩
  | touchRegistration hget lastUsed => exact hinv.touchRegistration hget lastUsed
  | addRegistration hget hroom lastUsed => exact hinv.addRegistration hget hroom lastUsed
  | touchEntry hget lastUsed =>
    exact hinv.setEntry (hinv.cached _ (Option.isSome_of_eq_some hget)) _
  | dropEntry => exact hinv.dropEntry _
  | evict => exact hinv.evict _
  | forgetFailure => exact hinv.removeFetch _

theorem RegistryInv.moves (hinv : RegistryInv limits s) (h : ResourceMoves limits s s') :
    RegistryInv limits s' := by
  induction h with
  | refl => exact hinv
  | tail _ hmove ih => exact ih.move hmove

end Invariant

namespace AccountingInv

variable {limits : ResourceLimits} {s s' : ResourceState}

theorem of_cache_eq (hinv : AccountingInv limits s) (hcache : s'.cache = s.cache)
    (hbytes : s'.cacheBytes = s.cacheBytes) : AccountingInv limits s' := by
  have hcached : s'.cachedBytes = s.cachedBytes := by
    rw [ResourceState.cachedBytes, hcache, ResourceState.cachedBytes]
  constructor
  · rw [hbytes]
    exact hinv.bounded
  · rw [hbytes, hcached]
    exact hinv.covered
  · rw [hbytes, hcached]
    exact hinv.exact

/-- A dropped resource is no longer counted. -/
theorem removeCacheEntry (hinv : AccountingInv limits s) (resourceId : String) :
    AccountingInv limits (s.removeCacheEntry resourceId) := by
  cases hget : s.cache.get resourceId with
  | none =>
    rw [removeCacheEntry_of_get_none hget]
    exact hinv
  | some entry =>
    rw [removeCacheEntry_of_get_some hget]
    have htotal := KeyedMap.total_remove CacheEntry.byteLength hget
    obtain ⟨hbounded, hcovered, hexact⟩ := hinv
    rw [ResourceState.cachedBytes, ← htotal] at hcovered hexact
    refine ⟨(Nat.sub_le _ _).trans hbounded, ?_, fun hlimit => ?_⟩
    · exact Nat.sub_le_of_le_add hcovered
    · exact Nat.sub_eq_of_eq_add (hexact hlimit)

theorem evict (hinv : AccountingInv limits s) (resourceId : String) :
    AccountingInv limits (s.evict resourceId) := by
  have hunregistered : AccountingInv limits { s with
      registrations := s.registrations.remove resourceId
      fetches := s.fetches.remove resourceId } := hinv.of_cache_eq rfl rfl
  exact hunregistered.removeCacheEntry resourceId

theorem touchEntry (hinv : AccountingInv limits s) {resourceId : String} {entry : CacheEntry}
    (hget : s.cache.get resourceId = some entry) (lastUsed : ℕ) :
    AccountingInv limits
      { s with cache := s.cache.set resourceId { entry with lastUsed } } := by
  have hcached : (s.cache.set resourceId { entry with lastUsed }).total CacheEntry.byteLength =
      s.cachedBytes :=
    Nat.add_right_cancel (KeyedMap.total_set_of_get_some CacheEntry.byteLength hget _)
  refine ⟨hinv.bounded, ?_, fun hlimit => ?_⟩
  · rw [ResourceState.cachedBytes, hcached]
    exact hinv.covered
  · rw [ResourceState.cachedBytes, hcached]
    exact hinv.exact hlimit

/-- Every move keeps the accounting. -/
theorem move [Sha256] (hinv : AccountingInv limits s) (h : ResourceMove limits s s') :
    AccountingInv limits s' := by
  cases h with
  | sequence => exact hinv.of_cache_eq rfl rfl
  | touchRegistration => exact hinv.of_cache_eq rfl rfl
  | addRegistration => exact hinv.of_cache_eq rfl rfl
  | touchEntry hget lastUsed => exact hinv.touchEntry hget lastUsed
  | dropEntry => exact hinv.removeCacheEntry _
  | evict => exact hinv.evict _
  | forgetFailure => exact hinv.of_cache_eq rfl rfl

theorem moves [Sha256] (hinv : AccountingInv limits s) (h : ResourceMoves limits s s') :
    AccountingInv limits s' := by
  induction h with
  | refl => exact hinv
  | tail _ hmove ih => exact ih.move hmove

/-- Nothing is counted when nothing is cached. -/
theorem cacheBytes_of_rows_eq_nil (hinv : AccountingInv limits s) (h : s.cache.rows = []) :
    s.cacheBytes = 0 := by
  have hcovered := hinv.covered
  rw [ResourceState.cachedBytes, KeyedMap.eq_empty_of_rows_eq_nil h, KeyedMap.total_empty] at hcovered
  exact Nat.le_zero.1 hcovered

/-- The loop of `cache` makes room for a resource within the limit. -/
theorem makeRoom_fits (hinv : AccountingInv limits s) {resourceBytes n : ℕ}
    (hn : s.cache.size ≤ n) (hfits : resourceBytes ≤ limits.maxBytes) :
    saturatingAdd (makeRoom limits.maxBytes resourceBytes n s).cacheBytes resourceBytes ≤
      limits.maxBytes := by
  have hempty : s.cache.rows = [] → saturatingAdd s.cacheBytes resourceBytes ≤
      limits.maxBytes := by
    intro hrows
    rw [hinv.cacheBytes_of_rows_eq_nil hrows, saturatingAdd, zero_add]
    exact (min_le_left _ _).trans hfits
  induction n generalizing s with
  | zero => exact hempty (List.eq_nil_of_length_eq_zero (Nat.le_zero.1 hn))
  | succ n ih =>
    unfold makeRoom
    split_ifs with hfull
    · split
      next hnone => exact hempty (oldestEntry_eq_none hnone)
      next oldest holdest =>
        obtain ⟨entry, hmem⟩ := oldestEntry_eq_some holdest
        have hget := KeyedMap.get_eq_some_iff.2 hmem
        have hsize : (s.removeCacheEntry oldest).cache.size ≤ n := by
          have hremoved := KeyedMap.size_remove hget
          rw [removeCacheEntry_of_get_some hget]
          exact Nat.le_of_succ_le_succ (hremoved.trans_le hn)
        have hdropped := hinv.removeCacheEntry oldest
        refine ih hdropped hsize fun hrows => ?_
        rw [hdropped.cacheBytes_of_rows_eq_nil hrows, saturatingAdd, zero_add]
        exact (min_le_left _ _).trans hfits
    · exact not_lt.1 hfull

/-- A resource that fits is counted and stored. -/
theorem store (hinv : AccountingInv limits s) {resourceId : String} {resource : ProviderResource}
    (hfits : saturatingAdd s.cacheBytes resource.bytes.length ≤ limits.maxBytes)
    (hget : s.cache.get resourceId = none) (expiresAt : Instant) (lastUsed : ℕ) :
    AccountingInv limits { s.counted resource with
      cache := s.cache.set resourceId ⟨resource, expiresAt, lastUsed⟩ } := by
  have hcached : (s.cache.set resourceId ⟨resource, expiresAt, lastUsed⟩).total
      CacheEntry.byteLength = s.cachedBytes + resource.bytes.length :=
    KeyedMap.total_set_of_get_none CacheEntry.byteLength hget _
  refine ⟨hfits, ?_, fun hlimit => ?_⟩
  · rw [ResourceState.cachedBytes, hcached]
    exact (min_le_left _ _).trans (Nat.add_le_add_right hinv.covered _)
  · have hexact := hinv.exact hlimit
    have huncapped := hfits.trans_lt hlimit
    rw [saturatingAdd, min_lt_iff, or_iff_left (lt_irrefl _)] at huncapped
    rw [ResourceState.cachedBytes, hcached, ← hexact]
    exact min_eq_left huncapped.le

end AccountingInv

/-- One operation of the manager, with its clock readings. -/
inductive ResourceOp where
  | register (sourceUrl : String)
  | beginFetch (resourceId : String) (now : Instant)
  | cache (resourceId : String) (resource : ProviderResource) (purgedAt storedAt : Instant)
  | finishFetch (resourceId : String) (error : Option String) (now : Instant)

/-- Perform an operation. -/
def ResourceState.perform [Sha256] (limits : ResourceLimits) (s : ResourceState) :
    ResourceOp → ResourceState
  | .register sourceUrl => (s.register limits sourceUrl).2
  | .beginFetch resourceId now => (s.beginFetch resourceId now).2
  | .cache resourceId resource purgedAt storedAt =>
    (s.cacheResource limits resourceId resource purgedAt storedAt).2
  | .finishFetch resourceId error now => s.finishFetch resourceId error now

/-- The manager, from its creation on. -/
def resourceSystem [Sha256] (limits : ResourceLimits) :
    LabelledSystem ResourceState ResourceOp where
  init s := s = .empty
  step s op s' := s.perform limits op = s'

/-- The expiry of a resource that is cached is representable, so that `cache` does not panic. -/
def ExpiryRepresentable (limits : ResourceLimits) (_ : ResourceState) : ResourceOp → Prop
  | .cache _ _ _ storedAt => (storedAt.checkedAdd limits.ttl).isSome
  | _ => True

section Invariant

variable [Sha256] {limits : ResourceLimits} {s : ResourceState}

/-- Every operation keeps the registry. -/
theorem RegistryInv.perform (hinv : RegistryInv limits s) (op : ResourceOp) :
    RegistryInv limits (s.perform limits op) := by
  cases op with
  | register sourceUrl => exact hinv.moves (moves_register limits s sourceUrl)
  | beginFetch resourceId now =>
    obtain ⟨mid, hmoves, hplanned⟩ := beginFetch_spec limits s resourceId now
    have hmid := hinv.moves hmoves
    rw [ResourceState.perform]
    generalize s.beginFetch resourceId now = result at hplanned
    obtain ⟨plan, s'⟩ := result
    cases plan with
    | start sourceUrl =>
      obtain ⟨-, ⟨registration, hregistered, -⟩, rfl⟩ := hplanned
      exact hmid.setFetch (Option.isSome_of_eq_some hregistered) _
    | ready => exact hplanned.1 ▸ hmid
    | pending => exact Eq.symm hplanned ▸ hmid
    | failed => exact hplanned.1 ▸ hmid
    | missing => exact hplanned.1 ▸ hmid
  | cache resourceId resource purgedAt storedAt =>
    rw [ResourceState.perform]
    generalize hresult : s.cacheResource limits resourceId resource purgedAt storedAt = result
    obtain ⟨result, s'⟩ := result
    rcases cacheResource_cases hresult with ⟨rfl, -⟩ | ⟨-, hregistered, mid, rfl, hstored⟩
    · exact hinv
    · have hcleared := hinv.moves (moves_clearedFor limits s resourceId resource purgedAt)
      have hcounted : RegistryInv limits
          ((s.clearedFor limits resourceId resource purgedAt).counted resource) :=
        ⟨hcleared.bounded, hcleared.cached, hcleared.fetched, hcleared.derived⟩
      rcases hstored with ⟨expiresAt, -, -, rfl⟩ | ⟨-, -, rfl⟩
      · refine hcounted.setEntry ?_ _
        rw [ResourceState.counted, registrations_clearedFor]
        exact hregistered
      · exact hcounted
  | finishFetch resourceId error now =>
    rcases finishFetch_cases (rfl : s.finishFetch resourceId error now = _) with
      h | ⟨hregistered, message, expiresAt, h⟩ | h
    · rw [ResourceState.perform, h]
      exact hinv.removeFetch resourceId
    · rw [ResourceState.perform, h]
      exact hinv.setFetch hregistered _
    · rw [ResourceState.perform, h]
      exact hinv

/-- So does every operation the accounting, unless `cache` panics. -/
theorem AccountingInv.perform (hinv : AccountingInv limits s) {op : ResourceOp}
    (hrepresentable : ExpiryRepresentable limits s op) :
    AccountingInv limits (s.perform limits op) := by
  cases op with
  | register sourceUrl => exact hinv.moves (moves_register limits s sourceUrl)
  | beginFetch resourceId now =>
    obtain ⟨mid, hmoves, hplanned⟩ := beginFetch_spec limits s resourceId now
    have hmid := hinv.moves hmoves
    rw [ResourceState.perform]
    generalize s.beginFetch resourceId now = result at hplanned
    obtain ⟨plan, s'⟩ := result
    cases plan with
    | start sourceUrl =>
      obtain ⟨-, -, rfl⟩ := hplanned
      exact hmid.of_cache_eq rfl rfl
    | ready => exact hplanned.1 ▸ hmid
    | pending => exact Eq.symm hplanned ▸ hmid
    | failed => exact hplanned.1 ▸ hmid
    | missing => exact hplanned.1 ▸ hmid
  | cache resourceId resource purgedAt storedAt =>
    rw [ResourceState.perform]
    generalize hresult : s.cacheResource limits resourceId resource purgedAt storedAt = result
    obtain ⟨result, s'⟩ := result
    rcases cacheResource_cases hresult with ⟨rfl, -⟩ | ⟨hfits, -, mid, rfl, hstored⟩
    · exact hinv
    · rcases hstored with ⟨expiresAt, -, -, rfl⟩ | ⟨hoverflow, -, -⟩
      · have hdropped : AccountingInv limits
            ((s.purgeExpired purgedAt).removeCacheEntry resourceId) :=
          (purgeExpired_induction (fun _ other h => h.removeCacheEntry other) hinv
            purgedAt).removeCacheEntry resourceId
        have hroom := hdropped.makeRoom_fits le_rfl hfits
        have hcleared := hinv.moves (moves_clearedFor limits s resourceId resource purgedAt)
        exact hcleared.store hroom (get_cache_clearedFor limits s resourceId resource purgedAt) _ _
      · rw [ExpiryRepresentable, hoverflow] at hrepresentable
        cases hrepresentable
  | finishFetch resourceId error now =>
    rcases finishFetch_cases (rfl : s.finishFetch resourceId error now = _) with
      h | ⟨-, message, expiresAt, h⟩ | h
    · rw [ResourceState.perform, h]
      exact hinv.of_cache_eq rfl rfl
    · rw [ResourceState.perform, h]
      exact hinv.of_cache_eq rfl rfl
    · rw [ResourceState.perform, h]
      exact hinv

theorem registryInv_reachable (h : (resourceSystem limits).Reachable s) :
    RegistryInv limits s := by
  refine h.invariant ?_ ?_
  · rintro s rfl
    exact ⟨Nat.zero_le _, fun _ h => (nomatch h), fun _ h => (nomatch h),
      fun _ _ h => (nomatch h)⟩
  · rintro s op s' hinv rfl
    exact hinv.perform op

theorem accountingInv_reachable
    (h : ((resourceSystem limits).restrict (ExpiryRepresentable limits)).Reachable s) :
    AccountingInv limits s := by
  refine h.invariant ?_ ?_
  · rintro s rfl
    exact ⟨Nat.zero_le _, le_rfl, fun _ => rfl⟩
  · rintro s op s' hinv ⟨rfl, hexpiry⟩
    exact hinv.perform hexpiry

end Invariant

/-! ## Sample runs -/

/-- The digests of the seed and of three URLs, to run the model on. -/
@[reducible]
def sampleUrlSha256 : Sha256 where
  digest message :=
    if message = asBytes unifiedUuidSeed ++ [0] ++ asBytes "https://provider.example/a.png" then
      #v[81, 23, 62, 195, 22, 0, 93, 88, 191, 49, 58, 58, 203, 148, 154, 55, 204, 13, 214, 6, 237,
        172, 147, 234, 127, 199, 254, 91, 137, 11, 109, 83]
    else if message = asBytes unifiedUuidSeed ++ [0] ++ asBytes "https://provider.example/b.png" then
      #v[175, 211, 161, 143, 125, 23, 227, 66, 222, 110, 76, 73, 144, 164, 221, 145, 150, 169, 152,
        115, 155, 104, 134, 21, 222, 105, 147, 102, 74, 178, 42, 16]
    else
      #v[163, 109, 56, 36, 205, 129, 245, 151, 203, 245, 90, 125, 165, 211, 226, 195, 36, 89, 201, 7,
        30, 163, 89, 226, 0, 50, 165, 82, 128, 73, 148, 89]

/-- The identifiers of the three URLs. -/
def sampleIdA : String := "resource-51173ec3-1600-5d58-bf31-3a3acb949a37"

def sampleIdB : String := "resource-afd3a18f-7d17-5342-9e6e-4c4990a4dd91"

def sampleIdC : String := "resource-a36d3824-cd81-5597-8bf5-5a7da5d3e2c3"

/-- A manager at which the three URLs are registered. -/
def sampleRegistered (limits : ResourceLimits) : ResourceState :=
  [ResourceOp.register "https://provider.example/a.png",
    .register "https://provider.example/b.png",
    .register "https://provider.example/c.png"].foldl (@perform sampleUrlSha256 limits) .empty

example : (sampleRegistered .default).registrations.rows.map Prod.fst =
    [sampleIdA, sampleIdB, sampleIdC] := by
  decide +kernel

/-- With the greatest limit the loop of `cache` drops nothing. -/
theorem makeRoom_unlimited (resourceBytes n : ℕ) (s : ResourceState) :
    makeRoom usizeMax resourceBytes n s = s := by
  cases n with
  | zero => rfl
  | succ n =>
    have hroom : ¬ saturatingAdd s.cacheBytes resourceBytes > usizeMax :=
      not_lt.2 (min_le_right _ _)
    rw [makeRoom, if_neg hroom]

/-- Nothing expires at the first instant when all expiries are later. -/
theorem purgeExpired_zero {s : ResourceState} (h : ∀ entry ∈ s.cache, 0 < entry.2.expiresAt) :
    s.purgeExpired 0 = s := by
  have hnone : (s.cache.rows.filter fun entry => entry.2.expiresAt ≤ 0) = [] :=
    List.filter_eq_nil_iff.2 fun entry hentry => by simpa using (h entry hentry).ne'
  rw [purgeExpired, hnone]
  rfl

/-- With the greatest limit resources are cached however many bytes there are. -/
theorem exists_cachedBytes [Sha256] {limits : ResourceLimits} (hlimit : limits.maxBytes = usizeMax)
    (hexpiry : Instant.checkedAdd 0 limits.ttl = some limits.ttl) (httl : 0 < limits.ttl)
    {resources : List (String × ProviderResource)} (hids : (resources.map Prod.fst).Nodup)
    (hfits : ∀ r ∈ resources, r.2.bytes.length ≤ usizeMax) {s : ResourceState}
    (hs : ((resourceSystem limits).restrict (ExpiryRepresentable limits)).Reachable s)
    (hregistered : ∀ r ∈ resources, (s.registrations.get r.1).isSome)
    (huncached : ∀ r ∈ resources, s.cache.get r.1 = none)
    (hfresh : ∀ entry ∈ s.cache, 0 < entry.2.expiresAt) :
    ∃ s', ((resourceSystem limits).restrict (ExpiryRepresentable limits)).Reachable s' ∧
      s'.cachedBytes = s.cachedBytes + (resources.map (·.2.bytes.length)).sum := by
  induction resources generalizing s with
  | nil => exact ⟨s, hs, rfl⟩
  | cons r resources ih =>
    obtain ⟨resourceId, resource⟩ := r
    rw [List.map_cons, List.nodup_cons] at hids
    rw [List.forall_mem_cons] at hfits hregistered huncached
    have hcleared : s.clearedFor limits resourceId resource 0 = s.nextSequence := by
      rw [clearedFor, purgeExpired_zero hfresh, removeCacheEntry_of_get_none huncached.1, hlimit,
        makeRoom_unlimited]
    generalize hresult : s.cacheResource limits resourceId resource 0 0 = result
    obtain ⟨result, s'⟩ := result
    have hstep : ((resourceSystem limits).restrict (ExpiryRepresentable limits)).Reachable s' := by
      obtain ⟨trace, hrun⟩ := hs
      refine ⟨_, hrun.step (l := .cache resourceId resource 0 0) ⟨?_, ?_⟩⟩
      · exact congrArg Prod.snd hresult
      · exact Option.isSome_of_eq_some hexpiry
    simp only [cacheResource, hlimit, not_lt.2 hfits.1, if_false,
      Option.isNone_eq_false_iff.2 hregistered.1, hexpiry, Bool.false_eq_true, hcleared] at hresult
    obtain ⟨-, rfl⟩ := hresult
    have hothers : ∀ r ∈ resources, (s.cache.set resourceId
        ⟨resource, limits.ttl, s.nextSequence.sequence⟩).get r.1 = none := by
      intro other hother
      have hne : other.1 ≠ resourceId := by
        rintro rfl
        exact hids.1 (List.mem_map.2 ⟨other, hother, rfl⟩)
      exact (KeyedMap.get_set_of_ne hne).trans (huncached.2 other hother)
    have hunexpired : ∀ entry ∈ s.cache.set resourceId
        ⟨resource, limits.ttl, s.nextSequence.sequence⟩, 0 < entry.2.expiresAt := by
      intro entry hentry
      rcases KeyedTable.mem_upsert_true.1 hentry with ⟨hentry, -⟩ | rfl
      · exact hfresh entry hentry
      · exact httl
    obtain ⟨s', hs', htotal⟩ := ih hids.2 hfits.2 hstep hregistered.2 hothers hunexpired
    refine ⟨s', hs', ?_⟩
    have hstored := KeyedMap.total_set_of_get_none CacheEntry.byteLength huncached.1
      ⟨resource, limits.ttl, s.nextSequence.sequence⟩
    rw [htotal, List.map_cons, List.sum_cons, ← add_assoc]
    exact congrArg (· + _) hstored

/-- Limits whose cache may hold as many bytes as can be counted. -/
def unlimitedBytes : ResourceLimits := { ResourceLimits.default with maxBytes := usizeMax }

/-- Limits under which nothing in the cache ever expires. -/
def unlimitedTtl : ResourceLimits := { ResourceLimits.default with ttl := Duration.fromSecs u64Max }

/-- Performing operations reaches a state. -/
theorem reachable_foldl_perform [Sha256] {limits : ResourceLimits}
    {P : ResourceState → ResourceOp → Prop} {ops : List ResourceOp}
    (hops : ∀ op ∈ ops, ∀ s, P s op) {s : ResourceState}
    (hs : ((resourceSystem limits).restrict P).Reachable s) :
    ((resourceSystem limits).restrict P).Reachable (ops.foldl (perform limits) s) := by
  induction ops generalizing s with
  | nil => exact hs
  | cons op ops ih =>
    obtain ⟨trace, hrun⟩ := hs
    rw [List.forall_mem_cons] at hops
    exact ih hops.2 ⟨_, hrun.step ⟨rfl, hops.1 s⟩⟩

theorem sampleRegistered_reachable (limits : ResourceLimits) :
    ((@resourceSystem sampleUrlSha256 limits).restrict (ExpiryRepresentable limits)).Reachable
      (sampleRegistered limits) := by
  refine @reachable_foldl_perform sampleUrlSha256 limits _ _ ?_ _ ⟨[], .start rfl⟩
  simp [ExpiryRepresentable]

end WeatherApp
