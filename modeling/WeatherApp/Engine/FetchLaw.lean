import WeatherApp.Engine.ResourceLaw

/-!
# One fetch of a resource at a time

A request that finds neither the resource nor a fetch of it starts one, which tells the manager when
it has finished. Between the two, requests for the resource are answered that it is pending or
ready, and its registration stays.

## Main definitions

* `FetchState`: the manager with the fetches that run.
* `PendingKept`: what the operations keep of a pending fetch.

## Main results

* `fetch_exclusive`: one fetch of a resource at a time.
-/

namespace WeatherApp

open ResourceState


/-- The manager and the fetches that were started and have not finished, by identifier. -/
structure FetchState where
  manager : ResourceState
  running : List String

/-- The fetches that run after an operation: one more when `begin_fetch` answers that it starts one,
one less when a fetch finishes. Only a running fetch can finish. -/
def FetchState.runningAfter (s : FetchState) : ResourceOp → Option (List String)
  | .beginFetch resourceId now =>
    match (s.manager.beginFetch resourceId now).1 with
    | .start _ => some (resourceId :: s.running)
    | _ => some s.running
  | .finishFetch resourceId _ _ =>
    if resourceId ∈ s.running then some (s.running.erase resourceId) else none
  | _ => some s.running

/-- Perform an operation. -/
def FetchState.step [Sha256] (limits : ResourceLimits) (s : FetchState) (op : ResourceOp) :
    Option FetchState :=
  (s.runningAfter op).map fun running => ⟨s.manager.perform limits op, running⟩

/-- The manager with its fetches: every fetch finishes at most once. -/
def fetchSystem [Sha256] (limits : ResourceLimits) : LabelledSystem FetchState ResourceOp where
  init s := s = ⟨.empty, []⟩
  step s op s' := s.step limits op = some s'

/-- A pending fetch is still pending, and its resource registered for the same URL. -/
def PendingKept (resourceId : String) (s s' : ResourceState) : Prop :=
  s.fetches.get resourceId = some .pending →
    s'.fetches.get resourceId = some .pending ∧
      ∀ registration, s.registrations.get resourceId = some registration →
        ∃ registration', s'.registrations.get resourceId = some registration' ∧
          registration'.sourceUrl = registration.sourceUrl

/-- Each running fetch is the only one of its resource, which is registered and known to be
fetched. -/
structure FetchInv (s : FetchState) : Prop where
  exclusive : s.running.Nodup
  pending : ∀ resourceId ∈ s.running, s.manager.fetches.get resourceId = some .pending
  registered : ∀ resourceId ∈ s.running, (s.manager.registrations.get resourceId).isSome

namespace PendingKept

variable {resourceId : String} {s s' s'' : ResourceState}

theorem of_eq (hfetches : s'.fetches = s.fetches) (hregistrations : s'.registrations =
    s.registrations) : PendingKept resourceId s s' := fun hpending =>
  ⟨hfetches ▸ hpending, fun registration h => ⟨registration, hregistrations ▸ h, rfl⟩⟩

theorem trans (h : PendingKept resourceId s s') (h' : PendingKept resourceId s' s'') :
    PendingKept resourceId s s'' := by
  intro hpending
  obtain ⟨hpending', hkept⟩ := h hpending
  obtain ⟨hpending'', hkept'⟩ := h' hpending'
  refine ⟨hpending'', fun registration hget => ?_⟩
  obtain ⟨registration', hget', hurl⟩ := hkept registration hget
  obtain ⟨registration'', hget'', hurl'⟩ := hkept' registration' hget'
  exact ⟨registration'', hget'', hurl'.trans hurl⟩

/-- A registration that replaces one of the same URL, or none, keeps what is pending. -/
theorem setRegistration {other : String} {registration' : Registration}
    (hurl : ∀ registration, s.registrations.get other = some registration →
      registration'.sourceUrl = registration.sourceUrl) :
    PendingKept resourceId s (s.setRegistration other registration') := by
  refine fun hpending => ⟨hpending, fun registration hget => ?_⟩
  rw [ResourceState.setRegistration, KeyedMap.get_set]
  split_ifs with hsame
  · exact ⟨registration', rfl, hurl registration (hsame ▸ hget)⟩
  · exact ⟨registration, hget, rfl⟩

/-- Every move keeps what is pending. -/
theorem move [Sha256] {limits : ResourceLimits} (h : ResourceMove limits s s') :
    PendingKept resourceId s s' := by
  cases h with
  | sequence => exact of_eq rfl rfl
  | touchRegistration hget lastUsed =>
    refine setRegistration fun registration hget' => ?_
    rw [hget] at hget'
    cases hget'
    rfl
  | addRegistration hget hroom lastUsed =>
    exact setRegistration fun registration hget' => nomatch hget.symm.trans hget'
  | touchEntry => exact of_eq rfl rfl
  | dropEntry => exact of_eq (fetches_removeCacheEntry _ _) (registrations_removeCacheEntry _ _)
  | @evict other hidle =>
    intro hpending
    have hne : resourceId ≠ other := fun h => hidle (h ▸ hpending)
    rw [fetches_evict, registrations_evict, KeyedMap.get_remove, KeyedMap.get_remove, if_neg hne,
      if_neg hne]
    exact ⟨hpending, fun registration hget => ⟨registration, hget, rfl⟩⟩
  | @forgetFailure other hidle =>
    intro hpending
    have hne : resourceId ≠ other := fun h => hidle (h ▸ hpending)
    rw [KeyedMap.get_remove, if_neg hne]
    exact ⟨hpending, fun registration hget => ⟨registration, hget, rfl⟩⟩

theorem moves [Sha256] {limits : ResourceLimits} (h : ResourceMoves limits s s') :
    PendingKept resourceId s s' := by
  induction h with
  | refl => exact of_eq rfl rfl
  | tail _ hmove ih => exact ih.trans (move hmove)

end PendingKept

section Fetches

variable [Sha256] {limits : ResourceLimits}

/-- An operation keeps what is pending, unless it ends the fetch. -/
theorem pendingKept_perform {resourceId : String} (limits : ResourceLimits) (s : ResourceState)
    (op : ResourceOp)
    (hop : ∀ error now, op ≠ .finishFetch resourceId error now) :
    PendingKept resourceId s (s.perform limits op) := by
  cases op with
  | register sourceUrl => exact .moves (moves_register limits s sourceUrl)
  | beginFetch other now =>
    obtain ⟨mid, hmoves, hplanned⟩ := beginFetch_spec limits s other now
    have hmid : PendingKept resourceId s mid := .moves hmoves
    rw [ResourceState.perform]
    generalize s.beginFetch other now = result at hplanned
    obtain ⟨plan, s'⟩ := result
    cases plan with
    | start sourceUrl =>
      obtain ⟨hnone, -, rfl⟩ := hplanned
      refine hmid.trans fun hpending => ⟨?_, fun registration hget => ⟨registration, hget, rfl⟩⟩
      have hne : resourceId ≠ other := by
        rintro rfl
        cases hnone.symm.trans hpending
      exact (KeyedMap.get_set_of_ne hne).trans hpending
    | ready => exact hplanned.1 ▸ hmid
    | pending => exact Eq.symm hplanned ▸ hmid
    | failed => exact hplanned.1 ▸ hmid
    | missing => exact hplanned.1 ▸ hmid
  | cache other resource purgedAt storedAt =>
    rw [ResourceState.perform]
    generalize hresult : s.cacheResource limits other resource purgedAt storedAt = result
    obtain ⟨result, s'⟩ := result
    have hcleared : PendingKept resourceId s (s.clearedFor limits other resource purgedAt) :=
      .moves (moves_clearedFor limits s other resource purgedAt)
    rcases cacheResource_cases hresult with ⟨rfl, -⟩ | ⟨-, -, mid, rfl, hstored⟩
    · exact .of_eq rfl rfl
    · rcases hstored with ⟨expiresAt, -, -, rfl⟩ | ⟨-, -, rfl⟩
      · exact hcleared.trans (.of_eq rfl rfl)
      · exact hcleared.trans (.of_eq rfl rfl)
  | finishFetch other error now =>
    have hne : resourceId ≠ other := by
      rintro rfl
      exact hop error now rfl
    rcases finishFetch_cases (rfl : s.finishFetch other error now = _) with
      h | ⟨-, message, expiresAt, h⟩ | h
    · rw [ResourceState.perform, h]
      refine fun hpending => ⟨?_, fun registration hget => ⟨registration, hget, rfl⟩⟩
      rw [KeyedMap.get_remove, if_neg hne]
      exact hpending
    · rw [ResourceState.perform, h]
      refine fun hpending => ⟨?_, fun registration hget => ⟨registration, hget, rfl⟩⟩
      exact (KeyedMap.get_set_of_ne hne).trans hpending
    · rw [ResourceState.perform, h]
      exact .of_eq rfl rfl

/-- What `begin_fetch` answers about a registered resource whose fetch is pending. -/
theorem beginFetch_of_pending {s : ResourceState} {resourceId : String}
    (hpending : s.fetches.get resourceId = some .pending)
    (hregistered : (s.registrations.get resourceId).isSome) (now : Instant) :
    (s.beginFetch resourceId now).1 = .pending ∨
      ∃ resource, (s.beginFetch resourceId now).1 = .ready resource := by
  obtain ⟨registration, hget⟩ := Option.isSome_iff_exists.1 hregistered
  obtain ⟨mid, hmoves, hplanned⟩ := beginFetch_spec ResourceLimits.default s resourceId now
  obtain ⟨hpending', hkept⟩ := PendingKept.moves hmoves hpending
  obtain ⟨registration', hget', -⟩ := hkept registration hget
  generalize s.beginFetch resourceId now = result at hplanned ⊢
  obtain ⟨plan, s'⟩ := result
  cases plan with
  | start sourceUrl => exact nomatch hplanned.1.symm.trans hpending'
  | ready resource => exact .inr ⟨resource, rfl⟩
  | pending => exact .inl rfl
  | failed message => exact absurd hpending' hplanned.2
  | missing => exact nomatch hplanned.2.symm.trans hget'

theorem manager_step {s s' : FetchState} {op : ResourceOp} (h : s.step limits op = some s') :
    s'.manager = s.manager.perform limits op := by
  obtain ⟨running, -, rfl⟩ := Option.map_eq_some_iff.1 h
  rfl

/-- The manager of a state reached was reached by the operations alone. -/
theorem manager_reachable {s : FetchState} (h : (fetchSystem limits).Reachable s) :
    (resourceSystem limits).Reachable s.manager := by
  obtain ⟨trace, hrun⟩ := h
  induction hrun with
  | start h =>
    cases h
    exact ⟨[], .start rfl⟩
  | step _ hstep ih =>
    obtain ⟨ops, hops⟩ := ih
    exact ⟨_, hops.step (manager_step hstep).symm⟩

omit [Sha256] in
/-- An operation that ends no fetch keeps the running fetches pending. -/
theorem FetchInv.of_kept {s : FetchState} (hinv : FetchInv s) {manager : ResourceState}
    {running : List String} (hsublist : running.Sublist s.running)
    (hkept : ∀ resourceId ∈ running, PendingKept resourceId s.manager manager) :
    FetchInv ⟨manager, running⟩ where
  exclusive := hinv.exclusive.sublist hsublist
  pending resourceId hmem :=
    (hkept resourceId hmem (hinv.pending resourceId (hsublist.subset hmem))).1
  registered resourceId hmem := by
    have hrunning := hsublist.subset hmem
    obtain ⟨registration, hget⟩ := Option.isSome_iff_exists.1 (hinv.registered resourceId hrunning)
    obtain ⟨registration', hget', -⟩ :=
      (hkept resourceId hmem (hinv.pending resourceId hrunning)).2 registration hget
    exact Option.isSome_of_eq_some hget'

/-- A started fetch was not running yet. -/
theorem FetchInv.start {s : FetchState} (hinv : FetchInv s) {resourceId sourceUrl : String}
    {now : Instant} (hstart : (s.manager.beginFetch resourceId now).1 = .start sourceUrl) :
    FetchInv ⟨(s.manager.beginFetch resourceId now).2, resourceId :: s.running⟩ := by
  have hfresh : resourceId ∉ s.running := by
    intro hrunning
    rcases beginFetch_of_pending (hinv.pending resourceId hrunning)
      (hinv.registered resourceId hrunning) now with h | ⟨resource, h⟩
    · exact nomatch h.symm.trans hstart
    · exact nomatch h.symm.trans hstart
  have hothers : FetchInv ⟨(s.manager.beginFetch resourceId now).2, s.running⟩ :=
    hinv.of_kept (.refl _) fun other _ =>
      pendingKept_perform .default s.manager (.beginFetch resourceId now) fun _ _ h => nomatch h
  obtain ⟨mid, -, hplanned⟩ := beginFetch_spec ResourceLimits.default s.manager resourceId now
  generalize s.manager.beginFetch resourceId now = result at hplanned hstart hothers
  obtain ⟨plan, manager⟩ := result
  cases hstart
  obtain ⟨-, ⟨registration, hget, -⟩, rfl⟩ := hplanned
  refine ⟨List.nodup_cons.2 ⟨hfresh, hinv.exclusive⟩, ?_, ?_⟩
  · rw [List.forall_mem_cons]
    exact ⟨KeyedMap.get_set_self _ _ _, hothers.pending⟩
  · rw [List.forall_mem_cons]
    exact ⟨Option.isSome_of_eq_some hget, hothers.registered⟩

theorem fetchInv_step {s s' : FetchState} {op : ResourceOp} (hinv : FetchInv s)
    (h : s.step limits op = some s') : FetchInv s' := by
  obtain ⟨running, hrunning, rfl⟩ := Option.map_eq_some_iff.1 h
  cases op with
  | register sourceUrl =>
    cases hrunning
    exact hinv.of_kept (.refl _) fun _ _ => pendingKept_perform _ _ _ fun _ _ h => nomatch h
  | beginFetch resourceId now =>
    simp only [FetchState.runningAfter] at hrunning
    split at hrunning
    next sourceUrl hstart =>
      cases hrunning
      exact hinv.start hstart
    next =>
      cases hrunning
      exact hinv.of_kept (.refl _) fun _ _ => pendingKept_perform _ _ _ fun _ _ h => nomatch h
  | cache resourceId resource purgedAt storedAt =>
    cases hrunning
    exact hinv.of_kept (.refl _) fun _ _ => pendingKept_perform _ _ _ fun _ _ h => nomatch h
  | finishFetch resourceId error now =>
    rw [FetchState.runningAfter, Option.ite_none_right_eq_some, Option.some.injEq] at hrunning
    obtain ⟨-, rfl⟩ := hrunning
    refine hinv.of_kept List.erase_sublist fun other hother => pendingKept_perform _ _ _ ?_
    rintro error' now' ⟨⟩
    exact (hinv.exclusive.mem_erase_iff.1 hother).1 rfl

/-- While a fetch runs it is the only one of its resource, every request for the resource is
answered that it is pending or ready, and the registration of a resource with a pending fetch
stays, whatever is done. -/
theorem fetch_exclusive {s : FetchState} (h : (fetchSystem limits).Reachable s) :
    s.running.Nodup ∧
      (∀ resourceId ∈ s.running, ∀ now,
        (s.manager.beginFetch resourceId now).1 = .pending ∨
          ∃ resource, (s.manager.beginFetch resourceId now).1 = .ready resource) ∧
      ∀ resourceId, s.manager.fetches.get resourceId = some .pending →
        ∃ registration, s.manager.registrations.get resourceId = some registration ∧
          ∀ op s', s.step limits op = some s' →
            ∃ registration', s'.manager.registrations.get resourceId = some registration' ∧
              registration'.sourceUrl = registration.sourceUrl := by
  have hinit : ∀ s, (fetchSystem limits).init s → FetchInv s := by
    rintro s rfl
    exact ⟨List.nodup_nil, fun _ h => (nomatch h), fun _ h => (nomatch h)⟩
  have hinv : FetchInv s := h.invariant hinit fun _ _ _ => fetchInv_step
  refine ⟨hinv.exclusive, fun resourceId hrunning => ?_, fun resourceId hpending => ?_⟩
  · exact beginFetch_of_pending (hinv.pending resourceId hrunning)
      (hinv.registered resourceId hrunning)
  · have hfetched := (registryInv_reachable (manager_reachable h)).fetched resourceId
      (Option.isSome_of_eq_some hpending)
    obtain ⟨registration, hget⟩ := Option.isSome_iff_exists.1 hfetched
    refine ⟨registration, hget, fun op s' hstep => ?_⟩
    rw [manager_step hstep]
    by_cases hop : ∃ error now, op = .finishFetch resourceId error now
    · obtain ⟨error, now, rfl⟩ := hop
      refine ⟨registration, ?_, rfl⟩
      rcases finishFetch_cases (rfl : s.manager.finishFetch resourceId error now = _) with
        h | ⟨-, message, expiresAt, h⟩ | h
      · rw [ResourceState.perform, h]
        exact hget
      · rw [ResourceState.perform, h]
        exact hget
      · rw [ResourceState.perform, h]
        exact hget
    · push Not at hop
      exact (pendingKept_perform _ s.manager _ hop hpending).2 registration hget

end Fetches

/-- A second request while the first one's resource is fetched. -/
theorem fetch_exclusive_sampleRun :
    ∃ s, (@fetchSystem sampleUrlSha256 .default).Reachable s ∧ s.running = [sampleIdA] ∧
      s.running.Nodup := by
  have hrun : ((LabelledSystem.perform (@FetchState.step sampleUrlSha256 .default)
      (fun _ _ => true) ⟨.empty, []⟩
      [.register "https://provider.example/a.png", .beginFetch sampleIdA 0,
        .beginFetch sampleIdA 1]).map fun s => s.running) = some [sampleIdA] := by
    decide +kernel
  obtain ⟨s, hperform, hend⟩ := Option.map_eq_some_iff.1 hrun
  have hstart : ((@fetchSystem sampleUrlSha256 .default).restrict fun _ _ => True).Reachable
      ⟨.empty, []⟩ := ⟨[], .start rfl⟩
  have hreachable : (@fetchSystem sampleUrlSha256 .default).Reachable s :=
    (LabelledSystem.reachable_of_perform (fun _ _ _ h => h) (fun _ _ _ => trivial) hstart
      hperform).of_restrict
  exact ⟨s, hreachable, hend, (@fetch_exclusive sampleUrlSha256 _ _ hreachable).1⟩

end WeatherApp
