import WeatherApp.Engine.Refresh

/-!
# One job for each station

The scheduler means to run one refresh of a station at a time: it claims a station only while
the schedule says that no job of it runs. The schedule is right about this as long as no
configuration change brings back a station whose job from before still runs; such a station gets
a new schedule, which knows nothing of the job.

## Main definitions

* `SingleFlight`: one job for each station, and the schedules know which stations have one.
* `NoRunningStationAdded`: the condition on configuration changes.

## Main results

* `singleFlight_reconcile_iff`: a configuration change keeps `SingleFlight` exactly under the
  condition.
* `refresh_singleFlight`: so does a run.
* `refresh_two_jobs`: without the condition two jobs of one station can run.
-/

namespace WeatherApp

/-! ## What the functions do to the schedules -/

/-- The schedule of a station says that a job of it runs. -/
def Schedules.inFlight (schedules : Schedules) (name : String) : Bool :=
  (schedules.get name).any (·.inFlight)

theorem inFlight_of_get {schedules : Schedules} {name : String} {schedule : StationSchedule}
    (h : schedules.get name = some schedule) :
    schedules.inFlight name = schedule.inFlight := by
  rw [Schedules.inFlight, h, Option.any_some]

theorem inFlight_of_get_none {schedules : Schedules} {name : String}
    (h : schedules.get name = none) : schedules.inFlight name = false := by
  rw [Schedules.inFlight, h, Option.any_none]

/-- A loop that never writes the flag of a stored schedule, and only adds schedules without a
job, leaves the flags. -/
theorem inFlight_foldl_visit {f : String × ℕ → Option StationSchedule → Option StationSchedule}
    {stations : List (String × ℕ)}
    (hf : ∀ station ∈ stations, ∀ a b, f station a = some b → b.inFlight = a.any (·.inFlight))
    (schedules : Schedules) (name : String) :
    Schedules.inFlight (stations.foldl (KeyedMap.visit Prod.fst f) schedules) name =
      schedules.inFlight name :=
  KeyedMap.get_foldl_visit
    (R := fun _ (a b : Option StationSchedule) => b.any (·.inFlight) = a.any (·.inFlight))
    (fun _ _ => rfl) (fun _ _ _ _ hab hbc => hbc.trans hab) stations hf schedules name

theorem inFlight_scheduleDateRefresh (schedules : Schedules) (stationOrder : List String)
    (now : Instant) (name : String) :
    Schedules.inFlight (scheduleDateRefresh schedules stationOrder now) name =
      schedules.inFlight name := by
  refine inFlight_foldl_visit (fun station _ a b h => ?_) schedules name
  cases a with
  | none => cases h
  | some schedule =>
    cases h
    rfl

/-- A date refresh adds and drops no schedule. -/
theorem isSome_scheduleDateRefresh (schedules : Schedules) (stationOrder : List String)
    (now : Instant) (name : String) :
    ((scheduleDateRefresh schedules stationOrder now).get name).isSome =
      (schedules.get name).isSome := by
  refine KeyedMap.get_foldl_visit (R := fun _ a b => Option.isSome b = Option.isSome a)
    (fun _ _ => rfl) (fun _ _ _ _ hab hbc => hbc.trans hab) stationOrder.zipIdx
    (fun station _ a b h => ?_) schedules name
  cases a with
  | none => cases h
  | some schedule => rfl

/-- A reconciliation keeps the flags of the configured stations. -/
theorem inFlight_reconcileSchedules (schedules : Schedules) (stationOrder : List String)
    (now : Instant) (ttl : Duration) (name : String) :
    Schedules.inFlight (reconcileSchedules schedules stationOrder now ttl) name =
      (decide (name ∈ stationOrder) && schedules.inFlight name) := by
  have hretained : Schedules.inFlight (schedules.retain fun name => name ∈ stationOrder) name =
      (decide (name ∈ stationOrder) && schedules.inFlight name) := by
    rw [Schedules.inFlight, Schedules.inFlight, KeyedMap.get_retain]
    by_cases hname : name ∈ stationOrder <;> simp [hname]
  rw [← hretained]
  refine inFlight_foldl_visit (fun station _ a b h => ?_) _ name
  cases a with
  | none =>
    cases h
    rfl
  | some schedule =>
    simp only [reconciled] at h
    split_ifs at h
    obtain ⟨lastCompleted, -, rfl⟩ := Option.map_eq_some_iff.1 h
    rfl

/-- After a reconciliation exactly the stations of the order are scheduled. -/
theorem isSome_reconcileSchedules (schedules : Schedules) (stationOrder : List String)
    (now : Instant) (ttl : Duration) (name : String) :
    ((reconcileSchedules schedules stationOrder now ttl).get name).isSome =
      decide (name ∈ stationOrder) := by
  by_cases hname : name ∈ stationOrder
  · obtain ⟨index, hindex⟩ := List.mem_iff_getElem?.1 hname
    have hstation : (name, index) ∈ stationOrder.zipIdx := by
      rw [List.mem_zipIdx_iff_getElem?]
      exact hindex
    have hvisited : ((stationOrder.zipIdx.foldl (KeyedMap.visit Prod.fst (reconciled now ttl))
        (schedules.retain fun name => name ∈ stationOrder)).get name).isSome :=
      KeyedMap.isSome_get_foldl_visit (fun _ _ => rfl) hstation _
    rw [decide_eq_true hname]
    exact hvisited
  · have hkept : (stationOrder.zipIdx.foldl (KeyedMap.visit Prod.fst (reconciled now ttl))
        (schedules.retain fun name => name ∈ stationOrder)).get name =
          (schedules.retain fun name => name ∈ stationOrder).get name := by
      apply KeyedMap.get_foldl_visit_of_not_mem
      rw [List.zipIdx_map_fst]
      exact hname
    rw [reconcileSchedules, hkept, KeyedMap.get_retain]
    simp [hname]

/-- What `claim_due_stations` has done: the claimed stations were scheduled without a job, each
is claimed once, and exactly their flags are set. -/
structure Claimed (schedules : Schedules) (available : ℕ) (acc : List String × Schedules) :
    Prop where
  nodup : acc.1.Nodup
  bounded : acc.1.length ≤ available
  idle : ∀ name ∈ acc.1, (schedules.get name).isSome ∧ schedules.inFlight name = false
  scheduled : ∀ name, (acc.2.get name).isSome = (schedules.get name).isSome
  flags : ∀ name, acc.2.inFlight name = (schedules.inFlight name || decide (name ∈ acc.1))

theorem Claimed.claimStation {schedules : Schedules} {available : ℕ}
    {acc : List String × Schedules} (h : Claimed schedules available acc) (now : Instant)
    (ttl : Duration) (name : String) :
    Claimed schedules available (claimStation now ttl available acc name) := by
  unfold WeatherApp.claimStation
  split_ifs with hfull
  · exact h
  · split
    next => exact h
    next schedule hschedule =>
      split_ifs with hclaimable
      · rw [StationSchedule.claimable, Bool.and_eq_true, Bool.not_eq_true'] at hclaimable
        have hidle : schedules.inFlight name = false ∧ name ∉ acc.1 := by
          have hflag := h.flags name
          rw [inFlight_of_get hschedule, hclaimable.1, eq_comm, Bool.or_eq_false_iff,
            decide_eq_false_iff_not] at hflag
          exact hflag
        have hscheduled : (schedules.get name).isSome := by
          rw [← h.scheduled, hschedule, Option.isSome_some]
        refine ⟨?_, ?_, ?_, ?_, ?_⟩
        · rw [List.nodup_append]
          refine ⟨h.nodup, List.nodup_singleton name, ?_⟩
          rintro a ha b hb rfl
          rw [List.mem_singleton.1 hb] at ha
          exact hidle.2 ha
        · rw [List.length_append, List.length_singleton]
          omega
        · intro other hother
          rcases List.mem_append.1 hother with hold | hnew
          · exact h.idle other hold
          · rw [List.mem_singleton.1 hnew]
            exact ⟨hscheduled, hidle.1⟩
        · intro other
          rw [KeyedMap.get_set]
          split_ifs with hother
          · rw [hother, hscheduled, Option.isSome_some]
          · exact h.scheduled other
        · intro other
          rw [Schedules.inFlight, KeyedMap.get_set]
          split_ifs with hother
          · simp [hother]
          · simp only [List.mem_append, List.mem_singleton, hother, or_false]
            exact h.flags other
      · exact h

theorem claimed_claimDueStations (stationOrder : List String) (schedules : Schedules)
    (now : Instant) (ttl : Duration) (available : ℕ) :
    Claimed schedules available
      (claimDueStations stationOrder schedules now ttl available) := by
  refine List.foldlRecOn stationOrder _ ?_ fun acc h name _ => h.claimStation now ttl name
  exact ⟨List.nodup_nil, Nat.zero_le _, by simp, fun _ => rfl, by simp⟩

/-! ## One job for each station -/

/-- A job of the station belongs to the loop. -/
def RefreshLoop.Running (s : RefreshLoop) (name : String) : Prop :=
  name ∈ s.jobs.map (·.station)

/-- At most one job of each station runs, and the schedule of a station says that one runs
exactly when one does. -/
structure SingleFlight (s : RefreshLoop) : Prop where
  unique : (s.jobs.map (·.station)).Nodup
  inFlight : ∀ name schedule, s.schedules.get name = some schedule →
    (schedule.inFlight = true ↔ s.Running name)

/-- The loop knows its jobs by their identifiers. -/
structure JobsTracked (s : RefreshLoop) : Prop where
  fresh : ∀ job ∈ s.jobs, job.id < s.nextId
  ids : (s.jobs.map (·.id)).Nodup
  named : ∀ job ∈ s.jobs, s.jobNames.get job.id = some job.station

/-- The flag of a scheduled station, without its schedule. -/
theorem SingleFlight.flag {s : RefreshLoop} (h : SingleFlight s) {name : String}
    (hscheduled : (s.schedules.get name).isSome) :
    s.schedules.inFlight name = true ↔ s.Running name := by
  obtain ⟨schedule, hschedule⟩ := Option.isSome_iff_exists.1 hscheduled
  rw [inFlight_of_get hschedule]
  exact h.inFlight name schedule hschedule

/-- `SingleFlight` from the flags. -/
theorem singleFlight_of_flags {s : RefreshLoop} (hunique : (s.jobs.map (·.station)).Nodup)
    (hflags : ∀ name, (s.schedules.get name).isSome →
      (s.schedules.inFlight name = true ↔ s.Running name)) : SingleFlight s := by
  refine ⟨hunique, fun name schedule hschedule => ?_⟩
  rw [← inFlight_of_get hschedule]
  exact hflags name (by rw [hschedule, Option.isSome_some])

/-! ## The steps -/

/-- Starting jobs leaves everything but the jobs. -/
theorem foldl_spawn (claimed : List String) (s : RefreshLoop) :
    ((claimed.foldl RefreshLoop.spawn s).jobs.map (·.station) =
        s.jobs.map (·.station) ++ claimed) ∧
      (claimed.foldl RefreshLoop.spawn s).schedules = s.schedules := by
  induction claimed generalizing s with
  | nil => simp
  | cons name claimed ih =>
    obtain ⟨hjobs, hschedules⟩ := ih (s.spawn name)
    rw [List.foldl_cons, hjobs, hschedules]
    simp [RefreshLoop.spawn]

theorem JobsTracked.spawn {s : RefreshLoop} (h : JobsTracked s) (name : String) :
    JobsTracked (s.spawn name) := by
  refine ⟨?_, ?_, ?_⟩
  · intro job hjob
    rcases List.mem_append.1 hjob with hold | hnew
    · exact Nat.lt_succ_of_lt (h.fresh job hold)
    · rw [List.mem_singleton.1 hnew]
      exact Nat.lt_succ_self _
  · show ((s.jobs ++ [_]).map _).Nodup
    rw [List.map_append, List.map_singleton, List.nodup_append]
    refine ⟨h.ids, List.nodup_singleton _, ?_⟩
    rintro id hid other hother rfl
    obtain ⟨job, hjob, rfl⟩ := List.mem_map.1 hid
    have hlt := h.fresh job hjob
    rw [List.mem_singleton.1 hother] at hlt
    exact absurd hlt (Nat.lt_irrefl _)
  · intro job hjob
    show (s.jobNames.set s.nextId name).get job.id = some job.station
    rcases List.mem_append.1 hjob with hold | hnew
    · have hlt := h.fresh job hold
      rw [KeyedMap.get_set_of_ne (by omega)]
      exact h.named job hold
    · rw [List.mem_singleton.1 hnew]
      exact KeyedMap.get_set_self _ _ _

theorem JobsTracked.dispatchDue {s : RefreshLoop} (h : JobsTracked s) (now : Instant) :
    JobsTracked (s.dispatchDue now) := by
  rw [RefreshLoop.dispatchDue]
  exact List.foldlRecOn _ _ ⟨h.fresh, h.ids, h.named⟩ fun _ hs name _ => hs.spawn name

/-- Claiming the due stations and starting their jobs. -/
theorem SingleFlight.dispatchDue {s : RefreshLoop} (h : SingleFlight s) (now : Instant) :
    SingleFlight (s.dispatchDue now) := by
  have hclaimed := claimed_claimDueStations s.stationOrder s.schedules now s.ttl
    (maxConcurrentRefreshes - s.jobs.length)
  rw [RefreshLoop.dispatchDue]
  generalize claimDueStations s.stationOrder s.schedules now s.ttl
    (maxConcurrentRefreshes - s.jobs.length) = result at hclaimed ⊢
  obtain ⟨claimed, schedules⟩ := result
  obtain ⟨hjobs, hschedules⟩ := foldl_spawn claimed { s with schedules }
  apply singleFlight_of_flags
  · rw [hjobs, List.nodup_append]
    refine ⟨h.unique, hclaimed.nodup, ?_⟩
    rintro name hrunning other hother rfl
    obtain ⟨hscheduled, hidle⟩ := hclaimed.idle name hother
    rw [(h.flag hscheduled).2 hrunning] at hidle
    cases hidle
  · intro name hscheduled
    rw [hschedules] at hscheduled ⊢
    rw [hclaimed.scheduled] at hscheduled
    rw [hclaimed.flags, Bool.or_eq_true, decide_eq_true_iff, h.flag hscheduled,
      RefreshLoop.Running, RefreshLoop.Running, hjobs, List.mem_append]

theorem SingleFlight.observeDate {s : RefreshLoop} (h : SingleFlight s) (now : Instant)
    (currentDate : Option String) : SingleFlight (s.observeDate now currentDate) := by
  unfold RefreshLoop.observeDate
  split
  next => exact h
  next date =>
    refine singleFlight_of_flags (s := { s with schedules := ite _ _ _, lastLocalDate := _ })
      h.unique fun name hscheduled => ?_
    show Schedules.inFlight (ite _ _ _) name = true ↔ s.Running name
    replace hscheduled : (KeyedMap.get (ite _ _ _) name).isSome := hscheduled
    split_ifs at hscheduled ⊢
    · rw [isSome_scheduleDateRefresh] at hscheduled
      rw [inFlight_scheduleDateRefresh]
      exact h.flag hscheduled
    · exact h.flag hscheduled

theorem JobsTracked.observeDate {s : RefreshLoop} (h : JobsTracked s) (now : Instant)
    (currentDate : Option String) : JobsTracked (s.observeDate now currentDate) := by
  unfold RefreshLoop.observeDate
  split
  next => exact h
  next => exact ⟨h.fresh, h.ids, h.named⟩

/-- Removing a job keeps the others known. -/
theorem JobsTracked.removeJob {s : RefreshLoop} (h : JobsTracked s) (id : ℕ) :
    JobsTracked { s with jobs := s.jobs.filter (·.id ≠ id) } :=
  ⟨fun job hjob => h.fresh job (List.mem_filter.1 hjob).1,
    h.ids.sublist (List.filter_sublist.map _),
    fun job hjob => h.named job (List.mem_filter.1 hjob).1⟩

/-- The job that ends is the only one of its station, so that its end clears the flag and no
other. -/
theorem SingleFlight.join {s : RefreshLoop} (h : SingleFlight s) (htracked : JobsTracked s)
    {job : Job} (hjob : job ∈ s.jobs) (now : Instant) : SingleFlight (s.join job.id now) := by
  have hrunning : ∀ name, (s.join job.id now).Running name ↔
      s.Running name ∧ name ≠ job.station := by
    intro name
    simp only [RefreshLoop.Running, RefreshLoop.join, List.mem_map, List.mem_filter,
      decide_eq_true_iff]
    constructor
    · rintro ⟨other, ⟨hother, hid⟩, rfl⟩
      refine ⟨⟨other, hother, rfl⟩, fun hstation => hid ?_⟩
      rw [List.inj_on_of_nodup_map h.unique hother hjob hstation]
    · rintro ⟨⟨other, hother, rfl⟩, hstation⟩
      refine ⟨other, ⟨hother, fun hid => hstation ?_⟩, rfl⟩
      rw [List.inj_on_of_nodup_map htracked.ids hother hjob hid]
  apply singleFlight_of_flags
  · exact h.unique.sublist (List.filter_sublist.map _)
  · intro name hscheduled
    rw [hrunning]
    simp only [RefreshLoop.join, htracked.named job hjob, finishJob] at hscheduled ⊢
    cases hget : s.schedules.get job.station with
    | none =>
      rw [hget] at hscheduled
      have hother : name ≠ job.station := by
        rintro rfl
        simp [hget] at hscheduled
      rw [h.flag hscheduled]
      exact (and_iff_left hother).symm
    | some schedule =>
      simp only [hget, Schedules.inFlight, KeyedMap.get_set] at hscheduled ⊢
      by_cases hname : name = job.station
      · simp [hname]
      · rw [if_neg hname] at hscheduled ⊢
        exact (h.flag hscheduled).trans (and_iff_left hname).symm

theorem JobsTracked.join {s : RefreshLoop} (h : JobsTracked s) (id : ℕ) (now : Instant) :
    JobsTracked (s.join id now) := by
  refine ⟨(h.removeJob id).fresh, (h.removeJob id).ids, fun job hjob => ?_⟩
  obtain ⟨hmem, hid⟩ := List.mem_filter.1 hjob
  show (s.jobNames.remove id).get job.id = some job.station
  rw [KeyedMap.get_remove, if_neg (by simpa using hid)]
  exact h.named job hmem

/-- A configuration change that adds a station adds none of which a job still runs. -/
def NoRunningStationAdded (s : RefreshLoop) : RefreshLabel → Prop
  | .configChanged config _ =>
    ∀ name ∈ enabledStations config, s.schedules.get name = none → ¬ s.Running name
  | _ => True

/-- A configuration change keeps the schedules right about the jobs exactly when it adds no
station of which a job runs. -/
theorem singleFlight_reconcile_iff {s : RefreshLoop} (h : SingleFlight s) (config : AppConfig)
    (now : Instant) :
    SingleFlight (s.reconcile config now) ↔
      NoRunningStationAdded s (.configChanged config now) := by
  have hscheduled : ∀ name, ((s.reconcile config now).schedules.get name).isSome ↔
      name ∈ enabledStations config := fun name => by
    rw [RefreshLoop.reconcile, isSome_reconcileSchedules, decide_eq_true_iff]
  have hflag : ∀ name ∈ enabledStations config,
      (s.reconcile config now).schedules.inFlight name = s.schedules.inFlight name := by
    intro name hname
    rw [RefreshLoop.reconcile, inFlight_reconcileSchedules, decide_eq_true hname, Bool.true_and]
  constructor
  · intro hafter name hname hget hrunning
    have hset := (hafter.flag ((hscheduled name).2 hname)).2 hrunning
    rw [hflag name hname, inFlight_of_get_none hget] at hset
    cases hset
  · intro hadded
    refine singleFlight_of_flags (s := s.reconcile config now) h.unique fun name hname => ?_
    rw [hscheduled] at hname
    rw [hflag name hname]
    cases hget : s.schedules.get name with
    | some schedule => exact h.flag (by rw [hget, Option.isSome_some])
    | none =>
      rw [inFlight_of_get_none hget]
      exact ⟨fun hfalse => (by cases hfalse), fun hrunning =>
        absurd hrunning (hadded name hname hget)⟩

/-! ## Runs -/

theorem singleFlight_start (config : AppConfig) (now : Instant) (localDate : Option String) :
    SingleFlight (.start config now localDate) := by
  refine singleFlight_of_flags (s := .start config now localDate) List.nodup_nil
    fun name hname => ?_
  rw [RefreshLoop.start, inFlight_reconcileSchedules]
  simp [RefreshLoop.Running, Schedules.inFlight]

theorem jobsTracked_start (config : AppConfig) (now : Instant) (localDate : Option String) :
    JobsTracked (.start config now localDate) :=
  ⟨fun _ hjob => (List.not_mem_nil hjob).elim, List.nodup_nil,
    fun _ hjob => (List.not_mem_nil hjob).elim⟩

/-- The steps of the loop, one constructor for each place in which it takes one. -/
inductive RefreshLoop.Step (s : RefreshLoop) : RefreshLabel → RefreshLoop → Prop
  | iterate {now : Instant} {localDate : Option (String × Duration)} :
      s.stage = .iterating → s.clock ≤ now →
      Step s (.iterate now localDate) (s.iterate now localDate)
  | ended {id : ℕ} :
      Step s (.ended id) { s with
        jobs := s.jobs.map fun job => if job.id = id then { job with ended := true } else job }
  | joined {since : Instant} {wait : Duration} {job : Job} {now : Instant} :
      s.stage = .selecting since wait → job ∈ s.jobs → s.clock ≤ now →
      Step s (.joined job.id now) { s.join job.id now with clock := now, stage := .iterating }
  | drained {id : ℕ} {now : Instant} :
      s.stage = .draining → Step s (.joined id now) { s with jobs := s.jobs.filter (·.id ≠ id) }
  | configChanged {since : Instant} {wait : Duration} {config : AppConfig} {now : Instant} :
      s.stage = .selecting since wait → s.clock ≤ now →
      Step s (.configChanged config now)
        { s.reconcile config now with clock := now, stage := .iterating }
  | slept {since : Instant} {wait : Duration} {now : Instant} :
      s.stage = .selecting since wait → since + wait ≤ now →
      Step s (.slept now) { s with clock := now, stage := .iterating }
  | stopped {since : Instant} {wait : Duration} :
      s.stage = .selecting since wait →
      Step s .stopped { s with schedules := .empty, stage := .draining }

/-- Every step of the loop is one of these. -/
theorem RefreshLoop.step_cases {s s' : RefreshLoop} {l : RefreshLabel} (h : s.step l = some s') :
    RefreshLoop.Step s l s' := by
  cases l with
  | iterate now localDate =>
    simp only [RefreshLoop.step, Option.ite_none_right_eq_some, Option.some.injEq] at h
    obtain ⟨⟨hstage, hclock⟩, rfl⟩ := h
    exact .iterate hstage hclock
  | ended id =>
    simp only [RefreshLoop.step, Option.some.injEq] at h
    subst h
    exact .ended
  | joined id now =>
    simp only [RefreshLoop.step] at h
    split at h
    next => cases h
    next hstage =>
      rw [Option.ite_none_right_eq_some, List.any_eq_true, Option.some.injEq] at h
      obtain ⟨⟨⟨job, hjob, hended⟩, hclock⟩, rfl⟩ := h
      obtain ⟨rfl, -⟩ := of_decide_eq_true hended
      exact .joined hstage hjob hclock
    next hstage =>
      cases h
      exact .drained hstage
  | configChanged config now =>
    simp only [RefreshLoop.step] at h
    split at h
    next hstage =>
      rw [Option.ite_none_right_eq_some, Option.some.injEq] at h
      obtain ⟨hclock, rfl⟩ := h
      exact .configChanged hstage hclock
    next => cases h
  | slept now =>
    simp only [RefreshLoop.step] at h
    split at h
    next hstage =>
      rw [Option.ite_none_right_eq_some, Option.some.injEq] at h
      obtain ⟨htimer, rfl⟩ := h
      exact .slept hstage htimer
    next => cases h
  | stopped =>
    simp only [RefreshLoop.step] at h
    split at h
    next hstage =>
      cases h
      exact .stopped hstage
    next => cases h

/-- The end of a task changes neither the identifiers nor the stations of the jobs. -/
theorem map_endJob {β : Type} (jobs : List Job) (id : ℕ) {f : Job → β}
    (hf : ∀ job, f { job with ended := true } = f job) :
    (jobs.map fun job => if job.id = id then { job with ended := true } else job).map f =
      jobs.map f := by
  rw [List.map_map]
  refine List.map_congr_left fun job _ => ?_
  show f (if job.id = id then { job with ended := true } else job) = f job
  split_ifs
  · exact hf job
  · rfl

/-- The loop knows its jobs after every step. -/
theorem JobsTracked.step {s s' : RefreshLoop} {l : RefreshLabel} (h : JobsTracked s)
    (hstep : s.step l = some s') : JobsTracked s' := by
  cases RefreshLoop.step_cases hstep with
  | @iterate now localDate _ _ =>
    have hafter := (h.observeDate now (localDate.map Prod.fst)).dispatchDue now
    exact ⟨hafter.fresh, hafter.ids, hafter.named⟩
  | @ended id =>
    refine ⟨?_, ?_, ?_⟩
    · intro job hjob
      obtain ⟨old, hold, rfl⟩ := List.mem_map.1 hjob
      split_ifs <;> exact h.fresh old hold
    · rw [map_endJob _ _ fun _ => rfl]
      exact h.ids
    · intro job hjob
      obtain ⟨old, hold, rfl⟩ := List.mem_map.1 hjob
      split_ifs <;> exact h.named old hold
  | @joined _ _ job now _ _ _ =>
    have hafter := h.join job.id now
    exact ⟨hafter.fresh, hafter.ids, hafter.named⟩
  | @drained id =>
    have hafter := h.removeJob id
    exact ⟨hafter.fresh, hafter.ids, hafter.named⟩
  | configChanged => exact ⟨h.fresh, h.ids, h.named⟩
  | slept => exact ⟨h.fresh, h.ids, h.named⟩
  | stopped => exact ⟨h.fresh, h.ids, h.named⟩

/-- What holds in every state of a run whose steps meet the condition. After the loop there are
no schedules left. -/
structure RefreshInv (s : RefreshLoop) : Prop where
  single : SingleFlight s
  tracked : JobsTracked s
  drained : s.stage = .draining → s.schedules = .empty

/-- A step that meets the condition keeps one job for each station. -/
theorem refreshInv_step {s s' : RefreshLoop} {l : RefreshLabel} (h : RefreshInv s)
    (hstep : s.step l = some s') (hallowed : NoRunningStationAdded s l) : RefreshInv s' := by
  have htracked := h.tracked.step hstep
  obtain ⟨hsingle, hold, hdrained⟩ := h
  cases RefreshLoop.step_cases hstep with
  | @iterate now localDate _ _ =>
    have hafter := (hsingle.observeDate now (localDate.map Prod.fst)).dispatchDue now
    exact ⟨⟨hafter.unique, hafter.inFlight⟩, htracked, fun hstage => nomatch hstage⟩
  | @ended id =>
    have hstations := map_endJob s.jobs id (f := (·.station)) fun _ => rfl
    refine ⟨⟨?_, ?_⟩, htracked, hdrained⟩
    · rw [hstations]
      exact hsingle.unique
    · intro name schedule hget
      rw [hsingle.inFlight name schedule hget, RefreshLoop.Running, RefreshLoop.Running, hstations]
  | @joined _ _ job now _ hjob _ =>
    have hafter := hsingle.join hold hjob now
    exact ⟨⟨hafter.unique, hafter.inFlight⟩, htracked, fun hstage => nomatch hstage⟩
  | drained hdraining =>
    refine ⟨⟨hsingle.unique.sublist (List.filter_sublist.map _), fun name schedule hget => ?_⟩,
      htracked, hdrained⟩
    rw [hdrained hdraining] at hget
    cases hget
  | @configChanged _ _ config now _ _ =>
    have hafter := (singleFlight_reconcile_iff hsingle config now).2 hallowed
    exact ⟨⟨hafter.unique, hafter.inFlight⟩, htracked, fun hstage => nomatch hstage⟩
  | slept => exact ⟨⟨hsingle.unique, hsingle.inFlight⟩, htracked, fun hstage => nomatch hstage⟩
  | stopped =>
    refine ⟨⟨hsingle.unique, fun name schedule hget => ?_⟩, htracked, fun _ => rfl⟩
    cases hget

/-- In every run whose configuration changes never bring back a station of which a job still
runs, each station has at most one job, and the schedules know which have one; and in each state
reached the next configuration change keeps this exactly when it meets the condition too. -/
theorem refresh_singleFlight {s : RefreshLoop}
    (h : (refreshSystem.restrict NoRunningStationAdded).Reachable s) :
    SingleFlight s ∧ ∀ config now,
      (SingleFlight (s.reconcile config now) ↔
        NoRunningStationAdded s (.configChanged config now)) := by
  have hinit : ∀ s, (refreshSystem.restrict NoRunningStationAdded).init s → RefreshInv s := by
    rintro s ⟨config, now, localDate, rfl⟩
    exact ⟨singleFlight_start _ _ _, jobsTracked_start _ _ _, fun hstage => nomatch hstage⟩
  have hinv : RefreshInv s :=
    h.invariant hinit fun _ _ _ hinv hstep => refreshInv_step hinv hstep.1 hstep.2
  exact ⟨hinv.single, singleFlight_reconcile_iff hinv.single⟩

/-! ## A station that comes back -/

/-- A configuration with these stations. -/
def sampleConfig (names : List String) : AppConfig :=
  { AppConfig.default with stations := names.map fun name => ⟨name, true⟩ }

/-- The loop with one station. -/
def sampleLoop : RefreshLoop := .start (sampleConfig ["A"]) 0 none

/-- The condition on configuration changes can be computed. -/
def noRunningStationAdded (s : RefreshLoop) : RefreshLabel → Bool
  | .configChanged config _ => (enabledStations config).all fun name =>
    (s.schedules.get name).isSome || !(s.jobs.map (·.station)).contains name
  | _ => true

theorem noRunningStationAdded_sound (s : RefreshLoop) (l : RefreshLabel)
    (h : noRunningStationAdded s l = true) : NoRunningStationAdded s l := by
  cases l with
  | configChanged config now =>
    rw [noRunningStationAdded, List.all_eq_true] at h
    intro name hname hget hrunning
    have hname := h name hname
    rw [hget, Option.isSome_none, Bool.false_or, Bool.not_eq_true', List.contains_eq_mem,
      decide_eq_false_iff_not] at hname
    exact hname hrunning
  | _ => trivial

/-- What the loop with one station reaches by allowed steps. -/
theorem sampleLoop_reachable {P : RefreshLoop → RefreshLabel → Prop}
    {allowed : RefreshLoop → RefreshLabel → Bool} (hallowed : ∀ s l, allowed s l = true → P s l)
    {labels : List RefreshLabel} {s : RefreshLoop}
    (h : LabelledSystem.perform RefreshLoop.step allowed sampleLoop labels = some s) :
    (refreshSystem.restrict P).Reachable s :=
  LabelledSystem.reachable_of_perform (fun _ _ _ hstep => hstep) hallowed
    ⟨[], .start ⟨_, _, _, rfl⟩⟩ h

/-- A station that leaves the configuration and comes back after the end of its job. -/
theorem refresh_singleFlight_sampleRun :
    ∃ s, (refreshSystem.restrict NoRunningStationAdded).Reachable s ∧ s.jobs.length = 1 ∧
      SingleFlight s := by
  have hrun : ((LabelledSystem.perform RefreshLoop.step noRunningStationAdded sampleLoop
      [.iterate 0 none, .configChanged (sampleConfig []) 1, .iterate 1 none, .ended 0,
        .joined 0 2, .iterate 2 none, .configChanged (sampleConfig ["A"]) 3,
        .iterate 3 none]).map fun s => s.jobs.length) = some 1 := by
    decide +kernel
  obtain ⟨s, hperform, hend⟩ := Option.map_eq_some_iff.1 hrun
  have hreachable := sampleLoop_reachable noRunningStationAdded_sound hperform
  exact ⟨s, hreachable, hend, (refresh_singleFlight hreachable).1⟩

/-- A station that comes back while its job still runs gets a second job. -/
theorem refresh_two_jobs : ¬ ∀ s, refreshSystem.Reachable s → SingleFlight s := by
  intro hclaim
  have hrun : ((LabelledSystem.perform RefreshLoop.step (fun _ _ => true) sampleLoop
      [.iterate 0 none, .configChanged (sampleConfig []) 1, .iterate 1 none,
        .configChanged (sampleConfig ["A"]) 2, .iterate 2 none]).map fun s =>
          s.jobs) = some [⟨0, "A", false⟩, ⟨1, "A", false⟩] := by
    decide +kernel
  obtain ⟨s, hperform, hend⟩ := Option.map_eq_some_iff.1 hrun
  have hreachable : refreshSystem.Reachable s :=
    (sampleLoop_reachable (P := fun _ _ => True) (fun _ _ _ => trivial) hperform).of_restrict
  have hunique := (hclaim s hreachable).unique
  rw [hend] at hunique
  exact absurd hunique (by decide)

end WeatherApp
