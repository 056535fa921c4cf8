import WeatherApp.Engine.RefreshLaw
import WeatherApp.Engine.StationOrder

/-!
# The wake-ups of the scheduler

`claim_due_stations` walks over the station order while `next_scheduler_wait` looks at the
schedules. Both cover the same stations, so that after a dispatch below the limit no idle station
is due and the loop waits for a positive time, at most until the next one is.

## Main definitions

* `RefreshLoop.claimedBy`: the stations that a dispatch claims.
* `ScheduleInv`: the invariant of the loop.

## Main results

* `claimDueStations_outcome`: what a dispatch does to each schedule, and what it leaves due.
* `refresh_wakes`: the bound on the jobs and the wait after a dispatch.
-/

namespace WeatherApp

/-! ## What a dispatch does -/

/-- A schedule after its station is claimed. -/
def StationSchedule.claim (schedule : StationSchedule) (now : Instant) (ttl : Duration) :
    StationSchedule :=
  { schedule with inFlight := true, dateRefreshPending := false, nextDue := deadline now ttl }

theorem StationSchedule.claimable_claim (schedule : StationSchedule) (now : Instant)
    (ttl : Duration) : (schedule.claim now ttl).claimable now = false := rfl

/-- A schedule without a job that cannot be claimed is not due. -/
theorem StationSchedule.not_claimable_iff {schedule : StationSchedule} {now : Instant} :
    schedule.claimable now = false ↔
      (schedule.inFlight = false → ∀ due ∈ schedule.nextDue, now < due) := by
  rw [claimable, Bool.and_eq_false_iff, Bool.not_eq_false', Option.any_eq_false_iff_get]
  constructor
  · rintro (hbusy | hlater) hidle due hdue
    · rw [hidle] at hbusy
      cases hbusy
    · have hlate := hlater (Option.isSome_of_mem hdue)
      rw [Option.get_of_mem _ hdue, decide_eq_false_iff_not, not_le] at hlate
      exact hlate
  · intro h
    cases hbusy : schedule.inFlight with
    | true => exact .inl rfl
    | false =>
      refine .inr fun hsome => ?_
      rw [decide_eq_false_iff_not, not_le]
      exact h hbusy _ (Option.get_mem hsome)

/-- What the loop of `claim_due_stations` has done after it has visited some stations: the claimed
schedules are claimed, the others are as they were, and unless enough stations are claimed no
visited one is left to claim. -/
structure ClaimOutcome (schedules : Schedules) (now : Instant) (ttl : Duration) (available : ℕ)
    (visited : List String) (acc : List String × Schedules) : Prop where
  get : ∀ name, acc.2.get name =
    if name ∈ acc.1 then (schedules.get name).map (·.claim now ttl) else schedules.get name
  exhausted : available ≤ acc.1.length ∨ ∀ name ∈ visited, ∀ schedule,
    acc.2.get name = some schedule → schedule.claimable now = false

/-- One more station is visited. -/
theorem ClaimOutcome.claimStation {schedules : Schedules} {now : Instant} {ttl : Duration}
    {available : ℕ} {visited : List String} {acc : List String × Schedules}
    (h : ClaimOutcome schedules now ttl available visited acc) (name : String) :
    ClaimOutcome schedules now ttl available (visited ++ [name])
      (claimStation now ttl available acc name) := by
  unfold WeatherApp.claimStation
  by_cases hfull : acc.1.length ≥ available
  · rw [if_pos hfull]
    exact ⟨h.get, .inl hfull⟩
  rw [if_neg hfull]
  have hvisited := h.exhausted.resolve_left hfull
  -- without a claim the station that is visited must be one that cannot be claimed
  have hskipped : (∀ schedule, acc.2.get name = some schedule → schedule.claimable now = false) →
      ClaimOutcome schedules now ttl available (visited ++ [name]) acc := by
    refine fun hname => ⟨h.get, .inr fun other hother => ?_⟩
    rcases List.mem_append.1 hother with hold | hnew
    · exact hvisited other hold
    · rw [List.mem_singleton.1 hnew]
      exact hname
  split
  next hnone =>
    apply hskipped
    intro schedule hschedule
    rw [hnone] at hschedule
    cases hschedule
  next schedule hschedule =>
    by_cases hclaimable : schedule.claimable now = true
    · rw [if_pos hclaimable]
      have hget := h.get name
      have hfresh : name ∉ acc.1 := by
        intro hclaimed
        rw [if_pos hclaimed, hschedule, eq_comm, Option.map_eq_some_iff] at hget
        obtain ⟨old, -, rfl⟩ := hget
        rw [StationSchedule.claimable_claim] at hclaimable
        cases hclaimable
      rw [if_neg hfresh, hschedule] at hget
      refine ⟨fun other => ?_, .inr fun other hother other' hother' => ?_⟩
      · show (acc.2.set name (schedule.claim now ttl)).get other = _
        rw [KeyedMap.get_set]
        by_cases hsame : other = name
        · rw [if_pos hsame, hsame, if_pos (List.mem_append_right _ List.mem_cons_self), ← hget]
          rfl
        · rw [if_neg hsame, h.get other]
          simp only [List.mem_append, List.mem_singleton, hsame, or_false]
      · replace hother' : (acc.2.set name (schedule.claim now ttl)).get other = some other' :=
          hother'
        rw [KeyedMap.get_set] at hother'
        split_ifs at hother' with hsame
        · cases hother'
          exact schedule.claimable_claim now ttl
        · rcases List.mem_append.1 hother with hold | hnew
          · exact hvisited other hold other' hother'
          · exact absurd (List.mem_singleton.1 hnew) hsame
    · rw [if_neg hclaimable]
      apply hskipped
      intro schedule' hschedule'
      rw [hschedule] at hschedule'
      cases hschedule'
      exact Bool.eq_false_iff.2 hclaimable

/-- `claim_due_stations` on the whole order. -/
theorem claimDueStations_outcome (stationOrder : List String) (schedules : Schedules)
    (now : Instant) (ttl : Duration) (available : ℕ) :
    ClaimOutcome schedules now ttl available stationOrder
      (claimDueStations stationOrder schedules now ttl available) := by
  rw [claimDueStations]
  induction stationOrder using List.reverseRecOn with
  | nil => exact ⟨fun _ => rfl, .inr fun _ hname => nomatch hname⟩
  | append_singleton visited name ih =>
    rw [List.foldl_append]
    exact ih.claimStation name

namespace RefreshLoop

variable {s s' : RefreshLoop}

/-- The stations that a dispatch claims. -/
def claimedBy (s : RefreshLoop) (now : Instant) : List String :=
  (claimDueStations s.stationOrder s.schedules now s.ttl
    (maxConcurrentRefreshes - s.jobs.length)).1

/-- Starting jobs changes nothing but what the loop knows of its jobs. -/
theorem foldl_spawn_frame (claimed : List String) (s : RefreshLoop) :
    ∃ jobs jobNames nextId,
      claimed.foldl spawn s = { s with jobs := jobs, jobNames := jobNames, nextId := nextId } := by
  induction claimed generalizing s with
  | nil => exact ⟨s.jobs, s.jobNames, s.nextId, rfl⟩
  | cons name claimed ih =>
    obtain ⟨jobs, jobNames, nextId, h⟩ := ih (s.spawn name)
    exact ⟨jobs, jobNames, nextId, h⟩

/-- The order of the stations survives a dispatch. -/
theorem stationOrder_dispatchDue (s : RefreshLoop) (now : Instant) :
    (s.dispatchDue now).stationOrder = s.stationOrder := by
  obtain ⟨jobs, jobNames, nextId, h⟩ := foldl_spawn_frame (s.claimedBy now)
    { s with schedules := (claimDueStations s.stationOrder s.schedules now s.ttl
      (maxConcurrentRefreshes - s.jobs.length)).2 }
  have horder := congrArg RefreshLoop.stationOrder h
  exact horder

/-- A dispatch starts a job for each claimed station. -/
theorem stations_dispatchDue (s : RefreshLoop) (now : Instant) :
    (s.dispatchDue now).jobs.map (·.station) = s.jobs.map (·.station) ++ s.claimedBy now :=
  (foldl_spawn (s.claimedBy now) { s with
    schedules := (claimDueStations s.stationOrder s.schedules now s.ttl
      (maxConcurrentRefreshes - s.jobs.length)).2 }).1

theorem schedules_dispatchDue (s : RefreshLoop) (now : Instant) :
    (s.dispatchDue now).schedules =
      (claimDueStations s.stationOrder s.schedules now s.ttl
        (maxConcurrentRefreshes - s.jobs.length)).2 :=
  (foldl_spawn (s.claimedBy now) { s with
    schedules := (claimDueStations s.stationOrder s.schedules now s.ttl
      (maxConcurrentRefreshes - s.jobs.length)).2 }).2

/-- A dispatch writes the schedules of the claimed stations and no others. -/
theorem get_dispatchDue (s : RefreshLoop) (now : Instant) (name : String) :
    (s.dispatchDue now).schedules.get name =
      if name ∈ s.claimedBy now then (s.schedules.get name).map (·.claim now s.ttl)
      else s.schedules.get name := by
  rw [schedules_dispatchDue]
  exact (claimDueStations_outcome _ _ _ _ _).get name

theorem isSome_get_dispatchDue (s : RefreshLoop) (now : Instant) (name : String) :
    ((s.dispatchDue now).schedules.get name).isSome = (s.schedules.get name).isSome := by
  rw [get_dispatchDue]
  split_ifs
  · exact Option.isSome_map
  · rfl

theorem length_dispatchDue (s : RefreshLoop) (now : Instant) :
    (s.dispatchDue now).jobs.length = s.jobs.length + (s.claimedBy now).length := by
  have hlength := congrArg List.length (s.stations_dispatchDue now)
  rwa [List.length_map, List.length_append, List.length_map] at hlength

/-- A dispatch stays within the limit. -/
theorem length_dispatchDue_le (h : s.jobs.length ≤ maxConcurrentRefreshes) (now : Instant) :
    (s.dispatchDue now).jobs.length ≤ maxConcurrentRefreshes := by
  have hclaimed := (claimed_claimDueStations s.stationOrder s.schedules now s.ttl
    (maxConcurrentRefreshes - s.jobs.length)).bounded
  have hlength := s.length_dispatchDue now
  rw [claimedBy] at hlength
  omega

/-- After a dispatch below the limit no station of the order is left to claim. -/
theorem dispatchDue_exhausted (h : s.jobs.length ≤ maxConcurrentRefreshes) (now : Instant) :
    (s.dispatchDue now).jobs.length = maxConcurrentRefreshes ∨
      ∀ name ∈ s.stationOrder, ∀ schedule, (s.dispatchDue now).schedules.get name = some schedule →
        schedule.claimable now = false := by
  rw [schedules_dispatchDue]
  have hlength := s.length_dispatchDue now
  have hbound := length_dispatchDue_le h now
  rcases (claimDueStations_outcome s.stationOrder s.schedules now s.ttl
    (maxConcurrentRefreshes - s.jobs.length)).exhausted with hfull | hnone
  · left
    change _ ≤ (s.claimedBy now).length at hfull
    omega
  · exact .inr hnone

end RefreshLoop

/-! ## What holds in every state -/

/-- The jobs stay within the limit, each station is in the order once, and exactly the stations of
the order are scheduled, until the loop has ended and no station is. -/
structure ScheduleInv (s : RefreshLoop) : Prop where
  bounded : s.jobs.length ≤ maxConcurrentRefreshes
  ordered : s.stationOrder.Nodup
  scheduled : ∀ name, (s.schedules.get name).isSome → name ∈ s.stationOrder
  covered : s.stage ≠ .draining → ∀ name ∈ s.stationOrder, (s.schedules.get name).isSome

namespace RefreshLoop

theorem stationOrder_observeDate (s : RefreshLoop) (now : Instant) (currentDate : Option String) :
    (s.observeDate now currentDate).stationOrder = s.stationOrder := by
  unfold observeDate
  split <;> rfl

theorem jobs_observeDate (s : RefreshLoop) (now : Instant) (currentDate : Option String) :
    (s.observeDate now currentDate).jobs = s.jobs := by
  unfold observeDate
  split <;> rfl

theorem isSome_get_observeDate (s : RefreshLoop) (now : Instant) (currentDate : Option String)
    (name : String) :
    ((s.observeDate now currentDate).schedules.get name).isSome =
      (s.schedules.get name).isSome := by
  unfold observeDate
  split
  next => rfl
  next =>
    dsimp only
    split_ifs
    · exact isSome_scheduleDateRefresh _ _ _ _
    · rfl

theorem isSome_get_join (s : RefreshLoop) (id : ℕ) (now : Instant) (name : String) :
    ((s.join id now).schedules.get name).isSome = (s.schedules.get name).isSome := by
  simp only [join]
  split
  next station _ =>
    rw [finishJob]
    split
    next => rfl
    next schedule hschedule =>
      rw [KeyedMap.get_set]
      by_cases hname : name = station
      · rw [if_pos hname, hname, hschedule, Option.isSome_some, Option.isSome_some]
      · rw [if_neg hname]
  next => rfl

end RefreshLoop

theorem scheduleInv_start (config : AppConfig) (now : Instant) (localDate : Option String) :
    ScheduleInv (.start config now localDate) := by
  have hscheduled := fun name => isSome_reconcileSchedules .empty (enabledStations config) now
    (weatherTtl config) name
  refine ⟨Nat.zero_le _, nodup_enabledStations config, fun name hname => ?_, fun _ name hname => ?_⟩
  · rw [RefreshLoop.start, hscheduled] at hname
    exact of_decide_eq_true hname
  · rw [RefreshLoop.start, hscheduled]
    exact decide_eq_true hname

theorem ScheduleInv.step {s s' : RefreshLoop} {l : RefreshLabel} (h : ScheduleInv s)
    (hstep : s.step l = some s') : ScheduleInv s' := by
  cases RefreshLoop.step_cases hstep with
  | @iterate now localDate hstage _ =>
    have hdispatched : ∀ name, ((s.iterate now localDate).schedules.get name).isSome =
        (s.schedules.get name).isSome := by
      intro name
      rw [RefreshLoop.iterate, RefreshLoop.isSome_get_dispatchDue,
        RefreshLoop.isSome_get_observeDate]
    have horder : (s.iterate now localDate).stationOrder = s.stationOrder := by
      rw [RefreshLoop.iterate, RefreshLoop.stationOrder_dispatchDue,
        RefreshLoop.stationOrder_observeDate]
    refine ⟨?_, ?_, ?_, ?_⟩
    · apply RefreshLoop.length_dispatchDue_le
      rw [RefreshLoop.jobs_observeDate]
      exact h.bounded
    · rw [horder]
      exact h.ordered
    · intro name hname
      rw [hdispatched] at hname
      rw [horder]
      exact h.scheduled name hname
    · intro _ name hname
      rw [hdispatched]
      rw [horder] at hname
      exact h.covered (by rw [hstage]; intro hdraining; cases hdraining) name hname
  | @ended id =>
    refine ⟨?_, h.ordered, h.scheduled, h.covered⟩
    rw [List.length_map]
    exact h.bounded
  | @joined _ _ job now hstage _ _ =>
    refine ⟨(List.length_filter_le _ _).trans h.bounded, h.ordered, fun name hname => ?_,
      fun _ name hname => ?_⟩
    · replace hname : ((s.join job.id now).schedules.get name).isSome := hname
      rw [RefreshLoop.isSome_get_join] at hname
      exact h.scheduled name hname
    · show ((s.join job.id now).schedules.get name).isSome
      rw [RefreshLoop.isSome_get_join]
      exact h.covered (by rw [hstage]; intro hdraining; cases hdraining) name hname
  | drained _ =>
    exact ⟨(List.length_filter_le _ _).trans h.bounded, h.ordered, h.scheduled, h.covered⟩
  | @configChanged _ _ config now _ _ =>
    have hscheduled := fun name => isSome_reconcileSchedules s.schedules (enabledStations config)
      now (weatherTtl config) name
    refine ⟨h.bounded, nodup_enabledStations config, fun name hname => ?_, fun _ name hname => ?_⟩
    · replace hname : ((s.reconcile config now).schedules.get name).isSome := hname
      rw [RefreshLoop.reconcile, hscheduled] at hname
      exact of_decide_eq_true hname
    · show ((s.reconcile config now).schedules.get name).isSome
      rw [RefreshLoop.reconcile, hscheduled]
      exact decide_eq_true hname
  | slept hstage _ =>
    refine ⟨h.bounded, h.ordered, h.scheduled, fun _ => h.covered ?_⟩
    rw [hstage]
    intro hdraining
    cases hdraining
  | stopped _ =>
    exact ⟨h.bounded, h.ordered, fun _ hname => (by cases hname),
      fun hstage => absurd rfl hstage⟩

theorem scheduleInv_reachable {s : RefreshLoop} (h : refreshSystem.Reachable s) :
    ScheduleInv s := by
  refine h.invariant ?_ fun _ _ _ hinv hstep => hinv.step hstep
  rintro s ⟨config, now, localDate, rfl⟩
  exact scheduleInv_start config now localDate

/-! ## The wait -/

/-- The wait is at most the time to each deadline of a station without a job. -/
theorem nextSchedulerWait_le {schedules : Schedules} {activeJobs : ℕ} {name : String}
    {schedule : StationSchedule} {due : Instant} (now : Instant)
    (hlimit : activeJobs < maxConcurrentRefreshes) (hget : schedules.get name = some schedule)
    (hidle : schedule.inFlight = false) (hdue : due ∈ schedule.nextDue) :
    nextSchedulerWait schedules now activeJobs ≤ due - now := by
  rw [nextSchedulerWait, if_neg (by omega)]
  dsimp only
  generalize hwaits : ((schedules.values.filter fun schedule => !schedule.inFlight).filterMap
    (·.nextDue)).map (fun nextDue => nextDue - now) = waits
  have hmem : due - now ∈ waits := by
    rw [← hwaits]
    apply List.mem_map_of_mem
    rw [List.mem_filterMap]
    refine ⟨schedule, List.mem_filter.2 ⟨KeyedMap.mem_values.2 ⟨name, hget⟩, ?_⟩, hdue⟩
    rw [hidle, Bool.not_false]
  cases hmin : waits.min? with
  | none =>
    rw [List.min?_eq_none_iff] at hmin
    rw [hmin] at hmem
    cases hmem
  | some least =>
    rw [Option.getD_some]
    exact (List.min?_eq_some_iff.1 hmin).2 _ hmem

/-- The wait is positive when no station without a job is due. -/
theorem nextSchedulerWait_pos {schedules : Schedules} {now : Instant} {activeJobs : ℕ}
    (h : maxConcurrentRefreshes ≤ activeJobs ∨ ∀ name schedule,
      schedules.get name = some schedule → schedule.inFlight = false →
        ∀ due ∈ schedule.nextDue, now < due) :
    0 < nextSchedulerWait schedules now activeJobs := by
  have hfallback : 0 < fallbackWake := by decide
  by_cases hlimit : activeJobs ≥ maxConcurrentRefreshes
  · rw [nextSchedulerWait, if_pos hlimit]
    exact hfallback
  rw [nextSchedulerWait, if_neg hlimit]
  dsimp only
  have hlater := h.resolve_left hlimit
  cases hmin : (((schedules.values.filter fun schedule => !schedule.inFlight).filterMap
    (·.nextDue)).map fun nextDue => nextDue - now).min? with
  | none => exact hfallback
  | some least =>
    -- the least wait is that of some station
    have hmem := (List.min?_eq_some_iff.1 hmin).1
    obtain ⟨due, hdue, rfl⟩ := List.mem_map.1 hmem
    obtain ⟨schedule, hschedule, hnext⟩ := List.mem_filterMap.1 hdue
    obtain ⟨hvalue, hidle⟩ := List.mem_filter.1 hschedule
    obtain ⟨name, hget⟩ := KeyedMap.mem_values.1 hvalue
    rw [Bool.not_eq_true'] at hidle
    exact Nat.sub_pos_of_lt (hlater name schedule hget hidle due hnext)

/-- The jobs stay within the limit. After each dispatch either the limit is reached or no station
without a job is due; so the wait of the scheduler is positive, and below the limit it ends, and
with it the timer of the iteration, no later than the next station without a job is due. -/
theorem refresh_wakes {s : RefreshLoop} (h : refreshSystem.Reachable s) :
    s.jobs.length ≤ maxConcurrentRefreshes ∧
    ∀ now localDate s', s.step (.iterate now localDate) = some s' →
      (s'.jobs.length = maxConcurrentRefreshes ∨ ∀ name schedule,
        s'.schedules.get name = some schedule → schedule.inFlight = false →
          ∀ due ∈ schedule.nextDue, now < due) ∧
      0 < nextSchedulerWait s'.schedules now s'.jobs.length ∧
      (s'.jobs.length < maxConcurrentRefreshes → ∀ name schedule,
        s'.schedules.get name = some schedule → schedule.inFlight = false →
          ∀ due ∈ schedule.nextDue,
            now + nextSchedulerWait s'.schedules now s'.jobs.length ≤ due) ∧
      ∃ wait, s'.stage = .selecting now wait ∧
        wait ≤ nextSchedulerWait s'.schedules now s'.jobs.length := by
  have hinv := scheduleInv_reachable h
  refine ⟨hinv.bounded, fun now localDate s' hstep => ?_⟩
  have hafter := hinv.step hstep
  cases RefreshLoop.step_cases hstep with
  | iterate _ _ =>
    have hexhausted : (s.iterate now localDate).jobs.length = maxConcurrentRefreshes ∨
        ∀ name schedule, (s.iterate now localDate).schedules.get name = some schedule →
          schedule.inFlight = false → ∀ due ∈ schedule.nextDue, now < due := by
      have hbounded : (s.observeDate now (localDate.map Prod.fst)).jobs.length ≤
          maxConcurrentRefreshes := by
        rw [RefreshLoop.jobs_observeDate]
        exact hinv.bounded
      refine (RefreshLoop.dispatchDue_exhausted hbounded now).imp_right
        fun hnone name schedule hget => ?_
      -- the order covers the schedules
      have hname := hafter.scheduled name (Option.isSome_of_mem hget)
      rw [RefreshLoop.iterate, RefreshLoop.stationOrder_dispatchDue] at hname
      exact StationSchedule.not_claimable_iff.1 (hnone name hname schedule hget)
    refine ⟨hexhausted, nextSchedulerWait_pos (hexhausted.imp_left fun hlimit => hlimit.ge), ?_,
      _, rfl, (min_le_left _ _).trans (min_le_left _ _)⟩
    intro hlimit name schedule hget hidle due hdue
    have hlater := hexhausted.resolve_left hlimit.ne name schedule hget hidle due hdue
    have hwait := nextSchedulerWait_le now hlimit hget hidle hdue
    exact (Nat.le_sub_iff_add_le' hlater.le).1 hwait

/-- Of two stations one is due at once and the other after the stagger, which is the wait. -/
theorem refresh_wakes_two :
    ∃ s s' : RefreshLoop, refreshSystem.Reachable s ∧ s.step (.iterate 0 none) = some s' ∧
      s.jobs.length ≤ maxConcurrentRefreshes ∧ s'.jobs.length = 1 ∧
      0 < nextSchedulerWait s'.schedules 0 s'.jobs.length := by
  have hreachable : refreshSystem.Reachable (.start (sampleConfig ["A", "B"]) 0 none) :=
    ⟨[], .start ⟨_, _, _, rfl⟩⟩
  have hstep : ((RefreshLoop.start (sampleConfig ["A", "B"]) 0 none).step (.iterate 0 none)).map
      (fun s => s.jobs.length) = some 1 := by
    decide +kernel
  obtain ⟨s', hperform, hjobs⟩ := Option.map_eq_some_iff.1 hstep
  obtain ⟨hbounded, hiterate⟩ := refresh_wakes hreachable
  exact ⟨_, s', hreachable, hperform, hbounded, hjobs, (hiterate 0 none s' hperform).2.1⟩

end WeatherApp
