import WeatherApp.Engine.ScheduleLaw

/-!
# A date refresh is not lost

A change of the local date marks every scheduled station and gives the idle ones a deadline. Four
functions write the deadline and the mark afterwards: a claim clears the mark, the end of a job
makes a marked station due at once, a reconciliation leaves marked stations alone, and only a
further change of the date gives a marked station a new stagger.

## Main definitions

* `DateWatch`: what a run does to the stations since one change of the local date.
* `dateWatchSystem`: the runs of the loop from a change of the local date on.
* `DateWatch.OnTime`: the bound on the deadline of a marked station.

## Main results

* `date_refresh_not_lost`: a marked station keeps its mark until a dispatch claims it, and its
  deadline is on time until the date changes again.
* `date_refresh_restarted`: a further change of the date breaks the bound of the first.
-/

namespace WeatherApp

/-! ## The functions on one schedule -/

/-- A date refresh marks each scheduled station of the order and staggers the idle ones. -/
theorem get_scheduleDateRefresh {schedules : Schedules} {stationOrder : List String}
    {name : String} {schedule : StationSchedule} (hnodup : stationOrder.Nodup)
    (hname : name ∈ stationOrder) (hget : schedules.get name = some schedule) (now : Instant) :
    (scheduleDateRefresh schedules stationOrder now).get name = some { schedule with
      dateRefreshPending := true
      nextDue := if schedule.inFlight then schedule.nextDue
        else deadline now (stagger (stationOrder.idxOf name)) } := by
  rw [scheduleDateRefresh, get_foldl_visit_stationOrder hnodup hname, hget]
  rfl

/-- A reconciliation leaves the marks of the stations that it keeps, and everything else of the
marked ones. -/
theorem get_reconcileSchedules {schedules : Schedules} {stationOrder : List String} {name : String}
    {schedule : StationSchedule} (hname : name ∈ stationOrder)
    (hget : schedules.get name = some schedule) (now : Instant) (ttl : Duration) :
    ∃ schedule', (reconcileSchedules schedules stationOrder now ttl).get name = some schedule' ∧
      schedule'.dateRefreshPending = schedule.dateRefreshPending ∧
      (schedule.dateRefreshPending = true → schedule' = schedule) := by
  have hretained :
      (schedules.retain fun name => name ∈ stationOrder).get name = some schedule := by
    rw [KeyedMap.get_retain, decide_eq_true hname, if_pos rfl]
    exact hget
  refine KeyedMap.get_foldl_visit (R := fun _ a b => ∀ schedule, a = some schedule →
    ∃ schedule', b = some schedule' ∧
      schedule'.dateRefreshPending = schedule.dateRefreshPending ∧
      (schedule.dateRefreshPending = true → schedule' = schedule)) ?_ ?_ stationOrder.zipIdx ?_ _
    name schedule hretained
  · intro _ a schedule ha
    exact ⟨schedule, ha, rfl, fun _ => rfl⟩
  · intro _ a b c hab hbc schedule ha
    obtain ⟨schedule₁, hb, hmark₁, hsame₁⟩ := hab schedule ha
    obtain ⟨schedule₂, hc, hmark₂, hsame₂⟩ := hbc schedule₁ hb
    refine ⟨schedule₂, hc, hmark₂.trans hmark₁, fun hmarked => ?_⟩
    rw [hsame₂ (hmark₁.trans hmarked), hsame₁ hmarked]
  · rintro station - a b hwritten schedule rfl
    rw [reconciled] at hwritten
    split_ifs at hwritten with hmarked
    obtain ⟨lastCompleted, -, rfl⟩ := Option.map_eq_some_iff.1 hwritten
    exact ⟨_, rfl, rfl, fun hmark => absurd hmark hmarked⟩

/-- The end of a job makes a marked station due at once. -/
theorem get_finishJob {schedules : Schedules} {name : String} {schedule : StationSchedule}
    (hget : schedules.get name = some schedule) (station : String) (completedAt : Instant)
    (ttl : Duration) :
    (finishJob schedules station completedAt ttl).get name =
      if name = station then some { schedule with
        inFlight := false
        lastCompleted := some completedAt
        nextDue := if schedule.dateRefreshPending then some completedAt
          else deadline completedAt ttl }
      else some schedule := by
  rw [finishJob]
  by_cases hname : name = station
  · subst hname
    rw [if_pos rfl, hget]
    exact KeyedMap.get_set_self _ _ _
  · rw [if_neg hname]
    split
    next => exact hget
    next => rw [KeyedMap.get_set_of_ne hname, hget]

namespace RefreshLoop

/-- An iteration finds that the local date has changed. -/
def dateChanges (s : RefreshLoop) (currentDate : Option String) : Bool :=
  currentDate.any fun date => s.lastLocalDate.any (· ≠ date)

/-- Without a change of the date the schedules stay. -/
theorem schedules_observeDate_of_same {s : RefreshLoop} {currentDate : Option String}
    (h : s.dateChanges currentDate = false) (now : Instant) :
    (s.observeDate now currentDate).schedules = s.schedules := by
  cases currentDate with
  | none => rfl
  | some date =>
    rw [dateChanges, Option.any_some] at h
    show (if s.lastLocalDate.any (· ≠ date) then _ else s.schedules) = s.schedules
    rw [h]
    rfl

/-- A change of the date schedules a refresh. -/
theorem schedules_observeDate_of_changed {s : RefreshLoop} {currentDate : Option String}
    (h : s.dateChanges currentDate = true) (now : Instant) :
    (s.observeDate now currentDate).schedules =
      scheduleDateRefresh s.schedules s.stationOrder now := by
  cases currentDate with
  | none => cases h
  | some date =>
    rw [dateChanges, Option.any_some] at h
    show (if s.lastLocalDate.any (· ≠ date) then _ else s.schedules) = _
    rw [h]
    rfl

/-- The jobs after a dispatch are those before and those of the claimed stations. -/
theorem mem_jobs_foldl_spawn {claimed : List String} {s : RefreshLoop} {job : Job}
    (h : job ∈ (claimed.foldl spawn s).jobs) : job ∈ s.jobs ∨ job.station ∈ claimed := by
  induction claimed generalizing s with
  | nil => exact .inl h
  | cons name claimed ih =>
    rcases ih h with hbefore | hclaimed
    · rcases List.mem_append.1 hbefore with hold | hnew
      · exact .inl hold
      · rw [List.mem_singleton.1 hnew]
        exact .inr List.mem_cons_self
    · exact .inr (List.mem_cons_of_mem _ hclaimed)

theorem mem_jobs_dispatchDue {s : RefreshLoop} {now : Instant} {job : Job}
    (h : job ∈ (s.dispatchDue now).jobs) : job ∈ s.jobs ∨ job.station ∈ s.claimedBy now :=
  mem_jobs_foldl_spawn (s := { s with schedules := (claimDueStations s.stationOrder s.schedules now
    s.ttl (maxConcurrentRefreshes - s.jobs.length)).2 }) h

end RefreshLoop

/-! ## The runs since a change of the date -/

/-- What distinguishes a job: its identifier, with the station it refreshes. -/
def Job.key (job : Job) : ℕ × String := (job.id, job.station)

/-- What a run does to the stations since one change of the local date. -/
structure DateWatch where
  changedAt : Instant
  /-- The order at the change, whose indexes give the staggers. -/
  stationOrder : List String
  /-- The jobs at the change. -/
  running : List (ℕ × String)
  /-- The stations that were scheduled at the change and are in each configuration since. -/
  kept : List String
  /-- The stations claimed by the dispatches since, the one of the change included. -/
  claimed : List String
  /-- The jobs that the loop has seen end since, and when. -/
  completed : List ((ℕ × String) × Instant)
  /-- The date has changed again. -/
  changedAgain : Bool

namespace DateWatch

/-- The watch after the iteration that finds the date changed. -/
def start (s : RefreshLoop) (now : Instant) (currentDate : Option String) : DateWatch where
  changedAt := now
  stationOrder := s.stationOrder
  running := s.jobs.map Job.key
  kept := s.schedules.rows.map Prod.fst
  claimed := (s.observeDate now currentDate).claimedBy now
  completed := []
  changedAgain := false

/-- The watch after a further step of the loop. -/
def next (w : DateWatch) (s : RefreshLoop) : RefreshLabel → DateWatch
  | .iterate now localDate => { w with
      claimed := w.claimed ++ (s.observeDate now (localDate.map Prod.fst)).claimedBy now
      changedAgain := w.changedAgain || s.dateChanges (localDate.map Prod.fst) }
  | .joined id now => { w with
      completed := w.completed ++ (s.jobs.filter (·.id = id)).map fun job => (job.key, now) }
  | .configChanged config _ => { w with kept := w.kept.filter (· ∈ enabledStations config) }
  | _ => w

/-- The deadline that a station gets at the change, when it is representable. -/
def staggered (w : DateWatch) (name : String) : Instant :=
  w.changedAt + stagger (w.stationOrder.idxOf name)

/-- A deadline of a station is no later than the staggered one or the end of a job of the station
that ran at the change. -/
def OnTime (w : DateWatch) (name : String) (due : Instant) : Prop :=
  due ≤ w.staggered name ∨
    ∃ job completedAt, (job, completedAt) ∈ w.completed ∧ job ∈ w.running ∧ job.2 = name ∧
      due ≤ completedAt

/-- What holds of the schedule of a station that is kept. -/
structure Holds (w : DateWatch) (name : String) (schedule : StationSchedule) : Prop where
  claimed : schedule.dateRefreshPending = true ∨ name ∈ w.claimed
  unclaimed : w.changedAgain = false → schedule.dateRefreshPending = true → name ∉ w.claimed
  due : w.changedAgain = false → schedule.dateRefreshPending = true →
    schedule.inFlight = false → w.staggered name ≤ Instant.latest →
      ∃ due ∈ schedule.nextDue, w.OnTime name due

end DateWatch

/-- The runs of the loop from a change of the local date on. -/
def dateWatchSystem : LabelledSystem (RefreshLoop × DateWatch) RefreshLabel where
  init p := ∃ s now localDate, refreshSystem.Reachable s ∧
    s.step (.iterate now localDate) = some p.1 ∧ s.dateChanges (localDate.map Prod.fst) = true ∧
    p.2 = .start s now (localDate.map Prod.fst)
  step p l p' := p.1.step l = some p'.1 ∧ p'.2 = p.2.next p.1 l

/-- What holds in every state since the change. -/
structure DateWatchInv (s : RefreshLoop) (w : DateWatch) : Prop where
  schedule : ScheduleInv s
  tracked : JobsTracked s
  /-- A job that has started since belongs to a station claimed since. -/
  started : ∀ job ∈ s.jobs, job.key ∈ w.running ∨ job.station ∈ w.claimed
  kept : s.stage ≠ .draining → ∀ name ∈ w.kept, ∃ schedule,
    s.schedules.get name = some schedule ∧ w.Holds name schedule

namespace DateWatch

variable {w w' : DateWatch} {name : String} {schedule : StationSchedule}

/-- A dispatch claims a station or leaves its schedule. -/
theorem holds_dispatchDue {s : RefreshLoop} {now : Instant} (h : w.Holds name schedule)
    (hget : s.schedules.get name = some schedule)
    (hw : w' = { w with claimed := w.claimed ++ s.claimedBy now }) :
    ∃ schedule', (s.dispatchDue now).schedules.get name = some schedule' ∧
      w'.Holds name schedule' := by
  subst hw
  rw [RefreshLoop.get_dispatchDue, hget]
  by_cases hclaimed : name ∈ s.claimedBy now
  · rw [if_pos hclaimed]
    exact ⟨_, rfl, .inr (List.mem_append_right _ hclaimed), fun _ hmarked => (nomatch hmarked),
      fun _ hmarked => (nomatch hmarked)⟩
  · rw [if_neg hclaimed]
    refine ⟨schedule, rfl, h.claimed.imp_right (List.mem_append_left _), ?_, h.due⟩
    intro hagain hmarked hmem
    rcases List.mem_append.1 hmem with hbefore | hnow
    · exact h.unclaimed hagain hmarked hbefore
    · exact hclaimed hnow

/-- Further ends of jobs leave a deadline on time. -/
theorem OnTime.mono {due : Instant} (h : w.OnTime name due)
    (ended : List ((ℕ × String) × Instant)) :
    OnTime { w with completed := w.completed ++ ended } name due :=
  h.imp_right fun ⟨job, completedAt, hmem, hrest⟩ =>
    ⟨job, completedAt, List.mem_append_left _ hmem, hrest⟩

theorem Holds.mono (h : w.Holds name schedule) (ended : List ((ℕ × String) × Instant)) :
    Holds { w with completed := w.completed ++ ended } name schedule :=
  ⟨h.claimed, h.unclaimed, fun hagain hmarked hidle hstagger =>
    have ⟨due, hdue, hontime⟩ := h.due hagain hmarked hidle hstagger
    ⟨due, hdue, hontime.mono ended⟩⟩

end DateWatch

/-- The change itself marks every scheduled station. -/
theorem dateWatchInv_start {s s' : RefreshLoop} {now : Instant}
    {localDate : Option (String × Duration)} (hreachable : refreshSystem.Reachable s)
    (hstep : s.step (.iterate now localDate) = some s')
    (hchanged : s.dateChanges (localDate.map Prod.fst) = true) :
    DateWatchInv s' (.start s now (localDate.map Prod.fst)) := by
  have hschedule := scheduleInv_reachable hreachable
  have htracked : JobsTracked s := by
    refine hreachable.invariant ?_ fun _ _ _ hinv hstep => hinv.step hstep
    rintro s ⟨config, now, localDate, rfl⟩
    exact jobsTracked_start config now localDate
  refine ⟨hschedule.step hstep, htracked.step hstep, ?_, ?_⟩
  · intro job hjob
    cases RefreshLoop.step_cases hstep with
    | iterate _ _ =>
      refine (RefreshLoop.mem_jobs_dispatchDue hjob).imp_left fun hold => ?_
      rw [RefreshLoop.jobs_observeDate] at hold
      exact List.mem_map_of_mem hold
  · intro _ name hname
    cases RefreshLoop.step_cases hstep with
    | iterate _ _ =>
      obtain ⟨⟨_, schedule⟩, hrow, rfl⟩ := List.mem_map.1 hname
      have hget : s.schedules.get _ = some schedule := KeyedMap.get_eq_some_iff.2 hrow
      have hordered := hschedule.scheduled _ (Option.isSome_of_mem hget)
      have hmarked := get_scheduleDateRefresh hschedule.ordered hordered hget now
      rw [← RefreshLoop.schedules_observeDate_of_changed hchanged] at hmarked
      -- before the dispatch nothing is claimed, and the idle stations have their staggers
      refine DateWatch.holds_dispatchDue (w := { DateWatch.start s now (localDate.map Prod.fst) with
        claimed := [] }) ⟨.inl rfl, fun _ _ => List.not_mem_nil, ?_⟩ hmarked rfl
      intro _ _ hidle hstagger
      replace hidle : schedule.inFlight = false := hidle
      refine ⟨_, ?_, .inl le_rfl⟩
      show (if schedule.inFlight then _ else deadline now _) = some _
      rw [hidle, if_neg Bool.false_ne_true, deadline]
      exact if_pos hstagger

theorem DateWatchInv.step {s s' : RefreshLoop} {w : DateWatch} {l : RefreshLabel}
    (h : DateWatchInv s w) (hstep : s.step l = some s') : DateWatchInv s' (w.next s l) := by
  refine ⟨h.schedule.step hstep, h.tracked.step hstep, ?_, ?_⟩
  · intro job hjob
    cases RefreshLoop.step_cases hstep with
    | iterate _ _ =>
      rcases RefreshLoop.mem_jobs_dispatchDue hjob with hold | hclaimed
      · rw [RefreshLoop.jobs_observeDate] at hold
        exact (h.started job hold).imp_right (List.mem_append_left _)
      · exact .inr (List.mem_append_right _ hclaimed)
    | ended =>
      obtain ⟨old, hold, rfl⟩ := List.mem_map.1 hjob
      split_ifs <;> exact h.started old hold
    | joined _ _ _ => exact h.started job (List.mem_filter.1 hjob).1
    | drained _ => exact h.started job (List.mem_filter.1 hjob).1
    | configChanged _ _ => exact h.started job hjob
    | slept _ _ => exact h.started job hjob
    | stopped _ => exact h.started job hjob
  · intro hstage' name hname
    cases RefreshLoop.step_cases hstep with
    | @iterate now localDate hstage _ =>
      obtain ⟨schedule, hget, hholds⟩ := h.kept (by rw [hstage]; exact nofun) name hname
      cases hchanged : s.dateChanges (localDate.map Prod.fst) with
      | false =>
        have hsame := RefreshLoop.schedules_observeDate_of_same hchanged now
        refine DateWatch.holds_dispatchDue hholds (hsame ▸ hget) ?_
        simp only [DateWatch.next, hchanged, Bool.or_false]
      | true =>
        have hordered := h.schedule.scheduled name (Option.isSome_of_mem hget)
        have hmarked := get_scheduleDateRefresh h.schedule.ordered hordered hget now
        rw [← RefreshLoop.schedules_observeDate_of_changed hchanged] at hmarked
        -- the station is marked anew, and the bound of the first change is given up
        refine DateWatch.holds_dispatchDue (w := { w with changedAgain := true })
          ⟨.inl rfl, fun hagain => (nomatch hagain), fun hagain => (nomatch hagain)⟩ hmarked ?_
        simp only [DateWatch.next, hchanged, Bool.or_true]
    | ended => exact h.kept hstage' name hname
    | @joined _ _ job now hstage hjob _ =>
      obtain ⟨schedule, hget, hholds⟩ := h.kept (by rw [hstage]; exact nofun) name hname
      have hjoined := get_finishJob hget job.station now s.ttl
      have hschedules : (s.join job.id now).schedules =
          finishJob s.schedules job.station now s.ttl := by
        simp only [RefreshLoop.join, h.tracked.named job hjob]
      rw [← hschedules] at hjoined
      by_cases hstation : name = job.station
      · rw [if_pos hstation] at hjoined
        refine ⟨_, hjoined, hholds.claimed, hholds.unclaimed, fun hagain hmarked _ _ => ?_⟩
        replace hmarked : schedule.dateRefreshPending = true := hmarked
        -- a marked station is not claimed since, so its job ran at the change
        have hrunning : job.key ∈ w.running :=
          (h.started job hjob).resolve_right (hstation ▸ hholds.unclaimed hagain hmarked)
        refine ⟨now, ?_, .inr ⟨job.key, now, ?_, hrunning, hstation.symm, le_rfl⟩⟩
        · show (if schedule.dateRefreshPending then some now else _) = some now
          exact if_pos hmarked
        · apply List.mem_append_right
          apply List.mem_map_of_mem (f := fun job : Job => (job.key, now))
          exact List.mem_filter.2 ⟨hjob, decide_eq_true rfl⟩
      · rw [if_neg hstation] at hjoined
        exact ⟨schedule, hjoined, hholds.mono _⟩
    | drained hstage => exact absurd hstage hstage'
    | @configChanged _ _ config now hstage _ =>
      obtain ⟨hkept, hordered⟩ := List.mem_filter.1 hname
      obtain ⟨schedule, hget, hholds⟩ := h.kept (by rw [hstage]; exact nofun) name hkept
      obtain ⟨schedule', hget', hmark, hsame⟩ := get_reconcileSchedules
        (of_decide_eq_true hordered) hget now (weatherTtl config)
      refine ⟨schedule', hget', ?_, ?_, ?_⟩
      · rw [hmark]
        exact hholds.claimed
      · rw [hmark]
        exact hholds.unclaimed
      · intro hagain hmarked hidle hstagger
        rw [hmark] at hmarked
        rw [hsame hmarked] at hidle ⊢
        exact hholds.due hagain hmarked hidle hstagger
    | slept hstage _ => exact h.kept (by rw [hstage]; exact nofun) name hname
    | stopped _ => exact absurd rfl hstage'

theorem dateWatchInv_reachable {s : RefreshLoop} {w : DateWatch}
    (h : dateWatchSystem.Reachable (s, w)) : DateWatchInv s w := by
  refine h.invariant (P := fun p => DateWatchInv p.1 p.2) ?_ ?_
  · rintro ⟨s', w⟩ ⟨s, now, localDate, hreachable, hstep, hchanged, hw⟩
    replace hw : w = _ := hw
    subst hw
    exact dateWatchInv_start hreachable hstep hchanged
  · rintro ⟨s, w⟩ l ⟨s', w'⟩ hinv ⟨hstep, hw⟩
    replace hw : w' = _ := hw
    subst hw
    exact DateWatchInv.step hinv hstep

/-- Since a change of the local date, each station that was scheduled at it and is kept in the
configuration is marked until a dispatch claims it; and while it is marked, no job of it runs and
the date has not changed again, its deadline is there and on time, if the stagger of the change is
representable. -/
theorem date_refresh_not_lost {s : RefreshLoop} {w : DateWatch}
    (h : dateWatchSystem.Reachable (s, w)) (hstage : s.stage ≠ .draining) :
    ∀ name ∈ w.kept, ∃ schedule, s.schedules.get name = some schedule ∧
      (schedule.dateRefreshPending = true ∨ name ∈ w.claimed) ∧
      (schedule.dateRefreshPending = true → schedule.inFlight = false → w.changedAgain = false →
        w.staggered name ≤ Instant.latest → ∃ due ∈ schedule.nextDue, w.OnTime name due) := by
  intro name hname
  obtain ⟨schedule, hget, hholds⟩ := (dateWatchInv_reachable h).kept hstage name hname
  exact ⟨schedule, hget, hholds.claimed,
    fun hmarked hidle hagain => hholds.due hagain hmarked hidle⟩

/-! ## A change soon after another -/

/-- The two stations of the sample run. -/
def sampleStations : AppConfig := sampleConfig ["A", "B"]

/-- The local date of the sample run, with the time to its next change. -/
def sampleDate (date : String) : Option (String × Duration) := some (date, .fromSecs 86400)

/-- The loop after its first iteration, which starts a refresh of the first station. -/
def sampleStarted : RefreshLoop :=
  (RefreshLoop.start sampleStations 0 (some "2024-05-01")).iterate 0 (sampleDate "2024-05-01")

/-- Five seconds later the second station is due. -/
def sampleBefore : RefreshLoop :=
  { sampleStarted with clock := Duration.fromSecs 5, stage := .iterating }

/-- The loop right after it has found the date changed. -/
def sampleChanged : RefreshLoop :=
  sampleBefore.iterate (Duration.fromSecs 5) (sampleDate "2024-05-02")

/-- The watch of this change. -/
def sampleWatch : DateWatch :=
  .start sampleBefore (Duration.fromSecs 5) (some "2024-05-02")

theorem sampleChanged_init : dateWatchSystem.init (sampleChanged, sampleWatch) := by
  have hstarted : refreshSystem.Reachable sampleStarted := by
    refine LabelledSystem.Reachable.step (l := .iterate 0 (sampleDate "2024-05-01"))
      ⟨[], .start ⟨sampleStations, 0, some "2024-05-01", rfl⟩⟩ ?_
    show RefreshLoop.step _ (.iterate _ _) = some _
    decide
  have hbefore : refreshSystem.Reachable sampleBefore := by
    refine hstarted.step (l := .slept (Duration.fromSecs 5)) ?_
    show RefreshLoop.step _ (.slept _) = some _
    decide
  refine ⟨sampleBefore, Duration.fromSecs 5, sampleDate "2024-05-02", hbefore, ?_, ?_, rfl⟩
  · decide
  · decide

theorem date_refresh_not_lost_sample :
    "B" ∈ sampleWatch.kept ∧ ∃ schedule, sampleChanged.schedules.get "B" = some schedule ∧
      schedule.dateRefreshPending = true ∧ ∃ due ∈ schedule.nextDue,
        sampleWatch.OnTime "B" due := by
  have hname : "B" ∈ sampleWatch.kept := by decide
  obtain ⟨schedule, hget, -, hdue⟩ := date_refresh_not_lost ⟨[], .start sampleChanged_init⟩
    (by decide) "B" hname
  have hsome : sampleChanged.schedules.get "B" =
      some ⟨none, some (Duration.fromSecs 10), false, true⟩ := by
    decide
  rw [hsome] at hget
  cases hget
  exact ⟨hname, _, hsome, rfl, hdue rfl rfl rfl (by decide)⟩

/-- The date changes again two seconds later, with the timezone of a new configuration: the second
station is now due later than five seconds after the first change. -/
theorem date_refresh_restarted :
    ¬ ∀ s w, dateWatchSystem.Reachable (s, w) → s.stage ≠ .draining →
      ∀ name ∈ w.kept, ∀ schedule, s.schedules.get name = some schedule →
        schedule.dateRefreshPending = true → schedule.inFlight = false →
          w.staggered name ≤ Instant.latest → ∃ due ∈ schedule.nextDue, w.OnTime name due := by
  intro hclaim
  have hrun : ((LabelledSystem.perform (fun (p : RefreshLoop × DateWatch) l =>
      (p.1.step l).map fun s => (s, p.2.next p.1 l)) (fun _ _ => true) (sampleChanged, sampleWatch)
      [.configChanged sampleStations (Duration.fromSecs 7),
        .iterate (Duration.fromSecs 7) (sampleDate "2024-05-01")]).map fun p =>
          decide (p.1.schedules.get "B" = some ⟨none, some (Duration.fromSecs 12), false, true⟩ ∧
            p.2.staggered "B" = Duration.fromSecs 10 ∧ p.2.completed = [] ∧ "B" ∈ p.2.kept ∧
            p.1.stage ≠ .draining)) = some true := by
    decide
  obtain ⟨⟨s, w⟩, hperform, hend⟩ := Option.map_eq_some_iff.1 hrun
  obtain ⟨hget, hstaggered, hcompleted, hkept, hstage⟩ := of_decide_eq_true hend
  have hreachable : dateWatchSystem.Reachable (s, w) := by
    refine ⟨_, LabelledSystem.Run.perform (fun p l p' hp => ?_) (.start sampleChanged_init)
      hperform⟩
    obtain ⟨s', hs', rfl⟩ := Option.map_eq_some_iff.1 hp
    exact ⟨hs', rfl⟩
  obtain ⟨due, hdue, hontime⟩ := hclaim s w hreachable hstage "B" hkept _ hget rfl rfl
    (by rw [hstaggered]; decide)
  cases hdue
  rcases hontime with hstagger | ⟨job, completedAt, hended, -⟩
  · rw [hstaggered] at hstagger
    exact absurd hstagger (by decide)
  · rw [hcompleted] at hended
    cases hended

end WeatherApp
