import WeatherApp.Conf.Types
import WeatherApp.Foundation.KeyedMap
import WeatherApp.Foundation.Run
import WeatherApp.Schema.Time

/-!
# The refresh scheduler

`engine/src/refresh.rs`: one loop schedules the refreshes of every configured station. Each
iteration claims the due stations, starts a job for each of them and then waits for the next
event. A job belongs to the loop from its start until the loop has taken note of its end.

## Main definitions

* `enabledStations`, `reconcileSchedules`, `scheduleDateRefresh`, `claimDueStations`,
  `dispatchDue`, `finishJob`, `nextSchedulerWait`: the functions of the source.
* `RefreshLoop`, `RefreshLabel`, `RefreshLoop.step`: `run_refresh_loop`.
* `refreshSystem`: its runs.
-/

namespace WeatherApp

/-- `MAX_CONCURRENT_REFRESHES`. -/
def maxConcurrentRefreshes : ℕ := 4

/-- `STAGGER`. -/
def staggerStep : Duration := .fromSecs 5

/-- `FALLBACK_WAKE`. -/
def fallbackWake : Duration := .fromSecs 60

/-- `StationSchedule`. -/
structure StationSchedule where
  lastCompleted : Option Instant
  /-- `none` means that the deadline is not representable and infinitely far away. -/
  nextDue : Option Instant
  inFlight : Bool
  dateRefreshPending : Bool
  deriving DecidableEq, Repr

/-- The schedules by station name. -/
abbrev Schedules := KeyedMap String StationSchedule

/-! ## The functions of the loop -/

/-- One iteration of `enabled_stations`: a station follows its parent, and each name is listed
once. -/
def enabledStationStep (stations : List String) (station : StationConfig) : List String :=
  let withParent := match parentStationName station.name with
    | some parent => if parent ∈ stations then stations else stations ++ [parent]
    | none => stations
  if station.name ∈ withParent then withParent else withParent ++ [station.name]

/-- `enabled_stations`. The names seen so far are those listed so far. -/
def enabledStations (config : AppConfig) : List String :=
  (config.stations.filter (·.enabled)).foldl enabledStationStep []

/-- `weather_ttl`. -/
def weatherTtl (config : AppConfig) : Duration := .fromSecs (max config.updater.weatherTtlSeconds 1)

/-- `deadline`. -/
def deadline (start : Instant) (delay : Duration) : Option Instant :=
  if start + delay ≤ Instant.latest then some (start + delay) else none

/-- `stagger`. -/
def stagger (index : ℕ) : Duration := staggerStep * min index (2 ^ 32 - 1)

/-- What `reconcile_schedules` writes for the station at an index of the order. -/
def reconciled (now : Instant) (ttl : Duration) (station : String × ℕ) :
    Option StationSchedule → Option StationSchedule
  | some schedule =>
    if schedule.dateRefreshPending then none
    else schedule.lastCompleted.map fun lastCompleted =>
      { schedule with nextDue := deadline lastCompleted ttl }
  | none => some ⟨none, deadline now (stagger station.2), false, false⟩

/-- `reconcile_schedules`. -/
def reconcileSchedules (schedules : Schedules) (stationOrder : List String) (now : Instant)
    (ttl : Duration) : Schedules :=
  stationOrder.zipIdx.foldl (KeyedMap.visit Prod.fst (reconciled now ttl))
    (schedules.retain fun name => name ∈ stationOrder)

/-- What `schedule_date_refresh` writes for the station at an index of the order. -/
def dateRefreshed (now : Instant) (station : String × ℕ) :
    Option StationSchedule → Option StationSchedule
  | some schedule => some { schedule with
      dateRefreshPending := true
      nextDue := if schedule.inFlight then schedule.nextDue else deadline now (stagger station.2) }
  | none => none

/-- `schedule_date_refresh`. -/
def scheduleDateRefresh (schedules : Schedules) (stationOrder : List String) (now : Instant) :
    Schedules :=
  stationOrder.zipIdx.foldl (KeyedMap.visit Prod.fst (dateRefreshed now)) schedules

/-- A schedule is claimed when no job of it runs and it is due. -/
def StationSchedule.claimable (schedule : StationSchedule) (now : Instant) : Bool :=
  !schedule.inFlight && schedule.nextDue.any (· ≤ now)

/-- One iteration of `claim_due_stations` on the claimed names and the schedules. The loop breaks
when enough stations are claimed; further iterations would change nothing. -/
def claimStation (now : Instant) (ttl : Duration) (available : ℕ) (acc : List String × Schedules)
    (name : String) : List String × Schedules :=
  if acc.1.length ≥ available then acc
  else
    match acc.2.get name with
    | none => acc
    | some schedule =>
      if schedule.claimable now then
        (acc.1 ++ [name], acc.2.set name { schedule with
          inFlight := true, dateRefreshPending := false, nextDue := deadline now ttl })
      else acc

/-- `claim_due_stations`. It returns the claimed names and the schedules. -/
def claimDueStations (stationOrder : List String) (schedules : Schedules) (now : Instant)
    (ttl : Duration) (available : ℕ) : List String × Schedules :=
  stationOrder.foldl (claimStation now ttl available) ([], schedules)

/-- `finish_job`. -/
def finishJob (schedules : Schedules) (name : String) (completedAt : Instant) (ttl : Duration) :
    Schedules :=
  match schedules.get name with
  | none => schedules
  | some schedule => schedules.set name { schedule with
      inFlight := false
      lastCompleted := some completedAt
      nextDue := if schedule.dateRefreshPending then some completedAt
        else deadline completedAt ttl }

/-- `next_scheduler_wait`. -/
def nextSchedulerWait (schedules : Schedules) (now : Instant) (activeJobs : ℕ) : Duration :=
  if activeJobs ≥ maxConcurrentRefreshes then fallbackWake
  else
    let waiting := schedules.values.filter fun schedule => !schedule.inFlight
    ((waiting.filterMap (·.nextDue)).map fun nextDue => nextDue - now).min?.getD fallbackWake

/-! ## The loop -/

/-- A member of the job set: a task that refreshes a station, and whether it has ended. -/
structure Job where
  id : ℕ
  station : String
  ended : Bool
  deriving DecidableEq, Repr

/-- Where the loop is. -/
inductive RefreshStage where
  /-- Before the next iteration. -/
  | iterating
  /-- In `select!` since an instant, with the wait computed for the timer. -/
  | selecting (since : Instant) (wait : Duration)
  /-- After the loop: the jobs are aborted and awaited. -/
  | draining
  deriving DecidableEq, Repr

/-- The state of `run_refresh_loop`. -/
structure RefreshLoop where
  stationOrder : List String
  ttl : Duration
  schedules : Schedules
  lastLocalDate : Option String
  /-- The members of the `JoinSet`. -/
  jobs : List Job
  jobNames : KeyedMap ℕ String
  /-- The identifier of the next task. -/
  nextId : ℕ
  /-- The last reading of the clock. -/
  clock : Instant
  stage : RefreshStage
  deriving DecidableEq

/-- What happens to the loop. Instants are readings of the clock. -/
inductive RefreshLabel where
  /-- An iteration up to its `select!`; the local date and the time to its next change are what
  `local_date_and_next_change` gave, if it gave anything. -/
  | iterate (now : Instant) (localDate : Option (String × Duration))
  /-- The task of a job returns or panics. -/
  | ended (id : ℕ)
  /-- `join_next_with_id` yields a job. -/
  | joined (id : ℕ) (now : Instant)
  /-- `changed` yields a new configuration. -/
  | configChanged (config : AppConfig) (now : Instant)
  /-- The timer fires. -/
  | slept (now : Instant)
  /-- Cancellation, or the end of the configuration watch. -/
  | stopped

namespace RefreshLoop

/-- The loop before its first iteration. -/
def start (config : AppConfig) (now : Instant) (localDate : Option String) : RefreshLoop where
  stationOrder := enabledStations config
  ttl := weatherTtl config
  schedules := reconcileSchedules .empty (enabledStations config) now (weatherTtl config)
  lastLocalDate := localDate
  jobs := []
  jobNames := .empty
  nextId := 0
  clock := now
  stage := .iterating

/-- Start a job for a claimed station. -/
def spawn (s : RefreshLoop) (name : String) : RefreshLoop :=
  { s with
    jobs := s.jobs ++ [⟨s.nextId, name, false⟩]
    jobNames := s.jobNames.set s.nextId name
    nextId := s.nextId + 1 }

/-- `dispatch_due`. -/
def dispatchDue (s : RefreshLoop) (now : Instant) : RefreshLoop :=
  let available := maxConcurrentRefreshes - s.jobs.length
  let (claimed, schedules) := claimDueStations s.stationOrder s.schedules now s.ttl available
  claimed.foldl spawn { s with schedules }

/-- The start of an iteration: a new local date makes every station due again. -/
def observeDate (s : RefreshLoop) (now : Instant) (currentDate : Option String) : RefreshLoop :=
  match currentDate with
  | none => s
  | some date =>
    { s with
      schedules :=
        if s.lastLocalDate.any (· ≠ date) then scheduleDateRefresh s.schedules s.stationOrder now
        else s.schedules
      lastLocalDate := some date }

/-- An iteration up to its `select!`. -/
def iterate (s : RefreshLoop) (now : Instant) (localDate : Option (String × Duration)) :
    RefreshLoop :=
  let dateWait := (localDate.map Prod.snd).getD fallbackWake
  let s := (s.observeDate now (localDate.map Prod.fst)).dispatchDue now
  let schedulerWait := nextSchedulerWait s.schedules now s.jobs.length
  { s with clock := now, stage := .selecting now (min (min schedulerWait dateWait) fallbackWake) }

/-- The loop takes note of the end of a job. -/
def join (s : RefreshLoop) (id : ℕ) (now : Instant) : RefreshLoop :=
  { s with
    jobs := s.jobs.filter (·.id ≠ id)
    jobNames := s.jobNames.remove id
    schedules := match s.jobNames.get id with
      | some name => finishJob s.schedules name now s.ttl
      | none => s.schedules }

/-- The loop takes over a new configuration. -/
def reconcile (s : RefreshLoop) (config : AppConfig) (now : Instant) : RefreshLoop :=
  { s with
    stationOrder := enabledStations config
    ttl := weatherTtl config
    schedules := reconcileSchedules s.schedules (enabledStations config) now (weatherTtl config) }

/-- The step of a label, where it is possible. -/
def step (s : RefreshLoop) : RefreshLabel → Option RefreshLoop
  | .iterate now localDate =>
    if s.stage = .iterating ∧ s.clock ≤ now then some (s.iterate now localDate) else none
  | .ended id =>
    some { s with
      jobs := s.jobs.map fun job => if job.id = id then { job with ended := true } else job }
  | .joined id now =>
    match s.stage with
    | .iterating => none
    | .selecting _ _ =>
      if (s.jobs.any fun job => job.id = id ∧ job.ended) ∧ s.clock ≤ now then
        some { s.join id now with clock := now, stage := .iterating }
      else none
    -- the drain loop only removes the job
    | .draining => some { s with jobs := s.jobs.filter (·.id ≠ id) }
  | .configChanged config now =>
    match s.stage with
    | .selecting _ _ =>
      if s.clock ≤ now then some { s.reconcile config now with clock := now, stage := .iterating }
      else none
    | _ => none
  | .slept now =>
    match s.stage with
    | .selecting since wait =>
      if since + wait ≤ now then some { s with clock := now, stage := .iterating } else none
    | _ => none
  | .stopped =>
    match s.stage with
    -- the schedules are not used any more
    | .selecting _ _ => some { s with schedules := .empty, stage := .draining }
    | _ => none

end RefreshLoop

/-- The runs of the refresh loop from any configuration. -/
def refreshSystem : LabelledSystem RefreshLoop RefreshLabel where
  init s := ∃ config now localDate, s = .start config now localDate
  step s l s' := s.step l = some s'

end WeatherApp
