import WeatherApp.Engine.RouterLaw
import WeatherApp.Engine.Server

/-!
# The order of the engine's shutdown

An exit is requested, tasks fail, panic or return, and timeouts expire, in any order.

A task that returns has joined its set, so no handler and no job outlives a router and a refresh
loop that return. A task that panics or is aborted drops its set, and what it owned may still run
for a moment. The supervisor passes its stages in order: the work tasks, the database, the terminal
event, the publisher.

## Main definitions

* `TaskInv`: the invariant of the tasks.
* `StageInv`: the invariant of the supervisor.

## Main results

* `server_protocol`: what holds in every state of every run.
-/

namespace WeatherApp

variable {decode : Frame → Except String RpcRequest} {r r' : RouterRun} {s s' : ServerRun}

/-! ## The tasks -/

/-- A router that returned has joined its tasks. -/
def RouterRun.Closed (r : RouterRun) : Prop :=
  ∀ outcome, r.phase = .returned outcome → r.tasks = .empty

theorem RouterRun.Closed.step (hclosed : r.Closed) {l : RouterLabel}
    (h : r.step decode l = some r') : r'.Closed := by
  intro outcome hreturned
  cases l with
  | receive frames =>
    simp only [RouterRun.step] at h
    split at h
    next hphase =>
      cases h
      rcases (dispatch_frame decode r hphase frames).1 with hloop | ⟨_, _, hloop⟩
      all_goals cases hloop.symm.trans hreturned
    next => cases h
  | finish message _ | panic message =>
    simp only [RouterRun.step] at h
    split at h
    next hget =>
      cases h
      rw [hclosed outcome hreturned] at hget
      cases hget
    next => cases h
  | join message =>
    simp only [RouterRun.step] at h
    split at h
    next => cases h; cases hreturned
    next hphase _ => cases h; cases hphase.symm.trans hreturned
    next => cases h
  | reap message =>
    simp only [RouterRun.step] at h
    split at h
    next hphase _ => cases h; cases hphase.symm.trans hreturned
    next => cases h
  | sent =>
    simp only [RouterRun.step] at h
    split at h
    · split at h <;> cases h <;> cases hreturned
    · cases h
  | close cleanup =>
    simp only [RouterRun.step] at h
    split at h
    · split_ifs at h with hempty
      cases h
      exact KeyedMap.eq_empty_of_rows_eq_nil (List.length_eq_zero_iff.1 hempty)
    · cases h
  | receiveFailed error =>
    simp only [RouterRun.step] at h
    split at h
    · cases h
      cases hreturned
    · cases h
  | observeCancelled | sendFailed failure =>
    simp only [RouterRun.step] at h
    split at h
    · split_ifs at h
      cases h
      cases hreturned
    · cases h
  | cancel | requestExit exit =>
    cases h
    exact hclosed outcome hreturned

/-- The invariant of the tasks: the set of a task that ended is empty, and a task that returned has
dropped nothing. -/
structure TaskInv (s : ServerRun) : Prop where
  closed : s.router.Closed
  stoppedRouter : (s.work .router).isRunning = false → s.router.tasks = .empty
  stoppedRefresh : (s.work .refresh).isRunning = false → s.refresh.jobs = 0
  keptHandlers : (s.work .router).isRunning = true ∨ (s.work .router).hasReturned = true →
    s.orphanHandlers = 0
  keptJobs : (s.work .refresh).isRunning = true ∨ (s.work .refresh).hasReturned = true →
    s.orphanJobs = 0

theorem taskInv_start : TaskInv .start where
  closed _ h := nomatch h
  stoppedRouter h := nomatch h
  stoppedRefresh h := nomatch h
  keptHandlers _ := rfl
  keptJobs _ := rfl

/-- A step that changes no set and ends no task. -/
structure SameTasks (s s' : ServerRun) : Prop where
  tasks : s'.router.tasks = s.router.tasks
  phase : s'.router.phase = s.router.phase
  refresh : s'.refresh = s.refresh
  orphanHandlers : s'.orphanHandlers = s.orphanHandlers
  orphanJobs : s'.orphanJobs = s.orphanJobs
  isRunning : ∀ kind, (s'.work kind).isRunning = (s.work kind).isRunning
  hasReturned : ∀ kind, (s'.work kind).hasReturned = (s.work kind).hasReturned

theorem SameTasks.rfl : SameTasks s s :=
  ⟨Eq.refl _, Eq.refl _, Eq.refl _, Eq.refl _, Eq.refl _, fun _ => Eq.refl _, fun _ => Eq.refl _⟩

theorem SameTasks.trans {s'' : ServerRun} (h : SameTasks s s') (h' : SameTasks s' s'') :
    SameTasks s s'' where
  tasks := h'.tasks.trans h.tasks
  phase := h'.phase.trans h.phase
  refresh := h'.refresh.trans h.refresh
  orphanHandlers := h'.orphanHandlers.trans h.orphanHandlers
  orphanJobs := h'.orphanJobs.trans h.orphanJobs
  isRunning kind := (h'.isRunning kind).trans (h.isRunning kind)
  hasReturned kind := (h'.hasReturned kind).trans (h.hasReturned kind)

theorem TaskInv.of_same (hinv : TaskInv s) (h : SameTasks s s') : TaskInv s' where
  closed := by
    intro outcome hreturned
    rw [h.phase] at hreturned
    rw [h.tasks]
    exact hinv.closed outcome hreturned
  stoppedRouter := by
    rw [h.isRunning, h.tasks]
    exact hinv.stoppedRouter
  stoppedRefresh := by
    rw [h.isRunning, h.refresh]
    exact hinv.stoppedRefresh
  keptHandlers := by
    rw [h.isRunning, h.hasReturned, h.orphanHandlers]
    exact hinv.keptHandlers
  keptJobs := by
    rw [h.isRunning, h.hasReturned, h.orphanJobs]
    exact hinv.keptJobs

theorem sameTasks_addFailure (error : String) : SameTasks s (s.addFailure error) :=
  ⟨rfl, rfl, rfl, rfl, rfl, fun _ => rfl, fun _ => rfl⟩

theorem sameTasks_addFailure? (error : Option String) : SameTasks s (s.addFailure? error) := by
  cases error with
  | none => exact .rfl
  | some error => exact sameTasks_addFailure error

theorem sameTasks_selectWork (kind : TaskKind) (taskEnd : TaskEnd) :
    SameTasks s (s.selectWork kind taskEnd) := by
  unfold ServerRun.selectWork
  split
  · split_ifs
    · exact ⟨rfl, rfl, rfl, rfl, rfl, fun _ => rfl, fun _ => rfl⟩
    · exact sameTasks_addFailure _
  · exact sameTasks_addFailure _
  · exact sameTasks_addFailure _

theorem sameTasks_startDraining : SameTasks s s.startDraining :=
  ⟨rfl, rfl, rfl, rfl, rfl, fun _ => rfl, fun _ => rfl⟩

theorem work_setWork (kind other : TaskKind) (state : TaskState) :
    (s.setWork kind state).work other = if other = kind then state else s.work other :=
  Function.update_apply _ _ _ _

/-- A task that ended is joined. -/
theorem sameTasks_join {kind : TaskKind} {taskEnd : TaskEnd} (hended : s.work kind = .ended taskEnd) :
    SameTasks s (s.setWork kind (.joined taskEnd)) := by
  refine ⟨rfl, rfl, rfl, rfl, rfl, fun other => ?_, fun other => ?_⟩
  all_goals
    rw [work_setWork]
    split_ifs with hother
    · rw [hother, hended]
      cases taskEnd <;> rfl
    · rfl

/-- The supervisor itself changes no set and ends no task. -/
theorem sameTasks_mainStep {l : ServerLabel} (h : s.mainStep l = some s') : SameTasks s s' := by
  cases l with
  | observeExit =>
    simp only [ServerRun.mainStep] at h
    split at h
    · cases h
      exact ⟨rfl, rfl, rfl, rfl, rfl, fun _ => rfl, fun _ => rfl⟩
    · cases h
  | joinWork kind =>
    simp only [ServerRun.mainStep] at h
    split at h
    next hended =>
      cases h
      exact ((sameTasks_join hended).trans (sameTasks_selectWork _ _)).trans sameTasks_startDraining
    next hended =>
      cases h
      exact (sameTasks_join hended).trans (sameTasks_addFailure? _)
    next hended =>
      cases h
      exact sameTasks_join hended
    next => cases h
  | joinPublisher =>
    simp only [ServerRun.mainStep] at h
    split at h
    · cases h
      exact ⟨rfl, rfl, rfl, rfl, rfl, fun _ => rfl, fun _ => rfl⟩
    · cases h
      refine SameTasks.trans ?_ (sameTasks_addFailure? _)
      exact ⟨rfl, rfl, rfl, rfl, rfl, fun _ => rfl, fun _ => rfl⟩
    · cases h
      exact ⟨rfl, rfl, rfl, rfl, rfl, fun _ => rfl, fun _ => rfl⟩
    · cases h
  | drainTimeout =>
    simp only [ServerRun.mainStep] at h
    split at h
    · split_ifs at h
      cases h
      exact ⟨rfl, rfl, rfl, rfl, rfl, fun _ => rfl, fun _ => rfl⟩
    · cases h
  | drained =>
    simp only [ServerRun.mainStep] at h
    split_ifs at h
    split at h
    · cases h
      exact ⟨rfl, rfl, rfl, rfl, rfl, fun _ => rfl, fun _ => rfl⟩
    · cases h
      exact ⟨rfl, rfl, rfl, rfl, rfl, fun _ => rfl, fun _ => rfl⟩
    · cases h
  | dbShutdownEnds result =>
    simp only [ServerRun.mainStep] at h
    split at h
    · cases h
      exact (sameTasks_addFailure? _).trans
        ⟨rfl, rfl, rfl, rfl, rfl, fun _ => rfl, fun _ => rfl⟩
    · cases h
  | checkPublisher =>
    simp only [ServerRun.mainStep] at h
    split at h
    · split at h <;> cases h
      all_goals exact ⟨rfl, rfl, rfl, rfl, rfl, fun _ => rfl, fun _ => rfl⟩
    · cases h
  | publishTerminal | publisherTimeout =>
    simp only [ServerRun.mainStep] at h
    split at h
    · cases h
      exact ⟨rfl, rfl, rfl, rfl, rfl, fun _ => rfl, fun _ => rfl⟩
    · cases h
  | «return» =>
    simp only [ServerRun.mainStep] at h
    split at h
    · cases h
      exact ⟨rfl, rfl, rfl, rfl, rfl, fun _ => rfl, fun _ => rfl⟩
    · cases h
  | _ => cases h

/-! ### A task goes on or ends -/

theorem routerStep_eq_some {l : RouterLabel} (h : s.routerStep decode l = some s') :
    ∃ router, s' = { s with router } ∧ s.router.step decode l = some router ∧
      ((s.work .router).isRunning = true ∨ ∃ exit, l = .requestExit exit) := by
  unfold ServerRun.routerStep at h
  split at h
  · cases h
  next exit =>
    obtain ⟨router, hstep, rfl⟩ := Option.map_eq_some_iff.1 h
    exact ⟨router, rfl, hstep, .inr ⟨exit, rfl⟩⟩
  next =>
    split_ifs at h with hrunning
    obtain ⟨router, hstep, rfl⟩ := Option.map_eq_some_iff.1 h
    exact ⟨router, rfl, hstep, .inl hrunning⟩

/-- The future of a task is dropped. -/
theorem TaskInv.drop (hinv : TaskInv s) (kind : TaskKind) (error : String) :
    TaskInv ((s.dropFuture kind).setWork kind (.ended (.joinError error))) := by
  cases kind with
  | router =>
    refine ⟨fun _ _ => rfl, fun _ => rfl, hinv.stoppedRefresh, fun h => ?_, hinv.keptJobs⟩
    rcases h with h | h <;> cases h
  | refresh =>
    refine ⟨hinv.closed, hinv.stoppedRouter, fun _ => rfl, hinv.keptHandlers, fun h => ?_⟩
    rcases h with h | h <;> cases h
  | rpcMonitor | pubMonitor | signal =>
    exact ⟨hinv.closed, hinv.stoppedRouter, hinv.stoppedRefresh, hinv.keptHandlers, hinv.keptJobs⟩

theorem TaskInv.workStep (hinv : TaskInv s) {l : ServerLabel}
    (h : s.workStep decode l = some s') : TaskInv s' := by
  cases l with
  | router label =>
    obtain ⟨router, rfl, hstep, hrunning | ⟨exit, rfl⟩⟩ := routerStep_eq_some h
    · refine ⟨hinv.closed.step hstep, fun hstopped => ?_, hinv.stoppedRefresh, hinv.keptHandlers,
        hinv.keptJobs⟩
      exact nomatch hrunning.symm.trans hstopped
    · cases hstep
      exact ⟨hinv.closed, hinv.stoppedRouter, hinv.stoppedRefresh, hinv.keptHandlers, hinv.keptJobs⟩
  | dispatchJob =>
    simp only [ServerRun.workStep] at h
    split at h
    next hrunning _ =>
      cases h
      refine ⟨hinv.closed, hinv.stoppedRouter, fun hstopped => ?_, hinv.keptHandlers, hinv.keptJobs⟩
      exact nomatch hrunning.symm.trans hstopped
    next => cases h
  | jobEnds =>
    simp only [ServerRun.workStep] at h
    split_ifs at h with hjobs
    cases h
    refine ⟨hinv.closed, hinv.stoppedRouter, fun hstopped => ?_, hinv.keptHandlers, hinv.keptJobs⟩
    exact absurd (hinv.stoppedRefresh hstopped) hjobs.ne'
  | refreshCancelled =>
    simp only [ServerRun.workStep] at h
    split at h
    · split_ifs at h
      cases h
      exact ⟨hinv.closed, hinv.stoppedRouter, hinv.stoppedRefresh, hinv.keptHandlers, hinv.keptJobs⟩
    · cases h
  | refreshFails =>
    simp only [ServerRun.workStep] at h
    split at h
    · cases h
      exact ⟨hinv.closed, hinv.stoppedRouter, hinv.stoppedRefresh, hinv.keptHandlers, hinv.keptJobs⟩
    · cases h
  | orphanHandlerStops =>
    simp only [ServerRun.workStep] at h
    split_ifs at h with horphan
    cases h
    refine ⟨hinv.closed, hinv.stoppedRouter, hinv.stoppedRefresh, fun hkept => ?_, hinv.keptJobs⟩
    exact absurd (hinv.keptHandlers hkept) horphan.ne'
  | orphanJobStops =>
    simp only [ServerRun.workStep] at h
    split_ifs at h with horphan
    cases h
    refine ⟨hinv.closed, hinv.stoppedRouter, hinv.stoppedRefresh, hinv.keptHandlers, fun hkept => ?_⟩
    exact absurd (hinv.keptJobs hkept) horphan.ne'
  | taskReturns kind result =>
    cases kind with
    | router =>
      simp only [ServerRun.workStep] at h
      split at h
      next outcome hrunning hreturned =>
        cases h
        exact ⟨hinv.closed, fun _ => hinv.closed outcome hreturned, hinv.stoppedRefresh,
          fun _ => hinv.keptHandlers (.inl hrunning), hinv.keptJobs⟩
      next => cases h
    | refresh =>
      simp only [ServerRun.workStep] at h
      split at h
      next hrunning _ hjobs =>
        cases h
        exact ⟨hinv.closed, hinv.stoppedRouter, fun _ => hjobs, hinv.keptHandlers,
          fun _ => hinv.keptJobs (.inl hrunning)⟩
      next => cases h
    | rpcMonitor | pubMonitor | signal =>
      simp only [ServerRun.workStep] at h
      split_ifs at h
      cases h
      exact ⟨hinv.closed, hinv.stoppedRouter, hinv.stoppedRefresh, hinv.keptHandlers, hinv.keptJobs⟩
  | taskPanics kind =>
    simp only [ServerRun.workStep] at h
    split_ifs at h
    cases h
    exact hinv.drop kind _
  | taskAborted kind =>
    simp only [ServerRun.workStep] at h
    split at h
    · split_ifs at h
      cases h
      exact hinv.drop kind _
    · cases h
  | publisherEnds taskEnd =>
    simp only [ServerRun.workStep] at h
    split_ifs at h
    cases h
    exact ⟨hinv.closed, hinv.stoppedRouter, hinv.stoppedRefresh, hinv.keptHandlers, hinv.keptJobs⟩
  | _ => cases h

/-! ## The supervisor -/

/-- How far the supervisor is: it stops the work tasks, the database, then tells its end, and stops
the publisher. -/
def ServerPhase.stage : ServerPhase → ℕ
  | selecting | draining | reaping => 0
  | dbShutdown => 1
  | checkingPublisher | publishing => 2
  | stoppingPublisher | abortingPublisher | returning | returned _ => 3

/-- The number of terminal events published. -/
def ServerRun.terminals (s : ServerRun) : ℕ := s.events.countP LifecycleState.isTerminal

/-- The invariant of the supervisor. -/
structure StageInv (s : ServerRun) : Prop where
  joined : s.dbShutdownStarted = true → ∀ kind, (s.work kind).isJoined = true
  dbShutdownStarted : s.dbShutdownStarted = decide (1 ≤ s.phase.stage)
  dbShutdownEnded : s.dbShutdownEnded = decide (2 ≤ s.phase.stage)
  terminals : s.terminals = if s.phase.stage = 3 then 1 else 0
  publisher : s.publisherCancelled = true → s.phase.stage = 3
  failures : s.criticalFailure = none ↔ s.failures = []
  failed : .failed ∈ s.events → s.failures ≠ []
  result : ∀ r, s.phase = .returned r → ((∃ error, r = .error error) ↔ s.failures ≠ [])

theorem stageInv_start : StageInv .start where
  joined h := nomatch h
  dbShutdownStarted := rfl
  dbShutdownEnded := rfl
  terminals := rfl
  publisher h := nomatch h
  failures := ⟨fun _ => rfl, fun _ => rfl⟩
  failed h := nomatch h
  result _ h := nomatch h

/-- A step that leaves the supervisor where it is. -/
structure SameStage (s s' : ServerRun) : Prop where
  phase : s'.phase = s.phase
  publisherCancelled : s'.publisherCancelled = s.publisherCancelled
  criticalFailure : s'.criticalFailure = s.criticalFailure
  failures : s'.failures = s.failures
  events : s'.events = s.events
  dbShutdownStarted : s'.dbShutdownStarted = s.dbShutdownStarted
  dbShutdownEnded : s'.dbShutdownEnded = s.dbShutdownEnded
  joined : ∀ kind, (s.work kind).isJoined = true → (s'.work kind).isJoined = true

theorem StageInv.of_same (hinv : StageInv s) (h : SameStage s s') : StageInv s' where
  joined hstarted kind := h.joined kind (hinv.joined (h.dbShutdownStarted.symm.trans hstarted) kind)
  dbShutdownStarted := by
    rw [h.dbShutdownStarted, h.phase]
    exact hinv.dbShutdownStarted
  dbShutdownEnded := by
    rw [h.dbShutdownEnded, h.phase]
    exact hinv.dbShutdownEnded
  terminals := by
    rw [ServerRun.terminals, h.events, h.phase]
    exact hinv.terminals
  publisher := by
    rw [h.publisherCancelled, h.phase]
    exact hinv.publisher
  failures := by
    rw [h.criticalFailure, h.failures]
    exact hinv.failures
  failed := by
    rw [h.events, h.failures]
    exact hinv.failed
  result := by
    rw [h.phase, h.failures]
    exact hinv.result

/-- A task that runs is not joined, so it may end. -/
theorem isJoined_setWork {kind other : TaskKind} (hrunning : (s.work kind).isRunning = true)
    (state : TaskState) (hjoined : (s.work other).isJoined = true) :
    ((s.setWork kind state).work other).isJoined = true := by
  rw [work_setWork, if_neg]
  · exact hjoined
  · rintro rfl
    cases hstate : s.work other with
    | running =>
      rw [hstate] at hjoined
      cases hjoined
    | ended | joined =>
      rw [hstate] at hrunning
      cases hrunning

theorem sameStage_end {kind : TaskKind} (hrunning : (s.work kind).isRunning = true)
    (state : TaskState) : SameStage s (s.setWork kind state) :=
  ⟨rfl, rfl, rfl, rfl, rfl, rfl, rfl, fun _ => isJoined_setWork hrunning state⟩

theorem sameStage_drop {kind : TaskKind} (hrunning : (s.work kind).isRunning = true)
    (state : TaskState) : SameStage s ((s.dropFuture kind).setWork kind state) := by
  cases kind
  all_goals exact ⟨rfl, rfl, rfl, rfl, rfl, rfl, rfl, fun _ => isJoined_setWork hrunning state⟩

/-- The tasks leave the supervisor where it is. -/
theorem sameStage_workStep {l : ServerLabel} (h : s.workStep decode l = some s') :
    SameStage s s' := by
  cases l with
  | router label =>
    obtain ⟨router, rfl, -, -⟩ := routerStep_eq_some h
    exact ⟨rfl, rfl, rfl, rfl, rfl, rfl, rfl, fun _ => id⟩
  | dispatchJob | refreshFails =>
    simp only [ServerRun.workStep] at h
    split at h
    · cases h
      exact ⟨rfl, rfl, rfl, rfl, rfl, rfl, rfl, fun _ => id⟩
    · cases h
  | refreshCancelled =>
    simp only [ServerRun.workStep] at h
    split at h
    · split_ifs at h
      cases h
      exact ⟨rfl, rfl, rfl, rfl, rfl, rfl, rfl, fun _ => id⟩
    · cases h
  | jobEnds | orphanHandlerStops | orphanJobStops | publisherEnds taskEnd =>
    simp only [ServerRun.workStep] at h
    split_ifs at h
    cases h
    exact ⟨rfl, rfl, rfl, rfl, rfl, rfl, rfl, fun _ => id⟩
  | taskReturns kind result =>
    cases kind with
    | router | refresh =>
      simp only [ServerRun.workStep] at h
      split at h
      · cases h
        exact sameStage_end (by assumption) _
      · cases h
    | rpcMonitor | pubMonitor | signal =>
      simp only [ServerRun.workStep] at h
      split_ifs at h with hrunning
      cases h
      exact sameStage_end hrunning _
  | taskPanics kind =>
    simp only [ServerRun.workStep] at h
    split_ifs at h with hrunning
    cases h
    exact sameStage_drop hrunning _
  | taskAborted kind =>
    simp only [ServerRun.workStep] at h
    split at h
    · split_ifs at h with hrunning
      cases h
      exact sameStage_drop hrunning _
    · cases h
  | _ => cases h

/-! ### The supervisor goes on -/

theorem StageInv.addFailure (hinv : StageInv s) (hphase : ∀ r, s.phase ≠ .returned r)
    (error : String) : StageInv (s.addFailure error) where
  joined := hinv.joined
  dbShutdownStarted := hinv.dbShutdownStarted
  dbShutdownEnded := hinv.dbShutdownEnded
  terminals := hinv.terminals
  publisher := hinv.publisher
  failures := ⟨fun h => (nomatch h), fun h => absurd h (List.append_ne_nil_of_right_ne_nil _
    (List.cons_ne_nil _ _))⟩
  failed _ := List.append_ne_nil_of_right_ne_nil _ (List.cons_ne_nil _ _)
  result r h := absurd h (hphase r)

theorem StageInv.addFailure? (hinv : StageInv s) (hphase : ∀ r, s.phase ≠ .returned r)
    (error : Option String) : StageInv (s.addFailure? error) := by
  cases error with
  | none => exact hinv
  | some error => exact hinv.addFailure hphase error

theorem phase_addFailure? (error : Option String) : (s.addFailure? error).phase = s.phase := by
  cases error <;> rfl

/-- The supervisor goes on within a stage. -/
theorem StageInv.setPhase (hinv : StageInv s) {phase : ServerPhase}
    (hstage : phase.stage = s.phase.stage) (hphase : ∀ r, phase ≠ .returned r) :
    StageInv { s with phase } where
  joined := hinv.joined
  dbShutdownStarted := by
    dsimp only
    rw [hstage]
    exact hinv.dbShutdownStarted
  dbShutdownEnded := by
    dsimp only
    rw [hstage]
    exact hinv.dbShutdownEnded
  terminals := by
    dsimp only
    rw [hstage]
    exact hinv.terminals
  publisher h := hstage.trans (hinv.publisher h)
  failures := hinv.failures
  failed := hinv.failed
  result r h := absurd h (hphase r)

theorem StageInv.startDraining (hinv : StageInv s) (hphase : s.phase = .selecting) :
    StageInv s.startDraining := by
  have hstage : ServerPhase.stage .draining = s.phase.stage := by
    rw [hphase]
    rfl
  obtain ⟨hjoined, hstarted, hended, hterminals, hpublisher, hfailures, hfailed, hresult⟩ :=
    hinv.setPhase hstage fun _ h => nomatch h
  exact ⟨hjoined, hstarted, hended, hterminals, hpublisher, hfailures, hfailed, hresult⟩

theorem StageInv.join (hinv : StageInv s) (kind : TaskKind) (taskEnd : TaskEnd) :
    StageInv (s.setWork kind (.joined taskEnd)) := by
  refine ⟨fun hstarted other => ?_, hinv.dbShutdownStarted, hinv.dbShutdownEnded, hinv.terminals,
    hinv.publisher, hinv.failures, hinv.failed, hinv.result⟩
  rw [work_setWork]
  split_ifs
  · rfl
  · exact hinv.joined hstarted other

theorem StageInv.selectWork (hinv : StageInv s) (hphase : s.phase = .selecting) (kind : TaskKind)
    (taskEnd : TaskEnd) :
    StageInv (s.selectWork kind taskEnd) ∧ (s.selectWork kind taskEnd).phase = .selecting := by
  have hreturned : ∀ r, s.phase ≠ .returned r := fun r h => nomatch hphase.symm.trans h
  unfold ServerRun.selectWork
  split
  · split_ifs
    · exact ⟨⟨hinv.joined, hinv.dbShutdownStarted, hinv.dbShutdownEnded, hinv.terminals,
        hinv.publisher, hinv.failures, hinv.failed, hinv.result⟩, hphase⟩
    · exact ⟨hinv.addFailure hreturned _, hphase⟩
  · exact ⟨hinv.addFailure hreturned _, hphase⟩
  · exact ⟨hinv.addFailure hreturned _, hphase⟩

/-- The supervisor, which told its end, publishes it. -/
theorem StageInv.publishTerminal (hinv : StageInv s) (hphase : s.phase = .publishing)
    {phase : ServerPhase} (hstage : phase.stage = 3) (hreturned : ∀ r, phase ≠ .returned r)
    (publisherCancelled : Bool) :
    StageInv { s with
      events := s.events ++ [s.terminalLifecycle], phase, publisherCancelled } := by
  have hterminals := hinv.terminals
  have hstarted := hinv.dbShutdownStarted
  have hended := hinv.dbShutdownEnded
  rw [hphase] at hterminals hstarted hended
  refine ⟨hinv.joined, ?_, ?_, ?_, fun _ => hstage, hinv.failures, fun hfailed => ?_,
    fun r h => absurd h (hreturned r)⟩
  · dsimp only
    rw [hstarted, hstage]
    rfl
  · dsimp only
    rw [hended, hstage]
    rfl
  · have hterminal : s.terminalLifecycle.isTerminal = true := by
      rw [ServerRun.terminalLifecycle]
      split_ifs <;> rfl
    rw [ServerRun.terminals] at hterminals ⊢
    dsimp only
    rw [List.countP_append, hterminals, List.countP_singleton, if_pos hterminal, hstage]
    rfl
  · rcases List.mem_append.1 hfailed with hold | hnew
    · exact hinv.failed hold
    · have hsome := List.mem_singleton.1 hnew
      rw [ServerRun.terminalLifecycle] at hsome
      split_ifs at hsome with hcritical
      intro hnone
      rw [hinv.failures.2 hnone] at hcritical
      cases hcritical

theorem StageInv.drained (hinv : StageInv s) (hstage : s.phase.stage = 0)
    (hjoined : ∀ kind, (s.work kind).isJoined = true) :
    StageInv { s with phase := .dbShutdown, dbShutdownStarted := true } := by
  have hended := hinv.dbShutdownEnded
  have hterminals := hinv.terminals
  rw [hstage] at hended hterminals
  refine ⟨fun _ => hjoined, rfl, hended, hterminals, fun h => ?_, hinv.failures, hinv.failed,
    fun _ h => nomatch h⟩
  exact nomatch hstage.symm.trans (hinv.publisher h)

theorem StageInv.dbShutdownEnds (hinv : StageInv s) (hphase : s.phase = .dbShutdown) :
    StageInv { s with phase := .checkingPublisher, dbShutdownEnded := true } := by
  have hstarted := hinv.dbShutdownStarted
  have hterminals := hinv.terminals
  rw [hphase] at hstarted hterminals
  refine ⟨hinv.joined, hstarted, rfl, hterminals, fun h => ?_, hinv.failures, hinv.failed,
    fun _ h => nomatch h⟩
  have hstage := hinv.publisher h
  rw [hphase] at hstage
  cases hstage

theorem StageInv.mainStep (hinv : StageInv s) {l : ServerLabel} (h : s.mainStep l = some s') :
    StageInv s' := by
  cases l with
  | observeExit =>
    simp only [ServerRun.mainStep] at h
    split at h
    next exit hphase _ =>
      cases h
      have hrequested : StageInv { s with requestedExit := some exit } :=
        hinv.of_same ⟨rfl, rfl, rfl, rfl, rfl, rfl, rfl, fun _ => id⟩
      exact hrequested.startDraining hphase
    next => cases h
  | joinWork kind =>
    simp only [ServerRun.mainStep] at h
    split at h
    next taskEnd hphase _ =>
      cases h
      obtain ⟨hselected, hselecting⟩ := (hinv.join kind taskEnd).selectWork hphase kind taskEnd
      exact hselected.startDraining hselecting
    next taskEnd hphase _ =>
      cases h
      exact (hinv.join kind taskEnd).addFailure? (fun r h => nomatch hphase.symm.trans h) _
    next taskEnd hphase _ =>
      cases h
      exact hinv.join kind taskEnd
    next => cases h
  | joinPublisher =>
    simp only [ServerRun.mainStep] at h
    split at h
    next taskEnd hphase _ =>
      cases h
      have hjoined : StageInv { s with
          publisher := .joined taskEnd
          publisherFinished := true } :=
        hinv.of_same ⟨rfl, rfl, rfl, rfl, rfl, rfl, rfl, fun _ => id⟩
      exact (hjoined.addFailure (fun r h => nomatch hphase.symm.trans h) _).startDraining hphase
    next taskEnd hphase _ =>
      cases h
      have hstage : ServerPhase.stage .returning = s.phase.stage := by
        rw [hphase]
        rfl
      have hjoined : StageInv { s with publisher := .joined taskEnd, phase := .returning } :=
        (hinv.setPhase hstage fun _ h => nomatch h).of_same
          ⟨rfl, rfl, rfl, rfl, rfl, rfl, rfl, fun _ => id⟩
      exact hjoined.addFailure? (fun _ h => nomatch h) _
    next taskEnd hphase _ =>
      cases h
      have hstage : ServerPhase.stage .returning = s.phase.stage := by
        rw [hphase]
        rfl
      have hjoined : StageInv { s with publisher := .joined taskEnd, phase := .returning } :=
        (hinv.setPhase hstage fun _ h => nomatch h).of_same
          ⟨rfl, rfl, rfl, rfl, rfl, rfl, rfl, fun _ => id⟩
      exact hjoined.addFailure (fun _ h => nomatch h) _
    next => cases h
  | drainTimeout =>
    simp only [ServerRun.mainStep] at h
    split at h
    next hphase =>
      split_ifs at h
      cases h
      refine hinv.setPhase ?_ fun _ h => nomatch h
      rw [hphase]
      rfl
    next => cases h
  | drained =>
    simp only [ServerRun.mainStep] at h
    split_ifs at h with hall
    have hjoined : ∀ kind, (s.work kind).isJoined = true := by
      intro kind
      refine List.all_eq_true.1 hall kind ?_
      cases kind <;> decide
    split at h
    next hphase =>
      cases h
      refine hinv.drained ?_ hjoined
      rw [hphase]
      rfl
    next hphase =>
      cases h
      have hfailed := hinv.addFailure (fun r h => nomatch hphase.symm.trans h)
        "engine task cleanup timed out"
      refine hfailed.drained ?_ hjoined
      rw [ServerRun.addFailure, hphase]
      rfl
    next => cases h
  | dbShutdownEnds result =>
    simp only [ServerRun.mainStep] at h
    split at h
    next hphase =>
      cases h
      refine (hinv.addFailure? (fun r h => nomatch hphase.symm.trans h) _).dbShutdownEnds ?_
      rw [phase_addFailure?]
      exact hphase
    next => cases h
  | checkPublisher =>
    simp only [ServerRun.mainStep] at h
    split at h
    next hphase =>
      have hstage : ServerPhase.stage .publishing = s.phase.stage := by
        rw [hphase]
        rfl
      split at h
      next taskEnd _ _ =>
        cases h
        have hfailed := hinv.addFailure (fun r h => nomatch hphase.symm.trans h)
          (ServerRun.unexpectedPublisherExit taskEnd)
        exact (hfailed.setPhase hstage fun _ h => nomatch h).of_same
          ⟨rfl, rfl, rfl, rfl, rfl, rfl, rfl, fun _ => id⟩
      next =>
        cases h
        exact hinv.setPhase hstage fun _ h => nomatch h
    next => cases h
  | publishTerminal =>
    simp only [ServerRun.mainStep] at h
    split at h
    next hphase =>
      cases h
      refine hinv.publishTerminal hphase ?_ (fun r h => ?_) _
      · split_ifs <;> rfl
      · split_ifs at h
    next => cases h
  | publisherTimeout =>
    simp only [ServerRun.mainStep] at h
    split at h
    next hphase =>
      cases h
      refine hinv.setPhase ?_ fun _ h => nomatch h
      rw [hphase]
      rfl
    next => cases h
  | «return» =>
    simp only [ServerRun.mainStep] at h
    split at h
    next hphase =>
      cases h
      have hstarted := hinv.dbShutdownStarted
      have hended := hinv.dbShutdownEnded
      have hterminals := hinv.terminals
      rw [hphase] at hstarted hended hterminals
      refine ⟨hinv.joined, hstarted, hended, hterminals, fun _ => rfl, hinv.failures, hinv.failed,
        fun r hr => ?_⟩
      cases hr
      have hfailures := hinv.failures
      dsimp only
      split
      next error hcritical =>
        refine ⟨fun _ hnone => ?_, fun _ => ⟨error, rfl⟩⟩
        rw [hfailures.2 hnone] at hcritical
        cases hcritical
      next hcritical =>
        exact ⟨fun ⟨_, h⟩ => (nomatch h), fun h => absurd (hfailures.1 hcritical) h⟩
    next => cases h
  | _ => cases h

/-! ## The order -/

/-- What holds in every state. -/
structure ServerProtocol (s : ServerRun) : Prop where
  /-- The database shutdown starts after every work task was joined. -/
  joined : s.dbShutdownStarted = true → ∀ kind, (s.work kind).isJoined = true
  /-- From then on no handler runs if the router returned, and no job if the refresh loop did. -/
  handlers : s.dbShutdownStarted = true → (s.work .router).hasReturned = true → s.handlers = 0
  jobs : s.dbShutdownStarted = true → (s.work .refresh).hasReturned = true → s.jobs = 0
  /-- There is at most one terminal event, and exactly one once the supervisor returned. -/
  atMostOne : s.terminals ≤ 1
  exactlyOne : ∀ r, s.phase = .returned r → s.terminals = 1
  /-- It is published after the database shutdown, and before the supervisor stops a publisher that
  is alive. -/
  afterDb : s.terminals = 1 → s.dbShutdownEnded = true
  beforePublisher : s.publisherCancelled = true → s.terminals = 1
  /-- The supervisor returns an error if and only if a failure was recorded. -/
  result : ∀ r, s.phase = .returned r → ((∃ error, r = .error error) ↔ s.failures ≠ [])
  /-- The terminal event is a failure only if it returns an error. -/
  failed : ∀ r, s.phase = .returned r → .failed ∈ s.events → ∃ error, r = .error error

theorem serverInv_reachable (h : (serverSystem decode).Reachable s) : TaskInv s ∧ StageInv s := by
  refine h.invariant (P := fun s => TaskInv s ∧ StageInv s) ?_ ?_
  · rintro _ rfl
    exact ⟨taskInv_start, stageInv_start⟩
  · rintro s l s' ⟨htasks, hstage⟩ hstep
    rcases Option.or_eq_some_iff.1 hstep with hwork | ⟨-, hmain⟩
    · exact ⟨htasks.workStep hwork, hstage.of_same (sameStage_workStep hwork)⟩
    · exact ⟨htasks.of_same (sameTasks_mainStep hmain), hstage.mainStep hmain⟩

/-- After every order of exit requests, failures, panics and timeouts, the supervisor has kept the
order of the shutdown. -/
theorem server_protocol (h : (serverSystem decode).Reachable s) : ServerProtocol s := by
  obtain ⟨htasks, hstage⟩ := serverInv_reachable h
  have hstopped : ∀ kind, s.dbShutdownStarted = true → (s.work kind).isRunning = false := by
    intro kind hstarted
    have hjoined := hstage.joined hstarted kind
    cases hstate : s.work kind with
    | joined => rfl
    | running | ended =>
      rw [hstate] at hjoined
      cases hjoined
  have hterminals : s.terminals = 1 ↔ s.phase.stage = 3 := by
    rw [hstage.terminals]
    by_cases hlast : s.phase.stage = 3
    · rw [if_pos hlast]
      exact iff_of_true rfl hlast
    · rw [if_neg hlast]
      exact iff_of_false Nat.zero_ne_one hlast
  refine ⟨hstage.joined, fun hstarted hreturned => ?_, fun hstarted hreturned => ?_, ?_,
    fun r hr => ?_, fun hone => ?_, fun hcancelled => hterminals.2 (hstage.publisher hcancelled),
    hstage.result, fun r hr hfailed => (hstage.result r hr).2 (hstage.failed hfailed)⟩
  · rw [ServerRun.handlers, RouterRun.running,
      htasks.stoppedRouter (hstopped .router hstarted), htasks.keptHandlers (.inr hreturned)]
    rfl
  · rw [ServerRun.jobs, htasks.stoppedRefresh (hstopped .refresh hstarted),
      htasks.keptJobs (.inr hreturned)]
  · rw [hstage.terminals]
    split_ifs <;> decide
  · rw [hterminals, hr]
    rfl
  · rw [hstage.dbShutdownEnded, hterminals.1 hone]
    rfl

/-- A shutdown with a request in its task, after which the publisher fails to clean up. -/
theorem server_protocol_sampleRun :
    ∃ s, (serverSystem fun _ => .error "no request").Reachable s ∧
      s.events = [.starting, .ready, .stopping] ∧
      s.failures = ["publisher cleanup failed: closed"] ∧ ServerProtocol s := by
  have hrun : (LabelledSystem.perform (ServerRun.step fun _ => .error "no request")
      (fun _ _ => true) .start
      [.router (.receive [[1], []]), .dispatchJob, .router (.requestExit .shutdown), .observeExit,
        .taskReturns .signal (.ok ()), .joinWork .signal,
        .taskReturns .rpcMonitor (.ok ()), .joinWork .rpcMonitor,
        .taskReturns .pubMonitor (.ok ()), .joinWork .pubMonitor,
        .refreshCancelled, .jobEnds, .taskReturns .refresh (.ok ()), .joinWork .refresh,
        .router .observeCancelled, .router (.reap 0), .router (.close (.ok ())),
        .taskReturns .router (.ok ()), .joinWork .router,
        .drained, .dbShutdownEnds (.ok ()), .checkPublisher, .publishTerminal,
        .publisherEnds (.returned (.error "closed")), .joinPublisher, .return]).map
        (fun s => (s.events, s.failures)) =
      some ([.starting, .ready, .stopping], ["publisher cleanup failed: closed"]) := by
    decide +kernel
  obtain ⟨s, hperform, hend⟩ := Option.map_eq_some_iff.1 hrun
  have hreached := LabelledSystem.Run.perform (S := serverSystem fun _ => .error "no request")
    (fun _ _ _ h => h) (.start rfl) hperform
  rw [Prod.mk.injEq] at hend
  exact ⟨s, ⟨_, hreached⟩, hend.1, hend.2, server_protocol ⟨_, hreached⟩⟩

/-- A router that is aborted leaves its handlers behind, and a publisher that fails stops before the
terminal event. -/
theorem shutdown_overtaken :
    (∃ s, (serverSystem fun _ => .error "no request").Reachable s ∧
      s.dbShutdownStarted = true ∧ s.dbShutdownEnded = false ∧ 0 < s.handlers) ∧
    ∃ s, (serverSystem fun _ => .error "no request").Reachable s ∧
      s.publisher.isJoined = true ∧ s.terminals = 0 := by
  constructor
  · have hrun : (LabelledSystem.perform (ServerRun.step fun _ => .error "no request")
        (fun _ _ => true) .start
        [.router (.receive [[1], []]), .router (.requestExit .shutdown), .observeExit,
          .router .observeCancelled,
          .taskReturns .signal (.ok ()), .joinWork .signal,
          .taskReturns .rpcMonitor (.ok ()), .joinWork .rpcMonitor,
          .taskReturns .pubMonitor (.ok ()), .joinWork .pubMonitor,
          .refreshCancelled, .taskReturns .refresh (.ok ()), .joinWork .refresh,
          .drainTimeout, .taskAborted .router, .joinWork .router, .drained]).map
          (fun s => (s.dbShutdownStarted, s.dbShutdownEnded, s.handlers)) =
        some (true, false, 1) := by
      decide +kernel
    obtain ⟨s, hperform, hend⟩ := Option.map_eq_some_iff.1 hrun
    have hreached := LabelledSystem.Run.perform (S := serverSystem fun _ => .error "no request")
      (fun _ _ _ h => h) (.start rfl) hperform
    simp only [Prod.mk.injEq] at hend
    exact ⟨s, ⟨_, hreached⟩, hend.1, hend.2.1, hend.2.2 ▸ Nat.one_pos⟩
  · have hrun : (LabelledSystem.perform (ServerRun.step fun _ => .error "no request")
        (fun _ _ => true) .start
        [.publisherEnds (.returned (.error "closed")), .joinPublisher]).map
          (fun s => (s.publisher.isJoined, s.terminals)) = some (true, 0) := by
      decide +kernel
    obtain ⟨s, hperform, hend⟩ := Option.map_eq_some_iff.1 hrun
    have hreached := LabelledSystem.Run.perform (S := serverSystem fun _ => .error "no request")
      (fun _ _ _ h => h) (.start rfl) hperform
    rw [Prod.mk.injEq] at hend
    exact ⟨s, ⟨_, hreached⟩, hend.1, hend.2⟩

/-! ## What the router does not promise -/

end WeatherApp
