import WeatherApp.Tui.Session

/-!
# What the tasks owe the terminal application

An answer is outstanding from the start of its task on, until the loop takes it out of the channel.
The tasks only pass it on; where a task panics it stays outstanding for ever.

## Main definitions

* `Asked`: what is asked for, with its token.
* `EffectRunner.outstanding`: how many answers are outstanding.
* `TaskMove`: what a step of a task does.

## Main results

* `outstanding_dispatch`, `outstanding_taskMove`, `outstanding_take`: how their number changes.
-/

namespace WeatherApp.Tui

/-! ## The steps of tasks -/

/-- Whether the task is of a search. -/
def Task.isSearch : Task → Bool
  | .search _ _ _ => true
  | .weather _ _ _ | .preview _ _ _ | .config _ _ | .about => false

/-- The task of an effect. -/
def Effect.task [Sha256] : Effect → Option Task
  | .cancelSearch => none
  | .search token query => some (.search token query (.next .default))
  | .loadWeather token name unifiedUuid refresh =>
    some (.weather token name (loadWeatherRequest name unifiedUuid refresh))
  | .preview token station =>
    some (.preview token station.name
      (loadWeatherRequest station.name (some station.unifiedUuid) false))
  | .updateConfig token config => some (.config token config)
  | .loadAbout => some .about

/-- The answer can be the last one of the task. -/
inductive Replies : Task → EffectResult → Prop
  | searchFailed (token : ℕ) (query : String) (stage : SearchStage) (message : String) :
      Replies (.search token query stage) (.searchFailed token message)
  | lastPage (token : ℕ) (query : String) (cursor : PageCursor) (offset : ℕ)
      (stations : List StationRef) (nextOffset : ℕ) :
      Replies (.search token query (.awaiting cursor offset))
        (.searchPage ⟨token, offset, stations, false, nextOffset⟩)
  | weather (token : ℕ) (name : String) (request : GetWeatherRequest)
      (result : Except String WeatherSnapshot) :
      Replies (.weather token name request) (.weather token name result)
  | preview (token : ℕ) (stationName : String) (request : GetWeatherRequest)
      (result : Except String WeatherSnapshot) :
      Replies (.preview token stationName request) (.preview token stationName result)
  | config (token : ℕ) (config : Wire.AppConfig) (result : Except String Wire.AppConfig) :
      Replies (.config token config) (.config token result)
  | about (result : Except String EngineStatus) : Replies .about (.about result)

/-- A step of a task. -/
inductive TaskMove (runner : EffectRunner) : EffectRunner → Prop
  | finish {id : ℕ} {task : Task} {result : EffectResult} : runner.tasks.get id = some task →
      Replies task result →
      TaskMove runner { runner with
        tasks := runner.tasks.remove id
        channel := runner.channel ++ [result] }
  /-- A page of a search, after which the task goes on. -/
  | page {id token : ℕ} {query : String} {cursor next : PageCursor} {offset nextOffset : ℕ}
      (stations : List StationRef) :
      runner.tasks.get id = some (.search token query (.awaiting cursor offset)) →
      cursor.advance true nextOffset = .ok (true, next) →
      TaskMove runner { runner with
        tasks := runner.tasks.set id (.search token query (.next next))
        channel := runner.channel ++ [.searchPage ⟨token, offset, stations, true, nextOffset⟩] }
  | cancelled {id : ℕ} : id ∈ runner.aborted →
      TaskMove runner { runner with tasks := runner.tasks.remove id }
  | panic {id : ℕ} {task : Task} (message : String) : runner.tasks.get id = some task →
      TaskMove runner { runner with
        tasks := runner.tasks.remove id
        failures := runner.failures ++ [message]
        panicked := runner.panicked ++ [task] }

theorem taskMove_of_finish {runner runner' : EffectRunner} {id : ℕ} {task : Task}
    {result : EffectResult} (htask : runner.tasks.get id = some task) (hreply : Replies task result)
    (h : runner.finish id result = some runner') : TaskMove runner runner' := by
  simp only [EffectRunner.finish, EffectRunner.send] at h
  split_ifs at h
  obtain rfl := Option.some.inj h
  exact .finish htask hreply

theorem taskMove_of_page {runner runner' : EffectRunner} {id token : ℕ} {query : String}
    {cursor : PageCursor} {offset : ℕ} {response : Except String FuzzyMatchStationsResponse}
    (htask : runner.tasks.get id = some (.search token query (.awaiting cursor offset)))
    (h : runner.page id token query cursor offset response = some runner') :
    TaskMove runner runner' := by
  cases response with
  | error message => exact taskMove_of_finish htask (.searchFailed _ _ _ _) h
  | ok response =>
    simp only [EffectRunner.page] at h
    cases hmore : response.hasMore with
    | false =>
      -- The cursor does not go on after the last page.
      rw [hmore] at h
      exact taskMove_of_finish htask (.lastPage _ _ _ _ _ _) h
    | true =>
      rw [hmore] at h
      rcases hadvance : cursor.advance true response.nextOffset with message | ⟨_ | _, next⟩
      · rw [hadvance] at h
        exact taskMove_of_finish htask (.searchFailed _ _ _ _) h
      · simp only [PageCursor.advance, Bool.not_true, Bool.false_eq_true, if_false] at hadvance
        split_ifs at hadvance
        cases hadvance
      · rw [hadvance] at h
        simp only [EffectRunner.send, if_true] at h
        split_ifs at h
        obtain rfl := Option.some.inj h
        exact .page response.stations htask hadvance

theorem taskMove_of_answer {runner runner' : EffectRunner} {id : ℕ} {answer : Answer}
    (h : runner.answer id answer = some runner') : TaskMove runner runner' := by
  simp only [EffectRunner.answer] at h
  split at h
  next token query cursor offset response htask => exact taskMove_of_page htask h
  next token name request result htask => exact taskMove_of_finish htask (.weather _ _ _ _) h
  next token name request result htask => exact taskMove_of_finish htask (.preview _ _ _ _) h
  next token config result htask => exact taskMove_of_finish htask (.config _ _ _) h
  next result htask => exact taskMove_of_finish htask (.about _) h
  next => cases h

/-- A step of a task changes only its runner. -/
theorem taskMove_of_taskStep {s s' : Session} {label : SessionLabel}
    (h : s.taskStep label = some s') :
    TaskMove s.runner s'.runner ∧ s'.app = s.app ∧ s'.exiting = s.exiting := by
  cases label with
  | key | otherInput | result | event | lagged | tick => cases h
  | answer id answer =>
    obtain ⟨runner, hrunner, rfl⟩ := Option.map_eq_some_iff.1 h
    exact ⟨taskMove_of_answer hrunner, rfl, rfl⟩
  | fail id =>
    simp only [Session.taskStep] at h
    split at h
    next token query message htask =>
      obtain ⟨runner, hrunner, rfl⟩ := Option.map_eq_some_iff.1 h
      exact ⟨taskMove_of_finish htask (.searchFailed _ _ _ _) hrunner, rfl, rfl⟩
    next => cases h
  | cancelled id =>
    simp only [Session.taskStep] at h
    split_ifs at h with haborted
    obtain rfl := Option.some.inj h
    exact ⟨.cancelled haborted, rfl, rfl⟩
  | panic id message =>
    obtain ⟨task, htask, rfl⟩ := Option.map_eq_some_iff.1 h
    exact ⟨.panic message htask, rfl, rfl⟩

/-! ## Outstanding answers -/

/-- What is asked for. -/
inductive Asked where
  | weather (token : ℕ) (name : String)
  | config (token : ℕ)
  deriving DecidableEq, Repr

/-- What a task asks for. -/
def Task.asked : Task → Option Asked
  | .weather token name _ => some (.weather token name)
  | .config token _ => some (.config token)
  | .search _ _ _ | .preview _ _ _ | .about => none

/-- What an answer answers. -/
def EffectResult.asked : EffectResult → Option Asked
  | .weather token name _ => some (.weather token name)
  | .config token _ => some (.config token)
  | .searchPage _ | .searchFailed _ _ | .preview _ _ _ | .about _ | .taskFailed _ => none

/-- What an effect asks for. -/
def Effect.asked : Effect → Option Asked
  | .loadWeather token name _ _ => some (.weather token name)
  | .updateConfig token _ => some (.config token)
  | .cancelSearch | .search _ _ | .preview _ _ | .loadAbout => none

/-- One if that is asked for. -/
def counts (asked : Asked) (what : Option Asked) : ℕ := if what = some asked then 1 else 0

/-- The number of answers in a channel to what is asked for. -/
def answers (asked : Asked) (channel : List EffectResult) : ℕ :=
  (channel.map fun result => counts asked result.asked).sum

/-- How many answers to what is asked for are outstanding. Those of tasks that have panicked are
among them. -/
def EffectRunner.outstanding (runner : EffectRunner) (asked : Asked) : ℕ :=
  runner.tasks.total (fun task => counts asked task.asked) + answers asked runner.channel +
    (runner.panicked.map fun task => counts asked task.asked).sum

theorem Replies.asked_eq {task : Task} {result : EffectResult} (h : Replies task result) :
    result.asked = task.asked := by
  cases h <;> rfl

/-- The keys of the tasks: those of a search that may be aborted, and none that is not given out
yet. -/
structure EffectRunner.Valid (runner : EffectRunner) : Prop where
  fresh : ∀ id task, runner.tasks.get id = some task → id < runner.nextTask
  search : ∀ id ∈ runner.search, id < runner.nextTask ∧
    ∀ task, runner.tasks.get id = some task → task.isSearch = true
  aborted : ∀ id ∈ runner.aborted, id < runner.nextTask ∧
    ∀ task, runner.tasks.get id = some task → task.isSearch = true

theorem Task.asked_of_isSearch {task : Task} (h : task.isSearch = true) : task.asked = none := by
  cases task with
  | search => rfl
  | weather | preview | config | about => cases h

@[simp]
theorem counts_none (asked : Asked) : counts asked none = 0 := rfl

@[simp]
theorem counts_self (asked : Asked) : counts asked (some asked) = 1 := if_pos rfl

theorem counts_of_ne {asked : Asked} {what : Option Asked} (h : what ≠ some asked) :
    counts asked what = 0 :=
  if_neg h

@[simp]
theorem answers_append (asked : Asked) (channel more : List EffectResult) :
    answers asked (channel ++ more) = answers asked channel + answers asked more := by
  rw [answers, List.map_append, List.sum_append, answers, answers]

@[simp]
theorem answers_cons (asked : Asked) (result : EffectResult) (channel : List EffectResult) :
    answers asked (result :: channel) = counts asked result.asked + answers asked channel := rfl

@[simp]
theorem answers_nil (asked : Asked) : answers asked [] = 0 := rfl

section Moves

variable {runner runner' : EffectRunner} {asked : Asked}

/-- A step of a task leaves its answer outstanding. -/
theorem outstanding_taskMove (h : runner.Valid) (hmove : TaskMove runner runner') (asked : Asked) :
    runner'.outstanding asked = runner.outstanding asked := by
  cases hmove with
  | @finish id task result htask hreply =>
    have htotal := KeyedMap.total_remove (fun task => counts asked task.asked) htask
    simp only [EffectRunner.outstanding, answers_append, answers_cons, answers_nil, hreply.asked_eq]
    omega
  | @page id token query cursor next offset nextOffset stations htask hadvance =>
    have htotal := KeyedMap.total_set_of_get_some (fun task => counts asked task.asked) htask
      (.search token query (.next next))
    have hsearch (stage : SearchStage) : (Task.search token query stage).asked = none := rfl
    simp only [hsearch, counts_none, Nat.add_zero] at htotal
    simp only [EffectRunner.outstanding, answers_append, answers_cons, answers_nil,
      EffectResult.asked, counts_none, htotal, Nat.add_zero]
  | @cancelled id haborted =>
    cases htask : runner.tasks.get id with
    | none => rw [KeyedMap.remove_of_get_none htask]
    | some task =>
      -- An aborted task is of a search, which owes no such answer.
      have hsearch := Task.asked_of_isSearch ((h.aborted id haborted).2 task htask)
      have htotal := KeyedMap.total_remove (fun task => counts asked task.asked) htask
      simp only [hsearch, counts_none, Nat.add_zero] at htotal
      simp only [EffectRunner.outstanding, htotal]
  | @panic id task message htask =>
    have htotal := KeyedMap.total_remove (fun task => counts asked task.asked) htask
    simp only [EffectRunner.outstanding, List.map_append, List.sum_append, List.map_singleton,
      List.sum_singleton]
    omega

/-- A step of a task keeps the keys of the tasks in order. -/
theorem EffectRunner.Valid.taskMove (h : runner.Valid) (hmove : TaskMove runner runner') :
    runner'.Valid := by
  -- The tasks that are left are tasks of before, but for the progress of a search.
  have hvalid (tasks : KeyedMap ℕ Task) (htasks : ∀ id task, tasks.get id = some task →
      ∃ before, runner.tasks.get id = some before ∧
        (before.isSearch = true → task.isSearch = true)) : ∀ channel failures panicked,
      EffectRunner.Valid { runner with tasks, channel, failures, panicked } := by
    intro channel failures panicked
    have hsearch {id : ℕ} (hid : id < runner.nextTask ∧
        ∀ task, runner.tasks.get id = some task → task.isSearch = true) :
        id < runner.nextTask ∧ ∀ task, tasks.get id = some task → task.isSearch = true := by
      refine ⟨hid.1, fun task htask => ?_⟩
      obtain ⟨before, hbefore, hkept⟩ := htasks id task htask
      exact hkept (hid.2 before hbefore)
    refine ⟨fun id task htask => ?_, fun id hid => hsearch (h.search id hid),
      fun id hid => hsearch (h.aborted id hid)⟩
    obtain ⟨before, hbefore, -⟩ := htasks id task htask
    exact h.fresh id before hbefore
  have hremove (id : ℕ) : ∀ id' task, (runner.tasks.remove id).get id' = some task →
      ∃ before, runner.tasks.get id' = some before ∧
        (before.isSearch = true → task.isSearch = true) := by
    intro id' task htask
    exact ⟨task, KeyedMap.get_of_get_remove htask, fun hsearch => hsearch⟩
  cases hmove with
  | finish | cancelled | panic => exact hvalid _ (hremove _) _ _ _
  | page stations htask =>
    refine hvalid _ (fun id' task htask' => ?_) _ _ _
    rw [KeyedMap.get_set] at htask'
    split_ifs at htask' with hid
    · obtain rfl := Option.some.inj htask'
      exact ⟨_, hid ▸ htask, fun _ => rfl⟩
    · exact ⟨task, htask', fun hsearch => hsearch⟩

end Moves

/-! ## The loop -/

section Loop

variable {runner : EffectRunner}

/-- Joining tasks that have panicked sends nothing but that they have. -/
theorem channel_reapCompleted (runner : EffectRunner) : ∃ failed : List String,
    runner.reapCompleted.channel = runner.channel ++ failed.map .taskFailed := by
  simp only [EffectRunner.reapCompleted]
  generalize runner.channel = channel
  induction runner.failures generalizing channel with
  | nil => exact ⟨[], (List.append_nil _).symm⟩
  | cons error failures ih =>
    rw [List.foldl_cons]
    obtain ⟨failed, hfailed⟩ := ih
      (EffectRunner.trySend channel (.taskFailed ("TUI effect task failed: " ++ error)))
    rw [hfailed, EffectRunner.trySend]
    split_ifs
    · exact ⟨("TUI effect task failed: " ++ error) :: failed, List.append_assoc _ _ _⟩
    · exact ⟨failed, rfl⟩

theorem answers_taskFailed (asked : Asked) (failed : List String) :
    answers asked (failed.map .taskFailed) = 0 := by
  induction failed with
  | nil => rfl
  | cons message failed ih => rw [List.map_cons, answers_cons, ih]; rfl

theorem outstanding_reapCompleted (runner : EffectRunner) (asked : Asked) :
    runner.reapCompleted.outstanding asked = runner.outstanding asked := by
  obtain ⟨failed, hfailed⟩ := channel_reapCompleted runner
  rw [EffectRunner.outstanding, hfailed, answers_append, answers_taskFailed]
  rfl

theorem EffectRunner.Valid.reapCompleted (h : runner.Valid) : runner.reapCompleted.Valid := by
  refine ⟨h.fresh, fun id hid => h.search id ?_, h.aborted⟩
  exact (Option.mem_filter_iff.1 hid).1

/-- The loop takes the next answer out of the channel. -/
theorem outstanding_take {result : EffectResult} {channel : List EffectResult}
    (h : runner.channel = result :: channel) (asked : Asked) :
    EffectRunner.outstanding { runner with channel } asked + counts asked result.asked =
      runner.outstanding asked := by
  simp only [EffectRunner.outstanding, h, answers_cons]
  omega

theorem outstanding_take_of_ne {result : EffectResult} {channel : List EffectResult}
    (h : runner.channel = result :: channel) {asked : Asked} (hne : result.asked ≠ some asked) :
    EffectRunner.outstanding { runner with channel } asked = runner.outstanding asked := by
  rw [← outstanding_take h, counts_of_ne hne, Nat.add_zero]

theorem outstanding_take_self {result : EffectResult} {channel : List EffectResult}
    (h : runner.channel = result :: channel) {asked : Asked} (hasked : result.asked = some asked) :
    EffectRunner.outstanding { runner with channel } asked + 1 = runner.outstanding asked := by
  rw [← outstanding_take h, hasked, counts_self]

theorem EffectRunner.Valid.take (h : runner.Valid) (channel : List EffectResult) :
    EffectRunner.Valid { runner with channel } :=
  ⟨h.fresh, h.search, h.aborted⟩

/-- A task with something outstanding that is not in the channel. -/
theorem outstanding_of_task {id : ℕ} {task : Task} {asked : Asked}
    (h : runner.tasks.get id = some task) (hasked : task.asked = some asked) :
    0 < runner.outstanding asked := by
  have hle := KeyedMap.le_total (fun task => counts asked task.asked) h
  rw [hasked, counts_self] at hle
  rw [EffectRunner.outstanding]
  omega

variable [Sha256]

@[simp]
theorem dispatchAll_singleton (runner : EffectRunner) (effect : Effect) :
    runner.dispatchAll [effect] = runner.dispatch effect := rfl

/-- What dispatching an effect starts. -/
theorem tasks_dispatch (runner : EffectRunner) (effect : Effect) :
    (runner.dispatch effect).tasks =
        effect.task.elim runner.tasks (runner.tasks.set runner.nextTask) ∧
      (runner.dispatch effect).nextTask = effect.task.elim runner.nextTask fun _ => runner.nextTask + 1 := by
  cases effect <;> exact ⟨rfl, rfl⟩

theorem channel_dispatch (runner : EffectRunner) (effect : Effect) :
    (runner.dispatch effect).channel = runner.reapCompleted.channel ∧
      (runner.dispatch effect).panicked = runner.panicked := by
  cases effect <;> exact ⟨rfl, rfl⟩

/-- A task is one of before or that of the effect. -/
theorem task_of_dispatch {effect : Effect} {id : ℕ} {task : Task}
    (h : (runner.dispatch effect).tasks.get id = some task) :
    runner.tasks.get id = some task ∨ effect.task = some task := by
  rw [(tasks_dispatch runner effect).1] at h
  cases hnew : effect.task with
  | none =>
    rw [hnew] at h
    exact .inl h
  | some new =>
    rw [hnew, Option.elim_some, KeyedMap.get_set] at h
    split_ifs at h
    · exact .inr h
    · exact .inl h

theorem asked_of_task {effect : Effect} {task : Task} (h : effect.task = some task) :
    task.asked = effect.asked := by
  cases effect <;> cases h <;> rfl

theorem asked_of_task_none {effect : Effect} (h : effect.task = none) : effect.asked = none := by
  cases effect <;> cases h
  rfl

/-- An effect makes the answer that it asks for outstanding. -/
theorem outstanding_dispatch (h : runner.Valid) (effect : Effect) (asked : Asked) :
    (runner.dispatch effect).outstanding asked =
      runner.outstanding asked + counts asked effect.asked := by
  have hreaped := outstanding_reapCompleted runner asked
  have htasks := (tasks_dispatch runner effect).1
  obtain ⟨hchannel, hpanicked⟩ := channel_dispatch runner effect
  rw [EffectRunner.outstanding, hchannel, hpanicked, htasks, ← hreaped]
  cases htask : effect.task with
  | none =>
    rw [asked_of_task_none htask]
    rfl
  | some task =>
    have hfresh : runner.tasks.get runner.nextTask = none := by
      by_contra hsome
      obtain ⟨other, hother⟩ := Option.ne_none_iff_exists'.1 hsome
      exact absurd (h.fresh _ _ hother) (lt_irrefl _)
    rw [Option.elim_some, KeyedMap.total_set_of_get_none _ hfresh, asked_of_task htask]
    show _ = runner.tasks.total (fun task => counts asked task.asked) +
      answers asked runner.reapCompleted.channel +
      (runner.panicked.map fun task => counts asked task.asked).sum + _
    omega

theorem outstanding_dispatch_of_ne (h : runner.Valid) {effect : Effect} {asked : Asked}
    (hne : effect.asked ≠ some asked) :
    (runner.dispatch effect).outstanding asked = runner.outstanding asked := by
  rw [outstanding_dispatch h, counts_of_ne hne, Nat.add_zero]

theorem EffectRunner.Valid.dispatch (h : runner.Valid) (effect : Effect) :
    (runner.dispatch effect).Valid := by
  -- A new task does not take a key that is given out.
  have hset {id : ℕ} (task : Task) (hid : id < runner.nextTask ∧
      ∀ task, runner.tasks.get id = some task → task.isSearch = true) :
      id < runner.nextTask + 1 ∧ ∀ other,
        (runner.tasks.set runner.nextTask task).get id = some other → other.isSearch = true := by
    refine ⟨Nat.lt_succ_of_lt hid.1, fun other hother => ?_⟩
    rw [KeyedMap.get_set_of_ne hid.1.ne] at hother
    exact hid.2 other hother
  have hfresh (task : Task) : ∀ id other,
      (runner.tasks.set runner.nextTask task).get id = some other → id < runner.nextTask + 1 := by
    intro id other hother
    rw [KeyedMap.get_set] at hother
    split_ifs at hother with hid
    · omega
    · exact Nat.lt_succ_of_lt (h.fresh id other hother)
  have hreaped := h.reapCompleted
  have haborted : ∀ id ∈ runner.aborted ∪ runner.reapCompleted.search.toFinset,
      id < runner.nextTask ∧ ∀ task, runner.tasks.get id = some task → task.isSearch = true := by
    intro id hid
    rcases Finset.mem_union.1 hid with hid | hid
    · exact h.aborted id hid
    · exact hreaped.search id (Option.mem_toFinset.1 hid)
  cases effect with
  | cancelSearch => exact ⟨h.fresh, fun id hid => (by cases hid), haborted⟩
  | search token query =>
    refine ⟨hfresh _, fun id hid => ?_, fun id hid => hset _ (haborted id hid)⟩
    obtain rfl := Option.some.inj hid
    refine ⟨Nat.lt_succ_self _, fun task htask => ?_⟩
    have hnew := KeyedMap.get_set_self runner.tasks runner.nextTask
      (.search token query (.next .default))
    obtain rfl := Option.some.inj (hnew.symm.trans htask)
    rfl
  | loadWeather | preview | updateConfig | loadAbout =>
    exact ⟨hfresh _, fun id hid => hset _ (hreaped.search id hid),
      fun id hid => hset _ (h.aborted id hid)⟩

end Loop

end WeatherApp.Tui
