import WeatherApp.Engine.Load
import WeatherApp.Foundation.Run

/-!
# The catalog requests of an engine

Requests and their tasks as the threads of one machine. The threads share the database actor,
whose queue is executed in order, and the flights; the provider's answers, the clock, the
configuration and the failures of the storage engine come with the labels of the steps. A request
can be cancelled between any two calls, also while its command waits in the queue: then the
command is still executed, and nobody reads the reply.

## Main definitions

* `State`, `Label`, `State.step`: the machine.
* `engineSystem`: its runs from an empty catalog.
-/

namespace WeatherApp

namespace Engine

variable [Sha256] [UnicodeTables]

/-! ## The database actor -/

/-- The text of a database error. -/
def describe : DbError → String
  | .engine reason => reason
  | .raised e => e

/-- The reply to a command whose execution had this result. -/
def replyOf {α : Type} (result : Except DbError α × Tables) : Except String α × Tables :=
  (result.1.mapError describe, result.2)

omit [UnicodeTables] in
/-- `handle`: the execution of a command for the engine's provider at a time of the worker. The
fetch log is not modelled, so that its command can only fail. -/
def DbCommand.execute (provider : String) (now : ℤ) (faults : FaultPlan) (tables : Tables) :
    (command : DbCommand) → Except String command.Reply × Tables
  | .get .provinces => replyOf (atomically (getProviderProvinces provider) faults tables)
  | .get (.cities code) => replyOf (atomically (getProviderCities provider code) faults tables)
  | .replace .provinces items =>
    replyOf (replaceProviderProvinces provider items now faults tables)
  | .replace (.cities code) items =>
    replyOf (replaceProviderCities provider code items now faults tables)
  | .getAllProviderCityScopes =>
    replyOf (atomically (WeatherApp.getAllProviderCityScopes provider) faults tables)
  | .putProviderStationMapping _ station =>
    replyOf (WeatherApp.putProviderStationMapping station faults tables)
  | .logFetch _ _ _ => replyOf (atomically (Tx.execute id : DbTx Unit) faults tables)

omit [Sha256] [UnicodeTables] in
/-- A computation that leaves the tables alone when it returns leaves them alone. -/
theorem atomically_tables_eq {α : Type} {tx : DbTx α} {faults : FaultPlan} {tables : Tables}
    (h : ∀ a tables', tx.Returns tables a tables' → tables' = tables) :
    (atomically tx faults tables).2 = tables := by
  cases hrun : atomically tx faults tables with
  | mk result tables' =>
    cases result with
    | error e => exact (atomically_error hrun).1
    | ok a => exact h a tables' (atomically_ok hrun)

omit [UnicodeTables] in
/-- What the execution of a command does to the tables. -/
theorem execute_cases (provider : String) (now : ℤ) (faults : FaultPlan) (tables : Tables)
    (command : DbCommand) :
    (command.execute provider now faults tables).2 = tables ∨
    (∃ items, command = .replace .provinces items ∧
      ProvincesReplaced provider items now tables
        (command.execute provider now faults tables).2) ∨
    (∃ code items, command = .replace (.cities code) items ∧
      CitiesReplaced provider code items now tables
        (command.execute provider now faults tables).2) ∨
    ∃ index station, command = .putProviderStationMapping index station ∧
      (command.execute provider now faults tables).2 =
        { tables with mappings := tables.mappings.upsert station fun _ => true } := by
  cases command with
  | get scope =>
    cases scope with
    | provinces => exact Or.inl (atomically_tables_eq fun _ _ h => (readCatalog_returns h).1)
    | cities code => exact Or.inl (atomically_tables_eq fun _ _ h => (readCatalog_returns h).1)
  | replace scope items =>
    cases scope with
    | provinces =>
      rw [DbCommand.execute, replyOf]
      cases hrun : replaceProviderProvinces provider items now faults tables with
      | mk result tables' =>
        cases result with
        | error e => exact Or.inl (replaceProviderProvinces_error hrun)
        | ok => exact Or.inr (Or.inl ⟨items, rfl, replaceProviderProvinces_ok hrun⟩)
    | cities code =>
      rw [DbCommand.execute, replyOf]
      cases hrun : replaceProviderCities provider code items now faults tables with
      | mk result tables' =>
        cases result with
        | error e => exact Or.inl (replaceProviderCities_error hrun)
        | ok =>
          exact Or.inr (Or.inr (Or.inl ⟨code, items, rfl, replaceProviderCities_ok hrun⟩))
  | getAllProviderCityScopes =>
    exact Or.inl (atomically_tables_eq fun _ _ h => (getAllProviderCityScopes_returns h).1)
  | putProviderStationMapping index station =>
    rw [DbCommand.execute, replyOf]
    cases hrun : WeatherApp.putProviderStationMapping station faults tables with
    | mk result tables' =>
      cases result with
      | error e => exact Or.inl (putProviderStationMapping_error hrun)
      | ok =>
        obtain ⟨-, rfl⟩ := putProviderStationMapping_ok hrun
        exact Or.inr (Or.inr (Or.inr ⟨index, station, rfl, rfl⟩))
  | logFetch endpoint ok message =>
    exact Or.inl (atomically_tables_eq fun _ _ h => Tx.returns_execute h)

/-! ## Threads -/

/-- What a thread gives back when it is cancelled. -/
inductive Guard where
  /-- `FlightLease`. -/
  | lease (key : FlightKey) (flight : ℕ)
  /-- The permit to initialize a flight. -/
  | permit (key : FlightKey) (flight : ℕ)
  deriving DecidableEq, Repr

/-- A request or a task in progress. -/
structure Thread where
  request : Request
  /-- The thread that spawned this task. -/
  parent : Option ℕ
  rest : Process Call Reply Outcome
  /-- The calls made so far. -/
  events : List Event
  /-- Its command is in the queue, or is being executed. -/
  waiting : Bool
  guards : List Guard
  cancelled : Bool
  /-- The parent has seen the end of this task. -/
  joined : Bool

omit [Sha256] [UnicodeTables] in
/-- Continue after the reply to a call. -/
def Thread.resume (thread : Thread) (c : Call) (k : Reply c → Process Call Reply Outcome)
    (reply : Reply c) : Thread :=
  { thread with rest := k reply, events := thread.events ++ [⟨c, reply⟩], waiting := false }

omit [Sha256] [UnicodeTables] in
/-- The thread's program has ended. -/
def Thread.finished (thread : Thread) : Bool :=
  match thread.rest with
  | .ret _ => true
  | .call _ _ => false

/-- A command in the queue of the actor, with the thread that waits for its reply. -/
structure Pending where
  thread : ℕ
  command : DbCommand

/-- The result of a flight, with the calls of the participant that initialized it. -/
structure FlightResult (key : FlightKey) where
  result : Except String key.Value
  events : List Event

/-- A list that the provider answered. -/
structure UpstreamResponse where
  scope : CatalogScope
  items : List scope.Item

/-- The state of the engine. -/
structure State where
  tables : Tables
  queue : List Pending
  flights : Singleflight FlightKey FlightResult
  threads : ℕ → Option Thread
  /-- How many threads were started so far. -/
  started : ℕ
  /-- The lists that the provider has answered so far. -/
  responses : List UpstreamResponse

namespace State

/-- A thread that can make its next call. -/
def runnable (s : State) (i : ℕ) : Option Thread :=
  (s.threads i).filter fun thread => !thread.cancelled && !thread.waiting

def setThread (s : State) (i : ℕ) (thread : Thread) : State :=
  { s with threads := Function.update s.threads i (some thread) }

/-- Start a request, or a task of a thread. -/
def start (provider : String) (s : State) (request : Request) (parent : Option ℕ) : State :=
  { s with
    threads := Function.update s.threads s.started
      (some ⟨request, parent, request.program provider, [], false, [], false, false⟩)
    started := s.started + 1 }

/-- Give back what a thread holds. -/
def release (flights : Singleflight FlightKey FlightResult) :
    Guard → Singleflight FlightKey FlightResult
  | .lease key flight => flights.leave key flight
  | .permit key flight => flights.abandon key flight

/-- Cancel a thread: its program stops, and what it holds is given back, the newest first. -/
def cancel (s : State) (i : ℕ) (thread : Thread) : State :=
  { s with
    threads := Function.update s.threads i
      (some { thread with cancelled := true, joined := true, guards := [] })
    flights := thread.guards.foldl release s.flights }

/-- Cancel a thread that belongs to `parent` and is still running. -/
def abortTask (parent : ℕ) (s : State) (i : ℕ) : State :=
  match s.threads i with
  | some thread =>
    if thread.parent = some parent ∧ !thread.cancelled ∧ !thread.finished then s.cancel i thread
    else s
  | none => s

/-- The lists that an answer adds to those of the provider. -/
def answered : (query : Query) → query.Reply → List UpstreamResponse
  | .upstream scope, .ok items => [⟨scope, items⟩]
  | _, _ => []

/-- Make the next call of a thread, when it is one on the shared flights or on tasks. -/
def proceed (provider : String) (s : State) (i : ℕ) (thread : Thread) : Option State :=
  match thread.rest with
  | .call (.join key) k =>
    let (flight, flights) := s.flights.join key
    let thread := { thread with guards := .lease key flight :: thread.guards }
    some { s.setThread i (thread.resume (.join key) k flight) with flights }
  | .call (.enter key flight) k =>
    match s.flights.enter key flight with
    | none => none
    | some (some found, flights) =>
      some { s.setThread i (thread.resume (.enter key flight) k (some found.result)) with flights }
    | some (none, flights) =>
      let thread := { thread with guards := .permit key flight :: thread.guards }
      some { s.setThread i (thread.resume (.enter key flight) k none) with flights }
  | .call (.complete key flight result) k =>
    let (found, flights) := s.flights.complete key flight ⟨result, thread.events⟩
    let thread := { thread with guards := thread.guards.erase (.permit key flight) }
    some { s.setThread i (thread.resume (.complete key flight result) k found.result) with
      flights }
  | .call (.leave key flight) k =>
    let thread := { thread with guards := thread.guards.erase (.lease key flight) }
    some { s.setThread i (thread.resume (.leave key flight) k ⟨⟩) with
      flights := s.flights.leave key flight }
  | .call (.spawn code) k =>
    some ((s.setThread i (thread.resume (.spawn code) k ⟨⟩)).start provider (.cityScope code) i)
  | .call .abortAll k =>
    let s := (List.range s.started).foldl (abortTask i) s
    some (s.setThread i (thread.resume .abortAll k ⟨⟩))
  | _ => none

/-- The end of a task as `JoinSet::join_next` reports it. -/
def taskResult (task : Thread) : Option (Except String (String × Except String (List ProviderCity))) :=
  if task.cancelled then some (.error "task was cancelled")
  else
    match task.request, task.rest with
    | .cityScope code, .ret (.cities result) => some (.ok (code, result))
    | _, _ => none

/-- Execute the first command of the queue, and reply to the thread that waits for it. -/
def executeNext (provider : String) (s : State) (now : ℤ) (faults : FaultPlan) : Option State :=
  match s.queue with
  | [] => none
  | pending :: queue =>
    let s' := { s with queue, tables := (pending.command.execute provider now faults s.tables).2 }
    match s.threads pending.thread with
    | none => some s'
    | some thread =>
      match thread.rest with
      | .call (.db command) k =>
        if thread.waiting ∧ !thread.cancelled ∧ command = pending.command then
          let reply := (command.execute provider now faults s.tables).1
          some (s'.setThread pending.thread (thread.resume (.db command) k reply))
        else some s'
      | _ => some s'

end State

/-- What happens in one step. -/
inductive Label where
  /-- A request arrives. -/
  | start (request : Request)
  /-- A thread asks its surroundings; the label holds what they would answer. -/
  | input (thread : ℕ) (answers : (query : Query) → query.Reply)
  /-- A thread makes a call on the flights or on its tasks. -/
  | proceed (thread : ℕ)
  /-- A thread sees the end of one of its tasks. -/
  | joinNext (thread task : ℕ)
  /-- A thread's command enters the queue. -/
  | submit (thread : ℕ)
  /-- The actor does not accept a thread's command. -/
  | refuse (thread : ℕ) (message : String)
  /-- The worker executes the first command of the queue. -/
  | execute (now : ℤ) (faults : FaultPlan)
  /-- A thread is cancelled. -/
  | cancel (thread : ℕ)

/-- One step of the engine. -/
def State.step (provider : String) (s : State) : Label → Option State
  | .start request => some (s.start provider request none)
  | .input i answers =>
    match s.runnable i with
    | none => none
    | some thread =>
      match thread.rest with
      | .call (.input query) k =>
        let reply := answers query
        some { s.setThread i (thread.resume (.input query) k reply) with
          responses := s.responses ++ State.answered query reply }
      | _ => none
  | .proceed i =>
    match s.runnable i with
    | none => none
    | some thread => s.proceed provider i thread
  | .joinNext i j =>
    match s.runnable i, s.threads j with
    | some thread, some task =>
      match thread.rest, State.taskResult task with
      | .call .joinNext k, some reply =>
        if task.parent = some i ∧ !task.joined then
          some ((s.setThread j { task with joined := true }).setThread i
            (thread.resume .joinNext k reply))
        else none
      | _, _ => none
    | _, _ => none
  | .submit i =>
    match s.runnable i with
    | none => none
    | some thread =>
      match thread.rest with
      | .call (.db command) _ =>
        some { s.setThread i { thread with waiting := true } with
          queue := s.queue ++ [⟨i, command⟩] }
      | _ => none
  | .refuse i message =>
    match s.runnable i with
    | none => none
    | some thread =>
      match thread.rest with
      | .call (.db command) k =>
        some (s.setThread i (thread.resume (.db command) k (.error message)))
      | _ => none
  | .execute now faults => s.executeNext provider now faults
  | .cancel i =>
    match s.threads i with
    | none => none
    | some thread =>
      if thread.cancelled ∨ thread.finished then none else some (s.cancel i thread)

omit [Sha256] [UnicodeTables] in
/-- What a request or a task has returned. -/
def State.returned (s : State) (i : ℕ) : Option (Request × Outcome) :=
  match s.threads i with
  | none => none
  | some thread =>
    match thread.rest with
    | .ret outcome => some (thread.request, outcome)
    | .call _ _ => none

omit [Sha256] [UnicodeTables] in
theorem State.returned_eq_some {s : State} {i : ℕ} {request : Request} {outcome : Outcome}
    (h : s.returned i = some (request, outcome)) :
    ∃ thread, s.threads i = some thread ∧ thread.request = request ∧
      thread.rest = .ret outcome := by
  unfold State.returned at h
  split at h
  next => cases h
  next thread hthread =>
    split at h
    next outcome' hrest =>
      cases h
      exact ⟨thread, hthread, rfl, hrest⟩
    next => cases h

/-- The engine's runs from an empty catalog. -/
def engineSystem (provider : String) : LabelledSystem State Label where
  init s := EmptyCatalog s.tables ∧ s.queue = [] ∧ s.flights = Singleflight.default ∧
    (∀ i, s.threads i = none) ∧ s.responses = []
  step s l s' := s.step provider l = some s'

/-! ## The tables -/

omit [Sha256] [UnicodeTables] in
theorem tables_abortTasks (parent : ℕ) (tasks : List ℕ) (s : State) :
    (tasks.foldl (State.abortTask parent) s).tables = s.tables := by
  induction tasks generalizing s with
  | nil => rfl
  | cons task tasks ih =>
    rw [List.foldl_cons, ih]
    unfold State.abortTask
    split
    · split_ifs <;> rfl
    · rfl

theorem tables_proceed {provider : String} {s s' : State} {i : ℕ} {thread : Thread}
    (h : s.proceed provider i thread = some s') : s'.tables = s.tables := by
  unfold State.proceed at h
  split at h
  next => cases h; rfl
  next =>
    split at h
    next => cases h
    next => cases h; rfl
    next => cases h; rfl
  next => cases h; rfl
  next => cases h; rfl
  next => cases h; rfl
  next => cases h; exact tables_abortTasks _ _ _
  next => cases h

omit [UnicodeTables] in
theorem tables_executeNext {provider : String} {s s' : State} {now : ℤ} {faults : FaultPlan}
    (h : s.executeNext provider now faults = some s') :
    ∃ pending queue, s.queue = pending :: queue ∧
      s'.tables = (pending.command.execute provider now faults s.tables).2 := by
  unfold State.executeNext at h
  split at h
  next => cases h
  next pending queue hqueue =>
    refine ⟨pending, queue, hqueue, ?_⟩
    split at h
    next => cases h; rfl
    next =>
      split at h
      next => split_ifs at h <;> cases h <;> rfl
      next => cases h; rfl

/-- Only the execution of a command writes the tables. -/
theorem tables_step {provider : String} {s s' : State} {l : Label}
    (h : s.step provider l = some s') :
    s'.tables = s.tables ∨
      ∃ now faults pending queue, l = .execute now faults ∧ s.queue = pending :: queue ∧
        s'.tables = (pending.command.execute provider now faults s.tables).2 := by
  cases l with
  | start => cases h; exact Or.inl rfl
  | input =>
    simp only [State.step] at h
    split at h
    next => cases h
    next =>
      split at h
      next => cases h; exact Or.inl rfl
      next => cases h
  | proceed =>
    simp only [State.step] at h
    split at h
    next => cases h
    next => exact Or.inl (tables_proceed h)
  | joinNext =>
    simp only [State.step] at h
    split at h
    next =>
      split at h
      next => split_ifs at h; cases h; exact Or.inl rfl
      next => cases h
    next => cases h
  | submit =>
    simp only [State.step] at h
    split at h
    next => cases h
    next =>
      split at h
      next => cases h; exact Or.inl rfl
      next => cases h
  | refuse =>
    simp only [State.step] at h
    split at h
    next => cases h
    next =>
      split at h
      next => cases h; exact Or.inl rfl
      next => cases h
  | execute now faults =>
    obtain ⟨pending, queue, hqueue, htables⟩ := tables_executeNext h
    exact Or.inr ⟨now, faults, pending, queue, rfl, hqueue, htables⟩
  | cancel =>
    simp only [State.step] at h
    split at h
    next => cases h
    next => split_ifs at h; cases h; exact Or.inl rfl

/-- An engine with an empty catalog. -/
def State.initial : State := ⟨.initial, [], .default, fun _ => none, 0, []⟩

/-- What a list of allowed steps reaches. -/
theorem reachable_of_perform {provider : String} {allowed : State → Label → Bool}
    {P : State → Label → Prop} (hallowed : ∀ s l, allowed s l = true → P s l)
    {labels : List Label} {s : State}
    (h : LabelledSystem.perform (State.step provider) allowed .initial labels = some s) :
    ((engineSystem provider).restrict P).Reachable s :=
  LabelledSystem.reachable_of_perform (fun _ _ _ hstep => hstep) hallowed
    ⟨[], .start ⟨⟨rfl, rfl, rfl, rfl⟩, rfl, rfl, fun _ => rfl, rfl⟩⟩ h

end Engine

end WeatherApp
