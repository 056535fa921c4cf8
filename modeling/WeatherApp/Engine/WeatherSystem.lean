import WeatherApp.Db.Stations
import WeatherApp.Db.Timezone
import WeatherApp.Engine.Singleflight
import WeatherApp.Engine.System
import WeatherApp.Engine.WeatherRequest

/-!
# The weather requests of an engine

Requests for the weather and scheduled refreshes as the threads of one machine. They share the
database actor, whose queue is executed in order, and the flights. What the upstream service, the
configuration, the clock and the search for a name answer comes with the labels of the steps, and
so do the failures of the storage engine. A thread can be cancelled wherever it waits; a command
that it has sent is still executed then. In between other requests of the engine write catalogs
and mappings and move the history to another timezone.

## Main definitions

* `WeatherCodec`: the protobuf form of a snapshot.
* `DbCommand.execute`: what the database actor does with a command.
* `State`, `Label`, `State.step`: the machine.
* `weatherSystem`: its runs from an empty database.
-/

namespace WeatherApp

/-- The protobuf form of a weather snapshot. -/
class WeatherCodec where
  /-- `encode_message`. -/
  encodeMessage : WeatherSnapshot → List UInt8
  /-- `decode_message`. -/
  decodeMessage : List UInt8 → Except String WeatherSnapshot
  /-- Protobuf round trip. -/
  decode_encode : ∀ snapshot, decodeMessage (encodeMessage snapshot) = .ok snapshot

/-- The snapshots that the database stores. -/
instance [WeatherCodec] : SnapshotMessage WeatherSnapshot where
  station snapshot := snapshot.station
  encodeMessage := WeatherCodec.encodeMessage
  decodeMessage := WeatherCodec.decodeMessage
  decode_encode := WeatherCodec.decode_encode

namespace Weather

open Engine (describe replyOf)

section Execution

variable [Sha256] [WeatherCodec] {Tz : Type} [TzDatabase Tz]

/-- A computation on the tables as a command of the actor. -/
def onTables {α : Type} (tx : DbTx α) (faults : FaultPlan) (db : DbInstance Tz) :
    Except String α × DbInstance Tz :=
  let (reply, tables) := replyOf (atomically tx faults db.tables)
  (reply, { db with tables })

/-- `handle`: the execution of a command for the engine's provider. The fetch log is not
modelled, so that its command can only fail. -/
def DbCommand.execute (provider : String) (faults : FaultPlan) (db : DbInstance Tz) :
    (command : DbCommand) → Except String command.Reply × DbInstance Tz
  | .getLatestSnapshot uuid => ((db.getLatestSnapshot uuid faults).mapError describe, db)
  | .putHistorySnapshot snapshot fetchedAtUnixMs =>
    let (result, db) := db.putHistorySnapshot snapshot fetchedAtUnixMs faults
    (result.mapError describe, db)
  | .logFetch _ _ _ _ => onTables (Tx.execute id) faults db
  | .getProviderStationByUuid uuid =>
    onTables (WeatherApp.getProviderStationByUuid provider uuid) faults db
  | .getProviderStationByName name =>
    onTables (WeatherApp.getProviderStationByName provider name) faults db

end Execution

/-! ## Threads -/

/-- What a thread gives back when it is cancelled. -/
inductive Guard where
  /-- `FlightLease`. -/
  | lease (key : FlightKey) (flight : ℕ)
  /-- The permit to initialize a flight. -/
  | permit (key : FlightKey) (flight : ℕ)
  deriving DecidableEq, Repr

/-- A request or a scheduled refresh in progress. -/
structure Thread where
  request : Request
  rest : Process Call Reply Outcome
  /-- The calls made so far. -/
  events : List Event
  /-- Its command is in the queue, or is being executed. -/
  waiting : Bool
  guards : List Guard
  cancelled : Bool

/-- Continue after the reply to a call. -/
def Thread.resume (thread : Thread) (c : Call) (k : Reply c → Process Call Reply Outcome)
    (reply : Reply c) : Thread :=
  { thread with rest := k reply, events := thread.events ++ [⟨c, reply⟩], waiting := false }

/-- The thread waits at a call where it can be cancelled. -/
def Thread.awaits (thread : Thread) : Bool :=
  match thread.rest with
  | .ret _ => false
  | .call c _ => c.awaits

/-- The snapshots that a call published, as those who listen get them. -/
def publishedSnapshot : Call → Option WeatherSnapshot
  | .publishSnapshot snapshot => some { snapshot with debug := none }
  | _ => none

/-- The snapshots that a thread published. -/
def Thread.published (thread : Thread) : List WeatherSnapshot :=
  thread.events.filterMap fun event => publishedSnapshot event.call

/-- A command in the queue of the actor, with the thread that waits for its reply. -/
structure Pending where
  thread : ℕ
  command : DbCommand

/-- The flights of the weather requests. -/
abbrev Flights := Singleflight FlightKey fun _ => Except String WeatherSnapshot

/-- The state of the engine. -/
structure State (Tz : Type) where
  db : DbInstance Tz
  queue : List Pending
  flights : Flights
  threads : ℕ → Option Thread
  /-- How many threads were started so far. -/
  started : ℕ
  /-- The snapshots that were stored so far, with the threads that asked for it. -/
  persisted : List (ℕ × WeatherSnapshot)

/-- What a request has returned. -/
def State.returned {Tz : Type} (s : State Tz) (i : ℕ) : Option (Request × Outcome) :=
  match s.threads i with
  | none => none
  | some thread =>
    match thread.rest with
    | .ret outcome => some (thread.request, outcome)
    | .call _ _ => none

theorem State.returned_eq_some {Tz : Type} {s : State Tz} {i : ℕ} {request : Request}
    {outcome : Outcome} (h : s.returned i = some (request, outcome)) :
    ∃ thread, s.threads i = some thread ∧ thread.request = request ∧
      thread.rest = .ret outcome := by
  unfold State.returned at h
  split at h
  next => cases h
  next thread hthread =>
    split at h
    next outcome' hrest =>
      cases h
      exact ⟨thread, hthread, rfl, hrest⟩
    next => cases h

/-- What happens in one step. -/
inductive Label where
  /-- A request arrives, or a refresh is due. -/
  | start (request : Request)
  /-- A thread asks its surroundings; the label holds what they would answer. -/
  | input (thread : ℕ) (answers : (query : Query) → query.Reply)
  /-- A thread makes a call on the flights or publishes something. -/
  | proceed (thread : ℕ)
  /-- A thread's command enters the queue. -/
  | submit (thread : ℕ)
  /-- The actor does not accept a thread's command. -/
  | refuse (thread : ℕ) (message : String)
  /-- The worker executes the first command of the queue. -/
  | execute (faults : FaultPlan)
  /-- A thread is cancelled where it waits. -/
  | cancel (thread : ℕ)
  /-- The worker executes a command of a catalog request. -/
  | catalog (command : Engine.DbCommand) (now : ℤ) (faults : FaultPlan)
  /-- The worker executes a timezone migration. -/
  | migrateTimezone (oldTz newTz : String) (faults : FaultPlan)

namespace State

variable {Tz : Type}

/-- A thread that can make its next call. -/
def runnable (s : State Tz) (i : ℕ) : Option Thread :=
  (s.threads i).filter fun thread => !thread.cancelled && !thread.waiting

def setThread (s : State Tz) (i : ℕ) (thread : Thread) : State Tz :=
  { s with threads := Function.update s.threads i (some thread) }

/-- Give back what a thread holds. -/
def release (flights : Flights) : Guard → Flights
  | .lease key flight => flights.leave key flight
  | .permit key flight => flights.abandon key flight

/-- Cancel a thread: its program stops, and what it holds is given back, the newest first. -/
def cancel (s : State Tz) (i : ℕ) (thread : Thread) : State Tz :=
  { s.setThread i { thread with cancelled := true, guards := [] } with
    flights := thread.guards.foldl release s.flights }

/-- Make the next call of a thread, when nobody else answers it. -/
def proceed (s : State Tz) (i : ℕ) (thread : Thread) : Option (State Tz) :=
  match thread.rest with
  | .call (.join key) k =>
    let (flight, flights) := s.flights.join key
    let thread := { thread with guards := .lease key flight :: thread.guards }
    some { s.setThread i (thread.resume (.join key) k flight) with flights }
  | .call (.enter key flight) k =>
    match s.flights.enter key flight with
    | none => none
    | some (some found, flights) =>
      some { s.setThread i (thread.resume (.enter key flight) k (some found)) with flights }
    | some (none, flights) =>
      let thread := { thread with guards := .permit key flight :: thread.guards }
      some { s.setThread i (thread.resume (.enter key flight) k none) with flights }
  | .call (.complete key flight result) k =>
    let (found, flights) := s.flights.complete key flight result
    let thread := { thread with guards := thread.guards.erase (.permit key flight) }
    some { s.setThread i (thread.resume (.complete key flight result) k found) with flights }
  | .call (.leave key flight) k =>
    let thread := { thread with guards := thread.guards.erase (.lease key flight) }
    some { s.setThread i (thread.resume (.leave key flight) k ⟨⟩) with
      flights := s.flights.leave key flight }
  | .call (.startRefresh uuid) k => some (s.setThread i (thread.resume (.startRefresh uuid) k ⟨⟩))
  | .call (.setUnifiedUuid uuid) k =>
    some (s.setThread i (thread.resume (.setUnifiedUuid uuid) k ⟨⟩))
  | .call (.completeRefresh outcome) k =>
    some (s.setThread i (thread.resume (.completeRefresh outcome) k ⟨⟩))
  | .call .dropRefresh k => some (s.setThread i (thread.resume .dropRefresh k ⟨⟩))
  | .call (.publishSnapshot snapshot) k =>
    some (s.setThread i (thread.resume (.publishSnapshot snapshot) k ⟨⟩))
  | .call (.publishFetchLog event) k =>
    some (s.setThread i (thread.resume (.publishFetchLog event) k ⟨⟩))
  | _ => none

/-- The snapshot that a command has stored, by its reply. -/
def stored (thread : ℕ) : (command : DbCommand) → Except String command.Reply →
    List (ℕ × WeatherSnapshot)
  | .putHistorySnapshot snapshot _, .ok _ => [(thread, snapshot)]
  | _, _ => []

/-- The thread whose next call is the command it has sent gets the reply. -/
def answer (s : State Tz) (pending : Pending)
    (reply : Except String pending.command.Reply) : State Tz :=
  match s.threads pending.thread with
  | none => s
  | some thread =>
    match thread.rest with
    | .call (.db command) k =>
      if h : command = pending.command then
        if thread.waiting ∧ !thread.cancelled then
          s.setThread pending.thread (thread.resume (.db command) k (h ▸ reply))
        else s
      else s
    | _ => s

variable [Sha256] [FloatText] [DateText] [WeatherCodec] [TzDatabase Tz] [DecidableEq Tz]

/-- Start a request. -/
def start (provider : String) (s : State Tz) (request : Request) : State Tz :=
  { s with
    threads := Function.update s.threads s.started
      (some ⟨request, request.program Tz provider, [], false, [], false⟩)
    started := s.started + 1 }

/-- Execute the first command of the queue, and reply to the thread that waits for it. -/
def executeNext (provider : String) (s : State Tz) (faults : FaultPlan) : Option (State Tz) :=
  match s.queue with
  | [] => none
  | pending :: queue =>
    let (reply, db) := pending.command.execute provider faults s.db
    let persisted := s.persisted ++ stored pending.thread pending.command reply
    some ({ s with db, queue, persisted }.answer pending reply)

/-- One step of the engine. -/
def step (provider : String) (s : State Tz) : Label → Option (State Tz)
  | .start request => some (s.start provider request)
  | .input i answers =>
    match s.runnable i with
    | none => none
    | some thread =>
      match thread.rest with
      | .call (.input query) k =>
        some (s.setThread i (thread.resume (.input query) k (answers query)))
      | _ => none
  | .proceed i =>
    match s.runnable i with
    | none => none
    | some thread => s.proceed i thread
  | .submit i =>
    match s.runnable i with
    | none => none
    | some thread =>
      match thread.rest with
      | .call (.db command) _ =>
        some { s.setThread i { thread with waiting := true } with
          queue := s.queue ++ [⟨i, command⟩] }
      | _ => none
  | .refuse i message =>
    match s.runnable i with
    | none => none
    | some thread =>
      match thread.rest with
      | .call (.db command) k =>
        some (s.setThread i (thread.resume (.db command) k (.error message)))
      | _ => none
  | .execute faults => s.executeNext provider faults
  | .cancel i =>
    match s.threads i with
    | none => none
    | some thread =>
      if thread.cancelled ∨ !thread.awaits then none else some (s.cancel i thread)
  | .catalog command now faults =>
    let tables := (command.execute provider now faults s.db.tables).2
    some { s with db := { s.db with tables } }
  | .migrateTimezone oldTz newTz faults =>
    some { s with db := (s.db.migrateTimezone oldTz newTz faults).2 }

end State

variable [Sha256] [FloatText] [DateText] [WeatherCodec]

/-- The engine's runs from a database without history and mappings. -/
def weatherSystem (Tz : Type) [TzDatabase Tz] [DecidableEq Tz] (provider : String) :
    LabelledSystem (State Tz) Label where
  init s := s.db.tables.history = .empty ∧ s.db.tables.mappings = .empty ∧ s.queue = [] ∧
    s.flights = Singleflight.default ∧ (∀ i, s.threads i = none) ∧ s.persisted = []
  step s l s' := s.step provider l = some s'

/-- An engine with an empty database. -/
def State.initial {Tz : Type} (timezone : Tz) : State Tz :=
  ⟨⟨.initial, timezone⟩, [], .default, fun _ => none, 0, []⟩

/-- What a list of steps reaches. -/
theorem reachable_of_perform {Tz : Type} [TzDatabase Tz] [DecidableEq Tz] {provider : String}
    {labels : List Label} {timezone : Tz} {s : State Tz}
    (h : LabelledSystem.perform (State.step provider) (fun _ _ => true) (.initial timezone)
      labels = some s) : (weatherSystem Tz provider).Reachable s := by
  have hstart : ((weatherSystem Tz provider).restrict fun _ _ => True).Reachable
      (.initial timezone) := ⟨[], .start ⟨rfl, rfl, rfl, rfl, fun _ => rfl, rfl⟩⟩
  exact (LabelledSystem.reachable_of_perform (fun _ _ _ hstep => hstep) (fun _ _ _ => trivial)
    hstart h).of_restrict

end Weather

end WeatherApp
