import WeatherApp.Foundation.KeyedMap
import WeatherApp.Foundation.Run

/-!
# The database actor

`db/src/actor.rs`: callers put commands on a channel and one worker thread executes them. Admission
is behind an asynchronous gate, the phase of the actor and the first post-commit failure are shared
with the worker, and closing takes the sender away, so that the worker ends with the channel.

One step is what a party does without yielding to another: a lock that is taken, an atomic access,
a receive, one command. A caller can be cancelled wherever its future awaits.

## Main definitions

* `DbCommand`, `DbCommand.handle`: what the worker does with a command.
* `ActorWork`: the channel and the worker, with `enqueue` and `step`.
* `ActorRun`, `actorSystem`: the actor with its callers and handles.
-/

namespace WeatherApp

/-- How a timezone finalizer ends. -/
inductive TimezoneFinalize where
  | returned (result : Except String Unit)
  | panicked (message : String)

/-- `run_timezone_finalize`. -/
def TimezoneFinalize.run : TimezoneFinalize → Except String Unit
  | returned result => result
  | panicked message => .error s!"timezone config finalizer panicked: {message}"

/-- `DbCommand`, on a database `δ`: the commands that run one operation of the database and reply
with what it returns, and the timezone bundle. -/
inductive DbCommand (δ ρ : Type) where
  | operation (run : δ → Except String ρ × δ)
  | migrateTimezoneBundle (migrateTimezone : δ → Except String ℕ × δ)
      (finalize : TimezoneFinalize) (clearPendingTimezone : δ → Except String Unit × δ)

/-- What a command replies with. -/
inductive DbReply (ρ : Type) where
  | value (value : ρ)
  | rewritten (rows : ℕ)
  deriving DecidableEq, Repr

/-- The reply to a command, the post-commit failure that `handle` returns, and the database. -/
structure Handled (δ ρ : Type) where
  reply : Except String (DbReply ρ)
  failure : Option String
  db : δ

/-- `handle`. -/
def DbCommand.handle {δ ρ : Type} (db : δ) : DbCommand δ ρ → Handled δ ρ
  | operation run => ⟨(run db).1.map .value, none, (run db).2⟩
  | migrateTimezoneBundle migrateTimezone finalize clearPendingTimezone =>
    match migrateTimezone db with
    | (.error err, db) => ⟨.error err, none, db⟩
    | (.ok rewritten, db) =>
      let (postcommitError, db) : Option String × δ :=
        match finalize.run with
        | .ok () =>
          match clearPendingTimezone db with
          | (.ok (), db) => (none, db)
          | (.error err, db) => (some s!"failed to clear timezone sync marker: {err}", db)
        | .error err => (some s!"failed to finalize timezone config: {err}", db)
      match postcommitError with
      | some message =>
        let poison :=
          s!"database actor poisoned after timezone post-commit failure: {message}"
        ⟨.error poison, some poison, db⟩
      | none => ⟨.ok (.rewritten rewritten), none, db⟩

/-- `ActorOutcome`. -/
inductive ActorOutcome where
  | success
  | failure (message : String)
  deriving DecidableEq, Repr

/-- `ActorOutcome::from_result`. -/
def ActorOutcome.fromResult : Except String Unit → ActorOutcome
  | .ok () => success
  | .error err => failure err

/-- `ActorPhase`. -/
inductive ActorPhase where
  | opened
  | poisoned
  | closing
  | closed
  deriving DecidableEq, Repr

/-- The value of a phase. -/
def ActorPhase.rank : ActorPhase → ℕ
  | opened => 0
  | poisoned => 1
  | closing => 2
  | closed => 3

/-- `ACTOR_CLOSED_ERROR`. -/
def actorClosedError : String := "database actor is closing or closed"

/-- `ACTOR_POISONED_FALLBACK`. -/
def actorPoisonedFallback : String := "database actor is poisoned"

/-- The size of the channel. -/
def channelCapacity : ℕ := 128

/-- Where the worker thread is, and the reaper after it. -/
inductive WorkerPhase (δ ρ : Type) where
  /-- In `blocking_recv`. -/
  | receiving
  /-- It has taken a command from the channel. -/
  | handling (number : ℕ) (command : DbCommand δ ρ)
  /-- `handle` returned a failure; next is the latch of `poison`. -/
  | latching (message : String)
  /-- The latch holds `stable`; next is the phase. -/
  | poisoning (stable : String)
  /-- The worker returned. -/
  | finished (outcome : ActorOutcome)
  /-- The reaper stored the closed phase. -/
  | closed (outcome : ActorOutcome)
  /-- The reaper published the outcome. -/
  | published (outcome : ActorOutcome)

/-- What happened to a command: `failure` is the post-commit failure of its execution. -/
structure Answer (ρ : Type) where
  number : ℕ
  executed : Bool
  failure : Option String
  reply : Except String (DbReply ρ)

/-- The channel, the worker and the latch of the first failure, with the answers so far. -/
structure ActorWork (δ ρ : Type) where
  /-- The commands on the channel, by their number. -/
  queue : List (ℕ × DbCommand δ ρ)
  /-- How many commands were put on the channel. -/
  queued : ℕ
  worker : WorkerPhase δ ρ
  /-- The local `poison` of `run_worker`. -/
  rejecting : Option String
  /-- The `poison` of `ActorState`. -/
  poison : Option String
  db : δ
  answers : List (Answer ρ)

namespace ActorWork

variable {δ ρ : Type}

/-- Put a command on the channel. -/
def enqueue (w : ActorWork δ ρ) (command : DbCommand δ ρ) : ActorWork δ ρ :=
  { w with queue := w.queue ++ [(w.queued, command)], queued := w.queued + 1 }

/-- One step of `run_worker` that the channel and the latch are enough for. -/
def step (w : ActorWork δ ρ) : Option (ActorWork δ ρ) :=
  match w.worker with
  | .receiving =>
    match w.queue with
    | (number, command) :: queue => some { w with queue, worker := .handling number command }
    | [] => none
  | .handling number command =>
    match w.rejecting with
    | some message =>
      some { w with
        worker := .receiving
        answers := w.answers ++ [⟨number, false, none, .error message⟩] }
    | none =>
      let handled := command.handle w.db
      some { w with
        worker := handled.failure.elim .receiving .latching
        db := handled.db
        answers := w.answers ++ [⟨number, true, handled.failure, handled.reply⟩] }
  | .latching message =>
    let stable := w.poison.getD message
    some { w with worker := .poisoning stable, poison := some stable }
  | _ => none

/-- The end of `poison`: the worker keeps the stable failure. -/
def reject (w : ActorWork δ ρ) (stable : String) : ActorWork δ ρ :=
  { w with worker := .receiving, rejecting := some stable }

end ActorWork

/-- Where `close_sender` is. -/
inductive CloseStep where
  /-- `mark_closing` loads the phase. -/
  | load
  /-- `mark_closing` exchanges the phase, expecting the one it loaded. -/
  | exchange (expected : ActorPhase)
  /-- The sender is taken. -/
  | take
  deriving DecidableEq, Repr

/-- What follows `close_sender`. -/
inductive AfterClose where
  /-- An admission that could not send fails. -/
  | refuse
  /-- `shutdown` releases the gate and waits for the outcome. -/
  | awaitTerminal
  /-- The drop of the last handle ends. -/
  | dropped
  deriving DecidableEq, Repr

/-- What a caller asks for. -/
inductive ActorRequest (δ ρ : Type) where
  | command (command : DbCommand δ ρ)
  | shutdown

/-- Where the future of a caller is. -/
inductive CallerPhase (δ ρ : Type) where
  /-- It waits for the gate. -/
  | locking (request : ActorRequest δ ρ)
  /-- It has the gate; next is the phase. -/
  | admitting (command : DbCommand δ ρ)
  /-- It saw the poisoned phase; next is the failure. -/
  | poisoned
  /-- It saw the open phase; next is a clone of the sender. -/
  | cloning (command : DbCommand δ ρ)
  /-- It waits for room in the channel. -/
  | sending (command : DbCommand δ ρ)
  /-- It waits for the reply to its command. -/
  | awaitingReply (number : ℕ)
  /-- It is in `close_sender`. -/
  | closing (step : CloseStep) (after : AfterClose)
  /-- It is in `wait_terminal`. -/
  | awaitingTerminal

namespace CallerPhase

variable {δ ρ : Type}

/-- The caller has the gate. -/
def holdsGate : CallerPhase δ ρ → Bool
  | admitting _ | poisoned | cloning _ | sending _ => true
  | closing _ after => after != .dropped
  | _ => false

/-- The caller has a clone of the sender. -/
def hasSender : CallerPhase δ ρ → Bool
  | sending _ => true
  | _ => false

/-- The caller saw the open phase and has not queued its command. -/
def isAdmitted : CallerPhase δ ρ → Bool
  | cloning _ | sending _ => true
  | _ => false

/-- The future of the caller can be dropped here. -/
def isAwaiting : CallerPhase δ ρ → Bool
  | locking _ | sending _ | awaitingReply _ | awaitingTerminal => true
  | _ => false

end CallerPhase

/-- The actor with its callers. -/
structure ActorRun (δ ρ : Type) where
  phase : ActorPhase
  /-- The core has the sender. -/
  tx : Bool
  terminal : Option ActorOutcome
  work : ActorWork δ ρ
  /-- The caller that has the gate. -/
  gate : Option ℕ
  /-- `public_handles`. -/
  handles : ℕ
  callers : KeyedMap ℕ (CallerPhase δ ρ)
  /-- The errors of the admissions that were refused. -/
  refused : List String
  /-- The replies that calls returned, by the number of the command. -/
  returned : List (ℕ × Except String (DbReply ρ))
  /-- The outcomes that calls of `shutdown` returned. -/
  outcomes : List ActorOutcome

/-- A step of a party. -/
inductive ActorLabel (δ ρ : Type) where
  /-- A new caller. -/
  | call (caller : ℕ) (request : ActorRequest δ ρ)
  /-- The next step of a caller. -/
  | caller (caller : ℕ)
  /-- The future of a caller is dropped. -/
  | cancel (caller : ℕ)
  /-- A handle is cloned. -/
  | clone
  /-- A handle is dropped; the last one under the number of a new party. -/
  | drop (party : ℕ)
  /-- The next step of the worker or the reaper. -/
  | worker
  /-- The worker finds the channel closed and checkpoints the database. -/
  | checkpoint (result : Except String Unit)

namespace ActorRun

variable {δ ρ : Type}

/-- `start`, with an open database. -/
def start (db : δ) : ActorRun δ ρ where
  phase := .opened
  tx := true
  terminal := none
  work := ⟨[], 0, .receiving, none, none, db, []⟩
  gate := none
  handles := 1
  callers := .empty
  refused := []
  returned := []
  outcomes := []

/-- Move a caller. -/
def move (s : ActorRun δ ρ) (caller : ℕ) (phase : CallerPhase δ ρ) : ActorRun δ ρ :=
  { s with callers := s.callers.set caller phase }

/-- End a caller. -/
def leave (s : ActorRun δ ρ) (caller : ℕ) : ActorRun δ ρ :=
  { s with callers := s.callers.remove caller }

/-- End an admission with an error, and release its gate. -/
def refuse (s : ActorRun δ ρ) (caller : ℕ) (error : String) : ActorRun δ ρ :=
  { s.leave caller with gate := none, refused := s.refused ++ [error] }

/-- The end of a `close_sender`. -/
def afterClose (s : ActorRun δ ρ) (caller : ℕ) : AfterClose → ActorRun δ ρ
  | .refuse => s.refuse caller actorClosedError
  | .awaitTerminal => { s.move caller .awaitingTerminal with gate := none }
  | .dropped => s.leave caller

/-- `close_sender`, one step. A weak exchange that fails without reason leaves all as it is. -/
def closeStep (s : ActorRun δ ρ) (caller : ℕ) (after : AfterClose) : CloseStep → ActorRun δ ρ
  | .load =>
    s.move caller (.closing (if 2 ≤ s.phase.rank then .take else .exchange s.phase) after)
  | .exchange expected =>
    if s.phase = expected then
      { s.move caller (.closing .take after) with phase := .closing }
    else s.move caller (.closing (if 2 ≤ s.phase.rank then .take else .exchange s.phase) after)
  | .take => { s with tx := false }.afterClose caller after

/-- The worker has returned, so the receiver is gone. -/
def stopped (s : ActorRun δ ρ) : Bool :=
  match s.work.worker with
  | .finished _ | .closed _ | .published _ => true
  | _ => false

/-- The next step of a caller. -/
def callerStep (s : ActorRun δ ρ) (caller : ℕ) : CallerPhase δ ρ → Option (ActorRun δ ρ)
  | .locking request =>
    if s.gate.isSome then none
    else
      some { s.move caller
        (match request with
          | .command command => .admitting command
          | .shutdown => .closing .load .awaitTerminal) with gate := some caller }
  | .admitting command =>
    match s.phase with
    | .opened => some (s.move caller (.cloning command))
    | .poisoned => some (s.move caller .poisoned)
    | .closing | .closed => some (s.refuse caller actorClosedError)
  | .poisoned => some (s.refuse caller (s.work.poison.getD actorPoisonedFallback))
  | .cloning command =>
    if s.tx then some (s.move caller (.sending command))
    else some (s.refuse caller actorClosedError)
  | .sending command =>
    if s.stopped then some (s.move caller (.closing .load .refuse))
    else if s.work.queue.length < channelCapacity then
      some { s.move caller (.awaitingReply s.work.queued) with
        gate := none
        work := s.work.enqueue command }
    else none
  | .awaitingReply number =>
    match s.work.answers.find? fun answer => answer.number = number with
    | some answer =>
      some { s.leave caller with returned := s.returned ++ [(number, answer.reply)] }
    | none =>
      if s.stopped then
        some { s.leave caller with
          returned := s.returned ++ [(number, .error "database actor dropped command reply")] }
      else none
  | .closing step after => some (s.closeStep caller after step)
  | .awaitingTerminal =>
    s.terminal.map fun outcome =>
      { s.leave caller with outcomes := s.outcomes ++ [outcome] }

/-- The next step of the worker, or of the reaper after it. -/
def workerStep (s : ActorRun δ ρ) : Option (ActorRun δ ρ) :=
  match s.work.worker with
  | .poisoning stable =>
    some { s with
      phase := if s.phase = .opened then .poisoned else s.phase
      work := s.work.reject stable }
  | .finished outcome =>
    some { s with phase := .closed, work := { s.work with worker := .closed outcome } }
  | .closed outcome =>
    some { s with
      terminal := some outcome
      work := { s.work with worker := .published outcome } }
  | _ => s.work.step.map fun work => { s with work }

/-- One step. -/
def step (s : ActorRun δ ρ) : ActorLabel δ ρ → Option (ActorRun δ ρ)
  | .call caller request =>
    -- a caller borrows a handle
    if 0 < s.handles ∧ (s.callers.get caller).isNone then some (s.move caller (.locking request))
    else none
  | .caller caller => (s.callers.get caller).bind (s.callerStep caller)
  | .cancel caller =>
    match s.callers.get caller with
    | some phase =>
      if phase.isAwaiting then
        some { s.leave caller with gate := if phase.holdsGate then none else s.gate }
      else none
    | none => none
  | .clone => if 0 < s.handles then some { s with handles := s.handles + 1 } else none
  | .drop party =>
    match s.handles with
    | 0 => none
    | 1 =>
      -- nobody borrows the last handle
      if s.callers.size = 0 then
        some { s.move party (.closing .load .dropped) with handles := 0 }
      else none
    | handles + 2 => some { s with handles := handles + 1 }
  | .worker => s.workerStep
  | .checkpoint result =>
    match s.work.worker, s.work.queue with
    | .receiving, [] =>
      if s.tx || s.callers.values.any CallerPhase.hasSender then none
      else
        some { s with
          work := { s.work with worker := .finished (.fromResult result) } }
    | _, _ => none

end ActorRun

/-- The actor on a database, under any interleaving of its parties. -/
def actorSystem {δ : Type} (ρ : Type) (db : δ) :
    LabelledSystem (ActorRun δ ρ) (ActorLabel δ ρ) where
  init s := s = .start db
  step s l s' := s.step l = some s'

end WeatherApp
