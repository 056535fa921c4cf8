import WeatherApp.Engine.Launch
import WeatherApp.Foundation.Interleaving
import WeatherApp.Renderer.Supervisor
import WeatherApp.Schema.Correlation

/-!
# The processes of the application on a host

Daemons, probes and clients run side by side on one host. Each of them makes its calls in its own
time, and crashes at any time: its files are closed then. Others can remove and replace the lock
files, but for paths that are said to be kept.

A process id is not used again. Each process has a nonce for its correlation ids, which no process
before it has.

## Main definitions

* `ProcessKind`, `ProcessKind.program`: the processes and their programs.
* `HostState`: the state of the host, and what the processes have sent each other so far.
* `HostCall.effect`: the reply to a call, and the host after it.
* `hostSystem`: the interleavings of the processes.
-/

namespace WeatherApp.Host

/-! ## Processes -/

/-- The processes of the application. -/
inductive ProcessKind where
  /-- `weather-daemon run`. -/
  | daemon (config logLevel : Option String) (foreground : Bool) (ownerToken : Option String)
  /-- `weather-daemon probe --verbose`. -/
  | probe (config : Option String)
  /-- `weather-tui`. -/
  | managed (config : Option String)
  /-- `weather-tui` with endpoints. -/
  | direct (rpcEndpoint pubEndpoint : String)
  /-- The graphical client. -/
  | gui (config : Option String)
  /-- `weather-tui engine stop`. -/
  | managedStop (config : Option String)
  /-- `weather-tui engine stop` with endpoints, and `stop_engine` of the graphical client. -/
  | directStop (rpcEndpoint pubEndpoint : String)
  /-- `weather-daemon stop`. -/
  | stopDaemon (config : Option String)
  deriving DecidableEq, Repr

/-- What a process ends with: an error, or the output of a probe. -/
abbrev ExitValue := Except String (Option ProbeStatus)

/-- The program of a process, with so many rounds for each of its loops. -/
def ProcessKind.program [LockMetadataJson] (rounds process : ℕ) :
    ProcessKind → HostProgram ExitValue
  | daemon config logLevel foreground ownerToken => ExceptT.run do
    runDaemon rounds process config logLevel foreground ownerToken
    return none
  | probe config => ExceptT.run do
    let status ← probeStatus config
    return some status
  | managed config => ExceptT.run do
    runManaged rounds config
    return none
  | direct rpcEndpoint pubEndpoint => ExceptT.run do
    runDirect rounds rpcEndpoint pubEndpoint
    return none
  | gui config => ExceptT.run do
    runGui rounds config
    return none
  | managedStop config => ExceptT.run do
    runManagedStop config
    return none
  | directStop rpcEndpoint pubEndpoint => ExceptT.run do
    runDirectStop rpcEndpoint pubEndpoint
    return none
  | stopDaemon config => ExceptT.run do
    WeatherApp.Host.stopDaemon rounds config
    return none

/-- How far a process is. -/
inductive ProcessStage where
  | created
  | running
  /-- It has ended, with a result unless it was killed or has crashed. -/
  | ended (result : Option ExitValue)
  /-- Its parent has waited for it. -/
  | reaped
  deriving DecidableEq

/-- What the operating system knows of a process. -/
structure ProcessRecord where
  kind : ProcessKind
  parent : Option ℕ
  stage : ProcessStage
  deriving DecidableEq

/-! ## The host -/

/-- The files, the processes, and the messages so far. -/
structure HostState where
  volume : Volume String String
  processes : ℕ → Option ProcessRecord
  nextProcess : ℕ
  /-- `next_sequence` of the correlation ids of a process. -/
  sequence : ℕ → ℕ
  /-- The guards that a process has. -/
  guards : ℕ → List LockGuard
  /-- The requests, with their senders. -/
  requests : List (ℕ × RequestMessage)
  /-- The responses, with the processes that gave them. -/
  responses : List (ℕ × ResponseMessage)

namespace HostState

/-- A host without files and processes. -/
def initial : HostState where
  volume := .empty ""
  processes _ := none
  nextProcess := 0
  sequence _ := 0
  guards _ := []
  requests := []
  responses := []

/-- Change the files. -/
def setVolume (s : HostState) (volume : Volume String String) : HostState := { s with volume := volume }

/-- Change the stage of a process. -/
def setStage (s : HostState) (q : ℕ) (record : ProcessRecord) (stage : ProcessStage) : HostState :=
  { s with processes := Function.update s.processes q (some { record with stage := stage }) }

/-- A new process. -/
def create (s : HostState) (kind : ProcessKind) (parent : Option ℕ) (stage : ProcessStage) : HostState :=
  { s with
    processes := Function.update s.processes s.nextProcess (some ⟨kind, parent, stage⟩)
    nextProcess := s.nextProcess + 1 }

/-- A process is gone, and its files are closed. -/
def endProcess (s : HostState) (p : ℕ) (record : ProcessRecord) (result : Option ExitValue) : HostState :=
  { s.setStage p record (.ended result) with
    volume := s.volume.exit p
    guards := Function.update s.guards p [] }

/-- Open a file for a process. -/
def openFile (s : HostState) (p : ℕ) (path : String) (create : Bool) (file : OpenFile) : Option HostState :=
  if file ≠ ⟨p, s.volume.opened⟩ then none
  else if create then
    some (s.setVolume ((s.volume.create path "").1.openFile p (s.volume.create path "").2))
  else (s.volume.entry path).map fun i => s.setVolume (s.volume.openFile p i)

/-- Lock an open file. -/
def lockFile (s : HostState) (file : OpenFile) (isExclusive : Bool) : Option HostState :=
  (s.volume.inode file).bind fun i =>
    (if isExclusive then (s.volume.lock i).tryExclusive file
      else (s.volume.lock i).tryShared file).map fun lock => s.setVolume (s.volume.setLock i lock)

/-- Change the content of an open file. -/
def writeFile (s : HostState) (file : OpenFile) (change : String → String) : Option HostState :=
  (s.volume.inode file).map fun i => s.setVolume (s.volume.write i (change (s.volume.content i)))

/-- A child that has ended is waited for. -/
def reap (s : HostState) (p q : ℕ) : Option HostState :=
  match s.processes q with
  | none => none
  | some record =>
    if record.parent ≠ some p then none
    else
      match record.stage with
      | .ended _ | .reaped => some (s.setStage q record .reaped)
      | .created | .running => none

/-- Whether the condition holds, the host stays as it is. -/
def stay (s : HostState) (condition : Bool) : Option HostState := if condition then some s else none

end HostState

/-! ## Calls -/

/-- The nonces of the processes. -/
abbrev Nonces := ℕ → Uuid

/-- The next process has a nonce of its own. -/
def HostState.FreshNonce (nonce : Nonces) (s : HostState) : Prop :=
  ∀ q < s.nextProcess, nonce q ≠ nonce s.nextProcess

instance (nonce : Nonces) (s : HostState) : Decidable (s.FreshNonce nonce) :=
  inferInstanceAs (Decidable (∀ q < s.nextProcess, nonce q ≠ nonce s.nextProcess))

/-- The host after a call of a process with this reply, if the call can be replied to so. -/
def HostCall.effect (nonce : Nonces) (p : ℕ) (s : HostState) : (c : HostCall) → c.Reply → Option HostState
  | openFile path create, .ok file => s.openFile p path create file
  | openFile path create, .error err =>
    s.stay (err.kind ≠ .notFound ∨ create ∨ s.volume.entry path = none)
  | identify file, .ok i => s.stay (s.volume.inode file = some i)
  | identifyPath path, .ok i => s.stay (s.volume.entry path = some i)
  | identifyPath path, .error err =>
    s.stay (err.kind ≠ .notFound ∨ s.volume.entry path = none)
  | tryLock file isExclusive, .ok _ => s.lockFile file isExclusive
  | tryLock file isExclusive, .error err =>
    s.stay (err.kind ≠ .wouldBlock ∨ (s.lockFile file isExclusive).isNone)
  | unlock file, _ => some (s.setVolume (s.volume.unlock file))
  | close file, _ => some (s.setVolume (s.volume.close file))
  | truncate file, .ok _ => s.writeFile file fun _ => ""
  | write file text, .ok _ => s.writeFile file (· ++ text)
  | readToEnd file, .ok text => s.stay ((s.volume.inode file).map s.volume.content = some text)
  | hold guard, _ => some { s with guards := Function.update s.guards p (guard :: s.guards p) }
  | giveUp guard, _ => some { s with guards := Function.update s.guards p ((s.guards p).erase guard) }
  | correlationId scope, id =>
    match (CorrelationIdGenerator.mk (nonce p) (s.sequence p)).next scope with
    | none => none
    | some (next, generator) =>
      if id = next then
        some { s with sequence := Function.update s.sequence p generator.nextSequence }
      else none
  | receive endpoint, .request message =>
    s.stay (message.endpoint = endpoint ∧ (s.requests.map (·.2)).contains message)
  | respond response, _ => some { s with responses := (p, response) :: s.responses }
  | send message, .ok _ => some { s with requests := (p, message) :: s.requests }
  | await _, some response => s.stay ((s.responses.map (·.2)).contains response)
  | spawnProbe config, .ok q =>
    if q = s.nextProcess ∧ s.FreshNonce nonce then
      some (s.create (.probe config) (some p) .created)
    else none
  | spawnDaemon config ownerToken, .ok q =>
    if q = s.nextProcess ∧ s.FreshNonce nonce then
      some (s.create (.daemon config none true (some ownerToken)) (some p) .created)
    else none
  | output q, .ok probe =>
    match s.processes q with
    | some ⟨_, _, .ended (some (.ok (some status)))⟩ => s.stay (probe = .ofStatus status)
    | _ => none
  | tryWait q, .ok exited => if exited then s.reap p q else s.stay (s.reap p q).isNone
  | wait q, _ => s.reap p q
  | _, _ => some s

/-! ## The system -/

/-- A token that no process has as a correlation id. -/
def Foreign (nonce : Nonces) (token : String) : Prop :=
  ∀ scope p k, token ≠ correlationId scope (nonce p) k

/-- A process that a user can start. The token of an owner is not one for users: one that is given is
not an id of another process. -/
def ProcessKind.Startable (nonce : Nonces) : ProcessKind → Prop
  | daemon _ _ _ (some token) => Foreign nonce token
  | _ => True

section System

variable [LockMetadataJson]

/-- How processes start and end, and what others do to the files. -/
inductive HostStart (nonce : Nonces) (p : ℕ) (s : HostState) : HostProgram ExitValue → HostState → Prop where
  /-- A process that another one has created. -/
  | created {record : ProcessRecord} (rounds : ℕ) : s.processes p = some record →
      record.stage = .created →
      HostStart nonce p s (record.kind.program rounds p) (s.setStage p record .running)
  /-- A process that a user starts. -/
  | user {kind : ProcessKind} (rounds : ℕ) : p = s.nextProcess → s.FreshNonce nonce →
      kind.Startable nonce →
      HostStart nonce p s (kind.program rounds p) (s.create kind none .running)

/-- Others change an entry. They write no metadata. -/
inductive HostChange (kept : String → Prop) (s : HostState) : HostState → Prop where
  | remove {path : String} : ¬ kept path → HostChange kept s (s.setVolume (s.volume.remove path))
  | replace {path content : String} : ¬ kept path → LockMetadataJson.read content = none →
      HostChange kept s (s.setVolume (s.volume.replace path content))

/-- A process is gone. -/
def HostEnd (p : ℕ) (result : Option ExitValue) (s s' : HostState) : Prop :=
  ∃ record, s.processes p = some record ∧ s' = s.endProcess p record result

/-- The life of processes. -/
def hostLife (nonce : Nonces) (kept : String → Prop) :
    ThreadLife ℕ HostState HostCall HostCall.Reply ExitValue where
  init s := s = .initial
  start p s program s' := HostStart nonce p s program s'
  finish p result s s' := HostEnd p (some result) s s'
  crash p s s' := HostEnd p none s s'
  other s s' := HostChange kept s s'

/-- The relation of `effect`. -/
def hostEffect (nonce : Nonces) (p : ℕ) : Surroundings HostState HostCall HostCall.Reply :=
  fun s c r s' => c.effect nonce p s r = some s'

/-- The interleavings of processes on a host that keeps some paths. -/
def hostSystem (nonce : Nonces) (kept : String → Prop) :
    LabelledSystem (Threads ℕ HostState HostCall HostCall.Reply ExitValue)
      (ThreadStep ℕ HostCall HostCall.Reply) :=
  Sharing.system (hostEffect nonce) (hostLife nonce kept)

end System

end WeatherApp.Host
