import WeatherApp.Host.Change

/-!
# What the processes promise each other

Processes write only into files that they have locked, take locks with files of their own, say only
what is true of themselves, ask engines to stop only with a token of their own, unless they are
commands to stop an engine, and have a guard where the source relies on it. In return the files that
they have locked stay theirs, and what they have found to be true stays so.

## Main definitions

* `HasId`, `IsLaunch`: the ids that a process has been given, and the metadata of its engines.
* `HostState.Valid`: the invariant of the host.
* `Rely`, `Promised`, `hostSharing`: what a process relies on, and what it promises of its calls.
* `ProcessPost`: what a process promises of its end.
-/

namespace WeatherApp.Host

/-! ## Facts that stay -/

section Facts

variable (nonce : Nonces) (s : HostState)

/-- The process has been given the id. -/
def HasId (p : ℕ) (scope id : String) : Prop :=
  ∃ k < s.sequence p, id = correlationId scope (nonce p) k

/-- What a process is. -/
def IsKind (p : ℕ) (kind : ProcessKind) : Prop :=
  ∃ record, s.processes p = some record ∧ record.kind = kind

/-- The process is a daemon that was started with the token of an owner, or with none. -/
def IsDaemon (p : ℕ) (ownerToken : Option String) : Prop :=
  ∃ config logLevel foreground, IsKind s p (.daemon config logLevel foreground ownerToken)

/-- The metadata of an engine that was started. -/
structure IsLaunch (metadata : EngineLockMetadata) : Prop where
  daemon : IsDaemon s metadata.pid metadata.ownerToken
  instanceId : HasId nonce s metadata.pid "engine-instance" metadata.instanceId

/-- The commands that stop an engine for a user. -/
def ProcessKind.Stops : ProcessKind → Prop
  | managedStop _ | directStop _ _ | stopDaemon _ => True
  | _ => False

/-- The clients that start a daemon if they find none. -/
def ProcessKind.IsSession : ProcessKind → Prop
  | managed _ | gui _ => True
  | _ => False

/-- The process may ask an engine to stop. -/
def Authorized (p : ℕ) (message : RequestMessage) : Prop :=
  ∀ token, message.request = .shutdown token →
    (∃ own, token = some own ∧ HasId nonce s p "tui-owner" own) ∨
      ∃ kind, IsKind s p kind ∧ kind.Stops

/-- The process has been given the id of the request. -/
def OwnRequest (p : ℕ) (message : RequestMessage) : Prop :=
  ∃ scope, HasId nonce s p scope message.requestId

/-- The process has been given the id, and has not used it for a request. -/
def FreshId (p : ℕ) (scope id : String) : Prop :=
  HasId nonce s p scope id ∧ ∀ message, (p, message) ∈ s.requests → message.requestId ≠ id

/-- What a process accepts: a request to shut down that its owner token allows. -/
def Accepts (p : ℕ) (request : LifecycleRequest) : Prop :=
  ∃ token ownerToken, request = .shutdown token ∧ IsDaemon s p ownerToken ∧
    shutdownOwnerAuthorized ownerToken token = true

/-- The response is true of the process: it answers a request, the status is of one of its engines,
and it accepts only what it may. -/
structure Truthful (p : ℕ) (response : ResponseMessage) : Prop where
  request : ∃ x ∈ s.requests, x.2.requestId = response.requestId ∧
    (response.status = .accepted → Accepts s p x.2.request)
  status : ∀ status, response.body = .status status →
    HasId nonce s p "engine-instance" status.instanceId

/-- An engine of the metadata's process has answered as the engine of the metadata. -/
def Answered (metadata : EngineLockMetadata) : Prop :=
  ∃ response status, (metadata.pid, response) ∈ s.responses ∧ response.body = .status status ∧
    status.instanceId = metadata.instanceId

/-- The state that a probe reports with the metadata of a lock. -/
def Reported (state : ProbeState) (lockMetadata : Option EngineLockMetadata) : Prop :=
  state = .running → ∀ metadata, lockMetadata = some metadata →
    IsLaunch nonce s metadata ∧ Answered s metadata

/-- Every daemon that the process has started was waited for, but for the one that is excepted. -/
def ReapedBut (p : ℕ) (excepted : Option ℕ) : Prop :=
  ∀ q record, s.processes q = some record → record.parent = some p → (∃ config logLevel foreground
    ownerToken, record.kind = .daemon config logLevel foreground ownerToken) →
    some q ≠ excepted → record.stage = .reaped

/-- The process runs. -/
def Alive (p : ℕ) : Prop := ∃ record, s.processes p = some record ∧ record.stage = .running

end Facts

variable {nonce : Nonces} {kept : String → Prop} {p q : ℕ} {s s' s'' : HostState}

theorem HasId.grows {scope id : String} (h : HasId nonce s p scope id) (hgrows : Grows s s') :
    HasId nonce s' p scope id := by
  obtain ⟨k, hk, hid⟩ := h
  exact ⟨k, hk.trans_le (hgrows.sequence p), hid⟩

theorem IsKind.grows {kind : ProcessKind} (h : IsKind s p kind) (hgrows : Grows s s') :
    IsKind s' p kind := by
  obtain ⟨record, hrecord, hkind⟩ := h
  obtain ⟨record', hrecord', hkind', -⟩ := hgrows.records p record hrecord
  exact ⟨record', hrecord', hkind'.trans hkind⟩

theorem IsDaemon.grows {ownerToken : Option String} (h : IsDaemon s p ownerToken)
    (hgrows : Grows s s') : IsDaemon s' p ownerToken := by
  obtain ⟨config, logLevel, foreground, hkind⟩ := h
  exact ⟨config, logLevel, foreground, hkind.grows hgrows⟩

theorem IsLaunch.grows {metadata : EngineLockMetadata} (h : IsLaunch nonce s metadata)
    (hgrows : Grows s s') : IsLaunch nonce s' metadata :=
  ⟨h.daemon.grows hgrows, h.instanceId.grows hgrows⟩

theorem Authorized.grows {message : RequestMessage} (h : Authorized nonce s p message)
    (hgrows : Grows s s') : Authorized nonce s' p message := by
  intro token htoken
  obtain ⟨own, rfl, hid⟩ | ⟨kind, hkind, hstops⟩ := h token htoken
  · exact .inl ⟨own, rfl, hid.grows hgrows⟩
  · exact .inr ⟨kind, hkind.grows hgrows, hstops⟩

theorem OwnRequest.grows {message : RequestMessage} (h : OwnRequest nonce s p message)
    (hgrows : Grows s s') : OwnRequest nonce s' p message := by
  obtain ⟨scope, hid⟩ := h
  exact ⟨scope, hid.grows hgrows⟩

theorem Accepts.grows {request : LifecycleRequest} (h : Accepts s p request)
    (hgrows : Grows s s') : Accepts s' p request := by
  obtain ⟨token, ownerToken, hrequest, hdaemon, hallowed⟩ := h
  exact ⟨token, ownerToken, hrequest, hdaemon.grows hgrows, hallowed⟩

theorem Truthful.grows {response : ResponseMessage} (h : Truthful nonce s p response)
    (hgrows : Grows s s') : Truthful nonce s' p response where
  request := by
    obtain ⟨x, hx, hid, haccepted⟩ := h.request
    exact ⟨x, hgrows.requests x hx, hid, fun hstatus => (haccepted hstatus).grows hgrows⟩
  status status hbody := (h.status status hbody).grows hgrows

theorem Answered.grows {metadata : EngineLockMetadata} (h : Answered s metadata)
    (hgrows : Grows s s') : Answered s' metadata := by
  obtain ⟨response, status, hmem, hbody, hid⟩ := h
  exact ⟨response, status, hgrows.responses _ hmem, hbody, hid⟩

theorem Reported.grows {state : ProbeState} {lockMetadata : Option EngineLockMetadata}
    (h : Reported nonce s state lockMetadata) (hgrows : Grows s s') :
    Reported nonce s' state lockMetadata := by
  intro hstate metadata hmetadata
  obtain ⟨hlaunch, hanswered⟩ := h hstate metadata hmetadata
  exact ⟨hlaunch.grows hgrows, hanswered.grows hgrows⟩

/-! ## The invariant -/

section Invariant

variable [LockMetadataJson]

/-- What is known of the JSON of metadata: the beginning of a text is not read as other metadata
than the one that it is the text of, and no text is no metadata. -/
structure LockMetadataJson.Lawful : Prop where
  read_beginning : ∀ metadata text read, text.toList <+: (lockText metadata).toList →
    LockMetadataJson.read text = some read → read = metadata
  read_empty : LockMetadataJson.read "" = none

/-- The process has the lock of a guard. The path names the locked file if it is kept, and the file
has the metadata of the guard. -/
def GuardHeld (nonce : Nonces) (kept : String → Prop) (s : HostState) (p : ℕ) (guard : LockGuard) :
    Prop :=
  guard.file.process = p ∧ ∃ i, s.volume.Locks guard.file i ∧
    (kept guard.path → s.volume.entry guard.path = some i) ∧
    ∀ metadata, guard.metadata = some metadata →
      s.volume.content i = lockText metadata ∧ IsLaunch nonce s metadata ∧ metadata.pid = p

/-- The invariant of the host. -/
structure HostState.Valid (nonce : Nonces) (kept : String → Prop) (s : HostState) : Prop where
  volume : s.volume.Valid
  /-- Metadata in a file is that of an engine. -/
  readable : ∀ i metadata, LockMetadataJson.read (s.volume.content i) = some metadata →
    IsLaunch nonce s metadata
  guards : ∀ p, ∀ guard ∈ s.guards p, GuardHeld nonce kept s p guard
  /-- The guards of a process have different files. -/
  distinct : ∀ p, ((s.guards p).map (·.file)).Nodup
  /-- Processes have guards only while they run. -/
  alive : ∀ p, ∀ guard ∈ s.guards p, Alive s p
  requests : ∀ x ∈ s.requests, OwnRequest nonce s x.1 x.2 ∧ Authorized nonce s x.1 x.2
  /-- The id of a request is not used again. -/
  requestIds : (s.requests.map (·.2.requestId)).Nodup
  responses : ∀ x ∈ s.responses, Truthful nonce s x.1 x.2
  unborn : ∀ q, s.nextProcess ≤ q → s.processes q = none
  /-- Parents have started. -/
  parents : ∀ q record c, s.processes q = some record → record.parent = some c →
    ∃ parent, s.processes c = some parent ∧ parent.stage ≠ .created
  sequence : ∀ q, s.sequence q < 2 ^ 64
  /-- Ids are given to processes that there are. -/
  named : ∀ q, 0 < s.sequence q → q < s.nextProcess
  /-- A nonce is that of one process. -/
  nonces : ∀ q r, q < s.nextProcess → r < s.nextProcess → nonce q = nonce r → q = r
  /-- The token of a daemon is that of its parent, or of nobody. -/
  tokens : ∀ q record config logLevel foreground token, s.processes q = some record →
    record.kind = .daemon config logLevel foreground (some token) →
    (∃ c, record.parent = some c ∧ HasId nonce s c "tui-owner" token) ∨ Foreign nonce token
  /-- What a probe has printed is true. -/
  outputs : ∀ q record status, s.processes q = some record →
    record.stage = .ended (some (.ok (some status))) →
    Reported nonce s status.state status.lockMetadata

theorem HostState.Valid.unborn_next (h : s.Valid nonce kept) : s.processes s.nextProcess = none :=
  h.unborn _ le_rfl

/-! ## Rely and promise -/

/-- What a process finds changed by the others. -/
structure Rely (kept : String → Prop) (p : ℕ) (s s' : HostState) : Prop where
  spares : s.volume.Spares kept (·.process = p) s'.volume
  guards : s'.guards p = s.guards p
  sequence : s'.sequence p = s.sequence p
  grows : Grows s s'
  /-- The requests of the process are its own. -/
  requests : ∀ message, (p, message) ∈ s'.requests → (p, message) ∈ s.requests
  /-- Nobody else ends a process that runs. -/
  running : ∀ record, s.processes p = some record → record.stage = .running →
    s'.processes p = some record
  /-- The children are those that the process has started. -/
  children : ∀ q record', s'.processes q = some record' → record'.parent = some p →
    ∃ record, s.processes q = some record ∧ record.parent = some p ∧ record.kind = record'.kind ∧
      (record.stage = .reaped → record'.stage = .reaped)

omit [LockMetadataJson] in
theorem Rely.refl (s : HostState) : Rely kept p s s where
  spares := .refl _
  guards := rfl
  sequence := rfl
  grows := .refl s
  requests _ h := h
  running _ h _ := h
  children _ record h hparent := ⟨record, h, hparent, rfl, id⟩

omit [LockMetadataJson] in
theorem Rely.trans (h : Rely kept p s s') (h' : Rely kept p s' s'') : Rely kept p s s'' where
  spares := h.spares.trans h'.spares
  guards := h'.guards.trans h.guards
  sequence := h'.sequence.trans h.sequence
  grows := h.grows.trans h'.grows
  requests message hmem := h.requests message (h'.requests message hmem)
  running record hrecord hrunning := h'.running record (h.running record hrecord hrunning) hrunning
  children q record'' hrecord'' hparent := by
    obtain ⟨record', hrecord', hparent', hkind', hreaped'⟩ := h'.children q record'' hrecord'' hparent
    obtain ⟨record, hrecord, hparent, hkind, hreaped⟩ := h.children q record' hrecord' hparent'
    exact ⟨record, hrecord, hparent, hkind.trans hkind', hreaped' ∘ hreaped⟩

/-- The file is one of the process, but of none of its guards. -/
def OwnFile (s : HostState) (p : ℕ) (file : OpenFile) : Prop :=
  file.process = p ∧ ∀ guard ∈ s.guards p, guard.file ≠ file

/-- The process has the lock of an engine. -/
def HasEngineLock (s : HostState) (p : ℕ) : Prop :=
  ∃ guard ∈ s.guards p, ∃ metadata, guard.metadata = some metadata

/-- The process has the lock of a database. -/
def HasDatabaseLock (s : HostState) (p : ℕ) (data : String) : Prop :=
  ∃ guard ∈ s.guards p, guard.path = databaseLock data

/-- The locks that a step of a start relies on. -/
def StartupStep.Covered (s : HostState) (p : ℕ) (step : StartupStep) : Prop :=
  HasEngineLock s p ∧
    match step with
    | .recoverPendingTimezone data _ _ => HasDatabaseLock s p data
    | .startDatabase data _ => HasDatabaseLock s p data
    | _ => True

/-- What a client knows of the engine that it takes for its own, or not. -/
def ReadyHeld (nonce : Nonces) (s : HostState) (p : ℕ) (ready : ReadyDaemon) : Prop :=
  match ready.ownership with
  | .owned ownerToken foreground => ReapedBut s p (some foreground.child) ∧
    ∃ metadata, ready.probe.lockMetadata = some metadata ∧ IsLaunch nonce s metadata ∧
      Answered s metadata ∧ metadata.pid = foreground.child ∧ metadata.ownerToken = some ownerToken ∧
      HasId nonce s p "tui-owner" ownerToken ∧
      ∃ record, s.processes foreground.child = some record ∧ record.parent = some p
  | .adopted => ReapedBut s p none
  | .direct => False

/-- What a process promises of its calls. -/
def Promised (nonce : Nonces) (kept : String → Prop) (p : ℕ) (s : HostState) : HostCall → Prop
  | .tryLock file _ | .unlock file | .close file => OwnFile s p file
  | .truncate file => OwnFile s p file ∧ ∃ i, s.volume.Locks file i
  | .write file text => OwnFile s p file ∧ ∃ i metadata, s.volume.Locks file i ∧
      IsLaunch nonce s metadata ∧
      (s.volume.content i ++ text).toList <+: (lockText metadata).toList
  | .hold guard => GuardHeld nonce kept s p guard ∧ ∀ other ∈ s.guards p, other.file ≠ guard.file
  | .startup step => step.Covered s p
  | .receive _ => HasEngineLock s p ∧ ∃ data, HasDatabaseLock s p data
  | .respond response => Truthful nonce s p response
  | .send message => Authorized nonce s p message ∧ ∃ scope, FreshId nonce s p scope message.requestId
  | .spawnDaemon _ ownerToken => HasId nonce s p "tui-owner" ownerToken
  | .ready ready => ready.probe.state = .running ∧ ReadyHeld nonce s p ready
  | _ => True

/-- What processes promise each other. -/
def hostSharing (nonce : Nonces) (kept : String → Prop) :
    Sharing ℕ HostState HostCall HostCall.Reply where
  effect := hostEffect nonce
  invariant := HostState.Valid nonce kept
  rely := Rely kept
  rely_refl _ s := .refl s
  rely_trans _ _ _ _ h h' := h.trans h'
  promised := Promised nonce kept

/-- What a process promises of its end. -/
structure ProcessPost (nonce : Nonces) (p : ℕ) (result : ExitValue) (s : HostState) : Prop where
  output : ∀ status, result = .ok (some status) →
    Reported nonce s status.state status.lockMetadata
  reaped : ∀ kind, IsKind s p kind → kind.IsSession → ReapedBut s p none

end Invariant

end WeatherApp.Host
