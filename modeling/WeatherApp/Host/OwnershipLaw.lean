import WeatherApp.Engine.LaunchLaw
import WeatherApp.Host.Life
import WeatherApp.Renderer.SupervisorLaw

/-!
# One engine for a lock, and owners of their own engines

What holds of all processes of the application together, in every interleaving, with crashes at any
time: the lock of an engine excludes others for as long as its path is kept, what a probe reports is
true, a client takes for its own only the engine of its own daemon, and an engine is stopped only by
its owner or by a command to stop it.

## Main results

* `hostSound`: the processes may rely on each other.
* `guard_unique`, `engines_exclusive`, `databases_exclusive`: mutual exclusion.
* `engine_lock_published`: the lock file of an engine has its metadata.
* `probe_reports_engine`: what a probe has printed.
* `ready_engine_owned`: what a client knows of a ready engine.
* `shutdown_accepted_of_owner`: who stops an engine.
* `session_reaps_daemons`: the end of a session.
* `response_answers_request`: a response answers one request.
-/

namespace WeatherApp.Host

/-! ## A run

A client that finds no engine starts a daemon, owns its engine, and stops it at the end. The run is
played move by move, with replies as they are when nothing fails. -/

section Sample

/-- The processes of a host with their programs. -/
abbrev HostThreads := Threads ℕ HostState HostCall HostCall.Reply ExitValue

/-- UUIDs that differ for the first processes. -/
def sampleNonce (p : ℕ) : Uuid :=
  ⟨Nat.digitChar (p % 16) :: "0000000-0000-4000-8000-000000000000".toList,
    congrArg Nat.succ (by decide : "0000000-0000-4000-8000-000000000000".toList.length = 35)⟩

/-- The token of the client. -/
def sampleToken : String := correlationId "tui-owner" (sampleNonce 0) 0

/-- The metadata of the engine. -/
def sampleLaunch : EngineLockMetadata where
  version := 1
  pid := 2
  instanceId := correlationId "engine-instance" (sampleNonce 2) 0
  ownerToken := some sampleToken
  startedAtUnixMs := 1788000000000
  configPath := "/home/me/weather.toml"

/-- The JSON of the metadata of the engine. -/
def sampleLaunchText : String :=
  "\x7b\"version\":1,\"pid\":2," ++
  "\"instance_id\":\"engine-instance-20000000-0000-4000-8000-000000000000-0000000000000000\"," ++
  "\"owner_token\":\"tui-owner-00000000-0000-4000-8000-000000000000-0000000000000000\"," ++
  "\"started_at_unix_ms\":1788000000000,\"config_path\":\"/home/me/weather.toml\"\x7d"

/-- JSON as it is for the metadata of the engine. -/
@[reducible] def sampleJson : LockMetadataJson where
  pieces metadata := if metadata = sampleLaunch then [sampleLaunchText] else ["?"]
  read text := if text = sampleLaunchText ++ "\n" then some sampleLaunch else none

set_option maxRecDepth 100000 in
theorem sampleJson_lawful : @LockMetadataJson.Lawful sampleJson := by
  refine @LockMetadataJson.Lawful.mk sampleJson (fun metadata text read hbegins hread => ?_) ?_
  · obtain ⟨rfl, hread⟩ := Option.ite_none_right_eq_some.1 hread
    obtain rfl := Option.some.inj hread
    by_contra hne
    -- the text of other metadata is too short
    have hpieces : @LockMetadataJson.pieces sampleJson metadata = ["?"] := if_neg (Ne.symm hne)
    have hother : @lockText sampleJson metadata = "?\n" := by
      unfold lockText
      rw [hpieces]
      decide +kernel
    rw [hother] at hbegins
    have hlength := hbegins.length_le
    revert hlength
    decide +kernel
  · exact if_neg (by decide +kernel)

/-- A reply to a call, as it is when nothing fails. -/
def sampleReply (p : ℕ) (s : HostState) : (c : HostCall) → Option c.Reply
  | .createParent _ => some (.ok ⟨⟩)
  | .openFile path create =>
    if create ∨ (s.volume.entry path).isSome then some (.ok ⟨p, s.volume.opened⟩)
    else some (.error ⟨.notFound, "not found"⟩)
  | .metadata _ => some (.ok (.ok 0))
  | .tryClone _ => some (.ok ⟨⟩)
  | .identify file => (s.volume.inode file).map .ok
  | .identifyPath path => (s.volume.entry path).map .ok
  | .tryLock file isExclusive =>
    if (s.lockFile file isExclusive).isSome then some (.ok ⟨⟩)
    else some (.error ⟨.wouldBlock, "would block"⟩)
  | .unlock _ | .close _ | .hold _ | .giveUp _ | .sleep | .respond _ | .closeClient | .kill _
  | .wait _ | .ready _ => some ⟨⟩
  | .seekStart _ | .truncate _ | .write _ _ | .syncData _ => some (.ok ⟨⟩)
  | .readToEnd file => (s.volume.inode file).map fun i => .ok (s.volume.content i)
  | .now => some 0
  | .systemTime => some 1788000000000000000
  | .unixTimestampMs => some (.ok 1788000000000)
  | .correlationId scope => some (correlationId scope (sampleNonce p) (s.sequence p))
  | .absolutePath path | .normalizePath path => some (.ok path)
  | .defaultConfigFile => some (.ok "/home/me/weather.toml")
  | .loadOrDefault _ => some (.ok .default)
  | .configureLogging _ | .resolveHmacKey | .send _ | .connect _ _ | .runConnected => some (.ok ⟨⟩)
  | .startup (.loadForEngineStartup _) => some (.ok .default)
  | .startup (.canonicalizeDatabase path) => some (.ok path)
  | .startup (.recoverPendingTimezone _ _ config) => some (.ok config)
  | .startup (.ensureConfigFile _) | .startup (.record _ _) | .startup (.createProvider _)
  | .startup (.createDbDirectory _) | .startup (.startDatabase _ _) => some (.ok ⟨⟩)
  | .reachable _ => some (s.guards 2 ≠ [])
  | .bind rpcEndpoint pubEndpoint => some (.ok (rpcEndpoint, pubEndpoint))
  | .receive _ =>
    match s.requests.find? fun x => ¬ s.responses.any fun y => y.2.requestId = x.2.requestId with
    | some x => some (.request x.2)
    | none =>
      if s.responses.any fun y => y.2.status = .accepted then some (.drained none) else none
  | .shutdownDatabase => some (.ok ⟨⟩, true)
  | .await requestId =>
    (s.responses.find? fun y => y.2.requestId = requestId).map fun y => some y.2
  | .spawnProbe _ | .spawnDaemon _ _ => some (.ok s.nextProcess)
  | .output q =>
    match s.processes q with
    | some ⟨_, _, .ended (some (.ok (some status)))⟩ => some (.ok (.ofStatus status))
    | _ => none
  | .tryWait q => some (.ok (s.reap p q).isSome)
  | .stall => none

/-- A move of the run. -/
inductive SampleMove where
  /-- A user starts a client. -/
  | user (config : Option String)
  /-- A process that another one has created starts. -/
  | created (p : ℕ)
  /-- A process makes some calls. -/
  | calls (p count : ℕ)
  /-- A process ends. -/
  | finish (p : ℕ)

/-- A process makes a call. -/
def sampleCall (p : ℕ) (t : HostThreads) : Option HostThreads :=
  match t.program p with
  | some (.call c k) =>
    (sampleReply p t.shared c).bind fun r =>
      (c.effect sampleNonce p t.shared r).map fun s =>
        ⟨s, Function.update t.program p (some (k r))⟩
  | _ => none

/-- A process makes some calls. -/
def sampleCalls (p : ℕ) : ℕ → HostThreads → Option HostThreads
  | 0, t => some t
  | count + 1, t => (sampleCall p t).bind (sampleCalls p count)

/-- A user starts a client. -/
def sampleUser (config : Option String) (t : HostThreads) : Option HostThreads :=
  if (t.program t.shared.nextProcess).isNone ∧ t.shared.FreshNonce sampleNonce then
    some ⟨t.shared.create (.managed config) none .running,
      Function.update t.program t.shared.nextProcess
        (some (@ProcessKind.program sampleJson 3 t.shared.nextProcess (.managed config)))⟩
  else none

/-- A process that another one has created starts. -/
def sampleCreated (p : ℕ) (t : HostThreads) : Option HostThreads :=
  match t.shared.processes p with
  | some record =>
    if (t.program p).isNone ∧ record.stage = .created then
      some ⟨t.shared.setStage p record .running,
        Function.update t.program p (some (@ProcessKind.program sampleJson 3 p record.kind))⟩
    else none
  | none => none

/-- A process ends. -/
def sampleFinish (p : ℕ) (t : HostThreads) : Option HostThreads :=
  match t.program p, t.shared.processes p with
  | some (.ret result), some record =>
    some ⟨t.shared.endProcess p record (some result), Function.update t.program p none⟩
  | _, _ => none

/-- The processes after a move. -/
def SampleMove.play (t : HostThreads) : SampleMove → Option HostThreads
  | user config => sampleUser config t
  | created p => sampleCreated p t
  | calls p count => sampleCalls p count t
  | finish p => sampleFinish p t

/-- The processes after some moves. -/
def playMoves : List SampleMove → HostThreads → Option HostThreads
  | [], t => some t
  | move :: rest, t => (move.play t).bind (playMoves rest)

/-- A host on which no path is removed or replaced. -/
abbrev sampleSystem : LabelledSystem HostThreads (ThreadStep ℕ HostCall HostCall.Reply) :=
  @hostSystem sampleJson sampleNonce fun _ => True

theorem reachable_sampleCall {p : ℕ} {t t' : HostThreads} (h : sampleSystem.Reachable t)
    (hcall : sampleCall p t = some t') : sampleSystem.Reachable t' := by
  unfold sampleCall at hcall
  split at hcall
  next c k hprogram =>
    obtain ⟨r, -, heffect⟩ := Option.bind_eq_some_iff.1 hcall
    obtain ⟨s, hs, rfl⟩ := Option.map_eq_some_iff.1 heffect
    have hstep : sampleSystem.step t (.call p ⟨c, r⟩)
        ⟨s, Function.update t.program p (some (k r))⟩ := .call hprogram hs
    exact h.step hstep
  next => cases hcall

theorem reachable_sampleCalls {p count : ℕ} {t t' : HostThreads} (h : sampleSystem.Reachable t)
    (hcalls : sampleCalls p count t = some t') : sampleSystem.Reachable t' := by
  induction count generalizing t with
  | zero =>
    obtain rfl := Option.some.inj hcalls
    exact h
  | succ count ih =>
    obtain ⟨t₁, hfirst, hrest⟩ := Option.bind_eq_some_iff.1 hcalls
    exact ih (reachable_sampleCall h hfirst) hrest

theorem reachable_sampleUser {config : Option String} {t t' : HostThreads}
    (h : sampleSystem.Reachable t) (huser : sampleUser config t = some t') :
    sampleSystem.Reachable t' := by
  obtain ⟨⟨hnone, hfresh⟩, hsome⟩ := Option.ite_none_right_eq_some.1 huser
  obtain rfl := Option.some.inj hsome
  exact h.step (.start (Option.isNone_iff_eq_none.1 hnone)
    (@HostStart.user sampleJson sampleNonce _ t.shared (.managed config) 3 rfl hfresh trivial))

theorem reachable_sampleCreated {p : ℕ} {t t' : HostThreads} (h : sampleSystem.Reachable t)
    (hcreated : sampleCreated p t = some t') : sampleSystem.Reachable t' := by
  unfold sampleCreated at hcreated
  split at hcreated
  next record hrecord =>
    obtain ⟨⟨hnone, hstage⟩, hsome⟩ := Option.ite_none_right_eq_some.1 hcreated
    obtain rfl := Option.some.inj hsome
    exact h.step (.start (Option.isNone_iff_eq_none.1 hnone)
      (@HostStart.created sampleJson sampleNonce p t.shared record 3 hrecord hstage))
  next => cases hcreated

theorem reachable_sampleFinish {p : ℕ} {t t' : HostThreads} (h : sampleSystem.Reachable t)
    (hfinish : sampleFinish p t = some t') : sampleSystem.Reachable t' := by
  unfold sampleFinish at hfinish
  split at hfinish
  next result record hprogram hrecord =>
    obtain rfl := Option.some.inj hfinish
    exact h.step (.finish hprogram ⟨record, hrecord, rfl⟩)
  next => cases hfinish

theorem reachable_play {move : SampleMove} {t t' : HostThreads} (h : sampleSystem.Reachable t)
    (hplay : move.play t = some t') : sampleSystem.Reachable t' := by
  cases move with
  | user config => exact reachable_sampleUser h hplay
  | created p => exact reachable_sampleCreated h hplay
  | calls p count => exact reachable_sampleCalls h hplay
  | finish p => exact reachable_sampleFinish h hplay

theorem reachable_playMoves {moves : List SampleMove} {t t' : HostThreads}
    (h : sampleSystem.Reachable t) (hplay : playMoves moves t = some t') :
    sampleSystem.Reachable t' := by
  induction moves generalizing t with
  | nil =>
    obtain rfl := Option.some.inj hplay
    exact h
  | cons move rest ih =>
    obtain ⟨t₁, hfirst, hrest⟩ := Option.bind_eq_some_iff.1 hplay
    exact ih (reachable_play h hfirst) hrest

/-- The next call of a process. -/
def nextCall (t : HostThreads) (p : ℕ) : Option HostCall :=
  match t.program p with
  | some (.call c _) => some c
  | _ => none

theorem program_of_nextCall {t : HostThreads} {p : ℕ} {c : HostCall}
    (h : nextCall t p = some c) : ∃ k, t.program p = some (.call c k) := by
  unfold nextCall at h
  split at h
  next c' k hprogram =>
    obtain rfl := Option.some.inj h
    exact ⟨k, hprogram⟩
  next => cases h

/-- The ready engine of a client that is about to run. -/
def nextReady (t : HostThreads) (p : ℕ) : Option ReadyDaemon :=
  match nextCall t p with
  | some (.ready ready) => some ready
  | _ => none

theorem nextCall_of_nextReady {t : HostThreads} {p : ℕ} {ready : ReadyDaemon}
    (h : nextReady t p = some ready) : nextCall t p = some (.ready ready) := by
  unfold nextReady at h
  split at h
  next ready' hcall =>
    obtain rfl := Option.some.inj h
    exact hcall
  next => cases h

/-- The result of a process that is about to end. -/
def returned (t : HostThreads) (p : ℕ) : Option ExitValue :=
  match t.program p with
  | some (.ret result) => some result
  | _ => none

theorem program_of_returned {t : HostThreads} {p : ℕ} {result : ExitValue}
    (h : returned t p = some result) : t.program p = some (.ret result) := by
  unfold returned at h
  split at h
  next result' hprogram =>
    obtain rfl := Option.some.inj h
    exact hprogram
  next => cases h

/-- What a process that has ended has printed. -/
def printed (t : HostThreads) (p : ℕ) : Option ProbeStatus :=
  match t.shared.processes p with
  | some ⟨_, _, .ended (some (.ok (some status)))⟩ => some status
  | _ => none

theorem ended_of_printed {t : HostThreads} {p : ℕ} {status : ProbeStatus}
    (h : printed t p = some status) : ∃ record, t.shared.processes p = some record ∧
      record.stage = .ended (some (.ok (some status))) := by
  unfold printed at h
  split at h
  next kind parent status' hrecord =>
    obtain rfl := Option.some.inj h
    exact ⟨_, hrecord, rfl⟩
  next => cases h

/-- The lock of the engine. -/
def sampleGuard : LockGuard := ⟨"/home/me/engine.lock", some sampleLaunch, ⟨2, 0⟩⟩

/-- Some moves of the run, and what is found after them. -/
abbrev SampleStage := List SampleMove × (HostThreads → Bool)

/-- Whether something is found after the moves of each stage. -/
def playStages : List SampleStage → HostThreads → Bool
  | [], _ => true
  | (moves, found) :: rest, t => (playMoves moves t).any fun t' => found t' && playStages rest t'

/-- The engine of the daemon is about to open the database. -/
def sampleOpening : SampleStage :=
  ([.user none, .calls 0 1, .created 1, .calls 1 8, .finish 1, .calls 0 6, .created 2, .calls 2 41],
    fun t => nextCall t 2 = some (.startup (.recoverPendingTimezone "/home/me/weather.db"
      "/home/me/weather.toml" .default)))

/-- The engine serves. -/
def sampleServing : SampleStage :=
  ([.calls 2 3], fun t => nextCall t 2 = some (.receive "tcp://127.0.0.1:44445") ∧
    sampleGuard ∈ t.shared.guards 2)

/-- A probe has found the engine. -/
def sampleProbed : SampleStage :=
  ([.created 3, .calls 3 18, .calls 2 2, .calls 3 15, .finish 3],
    fun t => ((printed t 3).any fun status =>
      status.state = .running ∧ status.lockMetadata = some sampleLaunch) ∧
      ∃ x ∈ t.shared.responses, x.1 = 2)

/-- The client takes the engine for its own. -/
def sampleReady : SampleStage :=
  ([.calls 0 1], fun t => (nextReady t 0).any fun ready =>
    ready.ownership = .owned sampleToken ⟨2, false⟩)

/-- The client has asked the engine to stop, and the engine has accepted. -/
def sampleStopping : SampleStage :=
  ([.calls 0 5, .calls 2 2], fun t =>
    ∃ x ∈ t.shared.responses, x.1 = 2 ∧ x.2.status = .accepted)

/-- The session of the client is over. -/
def sampleStopped : SampleStage :=
  ([.calls 2 8, .finish 2, .calls 0 5], fun t => returned t 0 = some (.ok none) ∧
    ∃ record ∈ t.shared.processes 0, record.kind = .managed none)

/-- The whole run. -/
def sampleStages : List SampleStage :=
  [sampleOpening, sampleServing, sampleProbed, sampleReady, sampleStopping, sampleStopped]

set_option maxRecDepth 100000 in
theorem playStages_sampleStages :
    playStages sampleStages ⟨.initial, fun _ => none⟩ = true := by
  decide +kernel

/-- What is found after some moves is found in a state that can be reached. -/
theorem exists_of_playStages {stages : List SampleStage} {t : HostThreads}
    (h : sampleSystem.Reachable t) (hplay : playStages stages t = true) :
    ∀ stage ∈ stages, ∃ t', sampleSystem.Reachable t' ∧ stage.2 t' = true := by
  induction stages generalizing t with
  | nil => exact fun stage hstage => absurd hstage List.not_mem_nil
  | cons first rest ih =>
    obtain ⟨moves, found⟩ := first
    obtain ⟨t₁, hmoves, hboth⟩ := (Option.any_eq_true _ _).1 hplay
    obtain ⟨hfound, hrest⟩ := Bool.and_eq_true_iff.1 hboth
    have h₁ := reachable_playMoves h hmoves
    exact List.forall_mem_cons.2 ⟨⟨t₁, h₁, hfound⟩, ih h₁ hrest⟩

theorem exists_sample {stage : SampleStage} (hstage : stage ∈ sampleStages) :
    ∃ t, sampleSystem.Reachable t ∧ stage.2 t = true := by
  have hstart : sampleSystem.Reachable ⟨.initial, fun _ => none⟩ :=
    ⟨[], .start ⟨rfl, fun _ => rfl⟩⟩
  exact exists_of_playStages hstart playStages_sampleStages stage hstage

end Sample

variable [LockMetadataJson] {nonce : Nonces} {kept : String → Prop} {p q : ℕ} {s s' : HostState}

/-! ## Every process keeps its promises -/

omit [LockMetadataJson] in
theorem IsKind.unique {kind kind' : ProcessKind} (h : IsKind s p kind) (h' : IsKind s p kind') :
    kind = kind' := by
  obtain ⟨record, hrecord, rfl⟩ := h
  obtain ⟨record', hrecord', rfl⟩ := h'
  obtain rfl := Option.some.inj (hrecord.symm.trans hrecord')
  rfl

/-- A program that prints nothing. -/
theorem silent_holds {kind : ProcessKind} {program : HostM Unit} {B : HostState → Prop}
    (hkind : IsKind s p kind)
    (h : HostHolds nonce kept p s program.run (Outcome (fun _ => B) B))
    (hB : ∀ s', kind.IsSession → B s' → ReapedBut s' p none) :
    HostHolds nonce kept p s
      (ExceptT.run do
        program
        return none : HostProgram ExitValue) (ProcessPost nonce p) := by
  have hpost : ∀ (s' : HostState) (result : ExitValue), (∀ status, result ≠ .ok (some status)) →
      Grows s s' → B s' → ProcessPost nonce p result s' := by
    intro s' result hsilent hgrows hB'
    refine ⟨fun status hstatus => absurd hstatus (hsilent status), fun other hother hsession => ?_⟩
    obtain rfl := (hkind.grows hgrows).unique hother
    exact hB s' hsession hB'
  -- the result of the program is that of the process, without an output
  refine hostHolds_bind (Process.Holds.later (HostHolds.grows h)) fun result s₁ _ _ hlater => ?_
  cases result with
  | ok =>
    refine hostHolds_return fun s₂ hrely hvalid => ?_
    obtain ⟨hgrows, hB₂⟩ := hlater s₂ hrely hvalid
    exact hpost s₂ _ (fun status hstatus => by cases hstatus) hgrows hB₂
  | error e =>
    refine hostHolds_return fun s₂ hrely hvalid => ?_
    obtain ⟨hgrows, hB₂⟩ := hlater s₂ hrely hvalid
    exact hpost s₂ _ (fun status hstatus => by cases hstatus) hgrows hB₂

/-- Every process keeps its promises, whatever it is. -/
theorem program_holds (rounds : ℕ) {kind : ProcessKind}
    (hkind : IsKind s p kind) (hchildren : ReapedBut s p none) :
    HostHolds nonce kept p s (kind.program rounds p) (ProcessPost nonce p) := by
  cases kind with
  | daemon config logLevel foreground ownerToken =>
    exact silent_holds hkind (runDaemon_holds rounds config logLevel foreground
      ⟨config, logLevel, foreground, hkind⟩) fun _ hsession => hsession.elim
  | probe config =>
    refine hostHolds_bind (Process.Holds.later (HostHolds.grows (probeStatus_holds config)))
      fun result s₁ _ _ hlater => ?_
    cases result with
    | ok status =>
      refine hostHolds_return fun s₂ hrely hvalid => ?_
      obtain ⟨hgrows, hreported⟩ := hlater s₂ hrely hvalid
      refine ⟨fun other hother => ?_, fun other hother hsession => ?_⟩
      · obtain rfl := Option.some.inj (Except.ok.inj hother)
        exact hreported
      · obtain rfl := (hkind.grows hgrows).unique hother
        exact hsession.elim
    | error e =>
      refine hostHolds_return fun s₂ hrely hvalid => ?_
      obtain ⟨hgrows, -⟩ := hlater s₂ hrely hvalid
      refine ⟨fun other hother => (by cases hother), fun other hother hsession => ?_⟩
      obtain rfl := (hkind.grows hgrows).unique hother
      exact hsession.elim
  | managed config =>
    exact silent_holds hkind (runManaged_holds rounds config hchildren) fun _ _ h => h
  | direct rpcEndpoint pubEndpoint =>
    exact silent_holds hkind (runDirect_holds rounds rpcEndpoint pubEndpoint hchildren)
      fun _ _ h => h
  | gui config => exact silent_holds hkind (runGui_holds rounds config hchildren) fun _ _ h => h
  | managedStop config =>
    exact silent_holds hkind (runManagedStop_holds config hkind trivial) fun _ h => h.elim
  | directStop rpcEndpoint pubEndpoint =>
    exact silent_holds hkind (stopEngine_holds rpcEndpoint pubEndpoint hkind trivial)
      fun _ h => h.elim
  | stopDaemon config =>
    exact silent_holds hkind (stopDaemon_holds rounds config hkind trivial)
      fun _ h => h.elim

theorem valid_initial (hlawful : LockMetadataJson.Lawful) :
    HostState.initial.Valid nonce kept where
  volume := Volume.valid_empty ""
  readable i metadata hread := by
    change LockMetadataJson.read "" = some metadata at hread
    rw [hlawful.read_empty] at hread
    cases hread
  guards p guard hmem := absurd hmem List.not_mem_nil
  distinct p := List.nodup_nil
  alive p guard hmem := absurd hmem List.not_mem_nil
  requests x hx := absurd hx List.not_mem_nil
  requestIds := List.nodup_nil
  responses x hx := absurd hx List.not_mem_nil
  unborn q _ := rfl
  parents q record parent hrecord := by cases hrecord
  sequence q := by norm_num [HostState.initial]
  named q hq := absurd hq (Nat.lt_irrefl _)
  nonces q r hq := absurd hq (Nat.not_lt_zero q)
  tokens q record config logLevel foreground token hrecord := by cases hrecord
  outputs q record status hrecord := by cases hrecord

/-- The processes may rely on each other. -/
theorem hostSound (hlawful : LockMetadataJson.Lawful) :
    Sharing.Sound (hostSharing nonce kept) (hostLife nonce kept) (fun p s => Alive s p)
      (ProcessPost nonce) where
  init := by
    rintro s rfl
    exact valid_initial hlawful
  start p s program s' hvalid hstart := by
    -- a process that starts has no children yet
    obtain ⟨hleaves, halive, rounds, kind, hkind, rfl, hnone⟩ := leaves_start hvalid hstart
    refine ⟨hleaves, halive, program_holds rounds hkind ?_⟩
    exact fun q record hrecord hparent => absurd hparent (hnone q record hrecord)
  call p s c r s' hvalid halive hpromised heffect := by
    have hchange : Change nonce p s c s' := change_of_effect heffect
    refine ⟨⟨valid_change hlawful hvalid halive hpromised hchange,
      fun q hq => rely_change hvalid hpromised hchange hq⟩, ?_⟩
    obtain ⟨record, hrecord, hrunning⟩ := halive
    exact ⟨record, running_change (HostState.Valid.unborn_next hvalid) hrecord hrunning hchange,
      hrunning⟩
  finish p result s s' hvalid halive hpost hend :=
    leaves_end hvalid halive (fun status hstatus => hpost.output status (Option.some.inj hstatus))
      hend
  crash p s s' hvalid halive hend := leaves_end hvalid halive (fun _ h => by cases h) hend
  other s s' hvalid hchange :=
    ⟨valid_hostChange hvalid hchange, fun q => rely_hostChange hvalid hchange q⟩
  alive := by
    rintro p s s' hrely ⟨record, hrecord, hrunning⟩
    exact ⟨record, hrely.running record hrecord hrunning, hrunning⟩

/-! ## What holds in every interleaving -/

section System

variable {t : Threads ℕ HostState HostCall HostCall.Reply ExitValue}

theorem valid_of_reachable (hlawful : LockMetadataJson.Lawful)
    (h : (hostSystem nonce kept).Reachable t) : t.shared.Valid nonce kept :=
  ((hostSound hlawful).reachable h).1

theorem promised_of_reachable (hlawful : LockMetadataJson.Lawful)
    (h : (hostSystem nonce kept).Reachable t) {c : HostCall}
    {k : c.Reply → HostProgram ExitValue} (hprogram : t.program p = some (.call c k)) :
    Promised nonce kept p t.shared c :=
  (hostSound hlawful).promised h hprogram

/-- Two guards for one path that is kept are the same. -/
theorem HostState.Valid.guard_eq (h : s.Valid nonce kept) {guard guard' : LockGuard}
    (hmem : guard ∈ s.guards p) (hmem' : guard' ∈ s.guards q) (hkept : kept guard.path)
    (hpath : guard'.path = guard.path) : q = p ∧ guard' = guard := by
  obtain ⟨hprocess, i, hlock, hentry, -⟩ := h.guards p guard hmem
  obtain ⟨hprocess', j, hlock', hentry', -⟩ := h.guards q guard' hmem'
  rw [hpath] at hentry'
  -- the path names one file, and the file has one lock
  obtain rfl := Option.some.inj ((hentry hkept).symm.trans (hentry' hkept))
  have hfile : guard'.file = guard.file := hlock'.unique hlock
  obtain rfl : q = p := by rw [← hprocess', ← hprocess, hfile]
  exact ⟨rfl, List.inj_on_of_nodup_map (h.distinct q) hmem' hmem hfile⟩

/-- At most one process has a guard for a path that is kept. -/
theorem guard_unique (hlawful : LockMetadataJson.Lawful)
    (h : (hostSystem nonce kept).Reachable t) {guard guard' : LockGuard}
    (hmem : guard ∈ t.shared.guards p) (hmem' : guard' ∈ t.shared.guards q)
    (hkept : kept guard.path) (hpath : guard'.path = guard.path) : q = p ∧ guard' = guard :=
  (valid_of_reachable hlawful h).guard_eq hmem hmem' hkept hpath

omit [LockMetadataJson] in
theorem guard_unique_sample : ∃ t, sampleSystem.Reachable t ∧ sampleGuard ∈ t.shared.guards 2 ∧
    ∀ q, ∀ guard ∈ t.shared.guards q, guard.path = sampleGuard.path →
      q = 2 ∧ guard = sampleGuard := by
  obtain ⟨t, h, hfound⟩ : ∃ t, sampleSystem.Reachable t ∧ sampleServing.2 t = true :=
    exists_sample (by simp [sampleStages])
  obtain ⟨-, hmem⟩ := of_decide_eq_true hfound
  exact ⟨t, h, hmem, fun q guard hmem' hpath =>
    @guard_unique sampleJson _ _ _ _ _ sampleJson_lawful h _ _ hmem hmem' trivial hpath⟩

/-- The lock file of an engine has the metadata of the engine for as long as the engine has it. -/
theorem engine_lock_published (hlawful : LockMetadataJson.Lawful)
    (h : (hostSystem nonce kept).Reachable t)
    {guard : LockGuard} {launch : EngineLockMetadata} (hmem : guard ∈ t.shared.guards p)
    (hlaunch : guard.metadata = some launch) :
    launch.pid = p ∧ IsDaemon t.shared p launch.ownerToken ∧
      ∃ i, t.shared.volume.Locks guard.file i ∧ t.shared.volume.content i = lockText launch ∧
        (kept guard.path → t.shared.volume.entry guard.path = some i) := by
  obtain ⟨-, i, hlock, hentry, hmetadata⟩ :=
    (valid_of_reachable hlawful h).guards p guard hmem
  obtain ⟨hcontent, hgenuine, hpid⟩ := hmetadata launch hlaunch
  have hdaemon := hgenuine.daemon
  rw [hpid] at hdaemon
  exact ⟨hpid, hdaemon, i, hlock, hcontent, hentry⟩

omit [LockMetadataJson] in
theorem engine_lock_published_sample : ∃ t, sampleSystem.Reachable t ∧
    IsDaemon t.shared 2 (some sampleToken) ∧ ∃ i, t.shared.volume.Locks sampleGuard.file i ∧
      t.shared.volume.content i = @lockText sampleJson sampleLaunch ∧
      t.shared.volume.entry sampleGuard.path = some i := by
  obtain ⟨t, h, hfound⟩ : ∃ t, sampleSystem.Reachable t ∧ sampleServing.2 t = true :=
    exists_sample (by simp [sampleStages])
  obtain ⟨-, hmem⟩ := of_decide_eq_true hfound
  obtain ⟨-, hdaemon, i, hlock, hcontent, hentry⟩ :=
    @engine_lock_published sampleJson _ _ _ _ sampleJson_lawful h _ _ hmem rfl
  exact ⟨t, h, hdaemon, i, hlock, hcontent, hentry trivial⟩

/-- The calls of an engine that starts or serves. -/
def HostCall.IsEngineWork : HostCall → Prop
  | .startup _ | .receive _ => True
  | _ => False

/-- An engine that starts or serves has a lock, and nobody else has it if its path is kept. -/
theorem engines_exclusive (hlawful : LockMetadataJson.Lawful)
    (h : (hostSystem nonce kept).Reachable t) {c : HostCall}
    {k : c.Reply → HostProgram ExitValue} (hprogram : t.program p = some (.call c k))
    (hwork : c.IsEngineWork) :
    ∃ guard ∈ t.shared.guards p, (∃ launch, guard.metadata = some launch) ∧
      (kept guard.path → ∀ q, ∀ guard' ∈ t.shared.guards q, guard'.path = guard.path → q = p) := by
  have hvalid := valid_of_reachable hlawful h
  have hpromised := promised_of_reachable hlawful h hprogram
  have hlock : HasEngineLock t.shared p := by
    cases c with
    | startup step => exact hpromised.1
    | receive endpoint => exact hpromised.1
    | _ => exact absurd hwork id
  obtain ⟨guard, hmem, hlaunch⟩ := hlock
  exact ⟨guard, hmem, hlaunch, fun hkept q guard' hmem' hpath =>
    (hvalid.guard_eq hmem hmem' hkept hpath).1⟩

omit [LockMetadataJson] in
theorem engines_exclusive_sample : ∃ t, sampleSystem.Reachable t ∧
    nextCall t 2 = some (.receive "tcp://127.0.0.1:44445") ∧
    ∃ guard ∈ t.shared.guards 2, ∀ q, ∀ guard' ∈ t.shared.guards q,
      guard'.path = guard.path → q = 2 := by
  obtain ⟨t, h, hfound⟩ : ∃ t, sampleSystem.Reachable t ∧ sampleServing.2 t = true :=
    exists_sample (by simp [sampleStages])
  obtain ⟨hcall, -⟩ := of_decide_eq_true hfound
  obtain ⟨k, hprogram⟩ := program_of_nextCall hcall
  obtain ⟨guard, hmem, -, hunique⟩ :=
    @engines_exclusive sampleJson _ _ _ _ sampleJson_lawful h _ _ hprogram trivial
  exact ⟨t, h, hcall, guard, hmem, hunique trivial⟩

/-- The database that a step of a start opens. -/
def StartupStep.opens : StartupStep → Option String
  | .recoverPendingTimezone data _ _ | .startDatabase data _ => some data
  | _ => none

/-- A process that is about to open a database has its lock, and nobody else has. -/
theorem databases_exclusive (hlawful : LockMetadataJson.Lawful)
    (h : (hostSystem nonce kept).Reachable t) {step : StartupStep}
    {data : String} {next : (HostCall.startup step).Reply → HostProgram ExitValue}
    (hprogram : t.program p = some (.call (.startup step) next)) (hopens : step.opens = some data)
    (hkept : kept (databaseLock data)) :
    HasDatabaseLock t.shared p data ∧ ∀ q, HasDatabaseLock t.shared q data → q = p := by
  have hvalid := valid_of_reachable hlawful h
  have hcovered : step.Covered t.shared p := promised_of_reachable hlawful h hprogram
  have hlock : HasDatabaseLock t.shared p data := by
    cases step with
    | recoverPendingTimezone data' configPath config =>
      obtain rfl := Option.some.inj hopens
      exact hcovered.2
    | startDatabase data' timezone =>
      obtain rfl := Option.some.inj hopens
      exact hcovered.2
    | _ => cases hopens
  refine ⟨hlock, fun q hother => ?_⟩
  obtain ⟨guard, hmem, hpath⟩ := hlock
  obtain ⟨guard', hmem', hpath'⟩ := hother
  exact (hvalid.guard_eq hmem hmem' (hpath ▸ hkept) (hpath'.trans hpath.symm)).1

omit [LockMetadataJson] in
theorem databases_exclusive_sample : ∃ t, sampleSystem.Reachable t ∧
    HasDatabaseLock t.shared 2 "/home/me/weather.db" ∧
    ∀ q, HasDatabaseLock t.shared q "/home/me/weather.db" → q = 2 := by
  obtain ⟨t, h, hfound⟩ : ∃ t, sampleSystem.Reachable t ∧ sampleOpening.2 t = true :=
    exists_sample (by simp [sampleStages])
  obtain ⟨k, hprogram⟩ := program_of_nextCall (of_decide_eq_true hfound)
  exact ⟨t, h,
    @databases_exclusive sampleJson _ _ _ _ sampleJson_lawful h _ _ _ hprogram rfl trivial⟩

/-- When a probe has printed that an engine runs, with the metadata of a lock, the metadata is that
of an engine that was started, and this engine has answered. -/
theorem probe_reports_engine (hlawful : LockMetadataJson.Lawful)
    (h : (hostSystem nonce kept).Reachable t)
    {record : ProcessRecord} {status : ProbeStatus} {metadata : EngineLockMetadata}
    (hrecord : t.shared.processes q = some record)
    (hended : record.stage = .ended (some (.ok (some status)))) (hrunning : status.state = .running)
    (hmetadata : status.lockMetadata = some metadata) :
    IsLaunch nonce t.shared metadata ∧ Answered t.shared metadata :=
  (valid_of_reachable hlawful h).outputs q record status hrecord hended hrunning metadata
    hmetadata

omit [LockMetadataJson] in
theorem probe_reports_engine_sample : ∃ t, sampleSystem.Reachable t ∧
    IsLaunch sampleNonce t.shared sampleLaunch ∧ Answered t.shared sampleLaunch := by
  obtain ⟨t, h, hfound⟩ : ∃ t, sampleSystem.Reachable t ∧ sampleProbed.2 t = true :=
    exists_sample (by simp [sampleStages])
  obtain ⟨hreport, -⟩ := of_decide_eq_true hfound
  obtain ⟨status, hprinted, hstatus⟩ := (Option.any_eq_true _ _).1 hreport
  obtain ⟨hrunning, hmetadata⟩ := of_decide_eq_true hstatus
  obtain ⟨record, hrecord, hended⟩ := ended_of_printed hprinted
  exact ⟨t, h, @probe_reports_engine sampleJson _ _ _ _ sampleJson_lawful h _ _ _ hrecord hended
    hrunning hmetadata⟩

/-- A client with a ready engine owns the engine of its own daemon, which has answered with the
client's token in its lock, or has no daemon of its own left. -/
theorem ready_engine_owned (hlawful : LockMetadataJson.Lawful)
    (h : (hostSystem nonce kept).Reachable t) {ready : ReadyDaemon}
    {k : Unit → HostProgram ExitValue} (hprogram : t.program p = some (.call (.ready ready) k)) :
    ready.probe.state = .running ∧
      ((ready.ownership = .adopted ∧ ReapedBut t.shared p none) ∨
        ∃ ownerToken foreground metadata, ready.ownership = .owned ownerToken foreground ∧
          ReapedBut t.shared p (some foreground.child) ∧
          (∃ record, t.shared.processes foreground.child = some record ∧ record.parent = some p) ∧
          ready.probe.lockMetadata = some metadata ∧ metadata.pid = foreground.child ∧
          metadata.ownerToken = some ownerToken ∧ IsLaunch nonce t.shared metadata ∧
          Answered t.shared metadata) := by
  obtain ⟨hrunning, hheld⟩ := promised_of_reachable hlawful h hprogram
  refine ⟨hrunning, ?_⟩
  obtain ⟨probe, ownership⟩ := ready
  cases ownership with
  | direct => exact hheld.elim
  | adopted => exact .inl ⟨rfl, hheld⟩
  | owned ownerToken foreground =>
    obtain ⟨hreaped, metadata, hmetadata, hlaunch, hanswered, hpid, htoken, -, hchild⟩ := hheld
    exact .inr ⟨ownerToken, foreground, metadata, rfl, hreaped, hchild, hmetadata, hpid, htoken,
      hlaunch, hanswered⟩

omit [LockMetadataJson] in
theorem ready_engine_owned_sample : ∃ t, sampleSystem.Reachable t ∧ ∃ ready,
    nextReady t 0 = some ready ∧ ready.ownership = .owned sampleToken ⟨2, false⟩ ∧
      ∃ metadata, ready.probe.lockMetadata = some metadata ∧ metadata.pid = 2 ∧
        metadata.ownerToken = some sampleToken ∧ Answered t.shared metadata := by
  obtain ⟨t, h, hfound⟩ : ∃ t, sampleSystem.Reachable t ∧ sampleReady.2 t = true :=
    exists_sample (by simp [sampleStages])
  obtain ⟨ready, hnext, howned⟩ := (Option.any_eq_true _ _).1 hfound
  have hownership := of_decide_eq_true howned
  obtain ⟨k, hprogram⟩ := program_of_nextCall (nextCall_of_nextReady hnext)
  refine ⟨t, h, ready, hnext, hownership, ?_⟩
  obtain ⟨-, ⟨hadopted, -⟩ | ⟨token, foreground, metadata, hother, -, -, hmetadata, hpid, htoken, -,
    hanswered⟩⟩ := @ready_engine_owned sampleJson _ _ _ _ sampleJson_lawful h _ _ hprogram
  · rw [hownership] at hadopted
    cases hadopted
  · rw [hownership] at hother
    cases hother
    exact ⟨metadata, hmetadata, hpid, htoken, hanswered⟩

/-- A response answers one request, and no other request has its id. -/
theorem response_answers_request (hlawful : LockMetadataJson.Lawful)
    (h : (hostSystem nonce kept).Reachable t)
    {response : ResponseMessage} (hmem : (q, response) ∈ t.shared.responses) :
    ∃! x, x ∈ t.shared.requests ∧ x.2.requestId = response.requestId := by
  have hvalid := valid_of_reachable hlawful h
  obtain ⟨x, hx, hid, -⟩ := (hvalid.responses _ hmem).request
  refine ⟨x, ⟨hx, hid⟩, ?_⟩
  rintro y ⟨hy, hid'⟩
  exact List.inj_on_of_nodup_map hvalid.requestIds hy hx (hid'.trans hid.symm)

omit [LockMetadataJson] in
theorem response_answers_request_sample : ∃ t, sampleSystem.Reachable t ∧
    ∃ response, (2, response) ∈ t.shared.responses ∧
      ∃! x, x ∈ t.shared.requests ∧ x.2.requestId = response.requestId := by
  obtain ⟨t, h, hfound⟩ : ∃ t, sampleSystem.Reachable t ∧ sampleProbed.2 t = true :=
    exists_sample (by simp [sampleStages])
  obtain ⟨-, hanswered⟩ := of_decide_eq_true hfound
  obtain ⟨⟨q, response⟩, hmem, rfl⟩ := hanswered
  exact ⟨t, h, response, hmem,
    @response_answers_request sampleJson _ _ _ _ sampleJson_lawful h _ hmem⟩

/-- An engine accepts to shut down only for a command to stop it, or for the client that has started
its daemon. -/
theorem shutdown_accepted_of_owner (hlawful : LockMetadataJson.Lawful)
    (h : (hostSystem nonce kept).Reachable t)
    {response : ResponseMessage} (hmem : (q, response) ∈ t.shared.responses)
    (haccepted : response.status = .accepted) :
    ∃ x ∈ t.shared.requests, x.2.requestId = response.requestId ∧
      ((∃ kind, IsKind t.shared x.1 kind ∧ kind.Stops) ∨
        ∃ record, t.shared.processes q = some record ∧ record.parent = some x.1) := by
  have hvalid := valid_of_reachable hlawful h
  obtain ⟨x, hx, hid, haccepts⟩ := (hvalid.responses _ hmem).request
  refine ⟨x, hx, hid, ?_⟩
  obtain ⟨token, ownerToken, hrequest, hdaemon, hallowed⟩ := haccepts haccepted
  obtain ⟨own, rfl, hown⟩ | hstops := (hvalid.requests x hx).2 token hrequest
  · -- the token is the engine's, so that it is one of the parent of its process
    obtain rfl : ownerToken = some own := of_decide_eq_true hallowed
    obtain ⟨config, logLevel, foreground, record, hrecord, hkind⟩ := hdaemon
    obtain ⟨parent, hparent, htoken⟩ | hforeign :=
      hvalid.tokens q record config logLevel foreground own hrecord hkind
    · obtain rfl := htoken.unique hvalid hown
      exact .inr ⟨record, hrecord, hparent⟩
    · obtain ⟨i, -, hsame⟩ := hown
      exact absurd hsame (hforeign _ _ _)
  · exact .inl hstops

omit [LockMetadataJson] in
theorem shutdown_accepted_of_owner_sample : ∃ t, sampleSystem.Reachable t ∧
    ∃ x ∈ t.shared.requests, (∃ kind, IsKind t.shared x.1 kind ∧ kind.Stops) ∨
      ∃ record, t.shared.processes 2 = some record ∧ record.parent = some x.1 := by
  obtain ⟨t, h, hfound⟩ : ∃ t, sampleSystem.Reachable t ∧ sampleStopping.2 t = true :=
    exists_sample (by simp [sampleStages])
  obtain ⟨⟨q, response⟩, hmem, rfl, hstatus⟩ := of_decide_eq_true hfound
  obtain ⟨x, hx, -, howner⟩ :=
    @shutdown_accepted_of_owner sampleJson _ _ _ _ sampleJson_lawful h _ hmem hstatus
  exact ⟨t, h, x, hx, howner⟩

/-- At the end of a session, whatever its result, every daemon that it has started was waited
for. -/
theorem session_reaps_daemons (hlawful : LockMetadataJson.Lawful)
    (h : (hostSystem nonce kept).Reachable t)
    {result : ExitValue} {kind : ProcessKind} (hprogram : t.program p = some (.ret result))
    (hkind : IsKind t.shared p kind) (hsession : kind.IsSession) : ReapedBut t.shared p none :=
  ((hostSound hlawful).returned h hprogram).reaped kind hkind hsession

omit [LockMetadataJson] in
theorem session_reaps_daemons_sample : ∃ t, sampleSystem.Reachable t ∧
    returned t 0 = some (.ok none) ∧ ReapedBut t.shared 0 none := by
  obtain ⟨t, h, hfound⟩ : ∃ t, sampleSystem.Reachable t ∧ sampleStopped.2 t = true :=
    exists_sample (by simp [sampleStages])
  obtain ⟨hreturned, hkind⟩ := of_decide_eq_true hfound
  obtain ⟨record, hrecord, hmanaged⟩ := hkind
  exact ⟨t, h, hreturned, @session_reaps_daemons sampleJson _ _ _ _ sampleJson_lawful h _ _
    (program_of_returned hreturned) ⟨record, hrecord, hmanaged⟩ trivial⟩

end System

end WeatherApp.Host
