import WeatherApp.Engine.LockLaw

/-!
# What a probe reports is true

A probe reads the lock file and asks the endpoint while engines start and end. When it reports a
running engine together with the metadata of a lock, the metadata is that of an engine that was
started, and this engine has answered.

## Main definitions

* `Stated`: a process has given the status as its own.
* `LockSnapshot.Genuine`: the metadata of a snapshot is that of an engine.

## Main results

* `observeLock_holds`: what is read from a lock file.
* `reported_of_reportStatus`: the report follows from the samples.
* `probeStatus_holds`: the probe.
-/

namespace WeatherApp.Host

variable [LockMetadataJson] {nonce : Nonces} {kept : String → Prop} {p : ℕ} {s s' : HostState}
  {guards : List LockGuard} {file : OpenFile}

/-! ## The lock -/

/-- The metadata is that of an engine that was started. -/
def LockSnapshot.Genuine (nonce : Nonces) (snapshot : LockSnapshot) (s : HostState) : Prop :=
  ∀ metadata, snapshot.metadata = some metadata → IsLaunch nonce s metadata

omit [LockMetadataJson] in
theorem LockSnapshot.Genuine.grows {snapshot : LockSnapshot} (h : snapshot.Genuine nonce s)
    (hgrows : Grows s s') : snapshot.Genuine nonce s' :=
  fun metadata hmetadata => (h metadata hmetadata).grows hgrows

/-- What is seen of a lock, if anything; the guards of the process stay. -/
def Observed (nonce : Nonces) (p : ℕ) (guards : List LockGuard) :
    Except String (Option LockSnapshot) → HostState → Prop :=
  Outcome (fun snapshot s => s.guards p = guards ∧
    ∀ seen, snapshot = some seen → seen.Genuine nonce s) fun s => s.guards p = guards

theorem readLockMetadata_holds (path : String) :
    HostHolds nonce kept p s (readLockMetadata file path).run (Outcome
      (fun metadata s' => Rely kept p s s' ∧ ∀ read, metadata = some read → IsLaunch nonce s' read)
      (Rely kept p s)) := by
  refine hostHolds_then (P := fun contents s' => Rely kept p s s' ∧
      ∀ read, LockMetadataJson.read contents = some read → IsLaunch nonce s' read)
    (B := Rely kept p s) (hostHolds_orContext ?_) ?_ fun _ _ _ h => h
  · refine hostHolds_perform fun s₁ hrely hvalid => ⟨trivial, fun r s₂ heffect _ s₃ hrely₃ => ?_⟩
    have hsame : s₂ = s₁ := quiet_effect (c := .readToEnd file) trivial heffect
    subst hsame
    cases r with
    | error err => exact hrely.trans hrely₃
    | ok contents =>
      refine ⟨hrely.trans hrely₃, fun read hread => ?_⟩
      have hcontents := of_decide_eq_true (stay_eq_some heffect).1
      obtain ⟨i, -, rfl⟩ := Option.map_eq_some_iff.1 hcontents
      exact (hvalid.readable i read hread).grows hrely₃.grows
  · rintro contents s₁ - - ⟨hrely₁, hgenuine⟩
    refine hostHolds_pure fun s₂ hrely₂ _ => ⟨hrely₁.trans hrely₂, fun read hread => ?_⟩
    exact (hgenuine read (Option.filter_eq_some_iff.1 hread).1).grows hrely₂.grows

/-- What is seen of an open file. -/
theorem observeOpenLock_holds (path : String) (hown : OwnBeside p guards file)
    (hguards : s.guards p = guards) :
    HostHolds nonce kept p s (observeOpenLock path file).run (Observed nonce p guards) := by
  have hfailed : ∀ s', Rely kept p s s' → s'.Valid nonce kept → s'.guards p = guards :=
    fun s' hrely _ => hrely.guards.trans hguards
  unfold observeOpenLock
  refine hostHolds_quietThen (hostQuiet_orContext (hostQuiet_call (.metadata file) trivial))
    (fun metadata _ => ?_) hfailed
  refine hostHolds_quietThen (hostQuiet_orContext (hostQuiet_call (.tryClone file) trivial))
    (fun _ _ => ?_) hfailed
  refine hostHolds_quietThen (hostQuiet_orContext (hostQuiet_call (.identify file) trivial))
    (fun identity _ => ?_) hfailed
  refine hostHolds_quietThen (R := fun _ => True)
    (hostQuiet_orContext (Process.quiet_pure trivial)) (fun modified _ => ?_) hfailed
  refine hostHolds_then (readLockMetadata_holds path) ?_
    fun s' _ _ hrely => hrely.guards.trans hguards
  rintro lockMetadata s₁ - - ⟨hrely₁, hgenuine⟩
  have hguards₁ : s₁.guards p = guards := hrely₁.guards.trans hguards
  refine hostHolds_then (P := fun _ s' => Steady p s₁ s') (B := fun _ => False)
    (hostHolds_lift (hostHolds_steady trivial fun s' hrely _ =>
      hown.ownFile (hrely.guards.trans hguards₁))) ?_ fun _ _ _ h => h.elim
  intro locked s₂ _ hgrows₂ hsteady
  have hguards₂ : s₂.guards p = guards := hsteady.guards.trans hguards₁
  -- the snapshot has the metadata that was read, whatever the lock is
  have hseen : ∀ {s' : HostState} {state : LockState}, Grows s₂ s' →
      LockSnapshot.Genuine nonce ⟨state, some identity, some modified, lockMetadata⟩ s' :=
    fun hgrows metadata hmetadata => ((hgenuine metadata hmetadata).grows hgrows₂).grows hgrows
  have hreturn : ∀ {s' : HostState} (snapshot : Option LockSnapshot), Grows s₂ s' →
      s'.guards p = guards → (∀ seen, snapshot = some seen → ∃ state,
        seen = ⟨state, some identity, some modified, lockMetadata⟩) →
      HostHolds nonce kept p s' (pure snapshot : HostM (Option LockSnapshot)).run
        (Observed nonce p guards) := by
    intro s' snapshot hgrows hguards' hshape
    refine hostHolds_pure fun s'' hrely _ => ⟨hrely.guards.trans hguards', fun seen hsome => ?_⟩
    -- the metadata is that of an engine, whatever the state of the lock
    obtain ⟨state, rfl⟩ := hshape seen hsome
    exact hseen (hgrows.trans hrely.grows)
  cases locked with
  | ok =>
    refine hostHolds_then (fileMatchesPath_holds hown.1 path) ?_
      fun s' _ _ hrely => hrely.guards.trans hguards₂
    rintro matched s₃ - hgrows₃ ⟨hrely₃, -⟩
    have hguards₃ : s₃.guards p = guards := hrely₃.guards.trans hguards₂
    -- nobody has the lock: it is given back at once
    refine hostHolds_then (B := fun _ => False) (hostHolds_lift (unlock_holds hown hguards₃)) ?_
      fun _ _ _ h => h.elim
    intro _ s₄ _ hgrows₄ hguards₄
    have hgrows : Grows s₂ s₄ := hgrows₃.trans hgrows₄
    cases matched with
    | true => exact hreturn _ hgrows hguards₄ fun seen h => ⟨.free, (Option.some.inj h).symm⟩
    | false => exact hreturn _ hgrows hguards₄ fun seen h => by cases h
  | error err =>
    by_cases hkind : err.kind = .wouldBlock
    · simp only [hkind, if_true]
      refine hostHolds_then (fileMatchesPath_holds hown.1 path) ?_
        fun s' _ _ hrely => hrely.guards.trans hguards₂
      rintro matched s₃ - hgrows₃ ⟨hrely₃, -⟩
      have hguards₃ : s₃.guards p = guards := hrely₃.guards.trans hguards₂
      cases matched with
      | true => exact hreturn _ hgrows₃ hguards₃ fun seen h => ⟨.held, (Option.some.inj h).symm⟩
      | false => exact hreturn _ hgrows₃ hguards₃ fun seen h => by cases h
    · simp only [hkind, if_false]
      exact hostHolds_throw fun s' hrely _ => hrely.guards.trans hguards₂

theorem observeLockOnce_holds (path : String) (hguards : s.guards p = guards) :
    HostHolds nonce kept p s (observeLockOnce path).run (Observed nonce p guards) := by
  unfold observeLockOnce
  refine hostHolds_then (B := fun _ => False) (hostHolds_lift (openFile_holds hguards false)) ?_
    fun _ _ _ h => h.elim
  intro opened s₁ _ _ hopened
  cases opened with
  | error err =>
    have hguards₁ : s₁.guards p = guards := hopened
    by_cases hkind : err.kind = .notFound
    · simp only [hkind, if_true]
      refine hostHolds_pure fun s₂ hrely _ => ⟨hrely.guards.trans hguards₁, fun seen hseen => ?_⟩
      obtain rfl := Option.some.inj hseen
      exact fun _ hmetadata => by cases hmetadata
    · simp only [hkind, if_false]
      exact hostHolds_throw fun s₂ hrely _ => hrely.guards.trans hguards₁
  | ok file =>
    obtain ⟨hown, hguards₁⟩ := hopened
    refine hostHolds_then (hostHolds_onError (observeOpenLock_holds path hown hguards₁)
      fun s' _ _ hguards' => close_holds hown hguards') ?_ fun _ _ _ h => h
    rintro snapshot s₂ - - ⟨hguards₂, hgenuine⟩
    refine hostHolds_then (B := fun _ => False) (hostHolds_lift (close_holds hown hguards₂)) ?_
      fun _ _ _ h => h.elim
    exact fun _ s₃ _ hgrows₃ hguards₃ => hostHolds_pure fun s₄ hrely _ =>
      ⟨hrely.guards.trans hguards₃, fun seen hseen =>
        ((hgenuine seen hseen).grows hgrows₃).grows hrely.grows⟩

/-- What is read from a lock file is the metadata of an engine. -/
theorem observeLock_holds (path : String) (hguards : s.guards p = guards) :
    HostHolds nonce kept p s (observeLock path).run (Outcome
      (fun snapshot s' => s'.guards p = guards ∧ snapshot.Genuine nonce s')
      (fun s' => s'.guards p = guards)) := by
  refine attempts_of_attempt (C := fun (program : HostM LockSnapshot) => ∀ s, s.guards p = guards →
    HostHolds nonce kept p s program.run (Outcome
      (fun snapshot s' => s'.guards p = guards ∧ snapshot.Genuine nonce s')
      (fun s' => s'.guards p = guards))) ?_ _ s hguards
  intro again hagain s hguards
  refine hostHolds_then (observeLockOnce_holds path hguards) ?_ fun _ _ _ h => h
  rintro snapshot s₁ - - ⟨hguards₁, hgenuine⟩
  cases snapshot with
  | some seen =>
    exact hostHolds_pure fun s₂ hrely _ =>
      ⟨hrely.guards.trans hguards₁, (hgenuine seen rfl).grows hrely.grows⟩
  | none =>
    refine hostHolds_retryOr hguards₁ (fun _ _ hrely h => hrely.guards.trans h) (fun s h => ?_)
      fun next hnext s' _ => hagain next hnext s'
    exact hostHolds_return fun s' hrely _ => hrely.guards.trans h

/-! ## The endpoint -/

/-- A process has given the status as its own. -/
def Stated (s : HostState) (status : EngineStatus) : Prop :=
  ∃ x ∈ s.responses, x.2.body = .status status

omit [LockMetadataJson] in
theorem Stated.grows {status : EngineStatus} (h : Stated s status) (hgrows : Grows s s') :
    Stated s' status := by
  obtain ⟨x, hx, hbody⟩ := h
  exact ⟨x, hgrows.responses x hx, hbody⟩

omit [LockMetadataJson] in
theorem statusOfResponse_eq_some {requestId : String} {response : Option ResponseMessage}
    {status : EngineStatus} (h : statusOfResponse requestId response = some status) :
    ∃ answer, response = some answer ∧ answer.body = .status status := by
  unfold statusOfResponse at h
  split at h
  next => cases h
  next answer =>
    rw [Option.ite_none_left_eq_some] at h
    refine ⟨answer, rfl, ?_⟩
    replace h := h.2
    split at h
    next found hbody =>
      obtain rfl := Option.some.inj h
      exact hbody
    next => cases h

/-- A response that was awaited was given. -/
theorem await_holds (requestId : String) :
    HostHolds nonce kept p s (perform (.await requestId)) fun response s' => Rely kept p s s' ∧
      ∀ answer, response = some answer → ∃ x ∈ s'.responses, x.2 = answer := by
  refine hostHolds_perform fun s₁ hrely _ => ⟨trivial, fun r s₂ heffect _ s₃ hrely₃ => ?_⟩
  have hsame : s₂ = s₁ := quiet_effect (c := .await requestId) trivial heffect
  subst hsame
  refine ⟨hrely.trans hrely₃, fun answer hanswer => ?_⟩
  subst hanswer
  obtain ⟨x, hx, rfl⟩ :=
    List.mem_map.1 (List.contains_iff_mem.1 (stay_eq_some heffect).1)
  exact ⟨x, hrely₃.grows.responses x hx, rfl⟩

/-- A request with a new id. -/
theorem send_holds {message : RequestMessage} {scope : String}
    (hfresh : FreshId nonce s p scope message.requestId)
    (hauthorized : ∀ s', Grows s s' → Authorized nonce s' p message) :
    HostHolds nonce kept p s (perform (.send message)) fun _ => Steady p s :=
  hostHolds_steady trivial fun s' hrely _ =>
    ⟨hauthorized s' hrely.grows, scope, hfresh.rely hrely⟩

theorem rpcEndpointStatus_holds (rpcEndpoint : String) :
    HostHolds nonce kept p s (rpcEndpointStatus rpcEndpoint).run (Outcome
      (fun found s' => Steady p s s' ∧ ∀ status, found = some status → Stated s' status)
      (Steady p s)) := by
  unfold rpcEndpointStatus
  refine hostHolds_then (B := fun _ => False)
    (hostHolds_lift (hostHolds_correlationId "daemon-request")) ?_ fun _ _ _ h => h.elim
  rintro requestId s₁ - - ⟨hfresh, hsteady₁⟩
  refine hostHolds_quietThen (hostQuiet_call .resolveHmacKey trivial) (fun _ _ => ?_)
    fun s' hrely _ => hsteady₁.trans hrely.steady
  refine hostHolds_then (B := fun _ => False)
    (hostHolds_lift (send_holds hfresh fun s' _ token htoken => by cases htoken)) ?_
    fun _ _ _ h => h.elim
  intro sent s₂ _ _ hsteady₂
  have hsteady : Steady p s s₂ := hsteady₁.trans hsteady₂
  cases sent with
  | error err =>
    exact hostHolds_pure fun s' hrely _ =>
      ⟨hsteady.trans hrely.steady, fun status hstatus => by cases hstatus⟩
  | ok =>
    refine hostHolds_then (B := fun _ => False) (hostHolds_lift (await_holds requestId)) ?_
      fun _ _ _ h => h.elim
    rintro response s₃ - - ⟨hrely₃, hgiven⟩
    refine hostHolds_pure fun s₄ hrely₄ _ =>
      ⟨(hsteady.trans hrely₃.steady).trans hrely₄.steady, fun status hstatus => ?_⟩
    -- the status stands in the response, which a process has given
    obtain ⟨answer, hanswer, hbody⟩ := statusOfResponse_eq_some hstatus
    obtain ⟨x, hx, rfl⟩ := hgiven answer hanswer
    exact ⟨x, hrely₄.grows.responses x hx, hbody⟩

/-! ## The state -/

/-- A status that is not foreign is that of the engine of the metadata. -/
def Matches (metadata : Option EngineLockMetadata) (status : EngineStatus) : Prop :=
  ∀ held, metadata = some held → held.instanceId = status.instanceId

theorem isForeignLock_quiet (active : String) (status : EngineStatus)
    (metadata : Option EngineLockMetadata) :
    HostQuiet nonce kept p (fun result => result = .ok false → Matches metadata status)
      (isForeignLock active status metadata).run := by
  cases metadata with
  | none => exact hostQuiet_pure fun _ held hheld => by cases hheld
  | some metadata =>
    refine hostQuiet_then (hostQuiet_call (.normalizePath metadata.configPath) trivial)
      (fun metadataConfig _ => hostQuiet_pure fun hresult held hheld => ?_) fun _ _ h => by cases h
    obtain rfl := Option.some.inj hheld
    -- a lock is foreign if its config path or its instance is another one
    have hboth := of_decide_eq_false (Except.ok.inj hresult)
    exact not_not.1 (not_or.1 hboth).2

theorem statusDisposition_quiet (requestedConfig : String) (config : AppConfig)
    (status : EngineStatus) (strictConfig : Bool) (metadata : Option EngineLockMetadata) :
    HostQuiet nonce kept p
      (fun result => ∀ disposition, result = .ok disposition → disposition ≠ .foreign →
        Matches metadata status)
      (statusDisposition requestedConfig config status strictConfig metadata).run := by
  unfold statusDisposition
  refine hostQuiet_then (hostQuiet_call (.normalizePath requestedConfig) trivial)
    (fun requested _ => ?_) fun _ _ _ h => by cases h
  refine hostQuiet_then (hostQuiet_call (.normalizePath status.configPath) trivial)
    (fun active _ => ?_) fun _ _ _ h => by cases h
  refine hostQuiet_then (isForeignLock_quiet active status metadata) (fun isForeign hmatches => ?_)
    fun _ _ _ h => by cases h
  cases isForeign with
  | true =>
    refine hostQuiet_pure fun disposition hresult hne => ?_
    exact absurd (Except.ok.inj hresult).symm hne
  | false =>
    have hm : Matches metadata status := hmatches rfl
    simp only [Bool.false_eq_true, if_false]
    split
    · exact hostQuiet_pure fun _ _ _ => hm
    · split
      · exact hostQuiet_pure fun _ _ _ => hm
      · split
        · exact hostQuiet_pure fun _ _ _ => hm
        · exact hostQuiet_pure fun _ _ _ => hm

theorem disposeStatus_quiet (configPath : String) (config : AppConfig) (strictConfig : Bool)
    (metadata : Option EngineLockMetadata) (found : Option EngineStatus) :
    HostQuiet nonce kept p
      (fun result => ∀ disposition, result = .ok (some disposition) → disposition ≠ .foreign →
        ∃ status, found = some status ∧ Matches metadata status)
      (disposeStatus configPath config strictConfig metadata found).run := by
  cases found with
  | none => exact hostQuiet_pure fun _ h => by cases h
  | some status =>
    refine hostQuiet_then (statusDisposition_quiet configPath config status strictConfig metadata)
      (fun disposition hmatches => hostQuiet_pure fun other hother hne => ?_) fun _ _ _ h => by cases h
    obtain rfl := Option.some.inj (Except.ok.inj hother)
    exact ⟨status, rfl, hmatches disposition rfl hne⟩

omit [LockMetadataJson] in
/-- A running engine has answered, and is not foreign. -/
theorem classifyProbe_running {lockState : LockState} {age : Option ℕ} {startupTimeout : ℕ}
    {rpcReachable pubReachable : Bool} {disposition : Option StatusDisposition}
    (h : classifyProbe lockState age startupTimeout rpcReachable pubReachable disposition =
      .running) : ∃ found, disposition = some found ∧ found ≠ .foreign := by
  unfold classifyProbe at h
  split at h
  next hadopted => exact ⟨.adoptedReady, hadopted, by decide⟩
  next =>
    split at h
    next => cases h
    next =>
      split at h
      next =>
        split at h
        next hready => exact ⟨.matchingReady, hready, by decide⟩
        next =>
          split at h
          · cases h
          · cases h
      next =>
        split at h
        · cases h
        · cases h

/-- The report is true of what was found. -/
theorem reported_of_reportStatus (hvalid : s.Valid nonce kept)
    {configPath lockPath : String} {config : AppConfig} {startupTimeout : ℕ} {lock : LockSnapshot}
    {age : Option ℕ} {rpcReachable pubReachable : Bool} {found : Option EngineStatus}
    {disposition : Option StatusDisposition} (hgenuine : lock.Genuine nonce s)
    (hstated : ∀ status, found = some status → Stated s status)
    (hdisposed : ∀ disposed, disposition = some disposed → disposed ≠ .foreign →
      ∃ status, found = some status ∧ Matches lock.heldMetadata status) :
    Reported nonce s
      (reportStatus configPath lockPath config startupTimeout lock age rpcReachable pubReachable
        found disposition).state
      (reportStatus configPath lockPath config startupTimeout lock age rpcReachable pubReachable
        found disposition).lockMetadata := by
  intro hstate metadata hmetadata
  obtain ⟨disposed, hdisposition, hne⟩ := classifyProbe_running hstate
  obtain ⟨status, hfound, hmatches⟩ := hdisposed disposed hdisposition hne
  obtain ⟨⟨engine, response⟩, hresponse, hbody⟩ := hstated status hfound
  have hid : metadata.instanceId = status.instanceId := hmatches metadata hmetadata
  have hlaunch : IsLaunch nonce s metadata := by
    refine hgenuine metadata ?_
    change lock.heldMetadata = some metadata at hmetadata
    rw [LockSnapshot.heldMetadata, Option.ite_none_right_eq_some] at hmetadata
    exact hmetadata.2
  -- an instance has one process, so that the answer is from the one of the metadata
  have hanswered : HasId nonce s engine "engine-instance" metadata.instanceId := by
    rw [hid]
    exact (hvalid.responses _ hresponse).status status hbody
  obtain rfl := hanswered.unique hvalid hlaunch.instanceId
  exact ⟨hlaunch, response, status, hresponse, hbody, hid.symm⟩

/-! ## The probe -/

theorem sampleEndpoint_holds (rpcReachable : Bool) (rpcEndpoint : String) :
    HostHolds nonce kept p s (sampleEndpoint rpcReachable rpcEndpoint).run (Outcome
      (fun found s' => Steady p s s' ∧ ∀ status, found = some status → Stated s' status)
      (Steady p s)) := by
  cases rpcReachable with
  | true => exact rpcEndpointStatus_holds rpcEndpoint
  | false =>
    exact hostHolds_pure fun s' hrely _ => ⟨hrely.steady, fun status hstatus => by cases hstatus⟩

theorem probeSample_holds {configPath lockPath : String}
    {config : AppConfig} {strictConfig : Bool} {again : Option (HostM ProbeStatus)}
    (hagain : ∀ next ∈ again, ∀ s, HostHolds nonce kept p s next.run (Outcome
      (fun status s' => Reported nonce s' status.state status.lockMetadata) fun _ => True)) :
    HostHolds nonce kept p s (probeSample configPath lockPath config strictConfig again).run
      (Outcome (fun status s' => Reported nonce s' status.state status.lockMetadata)
        fun _ => True) := by
  unfold probeSample
  refine hostHolds_then (observeLock_holds lockPath rfl) ?_ fun _ _ _ _ => trivial
  rintro lockBefore s₁ - - ⟨-, -⟩
  refine hostHolds_quietThen (hostQuiet_invoke (.reachable config.ipc.rpcEndpoint) trivial)
    (fun rpcReachable _ => ?_) fun _ _ _ => trivial
  refine hostHolds_quietThen (hostQuiet_invoke (.reachable config.ipc.pubEndpoint) trivial)
    (fun pubReachable _ => ?_) fun _ _ _ => trivial
  refine hostHolds_then (sampleEndpoint_holds rpcReachable _) ?_ fun _ _ _ _ => trivial
  rintro found s₂ - - ⟨-, hstated⟩
  refine hostHolds_then (observeLock_holds lockPath rfl) ?_ fun _ _ _ _ => trivial
  rintro lockAfter s₃ - hgrows₃ ⟨-, hgenuine⟩
  split
  · refine hostHolds_retryOr (B := fun _ => True) trivial (fun _ _ _ _ => trivial)
      (fun s _ => hostHolds_return fun _ _ _ => trivial) fun next hnext s' _ _ => hagain next hnext s'
  refine hostHolds_quietThen (hostQuiet_invoke .systemTime trivial) (fun now _ => ?_)
    fun _ _ _ => trivial
  refine hostHolds_quietThen (disposeStatus_quiet configPath config strictConfig
    lockAfter.heldMetadata found) (fun disposition hdisposed => ?_) fun _ _ _ => trivial
  refine hostHolds_pure fun s₄ hrely₄ hvalid₄ => ?_
  refine reported_of_reportStatus hvalid₄ (hgenuine.grows hrely₄.grows)
    (fun status hstatus => ((hstated status hstatus).grows hgrows₃).grows hrely₄.grows)
    fun disposed hdisposition => hdisposed disposed (congrArg Except.ok hdisposition)

/-- What a probe reports is true. -/
theorem probeStatus_holds (requested : Option String) :
    HostHolds nonce kept p s (probeStatus requested).run (Outcome
      (fun status s' => Reported nonce s' status.state status.lockMetadata) fun _ => True) := by
  have hfrom : ∀ path : String, HostHolds nonce kept p s
      (do let configPath : String ← orFail (perform (.absolutePath path))
          let config : AppConfig ← orFail (perform (.loadOrDefault configPath))
          attempts (probeSample configPath
            (resolveRelative (baseDirOf configPath) config.engine.lockPath) config requested.isSome)
            (probeSampleAttempts - 1)).run (Outcome
      (fun status s' => Reported nonce s' status.state status.lockMetadata) fun _ => True) := by
    intro path
    refine hostHolds_quietThen (hostQuiet_call (.absolutePath path) trivial)
      (fun configPath _ => ?_) fun _ _ _ => trivial
    refine hostHolds_quietThen (hostQuiet_call (.loadOrDefault configPath) trivial)
      (fun config _ => ?_) fun _ _ _ => trivial
    refine attempts_of_attempt (C := fun program => ∀ s, HostHolds nonce kept p s program.run
      (Outcome (fun (status : ProbeStatus) s' => Reported nonce s' status.state status.lockMetadata)
        fun _ => True)) ?_ _ s
    exact fun again hagain s => probeSample_holds hagain
  cases requested with
  | some path => exact hfrom path
  | none =>
    exact hostHolds_quietThen (hostQuiet_call .defaultConfigFile trivial) (fun path _ => hfrom path)
      fun _ _ _ => trivial

end WeatherApp.Host
