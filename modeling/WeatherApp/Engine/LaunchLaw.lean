import WeatherApp.Engine.LockLaw

/-!
# An engine works under its locks

However the other processes interleave, an engine takes every step of its start and every request
with the lock of the engine, and the steps that open the database with the lock of the database too.
What it answers is true, and it accepts a request to shut down only with the token of its owner, or
with none.

## Main definitions

* `Launched`: the guards of an engine that has started.

## Main results

* `startEngine_holds`: the start of an engine.
* `serve_holds`: what an engine answers.
* `runDaemon_holds`: the daemon, with all its engines.
-/

namespace WeatherApp.Host

variable [LockMetadataJson] {nonce : Nonces} {kept : String → Prop} {p : ℕ} {s s' : HostState}
  {guards : List LockGuard} {ownerToken : Option String}

/-! ## The start -/

theorem launchMetadata_holds (configPath : String) (hdaemon : IsDaemon s p ownerToken)
    (hguards : s.guards p = guards) :
    HostHolds nonce kept p s (launchMetadata p configPath ownerToken).run (Outcome
      (fun launch s' => s'.guards p = guards ∧ IsLaunch nonce s' launch ∧ launch.pid = p)
      (fun s' => s'.guards p = guards)) := by
  have hfailed : ∀ e, HostHolds nonce kept p s (throw e : HostM EngineLockMetadata).run (Outcome
      (fun launch s' => s'.guards p = guards ∧ IsLaunch nonce s' launch ∧ launch.pid = p)
      (fun s' => s'.guards p = guards)) :=
    fun e => hostHolds_throw fun s' hrely _ => hrely.guards.trans hguards
  unfold launchMetadata
  split
  · exact hfailed _
  refine hostHolds_quietThen (hostQuiet_call .unixTimestampMs trivial) (fun now _ => ?_)
    fun s' hrely _ => hrely.guards.trans hguards
  split
  · exact hfailed _
  refine hostHolds_then (B := fun _ => False)
    (hostHolds_lift (hostHolds_correlationId "engine-instance")) ?_ fun _ _ _ h => h.elim
  rintro instanceId s₁ - hgrows ⟨hid, hsteady⟩
  refine hostHolds_pure fun s₂ hrely _ => ⟨?_, ⟨?_, ?_⟩, rfl⟩
  · rw [hrely.guards, hsteady.guards, hguards]
  · exact (hdaemon.grows hgrows).grows hrely.grows
  · exact hid.1.grows hrely.grows

/-- A step of a start that has its locks, and what comes after it. -/
theorem startupStep_then {β : Type} {step : StartupStep} {f : step.Result → HostM β}
    {Q : β → HostState → Prop} (hguards : s.guards p = guards)
    (hcovered : ∀ s₁ : HostState, s₁.guards p = guards → step.Covered s₁ p)
    (hrest : ∀ a s', s'.guards p = guards →
      HostHolds nonce kept p s' (f a).run (Outcome Q fun s' => s'.guards p = guards)) :
    HostHolds nonce kept p s (startupStep step >>= f).run
      (Outcome Q fun s' => s'.guards p = guards) := by
  have hstep : HostHolds nonce kept p s (startupStep step).run (Outcome
      (fun _ s' => s'.guards p = guards) (fun s' => s'.guards p = guards)) := by
    refine hostHolds_outcome (Process.Holds.weaken (hostHolds_steady trivial fun s₁ hrely _ =>
      hcovered s₁ (hrely.guards.trans hguards)) ?_)
    exact fun _ _ _ hsteady => hsteady.guards.trans hguards
  exact hostHolds_then hstep (fun a s' _ _ => hrest a s') fun _ _ _ h => h

/-- One of the guards is that of an engine. -/
def GuardsEngine (guards : List LockGuard) : Prop :=
  ∃ guard ∈ guards, ∃ launch, guard.metadata = some launch

omit [LockMetadataJson] in
theorem GuardsEngine.cons (h : GuardsEngine guards) (guard : LockGuard) :
    GuardsEngine (guard :: guards) := by
  obtain ⟨engineLock, hmem, hlaunch⟩ := h
  exact ⟨engineLock, List.mem_cons_of_mem _ hmem, hlaunch⟩

omit [LockMetadataJson] in
theorem GuardsEngine.hasEngineLock (h : GuardsEngine guards) (hguards : s.guards p = guards) :
    HasEngineLock s p := by
  subst hguards
  exact h

/-- The database is opened under its lock. -/
theorem openDatabase_holds {dbLock : LockGuard} {configPath data : String} {config : AppConfig}
    (hguards : s.guards p = guards) (hengine : GuardsEngine guards) (hdatabase : dbLock ∈ guards)
    (hdata : dbLock.path = databaseLock data) :
    HostHolds nonce kept p s (openDatabase configPath data config).run (Outcome
      (fun _ s' => s'.guards p = guards) (fun s' => s'.guards p = guards)) := by
  have hlocks : ∀ s₁ : HostState, s₁.guards p = guards →
      HasEngineLock s₁ p ∧ HasDatabaseLock s₁ p data := by
    intro s₁ hguards₁
    refine ⟨hengine.hasEngineLock hguards₁, dbLock, ?_, hdata⟩
    rwa [hguards₁]
  refine startupStep_then hguards hlocks fun config s₁ hguards₁ => ?_
  refine startupStep_then hguards₁ hlocks fun _ s₂ hguards₂ => ?_
  exact hostHolds_pure fun s₃ hrely _ => hrely.guards.trans hguards₂

/-- The start under the lock of the engine leaves the process with the lock of the database. -/
theorem prepareEngine_holds {configPath engineLockPath : String} (hguards : s.guards p = guards)
    (hengine : GuardsEngine guards) :
    HostHolds nonce kept p s (prepareEngine configPath engineLockPath).run (Outcome
      (fun prepared s' => s'.guards p = prepared.2 :: guards ∧
        ∃ data, prepared.2.path = databaseLock data)
      (fun s' => s'.guards p = guards)) := by
  have hlock : ∀ s₁ : HostState, s₁.guards p = guards → HasEngineLock s₁ p ∧ True :=
    fun s₁ hguards₁ => ⟨hengine.hasEngineLock hguards₁, trivial⟩
  unfold prepareEngine
  refine startupStep_then hguards hlock fun _ s hguards => ?_
  refine startupStep_then hguards hlock fun config s hguards => ?_
  refine startupStep_then hguards hlock fun _ s hguards => ?_
  refine startupStep_then hguards hlock fun _ s hguards => ?_
  refine startupStep_then hguards hlock fun _ s hguards => ?_
  refine startupStep_then hguards hlock fun _ s hguards => ?_
  refine startupStep_then hguards hlock fun data s hguards => ?_
  refine startupStep_then hguards hlock fun _ s hguards => ?_
  refine startupStep_then hguards hlock fun _ s hguards => ?_
  refine startupStep_then hguards hlock fun _ s hguards => ?_
  refine startupStep_then hguards hlock fun _ s hguards => ?_
  -- from here on the database is opened, under a lock of its own
  refine hostHolds_then (LockGuard.acquire_holds 0 s hguards fun _ h => by cases h) ?_
    fun _ _ _ h => h
  rintro dbLock s - - ⟨hguards, hpath, -⟩
  refine hostHolds_then (hostHolds_onError
    (openDatabase_holds hguards (hengine.cons dbLock) List.mem_cons_self hpath) ?_) ?_
    fun _ _ _ h => h
  · exact fun s' _ _ hguards' => LockGuard.dropLast_holds hguards'
  · exact fun config s' _ _ hguards' => hostHolds_pure fun s'' hrely _ =>
      ⟨hrely.guards.trans hguards', data, hpath⟩

/-- The guards of an engine that has started. -/
structure Launched (nonce : Nonces) (p : ℕ) (guards : List LockGuard) (runtime : EngineRuntime)
    (s : HostState) : Prop where
  guards : s.guards p = runtime.dbLock :: runtime.engineLock :: guards
  engine : runtime.engineLock.metadata = some runtime.launch
  database : ∃ data, runtime.dbLock.path = databaseLock data
  launch : IsLaunch nonce s runtime.launch
  pid : runtime.launch.pid = p

omit [LockMetadataJson] in
theorem Launched.rely {runtime : EngineRuntime} (h : Launched nonce p guards runtime s)
    (hrely : Rely kept p s s') : Launched nonce p guards runtime s' where
  guards := hrely.guards.trans h.guards
  engine := h.engine
  database := h.database
  launch := h.launch.grows hrely.grows
  pid := h.pid

omit [LockMetadataJson] in
theorem Launched.locks {runtime : EngineRuntime} (h : Launched nonce p guards runtime s) :
    HasEngineLock s p ∧ ∃ data, HasDatabaseLock s p data := by
  obtain ⟨data, hdata⟩ := h.database
  rw [HasEngineLock]
  simp only [HasDatabaseLock, h.guards]
  exact ⟨⟨runtime.engineLock, List.mem_cons_of_mem _ List.mem_cons_self, runtime.launch, h.engine⟩,
    data, runtime.dbLock, List.mem_cons_self, hdata⟩

/-- A start takes both locks, or none. -/
theorem startEngine_holds (configPath : String) (hdaemon : IsDaemon s p ownerToken)
    (hguards : s.guards p = guards) :
    HostHolds nonce kept p s (startEngine p configPath ownerToken).run (Outcome
      (Launched nonce p guards) (fun s' => s'.guards p = guards)) := by
  have hfailed : ∀ s', Rely kept p s s' → s'.Valid nonce kept → s'.guards p = guards :=
    fun s' hrely _ => hrely.guards.trans hguards
  unfold startEngine
  refine hostHolds_quietThen (hostQuiet_call (.absolutePath configPath) trivial)
    (fun configPath _ => ?_) hfailed
  refine hostHolds_quietThen (hostQuiet_call (.loadOrDefault configPath) trivial)
    (fun preliminary _ => ?_) hfailed
  -- the metadata is made before the lock is taken, and published with it
  refine hostHolds_then (launchMetadata_holds configPath hdaemon hguards) ?_ fun _ _ _ h => h
  rintro launch s₁ - - ⟨hguards₁, hlaunch₁, hpid⟩
  refine hostHolds_then (LockGuard.acquire_holds _ s₁ hguards₁ fun described h => ?_) ?_
    fun _ _ _ h => h
  · obtain rfl := Option.some.inj h
    exact ⟨hlaunch₁, hpid⟩
  rintro engineLock s₂ - hgrows₂ ⟨hguards₂, -, hmetadata⟩
  refine hostHolds_then (hostHolds_onError
    (prepareEngine_holds hguards₂ ⟨engineLock, List.mem_cons_self, launch, hmetadata⟩) ?_) ?_
    fun _ _ _ h => h
  · exact fun s₃ _ _ hguards₃ => LockGuard.dropLast_holds hguards₃
  · rintro ⟨config, dbLock⟩ s₃ - hgrows₃ ⟨hguards₃, hdata⟩
    have hlaunch₃ : IsLaunch nonce s₃ launch := (hlaunch₁.grows hgrows₂).grows hgrows₃
    exact hostHolds_pure fun s₄ hrely _ =>
      Launched.rely ⟨hguards₃, hmetadata, hdata, hlaunch₃, hpid⟩ hrely

/-! ## Requests -/

namespace EngineRuntime

variable {runtime : EngineRuntime} {mode rpcEndpoint pubEndpoint : String}

omit [LockMetadataJson] in
/-- What an engine answers to a request is true. -/
theorem respond_truthful (h : Launched nonce p guards runtime s) {message : RequestMessage}
    {sender : ℕ} (hmem : (sender, message) ∈ s.requests) :
    Truthful nonce s p (runtime.respond mode rpcEndpoint pubEndpoint message) := by
  obtain ⟨hdaemon, hid⟩ := h.launch
  rw [h.pid] at hdaemon hid
  unfold respond
  split
  next hrequest =>
    refine ⟨⟨_, hmem, rfl, fun hstatus => by cases hstatus⟩, fun status hstatus => ?_⟩
    obtain rfl := ResponseBody.status.inj hstatus
    exact hid
  next ownerToken hrequest =>
    split
    next hallowed =>
      -- accepted, for the owner's token or for none
      exact ⟨⟨_, hmem, rfl, fun _ => ⟨ownerToken, _, hrequest, hdaemon, hallowed⟩⟩,
        fun status hstatus => by cases hstatus⟩
    next =>
      exact ⟨⟨_, hmem, rfl, fun hstatus => by cases hstatus⟩, fun status hstatus => by cases hstatus⟩

/-- What is received, is received under the locks, and requests were sent. -/
theorem receive_holds (h : Launched nonce p guards runtime s) (endpoint : String) :
    HostHolds nonce kept p s (perform (.receive endpoint)) fun received s' =>
      Launched nonce p guards runtime s' ∧
        ∀ message, received = .request message → ∃ sender, (sender, message) ∈ s'.requests := by
  refine hostHolds_perform fun s₁ hrely _ => ?_
  have h₁ := h.rely hrely
  refine ⟨h₁.locks, fun received s₂ heffect _ s₃ hrely₃ => ?_⟩
  cases received with
  | request message =>
    obtain ⟨hmem, rfl⟩ := stay_eq_some heffect
    refine ⟨h₁.rely hrely₃, fun other hother => ?_⟩
    obtain rfl := Received.request.inj hother
    -- what is received was sent by some process
    obtain ⟨x, hx, rfl⟩ := List.mem_map.1 (List.contains_iff_mem.1 (of_decide_eq_true hmem).2)
    exact ⟨x.1, hrely₃.grows.requests x hx⟩
  | _ =>
    obtain rfl := Option.some.inj heffect
    exact ⟨h₁.rely hrely₃, fun _ hmessage => by cases hmessage⟩

theorem respond_holds (h : Launched nonce p guards runtime s) {message : RequestMessage}
    {sender : ℕ} (hmem : (sender, message) ∈ s.requests) :
    HostHolds nonce kept p s
      (perform (.respond (runtime.respond mode rpcEndpoint pubEndpoint message)))
      fun _ => Launched nonce p guards runtime := by
  refine hostHolds_perform fun s₁ hrely hvalid => ?_
  have h₁ := h.rely hrely
  refine ⟨respond_truthful h₁ (hrely.grows.requests _ hmem), fun r s₂ heffect _ s₃ hrely₃ => ?_⟩
  have hchange := change_of_effect heffect
  have h₂ : Launched nonce p guards runtime s₂ :=
    ⟨(steady_change (c := .respond _) trivial hchange).guards.trans h₁.guards, h₁.engine, h₁.database,
      h₁.launch.grows (grows_change hvalid.unborn_next hchange), h₁.pid⟩
  exact h₂.rely hrely₃

/-- A running engine has its locks until its tasks have been drained. -/
theorem serve_holds (rounds : ℕ) (outcome : Option (Except String EngineExit))
    (h : Launched nonce p guards runtime s) :
    HostHolds nonce kept p s (runtime.serve mode rpcEndpoint pubEndpoint rounds outcome)
      fun _ => Launched nonce p guards runtime := by
  -- every round keeps the locks, whatever it receives
  induction rounds generalizing s outcome with
  | zero => exact hostHolds_stalled
  | succ rounds ih =>
    refine hostHolds_bind (receive_holds h rpcEndpoint) ?_
    rintro received s₁ - - ⟨h₁, hsent⟩
    cases received with
    | request message =>
      obtain ⟨sender, hmem⟩ := hsent message rfl
      exact hostHolds_bind (respond_holds h₁ hmem) fun _ s₂ _ _ h₂ => ih _ h₂
    | restart => exact ih _ h₁
    | signal => exact ih _ h₁
    | failure error => exact ih _ h₁
    | drained failure =>
      cases outcome with
      | none => exact ih _ h₁
      | some result =>
        cases result with
        | ok exit => exact hostHolds_return fun s₂ hrely _ => h₁.rely hrely
        | error error => exact hostHolds_return fun s₂ hrely _ => h₁.rely hrely

/-- The worker of the database gives back its lease, or keeps it. The engine keeps its own lock. -/
theorem shutdownDatabase_holds (h : Launched nonce p guards runtime s) :
    HostHolds nonce kept p s runtime.shutdownDatabase
      fun _ s' => runtime.engineLock ∈ s'.guards p := by
  refine hostHolds_bind (hostHolds_ofQuiet (hostQuiet_call .shutdownDatabase trivial)
    (P := fun _ s' => Launched nonce p guards runtime s') fun _ s' _ hrely _ => h.rely hrely) ?_
  rintro ⟨result, returned⟩ s₁ hvalid₁ - h₁
  cases returned with
  | false =>
    refine hostHolds_return fun s₂ hrely _ => ?_
    rw [hrely.guards, h₁.guards]
    exact List.mem_cons_of_mem _ List.mem_cons_self
  | true =>
    -- the worker of the database has ended and gives back its lock
    refine hostHolds_bind (LockGuard.dropLast_holds h₁.guards) fun _ s₂ _ _ hguards => ?_
    refine hostHolds_return fun s₃ hrely _ => ?_
    rw [hrely.guards, hguards]
    exact List.mem_cons_self

theorem runSockets_holds (rounds : ℕ) (mode : String) (h : Launched nonce p guards runtime s) :
    HostHolds nonce kept p s (runtime.runSockets rounds mode)
      fun _ s' => runtime.engineLock ∈ s'.guards p := by
  have hreturn : ∀ {s' : HostState} (result : Except String EngineExit),
      runtime.engineLock ∈ s'.guards p → HostHolds nonce kept p s' (pure result)
        fun _ s'' => runtime.engineLock ∈ s''.guards p := by
    intro s' result hmem
    refine hostHolds_return fun s'' hrely _ => ?_
    rwa [hrely.guards]
  unfold runSockets
  refine hostHolds_quiet (hostQuiet_call (.bind runtime.config.ipc.rpcEndpoint
    runtime.config.ipc.pubEndpoint) trivial) fun bound _ => ?_
  cases bound with
  | error err =>
    refine hostHolds_bind (shutdownDatabase_holds h) fun closed s₁ _ _ hmem => ?_
    cases closed with
    | ok => exact hreturn _ hmem
    | error dbErr => exact hreturn _ hmem
  | ok endpoints =>
    refine hostHolds_bind (serve_holds rounds none h) ?_
    rintro ⟨exit, failure⟩ s₁ - - h₁
    refine hostHolds_bind (shutdownDatabase_holds h₁) fun closed s₂ _ _ hmem => ?_
    cases closed with
    | ok =>
      cases failure with
      | none => exact hreturn _ hmem
      | some err => exact hreturn _ hmem
    | error dbErr =>
      cases failure with
      | none => exact hreturn _ hmem
      | some err => exact hreturn _ hmem

end EngineRuntime

/-! ## The daemon -/

theorem runEngine_holds (rounds : ℕ) (configPath mode : String)
    (hdaemon : IsDaemon s p ownerToken) :
    HostHolds nonce kept p s (runEngine rounds p configPath mode ownerToken).run
      (Outcome (fun _ _ => True) fun _ => True) := by
  refine hostHolds_then (startEngine_holds configPath hdaemon rfl) ?_ fun _ _ _ _ => trivial
  intro runtime s₁ _ _ h₁
  refine hostHolds_bind (EngineRuntime.runSockets_holds rounds mode h₁) fun result s₂ _ _ hmem => ?_
  refine hostHolds_bind (LockGuard.drop_holds hmem) fun _ s₃ _ _ _ => ?_
  refine hostHolds_return fun s₄ _ _ => ?_
  cases result with
  | ok => trivial
  | error => trivial

theorem configureLog_quiet (configPath : String) (logLevel : Option String) :
    HostQuiet nonce kept p (fun _ => True) (configureLog configPath logLevel).run :=
  hostQuiet_then (hostQuiet_call (.loadOrDefault configPath) trivial)
    (fun config _ => hostQuiet_call
      (.configureLogging (logLevel.getD config.engine.logLevel)) trivial)
    fun _ _ => trivial

/-- One engine after the other. -/
theorem daemonLoop_holds (rounds restarts : ℕ) (configPath mode : String) (logLevel : Option String)
    (hdaemon : IsDaemon s p ownerToken) :
    HostHolds nonce kept p s
      (daemonLoop rounds p configPath mode logLevel ownerToken restarts).run
      (Outcome (fun _ _ => True) fun _ => True) := by
  induction restarts generalizing s with
  | zero => exact hostHolds_lift (P := fun _ _ => True) hostHolds_stalled
  | succ restarts ih =>
    refine hostHolds_then (runEngine_holds rounds configPath mode hdaemon) ?_
      fun _ _ _ _ => trivial
    intro exit s₁ _ hgrows _
    have hdaemon₁ : IsDaemon s₁ p ownerToken := hdaemon.grows hgrows
    -- a restart starts another engine of the same daemon
    cases exit with
    | shutdown => exact hostHolds_pure fun _ _ _ => trivial
    | restart =>
      by_cases hlevel : logLevel = none
      · simp only [hlevel, if_true] at ih ⊢
        exact hostHolds_quietThen (configureLog_quiet configPath none) (fun _ _ => ih hdaemon₁)
          fun _ _ _ => trivial
      · simp only [hlevel, if_false]
        exact ih hdaemon₁

/-- A daemon keeps its promises with all its engines. -/
theorem runDaemon_holds (rounds : ℕ) (config logLevel : Option String) (foreground : Bool)
    (hdaemon : IsDaemon s p ownerToken) :
    HostHolds nonce kept p s (runDaemon rounds p config logLevel foreground ownerToken).run
      (Outcome (fun _ _ => True) fun _ => True) := by
  refine hostHolds_quietThen (hostQuiet_call .defaultConfigFile trivial) (fun default _ => ?_)
    fun _ _ _ => trivial
  refine hostHolds_quietThen (hostQuiet_call (.absolutePath (config.getD default)) trivial)
    (fun configPath _ => ?_) fun _ _ _ => trivial
  refine hostHolds_quietThen (configureLog_quiet configPath logLevel) (fun _ _ => ?_)
    fun _ _ _ => trivial
  exact daemonLoop_holds rounds rounds configPath _ logLevel hdaemon

end WeatherApp.Host
