import WeatherApp.Daemon.ProbeLaw

/-!
# Clients and the daemons that they start

However the other processes interleave, a client takes an engine for its own only if it is the one
of the daemon that it has started, with its token; it asks an engine to stop only with a token of
its own; and at the end of a session, whatever its result, every daemon that it has started was
waited for.

## Main definitions

* `StartedBy`: a daemon that a client has started and not yet waited for.
* `Readied`: a client with a ready engine.

## Main results

* `connectReady_holds`: how a client comes to a ready engine.
* `runManaged_holds`, `runGui_holds`: sessions.
* `stopEngine_holds`, `stopDaemon_holds`: the commands to stop an engine.
-/

namespace WeatherApp.Host

variable [LockMetadataJson] {nonce : Nonces} {kept : String → Prop} {p : ℕ} {s s' : HostState}
  {child : ℕ}

/-! ## Children -/

omit [LockMetadataJson] in
theorem ReapedBut.excepting (h : ReapedBut s p none) (excepted : Option ℕ) :
    ReapedBut s p excepted :=
  fun q record hrecord hparent hdaemon _ => h q record hrecord hparent hdaemon (Option.some_ne_none q)

omit [LockMetadataJson] in
/-- The child that was excepted is waited for. -/
theorem ReapedBut.reap (h : ReapedBut s p (some child)) (hreap : s.reap p child = some s') :
    ReapedBut s' p none := by
  obtain ⟨reaped, -, -, -, rfl⟩ := reap_eq_some hreap
  intro q record hrecord hparent hdaemon _
  obtain ⟨-, rfl⟩ | ⟨hne, hold⟩ := processes_setStage.1 hrecord
  · rfl
  · exact h q record hold hparent hdaemon fun hsame => hne (Option.some.inj hsame)

/-- Whether a child has exited: it was waited for then. -/
theorem hasExited_holds (h : ReapedBut s p (some child)) :
    HostHolds nonce kept p s (hasExited child)
      fun exited s' => ReapedBut s' p (bif exited then none else some child) := by
  unfold hasExited
  refine hostHolds_bind (P := fun (result : Except IoError Bool) s' => ReapedBut s' p (some child) ∧
    (result = .ok true → ReapedBut s' p none)) ?_ ?_
  · refine hostHolds_perform fun s₁ hrely _ => ⟨trivial, fun r s₂ heffect _ s₃ hrely₃ => ?_⟩
    have h₁ : ReapedBut s₁ p (some child) := h.rely hrely
    have h₂ : ReapedBut s₂ p (some child) :=
      (steady_change (c := .tryWait child) trivial (change_of_effect heffect)).children _ h₁
    refine ⟨h₂.rely hrely₃, ?_⟩
    rintro rfl
    exact (h₁.reap heffect).rely hrely₃
  · rintro result s₁ - - ⟨h₁, hexited⟩
    cases result with
    | error err => exact hostHolds_return fun s₂ hrely _ => h₁.rely hrely
    | ok exited =>
      cases exited with
      | false => exact hostHolds_return fun s₂ hrely _ => h₁.rely hrely
      | true => exact hostHolds_return fun s₂ hrely _ => (hexited rfl).rely hrely

theorem wait_holds (h : ReapedBut s p (some child)) :
    HostHolds nonce kept p s (perform (.wait child)) fun _ s' => ReapedBut s' p none := by
  refine hostHolds_perform fun s₁ hrely _ => ⟨trivial, fun r s₂ heffect _ s₃ hrely₃ => ?_⟩
  exact ((h.rely hrely).reap heffect).rely hrely₃

namespace ForegroundDaemon

theorem awaitExit_holds (deadline rounds : ℕ) (h : ReapedBut s p (some child)) :
    HostHolds nonce kept p s (awaitExit child deadline rounds)
      fun exited s' => ReapedBut s' p (bif exited then none else some child) := by
  induction rounds generalizing s with
  | zero => exact hostHolds_stalled
  | succ rounds ih =>
    refine hostHolds_quiet (hostQuiet_call .now trivial) fun now _ => ?_
    split
    · refine hostHolds_bind (hasExited_holds h) fun exited s₁ _ _ h₁ => ?_
      cases exited with
      | true => exact hostHolds_return fun s₂ hrely _ => h₁.rely hrely
      | false => exact hostHolds_quiet (hostQuiet_call .sleep trivial) fun _ _ => ih h₁
    · exact hostHolds_return fun s₁ hrely _ => h.rely hrely

theorem awaitGraceful_holds (rounds : ℕ) {daemon : ForegroundDaemon}
    (h : ReapedBut s p (some daemon.child)) :
    HostHolds nonce kept p s (daemon.awaitGraceful rounds)
      fun exited s' => ReapedBut s' p (bif exited then none else some daemon.child) := by
  unfold awaitGraceful
  split
  · refine hostHolds_bind (hasExited_holds h) fun exited s₁ _ _ h₁ => ?_
    cases exited with
    | true =>
      exact hostHolds_return fun s₂ hrely _ => (h₁.rely hrely).excepting (some daemon.child)
    | false =>
      exact hostHolds_quiet (hostQuiet_call .now trivial) fun now _ =>
        awaitExit_holds (now + 5000) rounds h₁
  · exact hostHolds_return fun s₁ hrely _ => h.rely hrely

/-- A daemon that is dropped was waited for. -/
theorem drop_holds (rounds : ℕ) {daemon : ForegroundDaemon}
    (h : ReapedBut s p (some daemon.child)) :
    HostHolds nonce kept p s (daemon.drop rounds) fun _ s' => ReapedBut s' p none := by
  refine hostHolds_bind (awaitGraceful_holds rounds h) fun exited s₁ _ _ h₁ => ?_
  cases exited with
  | true => exact hostHolds_return fun s₂ hrely _ => h₁.rely hrely
  | false =>
    refine hostHolds_bind (hasExited_holds h₁) fun exited s₂ _ _ h₂ => ?_
    cases exited with
    -- a child that was seen to end is waited for once more, which does no harm
    | true => exact wait_holds (h₂.excepting (some daemon.child))
    | false =>
      exact hostHolds_quiet (hostQuiet_call (.kill daemon.child) trivial) fun _ _ => wait_holds h₂

end ForegroundDaemon

/-- A daemon that a client has started, if there is one: the others were waited for. -/
structure StartedBy (nonce : Nonces) (p : ℕ) (spawned : Option SpawnedForeground) (s : HostState) :
    Prop where
  reaped : ReapedBut s p (spawned.map (·.foreground.child))
  own : ∀ started, spawned = some started → HasId nonce s p "tui-owner" started.ownerToken ∧
    ∃ record, s.processes started.foreground.child = some record ∧ record.parent = some p

omit [LockMetadataJson] in
theorem StartedBy.steady {spawned : Option SpawnedForeground} (h : StartedBy nonce p spawned s)
    (hgrows : Grows s s') (hsteady : Steady p s s') : StartedBy nonce p spawned s' where
  reaped := hsteady.children _ h.reaped
  own started hstarted := by
    obtain ⟨hid, record, hrecord, hparent⟩ := h.own started hstarted
    obtain ⟨record', hrecord', -, hsame⟩ := hgrows.records _ record hrecord
    exact ⟨hid.grows hgrows, record', hrecord', hsame.trans hparent⟩

theorem dropSpawned_holds (rounds : ℕ) {spawned : Option SpawnedForeground}
    (h : StartedBy nonce p spawned s) :
    HostHolds nonce kept p s (dropSpawned rounds spawned) fun _ s' => ReapedBut s' p none := by
  cases spawned with
  | none => exact hostHolds_return fun s' hrely _ => h.reaped.rely hrely
  | some started => exact ForegroundDaemon.drop_holds rounds h.reaped

/-! ## Readiness -/

/-- What a client is told by a probe is true. -/
theorem runProbe_holds (config : Option String) :
    HostHolds nonce kept p s (runProbe config).run (Outcome
      (fun probe s' => Steady p s s' ∧ Reported nonce s' probe.state probe.lockMetadata)
      (Steady p s)) := by
  refine hostHolds_then (P := fun _ => Steady p s) (B := Steady p s) (hostHolds_orContext
    (hostHolds_outcome (hostHolds_steady trivial fun _ _ _ => trivial))) ?_ fun _ _ _ h => h
  intro q s₁ _ _ hsteady
  refine hostHolds_perform fun s₂ hrely hvalid => ⟨trivial, fun r s₃ heffect _ s₄ hrely₄ => ?_⟩
  -- the client reads what a process that has ended has printed, and that is true
  have hsame : s₃ = s₂ := quiet_effect (c := .output q) trivial heffect
  subst hsame
  have hsteady₄ : Steady p s s₄ := (hsteady.trans hrely.steady).trans hrely₄.steady
  cases r with
  | error err => exact hsteady₄
  | ok probe =>
    simp only [HostCall.effect] at heffect
    split at heffect
    next record status hrecord =>
      obtain rfl := of_decide_eq_true (stay_eq_some heffect).1
      exact ⟨hsteady₄, (hvalid.outputs q _ status hrecord rfl).grows hrely₄.grows⟩
    next => cases heffect

omit [LockMetadataJson] in
theorem readinessDecision_owned {probe : DaemonProbe} {spawned : Option SpawnedForeground}
    (h : readinessDecision probe spawned = .ok .owned) :
    probe.state = .running ∧ ∃ started metadata, spawned = some started ∧
      probe.lockMetadata = some metadata ∧ metadata.pid = started.foreground.child ∧
      metadata.ownerToken = some started.ownerToken := by
  unfold readinessDecision at h
  split at h
  next => cases h
  next => cases h
  next hrunning =>
    refine ⟨hrunning, ?_⟩
    split at h
    next => cases h
    next started =>
      split at h
      next hany =>
        obtain ⟨metadata, hmetadata, hidentifies⟩ := (Option.any_eq_true _ _).1 hany
        obtain ⟨hpid, htoken⟩ := of_decide_eq_true hidentifies
        exact ⟨started, metadata, rfl, hmetadata, hpid, htoken⟩
      next => cases h
  next => cases h

omit [LockMetadataJson] in
theorem readinessDecision_adopted {probe : DaemonProbe} {spawned : Option SpawnedForeground}
    (h : readinessDecision probe spawned = .ok .adopted) : probe.state = .running := by
  unfold readinessDecision at h
  split at h
  next => cases h
  next => cases h
  next hrunning => exact hrunning
  next => cases h

/-- A client has a ready engine. -/
def Readied (nonce : Nonces) (p : ℕ) (ready : ReadyDaemon) (s : HostState) : Prop :=
  ready.probe.state = .running ∧ ReadyHeld nonce s p ready

omit [LockMetadataJson] in
theorem Readied.steady {ready : ReadyDaemon} (h : Readied nonce p ready s) (hgrows : Grows s s')
    (hsteady : Steady p s s') : Readied nonce p ready s' := by
  obtain ⟨probe, ownership⟩ := ready
  obtain ⟨hrunning, hheld⟩ := h
  refine ⟨hrunning, ?_⟩
  cases ownership with
  | direct => exact hheld
  | adopted => exact hsteady.children _ hheld
  | owned ownerToken foreground =>
    obtain ⟨hreaped, metadata, hmetadata, hlaunch, hanswered, hpid, htoken, hid, record, hrecord,
      hparent⟩ := hheld
    obtain ⟨record', hrecord', -, hsame⟩ := hgrows.records _ record hrecord
    exact ⟨hsteady.children _ hreaped, metadata, hmetadata, hlaunch.grows hgrows,
      hanswered.grows hgrows, hpid, htoken, hid.grows hgrows, record', hrecord', hsame.trans hparent⟩

theorem checkSpawned_holds (probe : DaemonProbe) (spawned : Option SpawnedForeground)
    (h : StartedBy nonce p spawned s) :
    HostHolds nonce kept p s (checkSpawned probe spawned).run (Outcome
      (fun _ => StartedBy nonce p spawned) (StartedBy nonce p spawned)) := by
  have hlater : ∀ s', Rely kept p s s' → s'.Valid nonce kept → StartedBy nonce p spawned s' :=
    fun s' hrely _ => h.steady hrely.grows hrely.steady
  unfold checkSpawned
  split
  · cases spawned with
    | none => exact hostHolds_throw hlater
    | some started =>
      refine hostHolds_then (P := fun _ => StartedBy nonce p (some started))
        (B := StartedBy nonce p (some started)) (hostHolds_orContext (hostHolds_outcome ?_)) ?_
        fun _ _ _ h => h
      · refine Process.Holds.weaken (HostHolds.grows (hostHolds_steady trivial fun _ _ _ => trivial)) ?_
        rintro _ s₁ - ⟨hgrows, hsteady⟩
        exact h.steady hgrows hsteady
      · intro exited s₁ _ _ h₁
        have hlater₁ : ∀ s', Rely kept p s₁ s' → s'.Valid nonce kept →
            StartedBy nonce p (some started) s' :=
          fun s' hrely _ => h₁.steady hrely.grows hrely.steady
        cases exited with
        | true => exact hostHolds_throw hlater₁
        | false => exact hostHolds_pure hlater₁
  · exact hostHolds_pure hlater

/-- A client waits until an engine is ready. -/
theorem waitRounds_holds (config : Option String) (deadline startupTimeoutMs dropRounds rounds : ℕ)
    {spawned : Option SpawnedForeground} (h : StartedBy nonce p spawned s) :
    HostHolds nonce kept p s
      (waitRounds config deadline startupTimeoutMs dropRounds spawned rounds).run
      (Outcome (Readied nonce p) (StartedBy nonce p spawned)) := by
  induction rounds generalizing s with
  | zero => exact hostHolds_lift (P := Readied nonce p) hostHolds_stalled
  | succ rounds ih =>
    have hlater : ∀ s', Rely kept p s s' → s'.Valid nonce kept → StartedBy nonce p spawned s' :=
      fun s' hrely _ => h.steady hrely.grows hrely.steady
    unfold waitRounds
    refine hostHolds_quietThen (hostQuiet_invoke .now trivial) (fun now _ => ?_) hlater
    split
    · exact hostHolds_throw hlater
    refine hostHolds_then (hostHolds_addContext (runProbe_holds config)) ?_
      fun s' _ hgrows hsteady => h.steady hgrows hsteady
    rintro probe s₁ - hgrows₁ ⟨hsteady₁, hreported⟩
    have h₁ : StartedBy nonce p spawned s₁ := h.steady hgrows₁ hsteady₁
    refine hostHolds_quietThen (R := fun result => result = readinessDecision probe spawned)
      (Process.quiet_pure rfl) (fun decision hdecision => ?_)
      fun s' hrely _ => h₁.steady hrely.grows hrely.steady
    cases decision with
    | owned =>
      obtain ⟨hrunning, started, metadata, rfl, hmetadata, hpid, htoken⟩ :=
        readinessDecision_owned hdecision.symm
      obtain ⟨hid, record, hrecord, hparent⟩ := h₁.own started rfl
      -- the probe says what is true of the metadata that names the client's own child
      obtain ⟨hlaunch, hanswered⟩ := hreported hrunning metadata hmetadata
      have hready : Readied nonce p
          ⟨probe, .owned started.ownerToken started.foreground⟩ s₁ :=
        ⟨hrunning, h₁.reaped, metadata, hmetadata, hlaunch, hanswered, hpid, htoken, hid, record,
          hrecord, hparent⟩
      exact hostHolds_pure fun s₂ hrely _ => hready.steady hrely.grows hrely.steady
    | adopted =>
      -- another engine was faster: the client's own daemon is dropped first
      refine hostHolds_then (B := fun _ => False) (hostHolds_lift (dropSpawned_holds dropRounds h₁))
        ?_ fun _ _ _ h => h.elim
      intro _ s₂ _ _ hreaped
      exact hostHolds_pure fun s₃ hrely _ =>
        ⟨readinessDecision_adopted hdecision.symm, hreaped.rely hrely⟩
    | wait =>
      -- no decision yet: one round less
      refine hostHolds_then (checkSpawned_holds probe spawned h₁) ?_ fun _ _ _ h => h
      intro _ s₂ _ _ h₂
      exact hostHolds_quietThen (hostQuiet_invoke .sleep trivial) (fun _ _ => ih h₂)
        fun s' hrely _ => h₂.steady hrely.grows hrely.steady

/-- A daemon that does not get ready is dropped. -/
theorem waitForReadiness_holds (rounds : ℕ) (config : Option String) (wait startupTimeoutMs : ℕ)
    {spawned : Option SpawnedForeground} (h : StartedBy nonce p spawned s) :
    HostHolds nonce kept p s (waitForReadiness rounds config wait startupTimeoutMs spawned).run
      (Outcome (Readied nonce p) fun s' => ReapedBut s' p none) := by
  have hlater : ∀ s', Rely kept p s s' → s'.Valid nonce kept → StartedBy nonce p spawned s' :=
    fun s' hrely _ => h.steady hrely.grows hrely.steady
  refine hostHolds_onError (B := StartedBy nonce p spawned) ?_
    fun s' _ _ h' => dropSpawned_holds rounds h'
  have hdeadline : HostQuiet nonce kept p (fun _ => True) (readinessDeadline wait).run := by
    refine hostQuiet_then (hostQuiet_invoke .now trivial) (fun now _ => ?_) fun _ _ => trivial
    split
    · exact hostQuiet_pure trivial
    · exact hostQuiet_throw trivial
  exact hostHolds_quietThen hdeadline
    (fun deadline _ => waitRounds_holds config deadline startupTimeoutMs rounds rounds h) hlater

/-- A daemon that is started is the client's child. -/
theorem spawnDaemon_holds (config : Option String) {ownerToken : String}
    (hid : HasId nonce s p "tui-owner" ownerToken) (h : ReapedBut s p none) :
    HostHolds nonce kept p s (perform (.spawnDaemon config ownerToken)) (Outcome
      (fun child => StartedBy nonce p (some ⟨ownerToken, child, false⟩))
      (fun s' => ReapedBut s' p none)) := by
  refine hostHolds_perform fun s₁ hrely hvalid =>
    ⟨hid.grows hrely.grows, fun r s₂ heffect _ s₃ hrely₃ => ?_⟩
  have h₁ : ReapedBut s₁ p none := h.rely hrely
  have hgrows : Grows s₁ s₂ := grows_change hvalid.unborn_next (change_of_effect heffect)
  cases r with
  | error err =>
    obtain rfl := Option.some.inj heffect
    exact h₁.rely hrely₃
  | ok child =>
    obtain ⟨⟨rfl, -⟩, hcreated⟩ := Option.ite_none_right_eq_some.1 heffect
    obtain rfl := Option.some.inj hcreated
    have h₂ : StartedBy nonce p (some ⟨ownerToken, s₁.nextProcess, false⟩)
        (s₁.create (.daemon config none true (some ownerToken)) (some p) .created) := by
      -- the new process is the only daemon of the client that was not waited for
      refine ⟨fun q record hrecord hparent hdaemon hne => ?_, fun started hstarted => ?_⟩
      · obtain ⟨rfl, -⟩ | ⟨-, hold⟩ := processes_create.1 hrecord
        · exact absurd rfl hne
        · exact h₁ q record hold hparent hdaemon (Option.some_ne_none q)
      · obtain rfl := Option.some.inj hstarted
        exact ⟨(hid.grows hrely.grows).grows hgrows, _, processes_create.2 (.inl ⟨rfl, rfl⟩), rfl⟩
    exact h₂.steady hrely₃.grows hrely₃.steady

theorem ensureReady_holds (rounds : ℕ) (config : Option String) (initial : DaemonProbe)
    (h : ReapedBut s p none) :
    HostHolds nonce kept p s (ensureReady rounds config initial).run
      (Outcome (Readied nonce p) fun s' => ReapedBut s' p none) := by
  have hlater : ∀ s', Rely kept p s s' → s'.Valid nonce kept → ReapedBut s' p none :=
    fun s' hrely _ => h.rely hrely
  unfold ensureReady
  split
  next hrunning => exact hostHolds_pure fun s' hrely _ => ⟨hrunning, h.rely hrely⟩
  next =>
    refine hostHolds_then (B := fun _ => False)
      (hostHolds_lift (hostHolds_correlationId "tui-owner")) ?_ fun _ _ _ h => h.elim
    -- no engine runs: the client starts one with a token that nobody else has
    rintro ownerToken s₁ - - ⟨hfresh, hsteady⟩
    refine hostHolds_then
      (hostHolds_orContext (spawnDaemon_holds config hfresh.1 (hsteady.children _ h))) ?_
      fun _ _ _ h => h
    exact fun child s₂ _ _ h₂ => waitForReadiness_holds rounds config _ _ h₂
  next =>
    exact waitForReadiness_holds rounds config _ _ ⟨h, fun _ hstarted => by cases hstarted⟩
  next => exact hostHolds_throw hlater

/-! ## Sessions -/

/-- The daemon of an engine that the client owns. -/
def EngineOwnership.ownChild : EngineOwnership → Option ℕ
  | .owned _ foreground => some foreground.child
  | _ => none

/-- The daemons of the client were waited for, but for that of its own engine. -/
structure OwnedBy (nonce : Nonces) (p : ℕ) (ownership : EngineOwnership) (s : HostState) : Prop where
  reaped : ReapedBut s p ownership.ownChild
  token : ∀ ownerToken foreground, ownership = .owned ownerToken foreground →
    HasId nonce s p "tui-owner" ownerToken

omit [LockMetadataJson] in
theorem OwnedBy.steady {ownership : EngineOwnership} (h : OwnedBy nonce p ownership s)
    (hgrows : Grows s s') (hsteady : Steady p s s') : OwnedBy nonce p ownership s' where
  reaped := hsteady.children _ h.reaped
  token ownerToken foreground howned := (h.token ownerToken foreground howned).grows hgrows

omit [LockMetadataJson] in
theorem Readied.ownedBy {ready : ReadyDaemon} (h : Readied nonce p ready s) :
    OwnedBy nonce p ready.ownership s := by
  obtain ⟨probe, ownership⟩ := ready
  obtain ⟨-, hheld⟩ := h
  cases ownership with
  | direct => exact hheld.elim
  | adopted => exact ⟨hheld, fun _ _ howned => by cases howned⟩
  | owned ownerToken foreground =>
    obtain ⟨hreaped, -, -, -, -, -, -, hid, -⟩ := hheld
    refine ⟨hreaped, fun other foreground' howned => ?_⟩
    obtain ⟨rfl, -⟩ := EngineOwnership.owned.inj howned
    exact hid

theorem EngineOwnership.drop_holds (rounds : ℕ) {ownership : EngineOwnership}
    (h : ReapedBut s p ownership.ownChild) :
    HostHolds nonce kept p s (ownership.drop rounds) fun _ s' => ReapedBut s' p none := by
  cases ownership with
  | owned ownerToken foreground => exact ForegroundDaemon.drop_holds rounds h
  | direct => exact hostHolds_return fun s' hrely _ => h.rely hrely
  | adopted => exact hostHolds_return fun s' hrely _ => h.rely hrely

/-- A client comes to a ready engine, or has no daemon left. -/
theorem connectReady_holds (rounds : ℕ) (config : Option String) (h : ReapedBut s p none) :
    HostHolds nonce kept p s (connectReady rounds config).run
      (Outcome (Readied nonce p) fun s' => ReapedBut s' p none) := by
  refine hostHolds_then (runProbe_holds config) ?_ fun s' _ _ hsteady => hsteady.children _ h
  rintro probe s₁ - - ⟨hsteady₁, -⟩
  refine hostHolds_then (ensureReady_holds rounds config probe (hsteady₁.children _ h)) ?_
    fun _ _ _ h => h
  intro ready s₂ _ _ hready₂
  refine hostHolds_then (P := fun _ => Readied nonce p ready) (B := fun _ => False)
    (hostHolds_lift ?_) ?_ fun _ _ _ h => h.elim
  · refine Process.Holds.weaken (HostHolds.grows (hostHolds_steady trivial fun s' hrely _ =>
      hready₂.steady hrely.grows hrely.steady)) ?_
    rintro _ s₃ - ⟨hgrows, hsteady⟩
    exact hready₂.steady hgrows hsteady
  intro _ s₃ _ _ hready₃
  have hlater : ∀ s', Rely kept p s₃ s' → Readied nonce p ready s' :=
    fun s' hrely => hready₃.steady hrely.grows hrely.steady
  refine hostHolds_then (hostHolds_onError (P := fun _ => Readied nonce p ready)
    (B := Readied nonce p ready) ?_ fun s' _ _ hready => ?_) ?_ fun _ _ _ h => h
  · exact hostHolds_outcome (hostHolds_ofQuiet (hostQuiet_call
      (.connect ready.probe.rpcEndpoint ready.probe.pubEndpoint) trivial)
      fun _ s' _ hrely _ => hlater s' hrely)
  · exact EngineOwnership.drop_holds rounds hready.ownedBy.reaped
  · exact fun _ s₄ _ _ hready₄ =>
      hostHolds_pure fun s₅ hrely _ => hready₄.steady hrely.grows hrely.steady

/-- A request to shut down that the client may make. -/
theorem requestShutdown_holds (endpoint : String) {ownerToken : Option String}
    (hauthorized : ∀ s' requestId, Grows s s' →
      Authorized nonce s' p ⟨requestId, endpoint, .shutdown ownerToken⟩) :
    HostHolds nonce kept p s (requestShutdown endpoint ownerToken).run
      (Outcome (fun _ => Steady p s) (Steady p s)) := by
  refine hostHolds_then (B := fun _ => False)
    (hostHolds_lift (hostHolds_correlationId "renderer-request")) ?_ fun _ _ _ h => h.elim
  rintro requestId s₁ - hgrows₁ ⟨hfresh, hsteady₁⟩
  refine hostHolds_then (P := fun _ => Steady p s₁) (B := Steady p s₁)
    (hostHolds_outcome (send_holds hfresh fun s' hgrows =>
      hauthorized s' requestId (hgrows₁.trans hgrows))) ?_
    fun s' _ _ hsteady => hsteady₁.trans hsteady
  intro _ s₂ _ _ hsteady₂
  refine hostHolds_then (B := fun _ => False) (hostHolds_lift (await_holds requestId)) ?_
    fun _ _ _ h => h.elim
  rintro response s₃ - - ⟨hrely₃, -⟩
  have hsteady : ∀ s', Rely kept p s₃ s' → Steady p s s' := fun s' hrely =>
    ((hsteady₁.trans hsteady₂).trans hrely₃.steady).trans hrely.steady
  exact hostHolds_outcome (hostHolds_return fun s' hrely _ => hsteady s' hrely)

/-- An engine is asked to stop only by its owner, with the token. -/
theorem releaseEngine_holds (endpoint : String) {ownership : EngineOwnership}
    (h : OwnedBy nonce p ownership s) :
    HostHolds nonce kept p s (releaseEngine endpoint ownership)
      fun released s' => ReapedBut s' p released.ownChild := by
  cases ownership with
  | direct => exact hostHolds_return fun s' hrely _ => h.reaped.rely hrely
  | adopted => exact hostHolds_return fun s' hrely _ => h.reaped.rely hrely
  | owned ownerToken foreground =>
    have hid : HasId nonce s p "tui-owner" ownerToken := h.token ownerToken foreground rfl
    refine hostHolds_bind (requestShutdown_holds endpoint fun s' requestId hgrows token htoken => ?_) ?_
    · obtain rfl := LifecycleRequest.shutdown.inj htoken
      exact .inl ⟨ownerToken, rfl, hid.grows hgrows⟩
    · intro accepted s₁ _ _ haccepted
      cases accepted with
      | ok => exact hostHolds_return fun s' hrely _ => (haccepted.children _ h.reaped).rely hrely
      | error => exact hostHolds_return fun s' hrely _ => (haccepted.children _ h.reaped).rely hrely

/-- At the end of a session every daemon was waited for. -/
theorem runSession_holds (rounds : ℕ) (endpoint : String) {ownership : EngineOwnership}
    (h : OwnedBy nonce p ownership s) :
    HostHolds nonce kept p s (runSession rounds endpoint ownership).run
      fun _ s' => ReapedBut s' p none := by
  refine hostHolds_quiet (hostQuiet_call .runConnected trivial) fun result _ => ?_
  refine hostHolds_bind (releaseEngine_holds endpoint h) fun released s₁ _ _ h₁ => ?_
  refine hostHolds_bind (EngineOwnership.drop_holds rounds h₁) fun _ s₂ _ _ h₂ => ?_
  refine hostHolds_quiet (hostQuiet_call .closeClient trivial) fun _ _ => ?_
  exact hostHolds_return fun s₃ hrely _ => h₂.rely hrely

theorem runManaged_holds (rounds : ℕ) (config : Option String) (h : ReapedBut s p none) :
    HostHolds nonce kept p s (runManaged rounds config).run
      (Outcome (fun _ s' => ReapedBut s' p none) fun s' => ReapedBut s' p none) := by
  refine hostHolds_then (connectReady_holds rounds config h) ?_ fun _ _ _ h => h
  exact fun ready s₁ _ _ hready =>
    hostHolds_outcome (runSession_holds rounds ready.probe.rpcEndpoint hready.ownedBy)

theorem runGui_holds (rounds : ℕ) (config : Option String) (h : ReapedBut s p none) :
    HostHolds nonce kept p s (runGui rounds config).run
      (Outcome (fun _ s' => ReapedBut s' p none) fun s' => ReapedBut s' p none) := by
  refine hostHolds_then (connectReady_holds rounds config h) ?_ fun _ _ _ h => h
  intro ready s₁ _ _ hready
  refine hostHolds_outcome (hostHolds_quiet (hostQuiet_call .runConnected trivial) fun result _ => ?_)
  refine hostHolds_bind (releaseEngine_holds _ hready.ownedBy) fun released s₂ _ _ h₂ => ?_
  refine hostHolds_quiet (hostQuiet_call .closeClient trivial) fun _ _ => ?_
  refine hostHolds_bind (EngineOwnership.drop_holds rounds h₂) fun _ s₃ _ _ h₃ => ?_
  exact hostHolds_return fun s₄ hrely _ => h₃.rely hrely

/-- A session with endpoints starts and stops no engine. -/
theorem runDirect_holds (rounds : ℕ) (rpcEndpoint pubEndpoint : String) (h : ReapedBut s p none) :
    HostHolds nonce kept p s (runDirect rounds rpcEndpoint pubEndpoint).run
      (Outcome (fun _ s' => ReapedBut s' p none) fun s' => ReapedBut s' p none) := by
  refine hostHolds_quietThen (hostQuiet_call (.connect rpcEndpoint pubEndpoint) trivial)
    (fun _ _ => ?_) fun s' hrely _ => h.rely hrely
  exact hostHolds_outcome (runSession_holds rounds rpcEndpoint
    ⟨h, fun _ _ howned => by cases howned⟩)

/-! ## Commands to stop an engine -/

variable {kind : ProcessKind}

omit [LockMetadataJson] in
theorem authorized_of_stops (hkind : IsKind s p kind) (hstops : kind.Stops)
    (message : RequestMessage) : Authorized nonce s p message :=
  fun _ _ => .inr ⟨kind, hkind, hstops⟩

theorem stopEngine_holds (rpcEndpoint pubEndpoint : String) (hkind : IsKind s p kind)
    (hstops : kind.Stops) :
    HostHolds nonce kept p s (stopEngine rpcEndpoint pubEndpoint).run
      (Outcome (fun _ _ => True) fun _ => True) := by
  refine hostHolds_quietThen (hostQuiet_call (.connect rpcEndpoint pubEndpoint) trivial)
    (fun _ _ => ?_) fun _ _ _ => trivial
  refine hostHolds_outcome (hostHolds_bind (requestShutdown_holds rpcEndpoint
    fun s' requestId hgrows => authorized_of_stops (hkind.grows hgrows) hstops _) ?_)
  intro result s₁ _ _ _
  exact hostHolds_quiet (hostQuiet_call .closeClient trivial) fun _ _ =>
    hostHolds_return fun _ _ _ => trivial

theorem runManagedStop_holds (config : Option String) (hkind : IsKind s p kind)
    (hstops : kind.Stops) :
    HostHolds nonce kept p s (runManagedStop config).run
      (Outcome (fun _ _ => True) fun _ => True) := by
  refine hostHolds_then (runProbe_holds config) ?_ fun _ _ _ _ => trivial
  rintro probe s₁ - hgrows₁ -
  split
  · exact hostHolds_pure fun _ _ _ => trivial
  · exact stopEngine_holds _ _ (hkind.grows hgrows₁) hstops
  · exact hostHolds_throw fun _ _ _ => trivial

theorem waitUntilStopped_holds (config : Option String)
    (deadline rounds : ℕ) :
    HostHolds nonce kept p s (waitUntilStopped config deadline rounds).run
      (Outcome (fun _ _ => True) fun _ => True) := by
  induction rounds generalizing s with
  | zero => exact hostHolds_lift (P := fun _ _ => True) hostHolds_stalled
  | succ rounds ih =>
    unfold waitUntilStopped
    refine hostHolds_quietThen (hostQuiet_invoke .now trivial) (fun now _ => ?_) fun _ _ _ => trivial
    split
    · exact hostHolds_throw fun _ _ _ => trivial
    refine hostHolds_then (B := fun _ => False) (hostHolds_lift (probeStatus_holds config)) ?_
      fun _ _ _ h => h.elim
    intro status s₁ _ _ _
    split
    · exact hostHolds_pure fun _ _ _ => trivial
    · exact hostHolds_quietThen (hostQuiet_invoke .sleep trivial) (fun _ _ => ih) fun _ _ _ => trivial

theorem stopRunning_holds (rounds : ℕ) (config : Option String)
    (status : ProbeStatus) (hkind : IsKind s p kind) (hstops : kind.Stops) :
    HostHolds nonce kept p s (stopRunning rounds config status).run
      (Outcome (fun _ _ => True) fun _ => True) := by
  -- the path of the configuration is found one way or the other
  have hfrom : ∀ path : String, HostHolds nonce kept p s
      (do let configPath : String ← orFail (perform (.absolutePath path))
          let appConfig : AppConfig ← orFail (perform (.loadOrDefault configPath))
          let requestId : String ← invoke (.correlationId "daemon-stop")
          orFail (perform .resolveHmacKey)
          orFail (perform (.send ⟨requestId, status.rpcEndpoint,
            .shutdown (status.lockMetadata.bind (·.ownerToken))⟩))
          let response : Option ResponseMessage ← invoke (.await requestId)
          let _ ← ExceptT.mk (pure (validateShutdownResponse requestId response) :
            HostProgram (Except String Unit))
          let now : ℕ ← invoke .now
          waitUntilStopped config (now + max appConfig.engine.requestTimeoutMs 1 + 12000)
            rounds).run
      (Outcome (fun _ _ => True) fun _ => True) := by
    intro path
    refine hostHolds_quietThen (hostQuiet_call (.absolutePath path) trivial)
      (fun configPath _ => ?_) fun _ _ _ => trivial
    refine hostHolds_quietThen (hostQuiet_call (.loadOrDefault configPath) trivial)
      (fun appConfig _ => ?_) fun _ _ _ => trivial
    refine hostHolds_then (B := fun _ => False)
      (hostHolds_lift (hostHolds_correlationId "daemon-stop")) ?_ fun _ _ _ h => h.elim
    rintro requestId s₁ - hgrows₁ ⟨hfresh, -⟩
    refine hostHolds_quietThen (hostQuiet_call .resolveHmacKey trivial) (fun _ _ => ?_)
      fun _ _ _ => trivial
    refine hostHolds_then (P := fun _ _ => True) (B := fun _ => True) (hostHolds_outcome
      (Process.Holds.weaken (send_holds hfresh fun s' hgrows =>
        authorized_of_stops ((hkind.grows hgrows₁).grows hgrows) hstops _) fun _ _ _ _ => trivial))
      ?_ fun _ _ _ _ => trivial
    intro _ s₂ _ _ _
    refine hostHolds_quietThen (hostQuiet_invoke (.await requestId) trivial) (fun response _ => ?_)
      fun _ _ _ => trivial
    refine hostHolds_quietThen (R := fun _ => True) (Process.quiet_pure trivial) (fun _ _ => ?_)
      fun _ _ _ => trivial
    refine hostHolds_quietThen (hostQuiet_invoke .now trivial) (fun now _ => ?_)
      fun _ _ _ => trivial
    exact waitUntilStopped_holds config _ rounds
  unfold stopRunning
  cases config with
  | some path => exact hfrom path
  | none =>
    exact hostHolds_quietThen (hostQuiet_call .defaultConfigFile trivial) (fun path _ => hfrom path)
      fun _ _ _ => trivial

theorem stopDaemon_holds (rounds : ℕ) (config : Option String)
    (hkind : IsKind s p kind) (hstops : kind.Stops) :
    HostHolds nonce kept p s (stopDaemon rounds config).run
      (Outcome (fun _ _ => True) fun _ => True) := by
  refine hostHolds_then (probeStatus_holds config) ?_ fun _ _ _ _ => trivial
  rintro status s₁ - hgrows₁ -
  split
  · exact hostHolds_pure fun _ _ _ => trivial
  · exact stopRunning_holds rounds config status (hkind.grows hgrows₁) hstops
  · exact hostHolds_throw fun _ _ _ => trivial

end WeatherApp.Host
