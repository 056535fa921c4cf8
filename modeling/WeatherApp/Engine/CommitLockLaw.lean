import WeatherApp.Engine.StartupLaw

/-!
# Commits are serialised

Whatever requests an engine gets and wherever they are dropped, its live configuration is that of
the startup with the commits so far applied one after the other, and its file holds the live
configuration whenever nothing is in progress. All of it rests on the guard of the lock being where
the work is: what has been prepared from the live configuration stays prepared from it until the
guard is dropped.

## Main definitions

* `CommitRun.Quiet`: a step that changes neither the configuration nor the database.
* `HolderInv`, `ValueInv`: the invariant of the configuration, its file and the holder of the guard.

## Main results

* `CommitRun.step_elim`, `CommitRun.step_cases`: what a step is, and what it may change.
* `ValueInv.step`: every step keeps the invariant.
-/

namespace WeatherApp

/-! ## What a step does -/

section Steps

variable {Tz σ : Type} {path : String} {s s' : CommitRun Tz}

/-- A future that has the guard and can be dropped has done nothing durable. -/
theorem GuardHolder.isAwaiting_eq_some {holder : GuardHolder} {outcome : CommitOutcome}
    (h : holder.isAwaiting = some outcome) :
    holder.isBeforeEffect = true ∧ (outcome = .updateCancelled ∨ outcome = .migrationCancelled) := by
  cases holder with
  | preparingUpdate =>
    cases h
    exact ⟨rfl, .inl rfl⟩
  | preparingMigration | admitting =>
    cases h
    exact ⟨rfl, .inr rfl⟩
  | persistingUpdate | applyingUpdate | queued | finalizing | applyingBundle | clearing | failing =>
    cases h

/-- A dropped future waited for the lock, or had the guard, or waited for a reply. -/
theorem CommitRun.cancel_cases {number : ℕ} (h : s.cancel number = some s') :
    (∃ request, s.waiting.get number = some request ∧
      s' = { s with
        waiting := s.waiting.remove number
        outcomes := s.outcomes ++ [(number, request.cancelled)] }) ∨
    (∃ holder outcome, s.guard = some (number, holder) ∧ holder.isAwaiting = some outcome ∧
      s' = s.finish number outcome) ∨
    (∃ awaited, s.replies.get number = some awaited ∧
      s' = { s with
        replies := s.replies.remove number
        outcomes := s.outcomes ++ [(number, .migrationCancelled)] }) := by
  unfold CommitRun.cancel at h
  split at h
  next request hget => exact .inl ⟨request, hget, (Option.some.inj h).symm⟩
  next =>
    right
    split at h
    next outcome hdropped =>
      unfold CommitRun.droppedGuard at hdropped
      split at hdropped
      next holding holder hguard =>
        split_ifs at hdropped with hnumber
        subst hnumber
        exact .inl ⟨holder, outcome, hguard, hdropped, (Option.some.inj h).symm⟩
      next => cases hdropped
    next =>
      split at h
      next awaited hget => exact .inr ⟨awaited, hget, (Option.some.inj h).symm⟩
      next => cases h

/-- A reply is received once it has been sent. -/
theorem CommitRun.receive_cases {number : ℕ} (h : s.receive number = some s') :
    ∃ awaited reply, s.replies.get number = some awaited ∧ awaited.reply = some reply ∧
      s' = { s with
        replies := s.replies.remove number
        outcomes := s.outcomes ++ [(number, .migrated (reply.map fun rows =>
          ⟨awaited.oldTimezone, awaited.newTimezone, rows⟩))] } := by
  unfold CommitRun.receive at h
  split at h
  next oldTimezone newTimezone reply hget =>
    exact ⟨_, reply, hget, rfl, (Option.some.inj h).symm⟩
  next => cases h

/-- The configuration, its file and the database are the same. -/
structure CommitRun.SameValues (s s' : CommitRun Tz) : Prop where
  file : s'.file = s.file
  live : s'.state.live = s.state.live
  db : s'.db = s.db

/-- A step that neither the holder of the guard nor the database takes. -/
structure CommitRun.Quiet (s s' : CommitRun Tz) : Prop extends s.SameValues s' where
  effects : s'.effects = s.effects
  changes : s'.changes = s.changes

section Quiet

variable [TzDatabase Tz]

theorem CommitRun.quiet_arrive (s : CommitRun Tz) (request : CommitRequest) :
    s.Quiet (s.arrive request) := by
  unfold CommitRun.arrive
  cases request with
  | updateConfig => exact ⟨⟨rfl, rfl, rfl⟩, rfl, rfl⟩
  | migrateDbTimezone =>
    dsimp only
    split
    next => exact ⟨⟨rfl, rfl, rfl⟩, rfl, rfl⟩
    next => exact ⟨⟨rfl, rfl, rfl⟩, rfl, rfl⟩

theorem CommitRun.quiet_lockUpdate [Environment] (s : CommitRun Tz) (number : ℕ)
    (candidate : AppConfig) : s.Quiet (s.lockUpdate number candidate) := by
  unfold CommitRun.lockUpdate
  dsimp only
  split
  next => exact ⟨⟨rfl, rfl, rfl⟩, rfl, rfl⟩
  next =>
    split_ifs
    · exact ⟨⟨rfl, rfl, rfl⟩, rfl, rfl⟩
    · exact ⟨⟨rfl, rfl, rfl⟩, rfl, rfl⟩
    · exact ⟨⟨rfl, rfl, rfl⟩, rfl, rfl⟩

theorem CommitRun.quiet_lockMigration [Environment] (s : CommitRun Tz) (number : ℕ)
    (newTimezone : String) : s.Quiet (s.lockMigration number newTimezone) := by
  unfold CommitRun.lockMigration
  dsimp only
  split_ifs
  · exact ⟨⟨rfl, rfl, rfl⟩, rfl, rfl⟩
  · split
    next => exact ⟨⟨rfl, rfl, rfl⟩, rfl, rfl⟩
    next => exact ⟨⟨rfl, rfl, rfl⟩, rfl, rfl⟩

omit [TzDatabase Tz] in
theorem CommitRun.quiet_receive {number : ℕ} (h : s.receive number = some s') : s.Quiet s' := by
  obtain ⟨_, _, -, -, rfl⟩ := CommitRun.receive_cases h
  exact ⟨⟨rfl, rfl, rfl⟩, rfl, rfl⟩

omit [TzDatabase Tz] in
theorem CommitRun.quiet_cancel {number : ℕ} (h : s.cancel number = some s') : s.Quiet s' := by
  rcases CommitRun.cancel_cases h with ⟨_, -, rfl⟩ | ⟨_, _, -, -, rfl⟩ | ⟨_, -, rfl⟩
  · exact ⟨⟨rfl, rfl, rfl⟩, rfl, rfl⟩
  · exact ⟨⟨rfl, rfl, rfl⟩, rfl, rfl⟩
  · exact ⟨⟨rfl, rfl, rfl⟩, rfl, rfl⟩

variable [Environment] [TomlFormat] [DecidableEq Tz] [Sha256] [SnapshotMessage σ]

/-- What holds after every kind of step holds after a step. -/
theorem CommitRun.step_elim {P : CommitRun Tz → Prop} {label : CommitLabel σ}
    (hstep : s.step path label = some s')
    (harrive : ∀ request, label = .request request → P (s.arrive request))
    (hlockUpdate : ∀ number candidate, s.guard = none →
      s.waiting.get number = some (.updateConfig candidate) →
        P (CommitRun.lockUpdate { s with waiting := s.waiting.remove number } number candidate))
    (hlockMigration : ∀ number newTimezone, s.guard = none →
      s.waiting.get number = some (.migrateDbTimezone newTimezone) →
        P (CommitRun.lockMigration { s with waiting := s.waiting.remove number } number
          newTimezone))
    (hholder : ∀ number holder faults, label = .guard faults → s.guard = some (number, holder) →
      P (s.holderStep path number faults holder))
    (hreceive : ∀ number, s.receive number = some s' → P s')
    (hcancel : ∀ number, s.cancel number = some s' → P s')
    (hput : ∀ snapshot fetchedAtUnixMs faults, label = .put snapshot fetchedAtUnixMs faults →
      P (s.putHistory snapshot fetchedAtUnixMs faults)) : P s' := by
  cases label with
  | request request =>
    cases hstep
    exact harrive request rfl
  | lock number =>
    rw [CommitRun.step] at hstep
    split at hstep
    next hguard hrequest =>
      split at hstep
      next =>
        cases hstep
        exact hlockUpdate number _ hguard hrequest
      next =>
        cases hstep
        exact hlockMigration number _ hguard hrequest
    next => cases hstep
  | guard faults =>
    rw [CommitRun.step] at hstep
    split at hstep
    next number holder hguard =>
      cases hstep
      exact hholder number holder faults rfl hguard
    next => cases hstep
  | reply number => exact hreceive number hstep
  | cancel number => exact hcancel number hstep
  | put snapshot fetchedAtUnixMs faults =>
    rw [CommitRun.step] at hstep
    split_ifs at hstep
    cases hstep
    exact hput snapshot fetchedAtUnixMs faults rfl

/-- Only the holder of the guard and a put change the configuration, its file or the database. -/
theorem CommitRun.step_cases {label : CommitLabel σ} (h : s.step path label = some s') :
    s.Quiet s' ∨
    (∃ faults number holder, label = .guard faults ∧ s.guard = some (number, holder) ∧
      s' = s.holderStep path number faults holder) ∨
    ∃ snapshot fetchedAtUnixMs faults, label = .put snapshot fetchedAtUnixMs faults ∧
      s' = s.putHistory snapshot fetchedAtUnixMs faults := by
  apply CommitRun.step_elim h
  · exact fun request _ => .inl (s.quiet_arrive request)
  · intro number candidate _ _
    have hquiet :=
      CommitRun.quiet_lockUpdate { s with waiting := s.waiting.remove number } number candidate
    exact .inl ⟨⟨hquiet.file, hquiet.live, hquiet.db⟩, hquiet.effects, hquiet.changes⟩
  · intro number newTimezone _ _
    have hquiet := CommitRun.quiet_lockMigration
      { s with waiting := s.waiting.remove number } number newTimezone
    exact .inl ⟨⟨hquiet.file, hquiet.live, hquiet.db⟩, hquiet.effects, hquiet.changes⟩
  · exact fun number holder faults hlabel hguard =>
      .inr (.inl ⟨faults, number, holder, hlabel, hguard, rfl⟩)
  · exact fun _ hreceive => .inl (CommitRun.quiet_receive hreceive)
  · exact fun _ hcancel => .inl (CommitRun.quiet_cancel hcancel)
  · exact fun snapshot fetchedAtUnixMs faults hlabel =>
      .inr (.inr ⟨snapshot, fetchedAtUnixMs, faults, hlabel, rfl⟩)

omit [Environment] [TomlFormat] [DecidableEq Tz] in
/-- A put changes only the database. -/
theorem CommitRun.putHistory_eq (s : CommitRun Tz) (snapshot : σ) (fetchedAtUnixMs : ℤ)
    (faults : FaultPlan) :
    ∃ db changes, s.putHistory snapshot fetchedAtUnixMs faults = { s with db, changes } := by
  unfold CommitRun.putHistory
  split
  next => exact ⟨_, _, rfl⟩
  next => exact ⟨_, _, rfl⟩

end Quiet

end Steps

section Values

variable [Environment] [TomlFormat] {Tz : Type} [TzDatabase Tz]

/-! ## What has been prepared -/

/-- A bundle that has been made of the live configuration. -/
structure BundleOf (Tz : Type) [TzDatabase Tz] (live : AppConfig) (bundle : TimezoneBundle) :
    Prop where
  old : bundle.oldTimezone = live.db.timezone
  same : bundle.finalize = none → bundle.oldTimezone = bundle.newTimezone
  prepared : ∀ file candidate, bundle.finalize = some (file, candidate) →
    candidate = live.withTimezone bundle.newTimezone ∧ LiveInv Tz candidate ∧
      TomlFormat.toStringPretty candidate = .ok file

/-- What the holder of the guard has prepared. -/
def HolderInv (Tz : Type) [TzDatabase Tz] (live : AppConfig) : GuardHolder → Prop
  | .preparingUpdate candidate | .applyingUpdate candidate => LiveInv Tz candidate
  | .persistingUpdate candidate file =>
    LiveInv Tz candidate ∧ TomlFormat.toStringPretty candidate = .ok file
  | .preparingMigration oldTimezone newTimezone candidate =>
    oldTimezone = live.db.timezone ∧ candidate = live.withTimezone newTimezone ∧
      LiveInv Tz candidate
  | .admitting bundle | .queued bundle | .finalizing bundle _ => BundleOf Tz live bundle
  | .applyingBundle bundle candidate _ =>
    candidate = live.withTimezone bundle.newTimezone ∧ LiveInv Tz candidate
  | .clearing _ _ | .failing _ => True

/-- What the file holds: the live configuration, or the one that is about to be applied. After a
post-commit failure it may be either. -/
def CommitRun.FileHolds (s : CommitRun Tz) (filed : AppConfig) : Prop :=
  match s.guard with
  | some (_, .applyingUpdate candidate) | some (_, .applyingBundle _ candidate _) =>
    filed = candidate
  | some (_, .failing _) => True
  | _ => filed = s.state.live ∨ s.terminal ≠ none

/-- A configuration after some commits, one after the other. -/
def commitsOn (startup : AppConfig) (commits : List (ℕ × ConfigCommit)) : AppConfig :=
  commits.foldl (fun config commit => commit.2.applyTo config) startup

omit [Environment] [TomlFormat] in
/-- One more commit. -/
theorem commitsOn_append {startup live live' : AppConfig} {commits : List (ℕ × ConfigCommit)}
    {number : ℕ} {commit : ConfigCommit} (h : live = commitsOn startup commits)
    (hcommit : live' = commit.applyTo live) :
    live' = commitsOn startup (commits ++ [(number, commit)]) := by
  rw [commitsOn, List.foldl_append]
  rw [commitsOn] at h
  rw [← h]
  exact hcommit

/-- The invariant of the configuration and its file. -/
structure ValueInv (path : String) (s : CommitRun Tz) : Prop where
  live : LiveInv Tz s.state.live
  filed : ∃ filed, Loads Tz path s.file filed ∧ s.FileHolds filed
  holder : ∀ number holder, s.guard = some (number, holder) → HolderInv Tz s.state.live holder
  serial : s.state.live = commitsOn s.startup s.commits

omit [Environment] in
/-- A prepared file has been written for its configuration. -/
theorem prepareTask_eq_ok {panicContext : String} {faults : HolderFaults} {config : AppConfig}
    {file : String} (h : prepareTask panicContext faults config = .ok file) :
    TomlFormat.toStringPretty config = .ok file := by
  unfold prepareTask at h
  split at h
  next =>
    split_ifs at h
    exact writeConfigAtomic_eq_ok h
  next => exact writeConfigAtomic_eq_ok h

namespace ValueInv

variable {path : String} {s : CommitRun Tz} {σ : Type}

/-- What a startup has loaded is live, and is in the file. -/
theorem start {config : AppConfig} {file : String} (db : DbInstance Tz)
    (hloads : Loads Tz path file config) (hlive : LiveInv Tz config) :
    ValueInv path (CommitRun.start config file db) where
  live := hlive
  filed := ⟨config, hloads, .inl rfl⟩
  holder _ _ h := nomatch h
  serial := rfl

theorem free (h : ValueInv path s) (hguard : s.guard = none) :
    ∃ filed, Loads Tz path s.file filed ∧ (filed = s.state.live ∨ s.terminal ≠ none) := by
  obtain ⟨filed, hloads, hholds⟩ := h.filed
  rw [CommitRun.FileHolds, hguard] at hholds
  exact ⟨filed, hloads, hholds⟩

theorem arrive (h : ValueInv path s) (request : CommitRequest) :
    ValueInv path (s.arrive request) := by
  unfold CommitRun.arrive
  cases request with
  | updateConfig candidate => exact ⟨h.live, h.filed, h.holder, h.serial⟩
  | migrateDbTimezone newTimezone =>
    dsimp only
    split
    next => exact ⟨h.live, h.filed, h.holder, h.serial⟩
    next => exact ⟨h.live, h.filed, h.holder, h.serial⟩

/-- Nobody has the guard. -/
theorem holder_none {live : AppConfig} (number : ℕ) (holder : GuardHolder)
    (h : (none : Option (ℕ × GuardHolder)) = some (number, holder)) : HolderInv Tz live holder :=
  nomatch h

/-- The new holder of the guard. -/
theorem holder_some {live : AppConfig} {held : ℕ} {next : GuardHolder}
    (hnext : HolderInv Tz live next) (number : ℕ) (holder : GuardHolder)
    (h : some (held, next) = some (number, holder)) : HolderInv Tz live holder := by
  cases h
  exact hnext

theorem lockUpdate (h : ValueInv path s) (hguard : s.guard = none) (number : ℕ)
    (candidate : AppConfig) : ValueInv path (s.lockUpdate number candidate) := by
  have hfree := h.free hguard
  have hvalid : validate Tz (normalizeConfigStations candidate).1 = validate Tz candidate :=
    validate_normalize candidate
  unfold CommitRun.lockUpdate
  dsimp only
  cases hresult : validate Tz (normalizeConfigStations candidate).1 with
  | error err => exact ⟨h.live, hfree, holder_none, h.serial⟩
  | ok =>
    dsimp only
    split_ifs with hfields hsame
    · exact ⟨h.live, hfree, holder_none, h.serial⟩
    · refine ⟨h.live, hfree, holder_none, ?_⟩
      -- the live configuration is replaced with itself
      exact commitsOn_append h.serial hsame.symm
    · exact ⟨h.live, hfree, holder_some (liveInv_normalize (hvalid.symm.trans hresult)), h.serial⟩

theorem lockMigration (h : ValueInv path s) (hguard : s.guard = none) (number : ℕ)
    (newTimezone : String) : ValueInv path (s.lockMigration number newTimezone) := by
  have hfree := h.free hguard
  unfold CommitRun.lockMigration
  dsimp only
  split_ifs with hsame
  · refine ⟨h.live, hfree, holder_some ⟨rfl, fun _ => hsame, ?_⟩, h.serial⟩
    intro file candidate hfinalize
    cases hfinalize
  · cases hresult : validate Tz (s.state.live.withTimezone newTimezone) with
    | error err => exact ⟨h.live, hfree, holder_none, h.serial⟩
    | ok =>
      exact ⟨h.live, hfree, holder_some ⟨rfl, rfl, h.live.withTimezone hresult⟩, h.serial⟩

section Holder

variable [DecidableEq Tz]

theorem executeBundle (h : ValueInv path s) {number : ℕ} {bundle : TimezoneBundle}
    (hguard : s.guard = some (number, .queued bundle)) (faults : HolderFaults) :
    ValueInv path (s.executeBundle number bundle faults) := by
  obtain ⟨filed, hloads, hholds⟩ := h.filed
  rw [CommitRun.FileHolds, hguard] at hholds
  have hbundle : BundleOf Tz s.state.live bundle := h.holder _ _ hguard
  unfold CommitRun.executeBundle
  split
  next => exact ⟨h.live, ⟨filed, hloads, hholds⟩, holder_none, h.serial⟩
  next =>
    split
    next => exact ⟨h.live, ⟨filed, hloads, hholds⟩, holder_none, h.serial⟩
    next => exact ⟨h.live, ⟨filed, hloads, hholds⟩, holder_some hbundle, h.serial⟩

/-- The holder of the guard does what it has prepared, and only the holder changes the
configuration or its file. -/
theorem holderStep (h : ValueInv path s) {number : ℕ} {holder : GuardHolder}
    (hguard : s.guard = some (number, holder)) (faults : HolderFaults) :
    ValueInv path (s.holderStep path number faults holder) := by
  obtain ⟨filed, hloads, hholds⟩ := h.filed
  have hholder := h.holder _ _ hguard
  rw [CommitRun.FileHolds, hguard] at hholds
  cases holder with
  | preparingUpdate candidate =>
    rw [CommitRun.holderStep]
    split
    next => exact ⟨h.live, ⟨filed, hloads, hholds⟩, holder_none, h.serial⟩
    next file htask =>
      exact ⟨h.live, ⟨filed, hloads, hholds⟩, holder_some ⟨hholder, prepareTask_eq_ok htask⟩,
        h.serial⟩
  | persistingUpdate candidate file =>
    obtain ⟨hcandidate, hfile⟩ := hholder
    rw [CommitRun.holderStep]
    split
    next => exact ⟨h.live, ⟨filed, hloads, hholds⟩, holder_none, h.serial⟩
    next =>
      exact ⟨h.live, ⟨candidate, hcandidate.loads hfile, rfl⟩, holder_some hcandidate, h.serial⟩
  | applyingUpdate candidate =>
    obtain rfl : filed = candidate := hholds
    refine ⟨hholder, ⟨filed, hloads, .inl rfl⟩, holder_none, ?_⟩
    exact commitsOn_append h.serial rfl
  | preparingMigration oldTimezone newTimezone candidate =>
    obtain ⟨hold, hcandidate, hvalid⟩ := hholder
    rw [CommitRun.holderStep]
    split
    next => exact ⟨h.live, ⟨filed, hloads, hholds⟩, holder_none, h.serial⟩
    next file htask =>
      have hbundle : BundleOf Tz s.state.live
          ⟨oldTimezone, newTimezone, some (file, candidate)⟩ := by
        refine ⟨hold, fun hnone => absurd hnone (Option.some_ne_none _), ?_⟩
        rintro _ _ ⟨⟩
        exact ⟨hcandidate, hvalid, prepareTask_eq_ok htask⟩
      exact ⟨h.live, ⟨filed, hloads, hholds⟩, holder_some hbundle, h.serial⟩
  | admitting bundle =>
    rw [CommitRun.holderStep]
    split
    next => exact ⟨h.live, ⟨filed, hloads, hholds⟩, holder_none, h.serial⟩
    next => exact ⟨h.live, ⟨filed, hloads, hholds⟩, holder_some hholder, h.serial⟩
  | queued bundle => exact h.executeBundle hguard faults
  | finalizing bundle rewritten =>
    rw [CommitRun.holderStep]
    split
    next hnone =>
      refine ⟨h.live, ⟨filed, hloads, hholds⟩, holder_some trivial, ?_⟩
      -- the timezone is the one that is there already
      have hsame : s.state.live.withTimezone bundle.newTimezone = s.state.live := by
        rw [← hholder.same hnone, hholder.old, AppConfig.withTimezone_self]
      exact commitsOn_append h.serial hsame.symm
    next file candidate hsome =>
      obtain ⟨hcandidate, hvalid, hfile⟩ := hholder.prepared file candidate hsome
      split
      next => exact ⟨h.live, ⟨filed, hloads, trivial⟩, holder_some trivial, h.serial⟩
      next =>
        exact ⟨h.live, ⟨candidate, hvalid.loads hfile, rfl⟩, holder_some ⟨hcandidate, hvalid⟩,
          h.serial⟩
  | applyingBundle bundle candidate rewritten =>
    obtain ⟨hcandidate, hvalid⟩ := hholder
    rw [CommitRun.holderStep]
    split
    next => exact ⟨h.live, ⟨filed, hloads, trivial⟩, holder_some trivial, h.serial⟩
    next =>
      refine ⟨hvalid, ⟨filed, hloads, .inl hholds⟩, holder_some trivial, ?_⟩
      exact commitsOn_append h.serial hcandidate
  | clearing bundle rewritten =>
    rw [CommitRun.holderStep]
    split
    next => exact ⟨h.live, ⟨filed, hloads, hholds⟩, holder_none, h.serial⟩
    next => exact ⟨h.live, ⟨filed, hloads, trivial⟩, holder_some trivial, h.serial⟩
  | failing message =>
    exact ⟨h.live, ⟨filed, hloads, .inr (Option.some_ne_none _)⟩, holder_none, h.serial⟩

omit [DecidableEq Tz] in
theorem receive (h : ValueInv path s) {number : ℕ} {s' : CommitRun Tz}
    (hstep : s.receive number = some s') : ValueInv path s' := by
  obtain ⟨awaited, reply, -, -, rfl⟩ := CommitRun.receive_cases hstep
  exact ⟨h.live, h.filed, h.holder, h.serial⟩

omit [DecidableEq Tz] in
/-- A future that is dropped with the guard has not replaced the file. -/
theorem cancel (h : ValueInv path s) {number : ℕ} {s' : CommitRun Tz}
    (hstep : s.cancel number = some s') : ValueInv path s' := by
  rcases CommitRun.cancel_cases hstep with ⟨request, -, rfl⟩ |
    ⟨holder, outcome, hguard, hawaiting, rfl⟩ | ⟨awaited, -, rfl⟩
  · exact ⟨h.live, h.filed, h.holder, h.serial⟩
  · obtain ⟨filed, hloads, hholds⟩ := h.filed
    refine ⟨h.live, ⟨filed, hloads, ?_⟩, holder_none, h.serial⟩
    rw [CommitRun.FileHolds, hguard] at hholds
    cases holder with
    | preparingUpdate | preparingMigration | admitting => exact hholds
    | persistingUpdate | applyingUpdate | queued | finalizing | applyingBundle | clearing
    | failing => cases hawaiting
  · exact ⟨h.live, h.filed, h.holder, h.serial⟩

omit [DecidableEq Tz] in
theorem putHistory [Sha256] [SnapshotMessage σ] (h : ValueInv path s) (snapshot : σ)
    (fetchedAtUnixMs : ℤ) (faults : FaultPlan) :
    ValueInv path (s.putHistory snapshot fetchedAtUnixMs faults) := by
  unfold CommitRun.putHistory
  split
  next => exact ⟨h.live, h.filed, h.holder, h.serial⟩
  next => exact ⟨h.live, h.filed, h.holder, h.serial⟩

/-- Every step keeps the invariant. -/
theorem step [Sha256] [SnapshotMessage σ] (h : ValueInv path s) {label : CommitLabel σ}
    {s' : CommitRun Tz} (hstep : s.step path label = some s') : ValueInv path s' := by
  have hunqueued : ∀ number, ValueInv path { s with waiting := s.waiting.remove number } :=
    fun _ => ⟨h.live, h.filed, h.holder, h.serial⟩
  apply CommitRun.step_elim hstep
  · exact fun request _ => h.arrive request
  · exact fun number candidate hguard _ => (hunqueued number).lockUpdate hguard number candidate
  · exact fun number newTimezone hguard _ =>
      (hunqueued number).lockMigration hguard number newTimezone
  · exact fun _ _ faults _ hguard => h.holderStep hguard faults
  · exact fun _ => h.receive
  · exact fun _ => h.cancel
  · exact fun snapshot fetchedAtUnixMs faults _ => h.putHistory snapshot fetchedAtUnixMs faults

end Holder

end ValueInv

end Values

end WeatherApp
