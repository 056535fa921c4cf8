import WeatherApp.Engine.CommitAnswerLaw
import WeatherApp.Engine.CommitEffectLaw

/-!
# Commits of a running engine

Engines are started from any files, run and end, again and again. While one runs, its commits are
serialised and none is lost, whatever requests come in and wherever they are dropped.

## Main definitions

* `commitSystem`: an engine as long as it runs.
* `EngineStage.CommitInv`: the invariant of an engine at its stages.

## Main results

* `commits_serialised`: the live configuration and its file after any run.
-/

namespace WeatherApp

section Runs

variable [Environment] [TomlFormat] {Tz σ : Type} [TzDatabase Tz] [DecidableEq Tz] [Sha256]
  [SnapshotMessage σ] {path : String}

/-- An engine from its startup on, as long as it runs. -/
def commitSystem (Tz σ : Type) [TzDatabase Tz] [DecidableEq Tz] [SnapshotMessage σ]
    (path : String) : LabelledSystem (CommitRun Tz) (CommitLabel σ) where
  init s := ∃ config file db, s = .start config file db
  step s label s' := s.step path label = some s'

omit [Environment] [TomlFormat] [TzDatabase Tz] [DecidableEq Tz] [Sha256] in
theorem answerInv_start (config : AppConfig) (file : String) (db : DbInstance Tz) :
    AnswerInv (CommitRun.start config file db) where
  outcomes _ h := nomatch h
  replies _ _ h := nomatch h
  clearing _ _ _ h := nomatch h
  awaited _ _ _ _ h := nomatch h

omit [Environment] [TomlFormat] [TzDatabase Tz] [DecidableEq Tz] [Sha256] in
theorem effectInv_start (config : AppConfig) (file : String) (db : DbInstance Tz) :
    EffectInv (CommitRun.start config file db) where
  waiting _ _ h := nomatch h
  guard _ _ h := nomatch h
  effects _ h := nomatch h
  replies _ _ _ h := nomatch h
  outcomes _ h := nomatch h

/-- The configuration that a startup has loaded is that of its file, and a running engine keeps its
invariants. -/
def EngineStage.CommitInv (path : String) : EngineStage Tz → Prop
  | .loaded file config | .recovered file config => Loads Tz path file config ∧ LiveInv Tz config
  | .running run => ValueInv path run ∧ AnswerInv run ∧ EffectInv run
  | .down | .located | .ensured _ => True

omit [Sha256] in
theorem commitInv_startupStep {s s' : EngineLife Tz} {step : StartupStep}
    (h : s.stage.CommitInv path) (hstep : s.startupStep path step = some s') :
    s'.stage.CommitInv path := by
  unfold EngineLife.startupStep at hstep
  split at hstep
  next =>
    split at hstep
    next =>
      cases hstep
      exact trivial
    next =>
      cases hstep
      exact trivial
  next =>
    split at hstep
    next =>
      cases hstep
      exact trivial
    next =>
      cases hstep
      exact trivial
  next =>
    split at hstep
    next hload =>
      cases hstep
      exact loads_startup hload
    next =>
      cases hstep
      exact trivial
  next hstage =>
    rw [hstage] at h
    obtain ⟨hloads, hlive⟩ := h
    split at hstep
    next hrecover =>
      cases hstep
      exact loads_recovered hloads hlive hrecover
    next =>
      cases hstep
      exact trivial
  next hstage =>
    rw [hstage] at h
    obtain ⟨hloads, hlive⟩ := h
    split at hstep
    next db _ _ =>
      cases hstep
      exact ⟨ValueInv.start db hloads hlive, answerInv_start _ _ db, effectInv_start _ _ db⟩
    next =>
      cases hstep
      exact trivial
  next => cases hstep

theorem commitInv_run {s s' : CommitRun Tz}
    (h : (EngineStage.running s).CommitInv path) {label : CommitLabel σ}
    (hstep : s.step path label = some s') : (EngineStage.running s').CommitInv path := by
  obtain ⟨hvalue, hanswer, heffect⟩ := h
  exact ⟨hvalue.step hstep, hanswer.step hstep, heffect.step hstep⟩

theorem commitInv_step {s s' : EngineLife Tz} {label : EngineLabel σ}
    (h : s.stage.CommitInv path) (hstep : s.step path label = some s') :
    s'.stage.CommitInv path := by
  cases label with
  | crash =>
    cases hstep
    exact trivial
  | startup step => exact commitInv_startupStep h hstep
  | run label =>
    rw [EngineLife.step] at hstep
    split at hstep
    next run hstage =>
      rw [hstage] at h
      split at hstep
      next hrun =>
        cases hstep
        exact commitInv_run h hrun
      next => cases hstep
    next => cases hstep

/-- Engines keep their invariants through every run. -/
theorem commitInv_reachable {life : EngineLife Tz}
    (h : (engineSystem Tz σ path fun _ => True).Reachable life) : life.stage.CommitInv path := by
  apply h.invariant (P := fun life => life.stage.CommitInv path)
  · rintro _ ⟨disk, -, rfl⟩
    exact trivial
  · intro s label s' hinv hstep
    exact commitInv_step hinv hstep

/-- In every engine that runs, whatever requests it has got and wherever they have been dropped: the
file holds the live configuration when nothing is in progress, unless the engine asks to be
restarted after a post-commit failure; the live configuration is that of the startup with the
commits so far applied one after the other; every success is one of them; and what a request does
that fails or is dropped before its effect, at any of its steps, leaves the configuration, its file
and the database as they were. -/
theorem commits_serialised {life : EngineLife Tz} {s : CommitRun Tz}
    (h : (engineSystem Tz σ path fun _ => True).Reachable life) (hrunning : life.stage = .running s) :
    (s.Idle → s.terminal = none → loadFromPath Tz path (.ok s.file) = .ok s.state.live) ∧
    s.state.live = commitsOn s.startup s.commits ∧
    (∀ number outcome, (number, outcome) ∈ s.outcomes → outcome.Committed s.commits number) ∧
    (∀ (label : CommitLabel σ) number next later, s.step path label = some next →
      s.behalf label = some number → (commitSystem Tz σ path).Leads next later →
        ((∃ err, (number, .updated (.error err)) ∈ later.outcomes) ∨
          (number, .updateCancelled) ∈ later.outcomes → s.SameValues next) ∧
        ((∃ err, (number, .migrated (.error err)) ∈ later.outcomes) → later.terminal = none →
          s.SameValues next) ∧
        (number ∉ later.effects → s.SameValues next)) := by
  have hinv := commitInv_reachable h
  rw [hrunning] at hinv
  obtain ⟨hvalue, hanswer, heffect⟩ := hinv
  refine ⟨?_, hvalue.serial, fun number outcome => hanswer.outcomes (number, outcome), ?_⟩
  · intro hidle hterminal
    obtain ⟨filed, hloads, hfiled⟩ := hvalue.free hidle.1
    obtain rfl := hfiled.resolve_right (not_not.2 hterminal)
    exact loadFromPath_of_startupConfig hloads
  · intro label number next later hstep hbehalf hlater
    -- what has been done stays done, and what fails later has been spared until then
    have hframe : number ∉ later.effects → s.SameValues next := by
      intro hspared
      apply heffect.frame hstep hbehalf
      intro hmem
      exact hspared (hlater.stable (P := fun s => number ∈ s.effects)
        (fun _ _ _ hdone hnext => CommitRun.subset_effects hnext hdone) hmem)
    have hlater' : EffectInv later :=
      hlater.stable (P := EffectInv) (fun _ _ _ hspared hnext => hspared.step hnext)
        (heffect.step hstep)
    refine ⟨?_, ?_, hframe⟩
    · rintro (⟨err, hmem⟩ | hmem)
      · have hspared : later.Spared number := hlater'.outcomes _ hmem
        exact hframe hspared.effects
      · have hspared : later.Spared number := hlater'.outcomes _ hmem
        exact hframe hspared.effects
    · rintro ⟨err, hmem⟩ hterminal
      have hspared : later.Spared number ∨ later.terminal ≠ none := hlater'.outcomes _ hmem
      exact hframe (hspared.resolve_right (not_not.2 hterminal)).effects

end Runs

section Sample

attribute [local instance] sampleFormat sampleEnvironment sampleSha256

/-- The startup of a fresh install runs. -/
theorem perform_startup_default : ∃ db : DbInstance SampleZone,
    LabelledSystem.perform (EngineLife.step (σ := SampleSnapshot) "weather.toml") (fun _ _ => true)
        ⟨⟨some sampleV2Text, none⟩, .down, [], []⟩ (startupSteps.map .startup) =
      some ⟨⟨some sampleV2Text, none⟩, .running (.start .default sampleV2Text db), [], []⟩ := by
  have hconfig : TzDatabase.fromStr AppConfig.default.db.timezone = some SampleZone.shanghai := by
    decide
  have hopen : ∃ db : DbInstance SampleZone,
      openDb none AppConfig.default.db.timezone .none = (.ok db, some db.tables) :=
    openDb_succeeds hconfig nofun nofun (absurd rfl)
  obtain ⟨db, hopen⟩ := hopen
  have hloads : Loads SampleZone "weather.toml" sampleV2Text .default := by
    rcases loadForEngineStartup_eq_ok.1 startup_default with ⟨hstartup, -⟩ | ⟨_, _, _, hnone⟩
    · exact hstartup
    · cases hnone
  exact ⟨db, perform_startupSteps_settled hloads rfl hopen⟩

/-- The fresh install with another time to live for weather. -/
def sampleTtlConfig : AppConfig :=
  AppConfig.default.withHot AppConfig.default.stations 111 86400

theorem lockUpdate_sampleTtlConfig {s : CommitRun SampleZone} (h : s.state.live = .default) :
    s.lockUpdate 0 sampleTtlConfig = s.hold 0 (.preparingUpdate sampleTtlConfig) := by
  have hnormalized : (normalizeConfigStations sampleTtlConfig).1 = sampleTtlConfig := by
    decide
  have hvalid : validate SampleZone sampleTtlConfig = .ok ⟨⟩ := by decide
  have hfields : restartRequiredFields .default sampleTtlConfig = [] := by decide
  have hdiffers : sampleTtlConfig ≠ .default := by decide
  unfold CommitRun.lockUpdate
  simp only [h, hnormalized, hvalid, hfields, ne_eq, not_true_eq_false, if_false, hdiffers]

/-- An update whose prepare task panics changes nothing. -/
theorem commits_serialised_task_panics :
    ∃ (life : EngineLife SampleZone) (s next : CommitRun SampleZone),
      (engineSystem SampleZone SampleSnapshot "weather.toml" fun _ => True).Reachable life ∧
      life.stage = .running s ∧
      s.step "weather.toml" (.guard ⟨some "panic", true, noFaults⟩ :
        CommitLabel SampleSnapshot) = some next ∧
      (0, .updated (.error (.persistence "config prepare task failed: panic"))) ∈ next.outcomes ∧
      s.SameValues next := by
  obtain ⟨db, hstartup⟩ := perform_startup_default
  let s₀ : CommitRun SampleZone := .start .default sampleV2Text db
  let s₁ : CommitRun SampleZone := s₀.arrive (.updateConfig sampleTtlConfig)
  let s₂ : CommitRun SampleZone :=
    CommitRun.hold { s₁ with waiting := s₁.waiting.remove 0 } 0 (.preparingUpdate sampleTtlConfig)
  have hstart := LabelledSystem.Run.perform
    (S := engineSystem SampleZone SampleSnapshot "weather.toml" fun _ => True) (fun _ _ _ h => h)
    (.start ⟨_, trivial, rfl⟩) hstartup
  have hlock : s₁.step "weather.toml" (.lock 0 : CommitLabel SampleSnapshot) = some s₂ :=
    congrArg some (lockUpdate_sampleTtlConfig rfl)
  have hreachable : (engineSystem SampleZone SampleSnapshot "weather.toml" fun _ => True).Reachable
      ⟨⟨some sampleV2Text, none⟩, .running s₂, [], []⟩ := by
    have hrequested : EngineLife.step "weather.toml"
        ⟨⟨some sampleV2Text, none⟩, .running s₀, [], []⟩
        (.run (.request (.updateConfig sampleTtlConfig)) : EngineLabel SampleSnapshot) =
          some ⟨⟨some sampleV2Text, none⟩, .running s₁, [], []⟩ := rfl
    have hlocked : EngineLife.step "weather.toml"
        ⟨⟨some sampleV2Text, none⟩, .running s₁, [], []⟩
        (.run (.lock 0) : EngineLabel SampleSnapshot) =
          some ⟨⟨some sampleV2Text, none⟩, .running s₂, [], []⟩ := by
      simp only [EngineLife.step, hlock]
    exact ⟨_, (hstart.step hrequested).step hlocked⟩
  let next := s₂.persistenceError 0 "config prepare task failed: panic"
  have hnext : s₂.step "weather.toml" (.guard ⟨some "panic", true, noFaults⟩ :
      CommitLabel SampleSnapshot) = some next := rfl
  have hmem : (0, .updated (.error (.persistence "config prepare task failed: panic"))) ∈
      next.outcomes := List.mem_singleton_self _
  refine ⟨_, s₂, next, hreachable, rfl, hnext, hmem, ?_⟩
  obtain ⟨-, -, -, hframe⟩ := commits_serialised hreachable rfl
  exact (hframe _ 0 next next hnext rfl .refl).1 (.inl ⟨_, hmem⟩)

end Sample

end WeatherApp
