import WeatherApp.Engine.ConfigLaw
import WeatherApp.Engine.Startup

/-!
# What a startup loads

A startup leaves a file that says what it goes on with: the load leaves one that is loaded as it is,
and the recovery of a pending timezone replaces it with the configuration that it has changed.

## Main definitions

* `Loads`: a file that is loaded as it is.

## Main results

* `recoverPendingTimezone_eq_ok`: what a recovery does.
* `loads_startup`, `loads_recovered`: what the steps of a startup leave.
-/

namespace WeatherApp

open Serde

variable [Environment] [TomlFormat] {Tz : Type} [TzDatabase Tz]

/-- A startup loads this configuration from the file, and leaves the file alone. -/
def Loads (Tz : Type) [TzDatabase Tz] (path file : String) (config : AppConfig) : Prop :=
  startupConfig Tz path (.ok file) = .ok (config, false)

theorem LiveInv.loads {config : AppConfig} (h : LiveInv Tz config) {path file : String}
    (hfile : TomlFormat.toStringPretty config = .ok file) : Loads Tz path file config :=
  startupConfig_written h.valid h.normalized hfile

omit [Environment] [TomlFormat] in
/-- A file that can be read has been read as it is. -/
theorem readToString_eq_ok {fault : Option String} {file text : String}
    (h : readToString fault (some file) = .ok text) : text = file := by
  cases fault with
  | some err => cases h
  | none => exact (Except.ok.inj h).symm

/-- A startup has loaded what the file says. -/
theorem startupConfig_of_read {path file : String} {read write : Option String}
    {config : AppConfig} {written : Option String}
    (h : loadForEngineStartup Tz path (readToString read (some file)) write =
      .ok (config, written)) :
    ∃ rewrite, startupConfig Tz path (.ok file) = .ok (config, rewrite) ∧
      ((rewrite = false ∧ written = none) ∨
        ∃ text, TomlFormat.toStringPretty config = .ok text ∧ written = some text) := by
  have hread : ∀ {rewrite}, startupConfig Tz path (readToString read (some file)) =
      .ok (config, rewrite) → startupConfig Tz path (.ok file) = .ok (config, rewrite) := by
    intro rewrite hstartup
    cases hread : readToString read (some file) with
    | error err =>
      rw [hread] at hstartup
      cases hstartup
    | ok text =>
      rwa [hread, readToString_eq_ok hread] at hstartup
  rcases loadForEngineStartup_eq_ok.1 h with ⟨hstartup, rfl⟩ | ⟨text, hstartup, hwrite, rfl⟩
  · exact ⟨false, hread hstartup, .inl ⟨rfl, rfl⟩⟩
  · exact ⟨true, hread hstartup, .inr ⟨text, writeConfigAtomic_eq_ok hwrite, rfl⟩⟩

/-- The load of a startup leaves what it has loaded in the file. -/
theorem loads_startup {path file : String} {read write : Option String} {config : AppConfig}
    {written : Option String}
    (h : loadForEngineStartup Tz path (readToString read (some file)) write =
      .ok (config, written)) :
    Loads Tz path (written.getD file) config ∧ LiveInv Tz config := by
  have hlive := liveInv_startup h
  refine ⟨?_, hlive⟩
  obtain ⟨rewrite, hstartup, ⟨rfl, rfl⟩ | ⟨text, hwrite, rfl⟩⟩ := startupConfig_of_read h
  · exact hstartup
  · exact hlive.loads hwrite

variable [DecidableEq Tz]

/-- A recovery has nothing to do, or has replaced the file with the configuration under the marked
timezone. -/
theorem recoverPendingTimezone_eq_ok {database : Option Tables} {config recovered : AppConfig}
    {inspect : FaultPlan} {fault written : Option String}
    (h : recoverPendingTimezone Tz database config inspect fault = .ok (recovered, written)) :
    ∃ pending, inspectPendingTimezone Tz database inspect = .ok pending ∧
      ((recovered = config ∧ written = none ∧
          ∀ target, pending = some target → config.db.timezone = target) ∨
        ∃ target file, pending = some target ∧ config.db.timezone ≠ target ∧
          recovered = config.withTimezone target ∧ validate Tz recovered = .ok ⟨⟩ ∧
          TomlFormat.toStringPretty recovered = .ok file ∧ written = some file) := by
  obtain ⟨pending, hinspect, hrest⟩ := bind_eq_ok.1 h
  cases hresult : inspectPendingTimezone Tz database inspect with
  | error err =>
    rw [hresult] at hinspect
    cases hinspect
  | ok found =>
    rw [hresult] at hinspect
    obtain rfl : found = pending := Except.ok.inj hinspect
    refine ⟨found, rfl, ?_⟩
    cases found with
    | none =>
      obtain ⟨rfl, rfl⟩ := Prod.mk.inj (Except.ok.inj hrest)
      exact .inl ⟨rfl, rfl, nofun⟩
    | some target =>
      dsimp only at hrest
      split_ifs at hrest with hsame
      · obtain ⟨rfl, rfl⟩ := Prod.mk.inj (Except.ok.inj hrest)
        refine .inl ⟨rfl, rfl, ?_⟩
        rintro _ ⟨⟩
        exact hsame
      · obtain ⟨_, hvalid, hrest⟩ := bind_eq_ok.1 hrest
        obtain ⟨file, hwrite, hrest⟩ := bind_eq_ok.1 hrest
        obtain ⟨rfl, rfl⟩ := Prod.mk.inj (Except.ok.inj hrest)
        exact .inr ⟨target, file, rfl, hsame, rfl, hvalid, writeConfigAtomic_eq_ok hwrite, rfl⟩

/-- So does the recovery of a pending timezone. -/
theorem loads_recovered {path file : String} {database : Option Tables}
    {config recovered : AppConfig} {inspect : FaultPlan} {fault written : Option String}
    (hloads : Loads Tz path file config) (hlive : LiveInv Tz config)
    (h : recoverPendingTimezone Tz database config inspect fault = .ok (recovered, written)) :
    Loads Tz path (written.getD file) recovered ∧ LiveInv Tz recovered := by
  obtain ⟨_, -, ⟨rfl, rfl, -⟩ | ⟨target, text, -, -, rfl, hvalid, hwrite, rfl⟩⟩ :=
    recoverPendingTimezone_eq_ok h
  · exact ⟨hloads, hlive⟩
  · have hrecovered := hlive.withTimezone hvalid
    exact ⟨hrecovered.loads hwrite, hrecovered⟩

/-- A startup whose steps succeed ends with an engine that runs. -/
theorem perform_startupSteps {σ : Type} [Sha256] [SnapshotMessage σ] {path file : String}
    {s : EngineLife Tz} {located config recovered : AppConfig} {written replaced : Option String}
    {db : DbInstance Tz} {database : Option Tables} (hdown : s.stage = .down)
    (hlocate : loadOrDefault Tz path none s.stored.config = .ok located)
    (hensure : ensureConfigFile Tz path none s.stored.config = .ok file)
    (hload : loadForEngineStartup Tz path (.ok file) none = .ok (config, written))
    (hrecover : recoverPendingTimezone Tz s.stored.database config noFaults none =
      .ok (recovered, replaced))
    (hopen : openDb s.stored.database recovered.db.timezone .none = (.ok db, database)) :
    LabelledSystem.perform (EngineLife.step (σ := σ) path) (fun _ _ => true) s
        (startupSteps.map .startup) =
      some { s with
        stored := { s.stored with config := some (replaced.getD (written.getD file)) }
        stage := .running (.start recovered (replaced.getD (written.getD file)) db) } := by
  obtain ⟨stored, stage, origin, earlier⟩ := s
  subst hdown
  simp only [startupSteps, List.map_cons, List.map_nil, LabelledSystem.perform, if_true,
    EngineLife.step, EngineLife.startupStep, EngineLife.replaceConfig, Option.bind_some,
    readToString, hlocate, hensure, hload, hrecover, hopen]

/-- Without a marker a startup leaves a file alone that is loaded as it is. -/
theorem perform_startupSteps_settled {σ : Type} [Sha256] [SnapshotMessage σ] {path file : String}
    {config : AppConfig} {db : DbInstance Tz} {database database' : Option Tables}
    {origin : List HistoryRow} {earlier : List (HistoryChange Tz)}
    (hloads : Loads Tz path file config)
    (hsettled : (database.getD .initial).pendingTimezone = none)
    (hopen : openDb database config.db.timezone .none = (.ok db, database')) :
    LabelledSystem.perform (EngineLife.step (σ := σ) path) (fun _ _ => true)
        ⟨⟨some file, database⟩, .down, origin, earlier⟩ (startupSteps.map .startup) =
      some ⟨⟨some file, database⟩, .running (.start config file db), origin, earlier⟩ := by
  have hload : loadForEngineStartup Tz path (.ok file) none = .ok (config, none) :=
    loadForEngineStartup_eq_ok.2 (.inl ⟨hloads, rfl⟩)
  have hinspect : inspectPendingTimezone Tz database noFaults = .ok none := by
    rw [← hsettled]
    apply inspectPendingTimezone_succeeds
    rw [hsettled]
    exact fun _ h => nomatch h
  have hrecover : recoverPendingTimezone Tz database config noFaults none = .ok (config, none) := by
    unfold recoverPendingTimezone
    rw [hinspect]
    rfl
  have hlocate : loadOrDefault Tz path none (some file) = .ok config :=
    loadFromPath_of_startupConfig hloads
  have hensure : ensureConfigFile Tz path none (some file) = .ok file := rfl
  have hdown : (⟨⟨some file, database⟩, .down, origin, earlier⟩ : EngineLife Tz).stage = .down := rfl
  exact perform_startupSteps hdown hlocate hensure hload hrecover hopen

end WeatherApp
