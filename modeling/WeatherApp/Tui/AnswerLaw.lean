import WeatherApp.Tui.ChangeLaw
import WeatherApp.Tui.Ledger

/-!
# Answers to the terminal application

The application numbers what it asks for. An answer to the weather of another station than the
selected one is not taken, because asking again makes its number old, and there is never more than
one update of the configuration under way.

## Main definitions

* `Owed`: what is outstanding, and for what state of the application.
* `Named`: the weather that is outstanding is that of the selected station.

## Main results

* `Owed.change`, `Owed.taskMove`, `Owed.receipt`: they hold on.
-/

namespace WeatherApp.Tui

/-- What is outstanding. -/
structure Owed (c : Core) (runner : EffectRunner) : Prop where
  weather_le : ∀ token name, 0 < runner.outstanding (.weather token name) → token ≤ c.weatherToken
  /-- As long as the application waits for the weather, one answer is outstanding that it takes. -/
  weather_pending : c.weatherPending = true → ∃ name, ∀ other,
    runner.outstanding (.weather c.weatherToken other) = if other = name then 1 else 0
  /-- The update that the application waits for is the only one. -/
  config_eq : ∀ token, runner.outstanding (.config token) =
    if c.pendingConfig.any (·.token = token) then 1 else 0
  /-- It is an edit of what is displayed. -/
  proposed : ∀ id token config, runner.tasks.get id = some (.config token config) →
    c.Proposes config

/-- The outstanding weather that the application takes is that of the station that is selected, if
there is one. -/
def Named (c : Core) (runner : EffectRunner) : Prop :=
  ∀ name selected, 0 < runner.outstanding (.weather c.weatherToken name) →
    c.selectedName = some selected → name = selected

/-- Nothing changes between the states that these are about. -/
structure SameAsked (c c' : Core) : Prop where
  weatherToken_eq : c'.weatherToken = c.weatherToken
  weatherPending_imp : c'.weatherPending = true → c.weatherPending = true
  pendingConfig_eq : c'.pendingConfig = c.pendingConfig
  config_eq : c'.config = c.config

/-- The runners have the same answers outstanding, and the second has no tasks of an update that
the first does not have. -/
structure SameOwed (runner runner' : EffectRunner) : Prop where
  outstanding_eq : ∀ asked, runner'.outstanding asked = runner.outstanding asked
  tasks : ∀ id token config, runner'.tasks.get id = some (.config token config) →
    runner.tasks.get id = some (.config token config)

section

variable {c c₁ c' before : Core} {runner runner' : EffectRunner} {effects : List Effect}

theorem SameOwed.refl (runner : EffectRunner) : SameOwed runner runner :=
  ⟨fun _ => rfl, fun _ _ _ h => h⟩

theorem SameOwed.trans {runner₁ : EffectRunner} (h : SameOwed runner runner₁)
    (h' : SameOwed runner₁ runner') : SameOwed runner runner' :=
  ⟨fun asked => (h'.outstanding_eq asked).trans (h.outstanding_eq asked),
    fun id token config htask => h.tasks id token config (h'.tasks id token config htask)⟩

theorem Owed.congr (h : Owed c runner) (hcore : SameAsked c c')
    (howed : SameOwed runner runner') : Owed c' runner' where
  weather_le token name hpos := by
    rw [howed.outstanding_eq] at hpos
    exact (h.weather_le token name hpos).trans_eq hcore.weatherToken_eq.symm
  weather_pending hpending := by
    obtain ⟨name, hname⟩ := h.weather_pending (hcore.weatherPending_imp hpending)
    refine ⟨name, fun other => ?_⟩
    rw [howed.outstanding_eq, hcore.weatherToken_eq]
    exact hname other
  config_eq token := by
    rw [howed.outstanding_eq, hcore.pendingConfig_eq]
    exact h.config_eq token
  proposed id token config htask := by
    have hproposed := h.proposed id token config (howed.tasks id token config htask)
    rwa [Core.Proposes, ← hcore.config_eq] at hproposed

theorem Named.congr (h : Named c runner) (htoken : c'.weatherToken = c.weatherToken)
    (hname : c'.selectedName = c.selectedName) (howed : SameOwed runner runner') :
    Named c' runner' := by
  intro name selected hpos hselected
  rw [howed.outstanding_eq, htoken] at hpos
  exact h name selected hpos (hname ▸ hselected)

/-- A step of a task leaves what is outstanding. -/
theorem SameOwed.taskMove (h : runner.Valid) (hmove : TaskMove runner runner') :
    SameOwed runner runner' := by
  refine ⟨outstanding_taskMove h hmove, fun id token config htask => ?_⟩
  cases hmove with
  | finish | cancelled | panic => exact KeyedMap.get_of_get_remove htask
  | page =>
    rw [KeyedMap.get_set] at htask
    split_ifs at htask
    · cases htask
    · exact htask

theorem SameOwed.reapCompleted (runner : EffectRunner) : SameOwed runner runner.reapCompleted :=
  ⟨outstanding_reapCompleted runner, fun _ _ _ h => h⟩

variable [Sha256]

/-- An effect that asks for none of these leaves what is outstanding. -/
theorem SameOwed.dispatch (h : runner.Valid) {effect : Effect} (hasked : effect.asked = none) :
    SameOwed runner (runner.dispatch effect) := by
  refine ⟨fun asked => ?_, fun id token config htask => ?_⟩
  · rw [outstanding_dispatch h, hasked, counts_none, Nat.add_zero]
  · rcases task_of_dispatch htask with hold | hnew
    · exact hold
    · -- the new task would ask for an update
      have hnone := (asked_of_task hnew).trans hasked
      cases hnone

theorem EffectRunner.Valid.dispatchAll (h : runner.Valid) (effects : List Effect) :
    (runner.dispatchAll effects).Valid := by
  induction effects generalizing runner with
  | nil => exact h
  | cons effect effects ih => exact ih (h.dispatch effect)

theorem SameOwed.dispatchAll (h : runner.Valid) (hasked : ∀ effect ∈ effects, effect.asked = none) :
    SameOwed runner (runner.dispatchAll effects) := by
  induction effects generalizing runner with
  | nil => exact .refl runner
  | cons effect effects ih =>
    exact (SameOwed.dispatch h (hasked effect List.mem_cons_self)).trans
      (ih (h.dispatch effect) fun other hother => hasked other (List.mem_cons_of_mem _ hother))

/-! ## Asking -/

/-- Asking for the weather again makes what was outstanding old. -/
theorem Owed.asks (hvalid : runner.Valid) (h : Owed c runner) (hasks : Asks c effects c') :
    Owed c' (runner.dispatchAll effects) ∧ Named c' (runner.dispatchAll effects) := by
  cases hasks with
  | nothing hnone =>
    refine ⟨h.congr ⟨rfl, fun hpending => (by cases hpending), rfl, rfl⟩ (.refl runner), ?_⟩
    intro name selected _ hselected
    cases hnone.symm.trans hselected
  | @request name refresh hname =>
    rw [dispatchAll_singleton]
    -- The number is new, so that nothing was outstanding for it.
    have honly (other : String) : EffectRunner.outstanding
        (runner.dispatch (.loadWeather (c.weatherToken + 1) name none refresh))
        (.weather (c.weatherToken + 1) other) = if other = name then 1 else 0 := by
      have hold : runner.outstanding (.weather (c.weatherToken + 1) other) = 0 := by
        by_contra hpos
        have hle := h.weather_le _ _ (Nat.pos_of_ne_zero hpos)
        omega
      rw [outstanding_dispatch hvalid, hold, Nat.zero_add, counts]
      simp [Effect.asked, eq_comm]
    refine ⟨⟨fun token other hpos => ?_, fun _ => ⟨name, honly⟩, fun token => ?_,
      fun id token config htask => ?_⟩, fun other selected hpos hselected => ?_⟩
    · show token ≤ c.weatherToken + 1
      by_contra hgt
      rw [outstanding_dispatch_of_ne hvalid] at hpos
      · have hle := h.weather_le token other hpos
        omega
      · intro heq
        cases heq
        exact hgt le_rfl
    · rw [outstanding_dispatch_of_ne hvalid fun heq => by cases heq]
      exact h.config_eq token
    · rcases task_of_dispatch htask with hold | htask
      · exact h.proposed id token config hold
      · cases htask
    · have hother : 0 < if other = name then 1 else 0 := (honly other) ▸ hpos
      split_ifs at hother with heq
      · rw [heq]
        exact Option.some.inj (hname.symm.trans hselected)
      · exact absurd hother (lt_irrefl 0)

/-- Where the name of the selected station changes, its weather is asked for. -/
theorem Owed.follows (hvalid : runner.Valid) (h : Owed c runner) (hnamed : Named before runner)
    (htoken : c.weatherToken = before.weatherToken) (hfollows : Follows before c effects c') :
    Owed c' (runner.dispatchAll effects) ∧ Named c' (runner.dispatchAll effects) := by
  cases hfollows with
  | same hname => exact ⟨h, hnamed.congr htoken hname (.refl runner)⟩
  | asks hasks => exact h.asks hvalid hasks

/-- An update that is proposed is the only one. -/
theorem Owed.propose (hvalid : runner.Valid) (h : Owed c runner) (hpending : c.pendingConfig = none)
    {config : Wire.AppConfig} (hconfig : c.Proposes config) (message : String)
    (selectName : Option String) :
    Owed { c with
        configToken := c.configToken + 1
        pendingConfig := some ⟨c.configToken + 1, message, selectName⟩ }
      (runner.dispatch (.updateConfig (c.configToken + 1) config)) := by
  have hweather (token : ℕ) (name : String) : EffectRunner.outstanding
      (runner.dispatch (.updateConfig (c.configToken + 1) config)) (.weather token name) =
      runner.outstanding (.weather token name) :=
    outstanding_dispatch_of_ne hvalid fun heq => by cases heq
  refine ⟨fun token name hpos => ?_, fun hwaits => ?_, fun token => ?_, ?_⟩
  · rw [hweather] at hpos
    exact h.weather_le token name hpos
  · obtain ⟨name, hname⟩ := h.weather_pending hwaits
    exact ⟨name, fun other => (hweather _ _).trans (hname other)⟩
  · rw [outstanding_dispatch hvalid, h.config_eq, hpending, Effect.asked, counts]
    simp
  · intro id token other htask
    rcases task_of_dispatch htask with hold | htask
    · exact h.proposed id token other hold
    · obtain ⟨-, rfl⟩ := Task.config.inj (Option.some.inj htask)
      exact hconfig

/-- A change keeps what is outstanding in step with the application. -/
theorem Owed.change (hvalid : runner.Valid) (h : Owed c runner) (hnamed : Named c runner)
    (hchange : Change c effects c') :
    Owed c' (runner.dispatchAll effects) ∧ Named c' (runner.dispatchAll effects) := by
  have hquiet (hasked : ∀ effect ∈ effects, effect.asked = none) (hcore : SameAsked c c')
      (hname : c'.selectedName = c.selectedName) :
      Owed c' (runner.dispatchAll effects) ∧ Named c' (runner.dispatchAll effects) :=
    ⟨h.congr hcore (.dispatchAll hvalid hasked),
      hnamed.congr hcore.weatherToken_eq hname (.dispatchAll hvalid hasked)⟩
  cases hchange with
  | preview | about | search =>
    refine hquiet (fun effect heffect => ?_) ⟨rfl, fun hwaits => hwaits, rfl, rfl⟩ rfl
    rw [List.mem_singleton.1 heffect]
    rfl
  | point | pickUp | carry | putDown | browse =>
    exact hquiet (fun effect heffect => absurd heffect List.not_mem_nil)
      ⟨rfl, fun hwaits => hwaits, rfl, rfl⟩ rfl
  | leave _ _ _ heffects =>
    refine hquiet (fun effect heffect => ?_) ⟨rfl, fun hwaits => hwaits, rfl, rfl⟩ rfl
    rcases heffects with rfl | rfl
    · cases heffect
    · rw [List.mem_singleton.1 heffect]
      rfl
  | turn _ hfollows =>
    refine Owed.follows hvalid ?_ hnamed ?_ hfollows
    · exact h.congr ⟨rfl, fun hwaits => hwaits, rfl, rfl⟩ (.refl runner)
    · rfl
  | ask hasks => exact h.asks hvalid hasks
  | @propose config message selectName hpending _ hconfig =>
    refine ⟨h.propose hvalid hpending hconfig message selectName, ?_⟩
    intro name selected hpos hselected
    refine hnamed name selected ?_ hselected
    rw [dispatchAll_singleton, outstanding_dispatch_of_ne hvalid fun heq => by cases heq] at hpos
    exact hpos

/-! ## Answers -/

omit [Sha256] in
/-- Taking an answer to nothing of these leaves what is outstanding. -/
theorem SameOwed.take {result : EffectResult} {channel : List EffectResult}
    (hchannel : runner.channel = result :: channel) (hasked : result.asked = none) :
    SameOwed runner { runner with channel } := by
  refine ⟨fun asked => outstanding_take_of_ne hchannel ?_, fun _ _ _ htask => htask⟩
  rw [hasked]
  exact fun heq => by cases heq

omit [Sha256] in
/-- Taking an answer to the weather. -/
theorem Owed.takeWeather {token : ℕ} {name : String} {result : Except String WeatherSnapshot}
    {channel : List EffectResult} (h : Owed c runner) (hnamed : Named c runner)
    (hchannel : runner.channel = .weather token name result :: channel) (waits : Bool)
    (hwaits : waits = true → c.weatherPending = true ∧ token ≠ c.weatherToken) :
    Owed { c with weatherPending := waits } { runner with channel } ∧
      Named { c with weatherPending := waits } { runner with channel } := by
  have hle (asked : Asked) : EffectRunner.outstanding { runner with channel } asked ≤
      runner.outstanding asked :=
    Nat.le.intro (outstanding_take hchannel asked)
  refine ⟨⟨fun token name hpos => h.weather_le token name (hpos.trans_le (hle _)), fun hpending => ?_,
    fun token => ?_, h.proposed⟩, fun name selected hpos => hnamed name selected (hpos.trans_le (hle _))⟩
  · obtain ⟨hbefore, htoken⟩ := hwaits hpending
    obtain ⟨name, hname⟩ := h.weather_pending hbefore
    refine ⟨name, fun other => (outstanding_take_of_ne hchannel ?_).trans (hname other)⟩
    intro heq
    cases heq
    exact htoken rfl
  · exact (outstanding_take_of_ne hchannel fun heq => by cases heq).trans (h.config_eq token)

omit [Sha256] in
/-- Taking the answer to the update that is under way, after which there is none. -/
theorem Owed.takeConfig {pending : PendingConfig} {result : Except String Wire.AppConfig}
    {channel : List EffectResult} (h : Owed c runner) (hpending : c.pendingConfig = some pending)
    (hchannel : runner.channel = .config pending.token result :: channel)
    (htoken : c'.weatherToken = c.weatherToken) (hwaits : c'.weatherPending = c.weatherPending)
    (hnone : c'.pendingConfig = none) : Owed c' { runner with channel } := by
  have hweather (token : ℕ) (name : String) :
      EffectRunner.outstanding { runner with channel } (.weather token name) =
        runner.outstanding (.weather token name) :=
    outstanding_take_of_ne hchannel fun heq => by cases heq
  have hzero (token : ℕ) :
      EffectRunner.outstanding { runner with channel } (.config token) = 0 := by
    have hone := h.config_eq token
    rw [hpending, Option.any_some] at hone
    by_cases heq : pending.token = token
    · subst heq
      have hself := outstanding_take_self hchannel rfl
      rw [hone, if_pos (by simp)] at hself
      omega
    · rw [outstanding_take_of_ne hchannel, hone, if_neg (by simpa using heq)]
      intro hasked
      cases hasked
      exact heq rfl
  refine ⟨fun token name hpos => ?_, fun hpends => ?_, fun token => ?_, fun id token config htask => ?_⟩
  · rw [hweather] at hpos
    exact (h.weather_le token name hpos).trans_eq htoken.symm
  · obtain ⟨name, hname⟩ := h.weather_pending (hwaits ▸ hpends)
    refine ⟨name, fun other => ?_⟩
    rw [hweather, htoken]
    exact hname other
  · rw [hzero, hnone]
    rfl
  · have hpos := outstanding_of_task htask rfl
    rw [hzero] at hpos
    exact absurd hpos (lt_irrefl 0)

/-- An answer keeps what is outstanding in step with the application. -/
theorem Owed.receipt {result : EffectResult} {channel : List EffectResult} (hvalid : runner.Valid)
    (h : Owed c runner) (hnamed : Named c runner) (hchannel : runner.channel = result :: channel)
    (hreceipt : Receipt c result effects c') :
    Owed c' (EffectRunner.dispatchAll { runner with channel } effects) ∧
      Named c' (EffectRunner.dispatchAll { runner with channel } effects) := by
  have hquiet {c' : Core} (hasked : result.asked = none) (hcore : SameAsked c c')
      (hname : c'.selectedName = c.selectedName) :
      Owed c' { runner with channel } ∧ Named c' { runner with channel } :=
    ⟨h.congr hcore (.take hchannel hasked),
      hnamed.congr hcore.weatherToken_eq hname (.take hchannel hasked)⟩
  -- An update is none of what names the weather.
  have hkept {token : ℕ} {answer : Except String Wire.AppConfig} (hresult : result = .config token answer) :
      Named c { runner with channel } := by
    subst hresult
    intro name selected hpos
    rw [outstanding_take_of_ne hchannel fun heq => by cases heq] at hpos
    exact hnamed name selected hpos
  cases hreceipt with
  | page | searchFailed => exact hquiet rfl ⟨rfl, fun hwaits => hwaits, rfl, rfl⟩ rfl
  | weather => exact h.takeWeather hnamed hchannel false fun hwaits => by cases hwaits
  | adopted hpending _ _ hfollows =>
    refine Owed.follows (hvalid.take channel) ?_ (hkept rfl) ?_ hfollows
    · exact h.takeConfig hpending hchannel rfl rfl rfl
    · rfl
  | rejected hpending =>
    refine ⟨h.takeConfig hpending hchannel rfl rfl rfl, ?_⟩
    exact (hkept rfl).congr rfl rfl (.refl _)
  | ignored hignored =>
    cases result with
    | searchPage | searchFailed => cases hignored
    | preview | about | taskFailed => exact hquiet rfl ⟨rfl, fun hwaits => hwaits, rfl, rfl⟩ rfl
    | weather token name result =>
      exact h.takeWeather hnamed hchannel c.weatherPending fun hwaits => ⟨hwaits, hignored⟩
    | config token result =>
      -- Only the update that is waited for is outstanding.
      have hself := outstanding_take_self hchannel rfl
      rw [h.config_eq, if_neg] at hself
      · omega
      · intro hany
        obtain ⟨pending, hpending, htoken⟩ := (Option.any_eq_true _ _).1 hany
        exact hignored pending hpending (of_decide_eq_true htoken).symm

end

end WeatherApp.Tui
