import WeatherApp.Host.ContractLaw

/-!
# Rules for the programs of processes

What a program of a process does is proved along its text, with what the process relies on between
two of its calls. A failure is told apart by what holds after it; its text is left open.

## Main definitions

* `HostHolds`: a program keeps the promises of its process, and its result satisfies a postcondition.
* `Outcome`: what holds of a result, and what after a failure.
* `HostQuiet`: a program that changes nothing.
* `Steady`: the process has the same guards, and has started no daemon.

## Main results

* `hostHolds_bind`, `hostHolds_then`, `hostHolds_onError`: the rules for sequencing.
* `hostHolds_quiet`, `hostHolds_quietThen`: what comes after a program that changes nothing.
* `hostHolds_steady`: what most calls leave.
* `hostHolds_correlationId`: a new id.
* `hostHolds_retryOr`, `attempts_of_attempt`: attempts one after the other.
-/

namespace WeatherApp.Host

variable [LockMetadataJson] {nonce : Nonces} {kept : String → Prop} {p : ℕ} {s s' : HostState}
  {α β ε : Type}

/-- From `s` on, the program keeps the promises of the process, however the others interleave, and
its result satisfies the postcondition. -/
abbrev HostHolds (nonce : Nonces) (kept : String → Prop) (p : ℕ) (s : HostState)
    (program : HostProgram α) (Q : α → HostState → Prop) : Prop :=
  Process.Holds (hostSharing nonce kept) p Q program s

/-- What holds of a result, and after a failure. -/
def Outcome (good : α → HostState → Prop) (bad : HostState → Prop) :
    Except ε α → HostState → Prop
  | .ok a, s => good a s
  | .error _, s => bad s

/-- The program changes nothing, and its result satisfies `P`. -/
abbrev HostQuiet (nonce : Nonces) (kept : String → Prop) (p : ℕ) (P : α → Prop)
    (program : HostProgram α) : Prop :=
  Process.Quiet (hostSharing nonce kept) p P program

variable {P P' : α → HostState → Prop} {Q : β → HostState → Prop} {B B' : HostState → Prop}

/-! ## Sequences -/

theorem hostHolds_return {a : α}
    (h : ∀ s', Rely kept p s s' → s'.Valid nonce kept → P a s') :
    HostHolds nonce kept p s (pure a) P :=
  Process.holds_pure h

/-- What is true only grows along a program. -/
theorem HostHolds.grows {program : HostProgram α} (h : HostHolds nonce kept p s program P) :
    HostHolds nonce kept p s program fun a s' => Grows s s' ∧ P a s' := by
  refine Process.Holds.along (fun _ _ _ => Grows.trans) (fun _ _ hrely => hrely.grows) ?_ h
  intro s c r s' hvalid _ heffect
  exact grows_change (HostState.Valid.unborn_next hvalid) (change_of_effect heffect)

theorem hostHolds_bind {program : HostProgram α} {f : α → HostProgram β}
    (hp : HostHolds nonce kept p s program P)
    (hf : ∀ a s', s'.Valid nonce kept → Grows s s' → P a s' → HostHolds nonce kept p s' (f a) Q) :
    HostHolds nonce kept p s (program >>= f) Q := by
  refine Process.holds_bind (HostHolds.grows hp) ?_
  rintro a s' hvalid ⟨hgrows, hP⟩
  exact hf a s' hvalid hgrows hP

theorem hostHolds_then {program : HostM α} {f : α → HostM β}
    (hp : HostHolds nonce kept p s program.run (Outcome P B))
    (hf : ∀ a s', s'.Valid nonce kept → Grows s s' → P a s' →
      HostHolds nonce kept p s' (f a).run (Outcome Q B'))
    (hbad : ∀ s', s'.Valid nonce kept → Grows s s' → B s' → B' s') :
    HostHolds nonce kept p s (program >>= f).run (Outcome Q B') := by
  refine Process.holds_bindExcept (HostHolds.grows hp) ?_ ?_
  · rintro a s' hvalid ⟨hgrows, hP⟩
    exact hf a s' hvalid hgrows hP
  · rintro e s' hvalid ⟨hgrows, hB⟩
    exact hbad s' hvalid hgrows hB

/-- What is done after a failure. -/
theorem hostHolds_onError {program : HostM α} {drop : HostProgram Unit}
    (hp : HostHolds nonce kept p s program.run (Outcome P B))
    (hdrop : ∀ s', s'.Valid nonce kept → Grows s s' → B s' →
      HostHolds nonce kept p s' drop fun _ => B') :
    HostHolds nonce kept p s (onError drop program).run (Outcome P B') := by
  refine hostHolds_bind (Process.Holds.later hp) fun result s' hvalid hgrows hresult => ?_
  cases result with
  | ok a => exact hostHolds_return hresult
  | error e =>
    refine hostHolds_bind (Process.Holds.later (hdrop s' hvalid hgrows ?_)) ?_
    · exact hresult s' (.refl s') hvalid
    · exact fun _ _ _ _ hB => hostHolds_return hB

theorem hostHolds_pure {a : α} (h : ∀ s', Rely kept p s s' → s'.Valid nonce kept → P a s') :
    HostHolds nonce kept p s (pure a : HostM α).run (Outcome P B) := h

theorem hostHolds_throw {e : String} (h : ∀ s', Rely kept p s s' → s'.Valid nonce kept → B s') :
    HostHolds nonce kept p s (throw e : HostM α).run (Outcome P B) := h

theorem hostHolds_lift {program : HostProgram α} (h : HostHolds nonce kept p s program P) :
    HostHolds nonce kept p s (ExceptT.lift program : HostM α).run (Outcome P B) :=
  hostHolds_bind (Process.Holds.later h) fun _ _ _ _ hP => hostHolds_return hP

/-- The error of a program with another text. -/
theorem hostHolds_mapError {ε' : Type} {program : HostProgram (Except ε α)} {f : ε → ε'}
    (h : HostHolds nonce kept p s program (Outcome P B)) :
    HostHolds nonce kept p s (program >>= fun result => pure (result.mapError f)) (Outcome P B) := by
  refine hostHolds_bind (Process.Holds.later h) fun result s' _ _ hresult => hostHolds_return ?_
  cases result with
  | ok a => exact hresult
  | error e => exact hresult

theorem hostHolds_orContext {context : String} {program : HostProgram (Except IoError α)}
    (h : HostHolds nonce kept p s program (Outcome P B)) :
    HostHolds nonce kept p s (orContext context program).run (Outcome P B) :=
  hostHolds_mapError h

theorem hostHolds_addContext {context : String} {program : HostM α}
    (h : HostHolds nonce kept p s program.run (Outcome P B)) :
    HostHolds nonce kept p s (addContext context program).run (Outcome P B) :=
  hostHolds_mapError h

/-- The rule of consequence. -/
theorem hostHolds_weaken {program : HostM α} (h : HostHolds nonce kept p s program.run (Outcome P B))
    (hgood : ∀ a s', s'.Valid nonce kept → P a s' → P' a s')
    (hbad : ∀ s', s'.Valid nonce kept → B s' → B' s') :
    HostHolds nonce kept p s program.run (Outcome P' B') := by
  refine Process.Holds.weaken h fun result s' hvalid hresult => ?_
  cases result with
  | ok a => exact hgood a s' hvalid hresult
  | error e => exact hbad s' hvalid hresult

/-- What holds in any case holds of a result and after a failure. -/
theorem hostHolds_outcome {program : HostProgram (Except ε α)}
    (h : HostHolds nonce kept p s program fun _ => B) :
    HostHolds nonce kept p s program (Outcome (fun _ => B) B) := by
  refine Process.Holds.weaken h fun result s' _ hB => ?_
  cases result with
  | ok a => exact hB
  | error e => exact hB

/-- A loop that has used up its rounds stands still. -/
theorem hostHolds_stalled : HostHolds nonce kept p s stalled P :=
  fun _ _ _ => ⟨trivial, fun r => r.elim⟩

/-! ## Calls -/

/-- One call: its promise is kept, and what it leaves satisfies the postcondition. -/
theorem hostHolds_perform {c : HostCall} {Q : c.Reply → HostState → Prop}
    (h : ∀ s₁, Rely kept p s s₁ → s₁.Valid nonce kept → Promised nonce kept p s₁ c ∧
      ∀ r s₂, c.effect nonce p s₁ r = some s₂ → s₂.Valid nonce kept →
        ∀ s₃, Rely kept p s₂ s₃ → Q r s₃) :
    HostHolds nonce kept p s (perform c) Q :=
  Process.holds_perform h

/-- The calls that need no promise and leave the host as it is. -/
def HostCall.IsQuiet : HostCall → Prop
  | .createParent _ | .metadata _ | .tryClone _ | .identify _ | .identifyPath _ | .seekStart _
  | .syncData _ | .readToEnd _ | .now | .systemTime | .unixTimestampMs | .sleep | .absolutePath _
  | .defaultConfigFile | .normalizePath _ | .loadOrDefault _ | .configureLogging _
  | .resolveHmacKey | .reachable _ | .bind _ _ | .shutdownDatabase | .await _ | .connect _ _
  | .runConnected | .closeClient | .output _ | .kill _ | .stall => True
  | _ => False

omit [LockMetadataJson] in
theorem quiet_effect {c : HostCall} (hc : c.IsQuiet) {r : c.Reply}
    (h : c.effect nonce p s r = some s') : s' = s := by
  have hchange := change_of_effect h
  cases hchange with
  | stay => rfl
  | reap hcall =>
    obtain rfl | rfl := hcall
    · exact absurd hc id
    · exact absurd hc id
  | _ => exact absurd hc id

/-- A call that changes nothing. -/
theorem hostQuiet_call (c : HostCall) (hc : c.IsQuiet) :
    HostQuiet nonce kept p (fun _ => True) (perform c) := by
  refine Process.quiet_perform (fun s _ => ?_) fun s r s' h => ⟨quiet_effect hc h, trivial⟩
  change Promised nonce kept p s c
  cases c with
  | _ => first | exact trivial | exact absurd hc id

theorem hostHolds_ofQuiet {program : HostProgram α} {R : α → Prop}
    (hp : HostQuiet nonce kept p R program)
    (h : ∀ a s', R a → Rely kept p s s' → s'.Valid nonce kept → P a s') :
    HostHolds nonce kept p s program P :=
  hp s P fun a ha s' hrely hvalid => h a s' ha hrely hvalid

theorem hostHolds_quiet {program : HostProgram α} {f : α → HostProgram β} {R : α → Prop}
    (hp : HostQuiet nonce kept p R program) (hf : ∀ a, R a → HostHolds nonce kept p s (f a) Q) :
    HostHolds nonce kept p s (program >>= f) Q :=
  Process.Quiet.holds_bind hp hf

theorem hostHolds_quietThen {program : HostM α} {f : α → HostM β} {R : Except String α → Prop}
    (hp : HostQuiet nonce kept p R program.run)
    (hf : ∀ a, R (.ok a) → HostHolds nonce kept p s (f a).run (Outcome Q B))
    (hbad : ∀ s', Rely kept p s s' → s'.Valid nonce kept → B s') :
    HostHolds nonce kept p s (program >>= f).run (Outcome Q B) := by
  refine hostHolds_quiet hp fun result hresult => ?_
  cases result with
  | ok a => exact hf a hresult
  | error e => exact hostHolds_return hbad

theorem hostQuiet_then {program : HostM α} {f : α → HostM β} {R : Except String α → Prop}
    {R' : Except String β → Prop} (hp : HostQuiet nonce kept p R program.run)
    (hf : ∀ a, R (.ok a) → HostQuiet nonce kept p R' (f a).run)
    (hbad : ∀ e, R (.error e) → R' (.error e)) :
    HostQuiet nonce kept p R' (program >>= f).run := by
  refine Process.quiet_bind hp fun result hresult => ?_
  cases result with
  | ok a => exact hf a hresult
  | error e => exact Process.quiet_pure (hbad e hresult)

theorem hostQuiet_pure {a : α} {R : Except String α → Prop} (h : R (.ok a)) :
    HostQuiet nonce kept p R (pure a : HostM α).run := Process.quiet_pure h

theorem hostQuiet_throw {e : String} {R : Except String α → Prop} (h : R (.error e)) :
    HostQuiet nonce kept p R (throw e : HostM α).run := Process.quiet_pure h

theorem hostQuiet_invoke (c : HostCall) (hc : c.IsQuiet) :
    HostQuiet nonce kept p (fun _ => True) (invoke c).run :=
  Process.quiet_bind (hostQuiet_call c hc) fun _ _ => Process.quiet_pure trivial

theorem hostQuiet_orContext {context : String} {program : HostProgram (Except IoError α)}
    (h : HostQuiet nonce kept p (fun _ => True) program) :
    HostQuiet nonce kept p (fun _ => True) (orContext context program).run :=
  Process.quiet_bind h fun _ _ => Process.quiet_pure trivial

/-! ## What most calls leave -/

omit [LockMetadataJson] in
theorem ReapedBut.rely {excepted : Option ℕ} (h : ReapedBut s p excepted)
    (hrely : Rely kept p s s') : ReapedBut s' p excepted := by
  intro q record' hrecord' hparent hdaemon hne
  obtain ⟨record, hrecord, hold, hkind, hreaped⟩ := hrely.children q record' hrecord' hparent
  rw [← hkind] at hdaemon
  exact hreaped (h q record hrecord hold hdaemon hne)

/-- The process has the same guards, and has started no daemon. -/
structure Steady (p : ℕ) (s s' : HostState) : Prop where
  guards : s'.guards p = s.guards p
  children : ∀ excepted, ReapedBut s p excepted → ReapedBut s' p excepted

omit [LockMetadataJson] in
theorem Steady.refl (s : HostState) : Steady p s s := ⟨rfl, fun _ h => h⟩

omit [LockMetadataJson] in
theorem Steady.trans {s'' : HostState} (h : Steady p s s') (h' : Steady p s' s'') :
    Steady p s s'' :=
  ⟨h'.guards.trans h.guards, fun excepted hreaped => h'.children _ (h.children excepted hreaped)⟩

omit [LockMetadataJson] in
theorem Rely.steady (h : Rely kept p s s') : Steady p s s' :=
  ⟨h.guards, fun _ hreaped => hreaped.rely h⟩

/-- The calls that are neither about a guard nor start a daemon. -/
def HostCall.IsSteady : HostCall → Prop
  | .hold _ | .giveUp _ | .spawnDaemon _ _ => False
  | _ => True

omit [LockMetadataJson] in
theorem steady_change {c : HostCall} (hc : c.IsSteady) (h : Change nonce p s c s') :
    Steady p s s' where
  guards := by
    cases h with
    | hold | giveUp => exact absurd hc id
    | _ => rfl
  children excepted hreaped := by
    intro q record' hrecord' hparent hdaemon hne
    obtain hsame | ⟨record, hrecord, hold, -, rfl⟩ | hspawned := processes_change h hrecord'
    · exact hreaped q record' hsame hparent hdaemon hne
    · rfl
    · obtain ⟨config, logLevel, foreground, ownerToken, hkind⟩ := hdaemon
      obtain ⟨other, hprobe⟩ | ⟨other, token, rfl, -⟩ := hspawned.kind
      · rw [hprobe] at hkind
        cases hkind
      · exact absurd hc id

theorem hostHolds_steady {c : HostCall} (hc : c.IsSteady)
    (hpromised : ∀ s₁, Rely kept p s s₁ → s₁.Valid nonce kept → Promised nonce kept p s₁ c) :
    HostHolds nonce kept p s (perform c) fun _ => Steady p s := by
  refine hostHolds_perform fun s₁ hrely hvalid =>
    ⟨hpromised s₁ hrely hvalid, fun r s₂ heffect _ s₃ hrely₃ => ?_⟩
  exact (hrely.steady.trans (steady_change hc (change_of_effect heffect))).trans hrely₃.steady

/-! ## Ids -/

omit [LockMetadataJson] in
theorem FreshId.rely {scope id : String} (h : FreshId nonce s p scope id)
    (hrely : Rely kept p s s') : FreshId nonce s' p scope id :=
  ⟨h.1.grows hrely.grows, fun message hmem => h.2 message (hrely.requests message hmem)⟩

/-- A new id is that of no request. -/
theorem freshId_of_effect {scope id : String} (hvalid : s.Valid nonce kept)
    (h : (HostCall.correlationId scope).effect nonce p s id = some s') :
    FreshId nonce s' p scope id := by
  obtain ⟨hlt, rfl, rfl⟩ := effect_correlationId h
  refine ⟨⟨s.sequence p, ?_, rfl⟩, fun message hmem heq => ?_⟩
  · simp only [Function.update_self]
    exact Nat.lt_succ_self _
  · obtain ⟨scope', k, hk, hid⟩ := (hvalid.requests _ hmem).1
    simp only at hid hk
    rw [heq] at hid
    obtain ⟨-, -, rfl⟩ := correlationId_inj (by omega) (by omega) hid
    exact absurd hk (Nat.lt_irrefl _)

theorem hostHolds_correlationId (scope : String) :
    HostHolds nonce kept p s (perform (.correlationId scope))
      fun id s' => FreshId nonce s' p scope id ∧ Steady p s s' := by
  refine hostHolds_perform fun s₁ hrely hvalid => ⟨trivial, fun id s₂ heffect _ s₃ hrely₃ => ?_⟩
  have hsteady : Steady p s₁ s₂ :=
    steady_change (c := .correlationId scope) trivial (change_of_effect heffect)
  exact ⟨(freshId_of_effect hvalid heffect).rely hrely₃,
    (hrely.steady.trans hsteady).trans hrely₃.steady⟩

/-! ## Attempts -/

omit [LockMetadataJson] in
/-- What holds of an attempt if it holds of those that it may go on with. -/
theorem attempts_of_attempt {attempt : Option (HostM α) → HostM α} {C : HostM α → Prop}
    (h : ∀ again, (∀ next ∈ again, C next) → C (attempt again)) (more : ℕ) :
    C (attempts attempt more) := by
  induction more with
  | zero => exact h none fun _ hnext => by cases hnext
  | succ more ih =>
    refine h _ fun next hnext => ?_
    obtain rfl := Option.some.inj hnext
    exact ih

/-- The next attempt, or a failure, after what was open was dropped. -/
theorem hostHolds_retryOr {again : Option (HostM α)} {drop : HostProgram Unit} {error : String}
    (hB : B s) (hrely : ∀ s s', Rely kept p s s' → B s → B s')
    (hdrop : ∀ s, B s → HostHolds nonce kept p s drop fun _ => B)
    (hagain : ∀ next ∈ again, ∀ s', Grows s s' → B s' →
      HostHolds nonce kept p s' next.run (Outcome P B)) :
    HostHolds nonce kept p s (retryOr again drop error).run (Outcome P B) := by
  cases again with
  | none =>
    refine hostHolds_then (B := fun _ => False) (hostHolds_lift (hdrop s hB)) ?_
      fun _ _ _ h => h.elim
    exact fun _ s' _ _ hB' => hostHolds_throw fun s'' h _ => hrely s' s'' h hB'
  | some next =>
    refine hostHolds_quietThen (hostQuiet_invoke .sleep trivial) (fun _ _ => ?_)
      fun s' h _ => hrely s s' h hB
    refine hostHolds_then (B := fun _ => False) (hostHolds_lift (hdrop s hB)) ?_
      fun _ _ _ h => h.elim
    exact fun _ s' _ hgrows hB' => hagain next rfl s' hgrows hB'

end WeatherApp.Host
