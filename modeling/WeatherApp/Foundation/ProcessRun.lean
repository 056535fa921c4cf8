import WeatherApp.Foundation.Process

/-!
# Runs of a program in a state

A program whose environment has a state that each call reads and changes, and that nobody else
changes but as the environment says.

## Main definitions

* `Process.RunsIn`: the result of a program, and the state it leaves.
* `Process.replay`: a run with given answers.

## Main results

* `runsIn_bind`, `runsIn_bindExcept`: a run of a sequence.
* `RunsIn.invariant`: what the calls of a program keep.
* `runsIn_of_replay`: a run with answers that the environment can give.
-/

universe u

namespace Process

variable {σ C : Type u} {R : C → Type u} {α β ε : Type u} {env : σ → (c : C) → R c → σ → Prop}

/-- In an environment whose replies depend on its state and change it, the program returns a result
and leaves a state. -/
def RunsIn (env : σ → (c : C) → R c → σ → Prop) : Process C R α → σ → α → σ → Prop
  | ret a, s, b, s' => b = a ∧ s' = s
  | call c k, s, b, s'' => ∃ r s', env s c r s' ∧ (k r).RunsIn env s' b s''

/-- A run of a sequence is one of its first part and one of its second. -/
theorem runsIn_bind {p : Process C R α} {f : α → Process C R β} {s s'' : σ} {b : β} :
    (p >>= f).RunsIn env s b s'' ↔
      ∃ a s', p.RunsIn env s a s' ∧ (f a).RunsIn env s' b s'' := by
  induction p generalizing s with
  | ret a =>
    constructor
    · intro h
      exact ⟨a, s, ⟨rfl, rfl⟩, h⟩
    · rintro ⟨_, _, ⟨rfl, rfl⟩, h⟩
      exact h
  | call c k ih =>
    constructor
    · rintro ⟨r, s', henv, hrest⟩
      obtain ⟨a, s₁, hfirst, hsecond⟩ := (ih r).1 hrest
      exact ⟨a, s₁, ⟨r, s', henv, hfirst⟩, hsecond⟩
    · rintro ⟨a, s₁, ⟨r, s', henv, hfirst⟩, hsecond⟩
      exact ⟨r, s', henv, (ih r).2 ⟨a, s₁, hfirst, hsecond⟩⟩

/-- Programs that can fail. -/
theorem runsIn_bindExcept {p : ExceptT ε (Process C R) α} {f : α → ExceptT ε (Process C R) β}
    {s s'' : σ} {result : Except ε β} (h : RunsIn env (p >>= f).run s result s'') :
    ∃ first s', RunsIn env p.run s first s' ∧
      match first with
      | .ok a => RunsIn env (f a).run s' result s''
      | .error e => result = .error e ∧ s'' = s' := by
  obtain ⟨first, s', hfirst, hrest⟩ := runsIn_bind.1 h
  refine ⟨first, s', hfirst, ?_⟩
  cases first with
  | ok a => exact hrest
  | error e => exact hrest

/-- What is kept by the calls that a program makes is kept by its runs. -/
theorem RunsIn.invariant {I : C → Prop} {P : σ → Prop} {Q : α → Prop} {p : Process C R α}
    (hcalls : p.Always I Q) (hstep : ∀ s c r s', I c → P s → env s c r s' → P s')
    {s s' : σ} {a : α} (h : p.RunsIn env s a s') (hP : P s) : P s' := by
  induction p generalizing s with
  | ret b =>
    obtain ⟨-, rfl⟩ := h
    exact hP
  | call c k ih =>
    obtain ⟨r, s₁, henv, hrest⟩ := h
    exact ih r (hcalls.2 r) hrest (hstep s c r s₁ hcalls.1 hP henv)

/-- Run a program with given answers, as long as there are any. -/
def replay (answer : σ → (c : C) → Option (R c × σ)) : Process C R α → σ → Option (α × σ)
  | ret a, s => some (a, s)
  | call c k, s =>
    match answer s c with
    | none => none
    | some (r, s') => (k r).replay answer s'

/-- A run with answers that the environment can give is one in the environment. -/
theorem runsIn_of_replay {answer : σ → (c : C) → Option (R c × σ)}
    (henv : ∀ s c r s', answer s c = some (r, s') → env s c r s') {p : Process C R α} {s s' : σ}
    {a : α} (h : p.replay answer s = some (a, s')) : p.RunsIn env s a s' := by
  induction p generalizing s with
  | ret b =>
    obtain ⟨rfl, rfl⟩ := Prod.ext_iff.1 (Option.some.inj h)
    exact ⟨rfl, rfl⟩
  | call c k ih =>
    unfold replay at h
    split at h
    next => cases h
    next r s₁ hanswer => exact ⟨r, s₁, henv s c r s₁ hanswer, ih r h⟩

end Process
