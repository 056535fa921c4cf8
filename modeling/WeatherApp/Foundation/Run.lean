import Mathlib.Tactic

/-!
# Runs of labelled systems

A `LabelledSystem` has initial states and labelled steps. A run records the labels of its
steps, oldest first. What the initial states satisfy and every step keeps holds after every
run (`Run.invariant`), and what a run has done so far can take part in the invariant
(`Run.traceInvariant`).

`Leads` relates a state to those after it: what every step keeps, whatever else has happened,
holds in all of them (`Leads.stable`).

`restrict` keeps only the steps whose label is allowed in the state before the step, so that
a run of the restricted system is a run of the system all of whose steps meet the condition.
`perform` runs a system given by a step function on a list of labels.
-/

universe u v

/-- A state machine with labelled steps. -/
structure LabelledSystem (σ : Type u) (ι : Type v) where
  /-- The states a run can start in. -/
  init : σ → Prop
  /-- `step s l s'`: the step labelled `l` leads from `s` to `s'`. -/
  step : σ → ι → σ → Prop

namespace LabelledSystem

variable {σ : Type u} {ι : Type v} {S : LabelledSystem σ ι}

/-- `S.Run trace s`: a run of `S` performs the labels of `trace`, oldest first, and ends in
`s`. -/
inductive Run (S : LabelledSystem σ ι) : List ι → σ → Prop
  | start {s : σ} : S.init s → Run S [] s
  | step {trace : List ι} {s s' : σ} {l : ι} :
      Run S trace s → S.step s l s' → Run S (trace ++ [l]) s'

/-- Some run ends in the state. -/
def Reachable (S : LabelledSystem σ ι) (s : σ) : Prop := ∃ trace, S.Run trace s

/-- An invariant of the initial states and the steps holds after every run. -/
theorem Run.invariant {P : σ → Prop} (hinit : ∀ s, S.init s → P s)
    (hstep : ∀ s l s', P s → S.step s l s' → P s') {trace : List ι} {s : σ}
    (hrun : S.Run trace s) : P s := by
  induction hrun with
  | start h => exact hinit _ h
  | step _ h ih => exact hstep _ _ _ ih h

/-- An invariant that mentions the labels performed so far holds after every run. -/
theorem Run.traceInvariant {P : List ι → σ → Prop} (hinit : ∀ s, S.init s → P [] s)
    (hstep : ∀ trace s l s', P trace s → S.step s l s' → P (trace ++ [l]) s')
    {trace : List ι} {s : σ} (hrun : S.Run trace s) : P trace s := by
  induction hrun with
  | start h => exact hinit _ h
  | step _ h ih => exact hstep _ _ _ _ ih h

theorem Reachable.invariant {P : σ → Prop} (hinit : ∀ s, S.init s → P s)
    (hstep : ∀ s l s', P s → S.step s l s' → P s') {s : σ} (h : S.Reachable s) : P s := by
  obtain ⟨trace, hrun⟩ := h
  exact hrun.invariant hinit hstep

theorem Reachable.step {s s' : σ} {l : ι} (h : S.Reachable s) (hstep : S.step s l s') :
    S.Reachable s' := by
  obtain ⟨trace, hrun⟩ := h
  exact ⟨_, hrun.step hstep⟩

/-- Steps of `S` lead from one state to another. -/
def Leads (S : LabelledSystem σ ι) : σ → σ → Prop :=
  Relation.ReflTransGen fun s s' => ∃ l, S.step s l s'

/-- What every step keeps holds after all that follows. -/
theorem Leads.stable {P : σ → Prop} (hstep : ∀ s l s', P s → S.step s l s' → P s') {s s' : σ}
    (h : S.Leads s s') (hs : P s) : P s' := by
  induction h with
  | refl => exact hs
  | tail _ hnext ih =>
    obtain ⟨l, hl⟩ := hnext
    exact hstep _ l _ ih hl

/-- The system whose steps are those of `S` that `allowed` accepts in the state before. -/
def restrict (S : LabelledSystem σ ι) (allowed : σ → ι → Prop) : LabelledSystem σ ι where
  init := S.init
  step s l s' := S.step s l s' ∧ allowed s l

theorem Reachable.of_restrict {allowed : σ → ι → Prop} {s : σ}
    (h : (S.restrict allowed).Reachable s) : S.Reachable s := by
  obtain ⟨trace, hrun⟩ := h
  induction hrun with
  | start hinit => exact ⟨[], .start hinit⟩
  | step _ hstep ih =>
    obtain ⟨trace, hrun⟩ := ih
    exact ⟨_, hrun.step hstep.1⟩

/-- A weaker condition allows the same runs. -/
theorem Reachable.imp_restrict {P Q : σ → ι → Prop} (himp : ∀ s l, P s l → Q s l) {s : σ}
    (h : (S.restrict P).Reachable s) : (S.restrict Q).Reachable s := by
  obtain ⟨trace, hrun⟩ := h
  induction hrun with
  | start hinit => exact ⟨[], .start hinit⟩
  | step _ hstep ih =>
    obtain ⟨trace, hrun⟩ := ih
    exact ⟨_, hrun.step ⟨hstep.1, himp _ _ hstep.2⟩⟩

/-- Perform the labels with a step function, while each of them is allowed. -/
def perform (step : σ → ι → Option σ) (allowed : σ → ι → Bool) (s : σ) : List ι → Option σ
  | [] => some s
  | l :: labels =>
    if allowed s l then (step s l).bind fun s' => perform step allowed s' labels else none

/-- What `perform` reaches is reachable by allowed steps. -/
theorem reachable_of_perform {step : σ → ι → Option σ} {allowed : σ → ι → Bool}
    {P : σ → ι → Prop} (hstep : ∀ s l s', step s l = some s' → S.step s l s')
    (hallowed : ∀ s l, allowed s l = true → P s l) {labels : List ι} {s s' : σ}
    (hs : (S.restrict P).Reachable s) (h : perform step allowed s labels = some s') :
    (S.restrict P).Reachable s' := by
  induction labels generalizing s with
  | nil =>
    cases h
    exact hs
  | cons l labels ih =>
    rw [perform, Option.ite_none_right_eq_some] at h
    obtain ⟨s₁, hfirst, hrest⟩ := Option.bind_eq_some_iff.1 h.2
    obtain ⟨trace, hrun⟩ := hs
    exact ih ⟨_, hrun.step ⟨hstep s l s₁ hfirst, hallowed s l h.1⟩⟩ hrest

/-- What `perform` reaches without conditions is reachable by allowed steps, if its labels are
allowed in every state. -/
theorem reachable_of_perform_of_forall {step : σ → ι → Option σ} {P : σ → ι → Prop}
    (hstep : ∀ s l s', step s l = some s' → S.step s l s') {labels : List ι}
    (hlabels : ∀ l ∈ labels, ∀ s, P s l) {s s' : σ} (hs : (S.restrict P).Reachable s)
    (h : perform step (fun _ _ => true) s labels = some s') : (S.restrict P).Reachable s' := by
  induction labels generalizing s with
  | nil =>
    cases h
    exact hs
  | cons l labels ih =>
    rw [perform, if_pos rfl] at h
    obtain ⟨s₁, hfirst, hrest⟩ := Option.bind_eq_some_iff.1 h
    have hnext : (S.restrict P).Reachable s₁ :=
      hs.step ⟨hstep s l s₁ hfirst, hlabels l List.mem_cons_self s⟩
    exact ih (fun l hl => hlabels l (List.mem_cons_of_mem _ hl)) hnext hrest

/-- What `perform` does without conditions extends a run by the labels. -/
theorem Run.perform {step : σ → ι → Option σ} (hstep : ∀ s l s', step s l = some s' → S.step s l s')
    {trace labels : List ι} {s s' : σ} (hs : S.Run trace s)
    (h : LabelledSystem.perform step (fun _ _ => true) s labels = some s') :
    S.Run (trace ++ labels) s' := by
  induction labels generalizing trace s with
  | nil =>
    cases h
    rw [List.append_nil]
    exact hs
  | cons l labels ih =>
    rw [LabelledSystem.perform, if_pos rfl] at h
    obtain ⟨s₁, hfirst, hrest⟩ := Option.bind_eq_some_iff.1 h
    rw [List.append_cons]
    exact ih (hs.step (hstep s l s₁ hfirst)) hrest

end LabelledSystem
