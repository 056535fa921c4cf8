import WeatherApp.Foundation.Transaction

/-!
# Sequences of transactions

Steps on a store that each take effect as a whole or not at all, taken one after the other until one
fails. A sequence that has stopped can be taken up again at the step that failed.

## Main definitions

* `runAll`: steps in a row, up to the first one that fails.
* `Tx.Steady`: a failure of the storage engine makes the computation fail, and does nothing else.
* `Tx.mapError`: a computation with other errors.

## Main results

* `runAll_error`: where a sequence stops, and in which store.
* `runAll_append`: a sequence in two parts.
* `runAll_simulates`: two sequences that keep a relation between their stores.
-/

universe u

section RunAll

variable {α ε σ τ : Type u}

/-- How a step on a store ends, and the store after it. -/
abbrev StepResult (ε σ : Type u) := Except ε PUnit.{u + 1} × σ

/-- Take the steps of a list one after the other, up to the first one that fails. -/
def runAll (step : α → σ → StepResult ε σ) : List α → σ → StepResult ε σ
  | [], s => (.ok ⟨⟩, s)
  | x :: xs, s =>
    match step x s with
    | (.ok _, s') => runAll step xs s'
    | (.error e, s') => (.error e, s')

theorem runAll_cons_ok {step : α → σ → StepResult ε σ} {x : α} {xs : List α} {s s' : σ}
    (h : step x s = (.ok ⟨⟩, s')) : runAll step (x :: xs) s = runAll step xs s' := by
  rw [runAll, h]

/-- A sequence that succeeds has succeeded in its first step. -/
theorem runAll_cons_eq_ok {step : α → σ → StepResult ε σ} {x : α} {xs : List α} {s s'' : σ}
    (h : runAll step (x :: xs) s = (.ok ⟨⟩, s'')) :
    ∃ s', step x s = (.ok ⟨⟩, s') ∧ runAll step xs s' = (.ok ⟨⟩, s'') := by
  rw [runAll] at h
  split at h
  next s' hstep => exact ⟨s', hstep, h⟩
  next => cases h

/-- A sequence that fails has done the steps before the one that failed, and nothing of that one. -/
theorem runAll_error {step : α → σ → StepResult ε σ}
    (hatomic : ∀ x s e s', step x s = (.error e, s') → s' = s) {xs : List α} {s s' : σ} {e : ε}
    (h : runAll step xs s = (.error e, s')) :
    ∃ done x rest, xs = done ++ x :: rest ∧ runAll step done s = (.ok ⟨⟩, s') ∧
      step x s' = (.error e, s') := by
  induction xs generalizing s with
  | nil => cases h
  | cons x xs ih =>
    rw [runAll] at h
    split at h
    next s₁ hstep =>
      obtain ⟨done, y, rest, rfl, hdone, hfailed⟩ := ih h
      exact ⟨x :: done, y, rest, rfl, (runAll_cons_ok hstep).trans hdone, hfailed⟩
    next e' s₁ hstep =>
      cases h
      obtain rfl := hatomic x s e s' hstep
      exact ⟨[], x, xs, rfl, rfl, hstep⟩

/-- A sequence whose first part succeeds goes on with the second. -/
theorem runAll_append {step : α → σ → StepResult ε σ} {xs ys : List α} {s s' : σ}
    (h : runAll step xs s = (.ok ⟨⟩, s')) : runAll step (xs ++ ys) s = runAll step ys s' := by
  induction xs generalizing s with
  | nil =>
    cases h
    rfl
  | cons x xs ih =>
    obtain ⟨s₁, hstep, hrest⟩ := runAll_cons_eq_ok h
    rw [List.cons_append, runAll_cons_ok hstep, ih hrest]

/-- Two runs over the same list end alike, if their steps end alike and keep a relation between the
stores. The relation may depend on the steps that have been done. -/
theorem runAll_simulates {step : α → σ → StepResult ε σ} {step' : α → τ → StepResult ε τ}
    (R : List α → σ → τ → Prop) {all : List α}
    (hstep : ∀ done x rest s t, all = done ++ x :: rest → R done s t →
      (∃ s' t', step x s = (.ok ⟨⟩, s') ∧ step' x t = (.ok ⟨⟩, t') ∧ R (done ++ [x]) s' t') ∨
      ∃ e s' t', step x s = (.error e, s') ∧ step' x t = (.error e, t') ∧ R done s' t')
    {done rest : List α} {s : σ} {t : τ} (hsplit : all = done ++ rest) (hR : R done s t) :
    (runAll step rest s).1 = (runAll step' rest t).1 ∧
      ∃ done', R done' (runAll step rest s).2 (runAll step' rest t).2 := by
  induction rest generalizing done s t with
  | nil => exact ⟨rfl, done, hR⟩
  | cons x rest ih =>
    rcases hstep done x rest s t hsplit hR with
      ⟨s', t', hs, ht, hnext⟩ | ⟨e, s', t', hs, ht, hstopped⟩
    · rw [runAll_cons_ok hs, runAll_cons_ok ht]
      exact ih (by rw [hsplit, List.append_assoc, List.singleton_append]) hnext
    · simp only [runAll, hs, ht]
      exact ⟨trivial, done, hstopped⟩

end RunAll

namespace Tx

variable {ε σ α β : Type u}

/-! ### Other errors -/

/-- The computation, with its errors mapped. -/
def mapError (f : TxError ε → TxError ε) (tx : Tx ε σ α) : Tx ε σ α := fun faults w =>
  (tx faults w).mapError f

theorem returns_mapError {f : TxError ε → TxError ε} {tx : Tx ε σ α} {s s' : σ} {a : α}
    (h : Returns (tx.mapError f) s a s') : Returns tx s a s' := by
  obtain ⟨faults, n, n', hrun⟩ := h
  refine ⟨faults, n, n', ?_⟩
  simp only [mapError] at hrun
  cases hresult : tx faults (n, s) with
  | ok result =>
    rw [hresult] at hrun
    exact hrun
  | error e =>
    rw [hresult] at hrun
    cases hrun

theorem succeeds_mapError {f : TxError ε → TxError ε} {tx : Tx ε σ α} {s s' : σ} {a : α}
    (h : Succeeds tx s a s') : Succeeds (tx.mapError f) s a s' := by
  intro n
  obtain ⟨n', hrun⟩ := h n
  exact ⟨n', by rw [mapError, hrun]; rfl⟩

/-! ### Steady computations -/

/-- A failure of the storage engine makes the computation fail, and does nothing else: what it
returns under any plan it returns without failures. -/
def Steady (tx : Tx ε σ α) : Prop :=
  ∀ ⦃s a s'⦄, Returns tx s a s' → Succeeds tx s a s'

theorem steady_pure (a : α) : Steady (pure a : Tx ε σ α) := by
  intro s b s' h
  obtain ⟨rfl, rfl⟩ := returns_pure h
  exact succeeds_pure

theorem Steady.bind {x : Tx ε σ α} {f : α → Tx ε σ β} (hx : Steady x) (hf : ∀ a, Steady (f a)) :
    Steady (x >>= f) := by
  intro s b s'' h
  obtain ⟨a, s', ha, hb⟩ := returns_bind h
  exact succeeds_bind (hx ha) (hf a hb)

theorem steady_statement (f : σ → Except String (α × σ)) :
    Steady (statement f : Tx ε σ α) :=
  fun _ _ _ h => succeeds_statement (returns_statement h)

theorem steady_raise (e : ε) : Steady (raise e : Tx ε σ α) :=
  fun _ _ _ h => absurd h not_returns_raise

theorem steady_forM {f : β → Tx ε σ PUnit} (hf : ∀ b, Steady (f b)) (bs : List β) :
    Steady (bs.forM f) := by
  induction bs with
  | nil => exact steady_pure _
  | cons b bs ih => exact (hf b).bind fun _ => ih

end Tx
