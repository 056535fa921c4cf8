import Mathlib.Tactic

/-!
# Transactions over a store

Computations that read and write a store statement by statement, where any statement can
fail. A `FaultPlan` decides which statements the storage engine fails, so a statement about
every plan covers an engine failure at every point of the computation.

`atomically` runs a computation against a store: the changes are kept when it returns and
dropped when it fails.

## Main definitions

* `Tx ε σ α`: a computation over the store `σ` with result `α` that can raise an `ε`.
* `Tx.Returns tx s a s'`: under some fault plan, `tx` started on `s` returns `a` on `s'`.
* `Tx.Fails tx s e`: under some fault plan, `tx` started on `s` fails with `e`.
* `Tx.Succeeds tx s a s'`: without engine failures, `tx` started on `s` returns `a` on `s'`.
* `atomically`, `transaction`: all-or-nothing execution.

## Main results

* `atomically_error`: a failed computation leaves the store as it was.
* `returns_bind`, `fails_bind`, `succeeds_bind`: how the three relations compose.
* `returns_foldlM`, `fails_foldlM`, `succeeds_foldlM`: the invariant rules for a loop of
  statements.
-/

universe u

/-- Why a computation over a store failed: the storage engine failed a statement, or the
computation itself raised an error. -/
inductive TxError (ε : Type u) where
  | engine (reason : String)
  | raised (error : ε)
  deriving DecidableEq, Repr

/-- Decides for the `n`-th statement of a computation whether the storage engine fails it. -/
abbrev FaultPlan := ℕ → Option String

/-- The plan under which the storage engine fails no statement. -/
def noFaults : FaultPlan := fun _ => none

/-- A computation over a store. It sees the fault plan and the number of statements executed
so far, and loses its working store when it fails. -/
def Tx (ε σ α : Type u) : Type u :=
  FaultPlan → ℕ × σ → Except (TxError ε) (α × ℕ × σ)

namespace Tx

variable {ε σ α β : Type u}

instance : Monad (Tx ε σ) where
  pure a := fun _ w => .ok (a, w)
  bind x f := fun faults w =>
    match x faults w with
    | .ok (a, w') => f a faults w'
    | .error e => .error e

/-- One statement. It fails when the plan says so or when the engine rejects it. -/
def statement (f : σ → Except String (α × σ)) : Tx ε σ α := fun faults w =>
  match faults w.1 with
  | some reason => .error (.engine reason)
  | none =>
    match f w.2 with
    | .ok (a, s) => .ok (a, w.1 + 1, s)
    | .error reason => .error (.engine reason)

/-- A statement that only reads. -/
def query (f : σ → α) : Tx ε σ α := statement fun s => .ok (f s, s)

/-- A statement that the engine never rejects. -/
def execute (f : σ → σ) : Tx ε σ PUnit := statement fun s => .ok (⟨⟩, f s)

/-- A statement that the engine rejects with `reason` when `f` has no result. -/
def executeOr (reason : String) (f : σ → Option σ) : Tx ε σ PUnit := statement fun s =>
  match f s with
  | some s' => .ok (⟨⟩, s')
  | none => .error reason

/-- Raise an error of the computation itself. -/
def raise (e : ε) : Tx ε σ α := fun _ _ => .error (.raised e)

/-- Continue with the result of a pure computation, or raise its error. -/
def ofExcept : Except ε α → Tx ε σ α
  | .ok a => pure a
  | .error e => raise e

/-- Under some fault plan, `tx` started on `s` returns `a` and leaves the store `s'`. -/
def Returns (tx : Tx ε σ α) (s : σ) (a : α) (s' : σ) : Prop :=
  ∃ faults n n', tx faults (n, s) = .ok (a, n', s')

/-- Under some fault plan, `tx` started on `s` fails with `e`. -/
def Fails (tx : Tx ε σ α) (s : σ) (e : TxError ε) : Prop :=
  ∃ faults n, tx faults (n, s) = .error e

/-- Without engine failures, `tx` started on `s` returns `a` and leaves the store `s'`. -/
def Succeeds (tx : Tx ε σ α) (s : σ) (a : α) (s' : σ) : Prop :=
  ∀ n, ∃ n', tx noFaults (n, s) = .ok (a, n', s')

/-! ### Returning runs -/

theorem returns_pure {a b : α} {s s' : σ} (h : Returns (pure a : Tx ε σ α) s b s') :
    b = a ∧ s' = s := by
  obtain ⟨faults, n, n', hrun⟩ := h
  cases hrun
  exact ⟨rfl, rfl⟩

theorem returns_bind {x : Tx ε σ α} {f : α → Tx ε σ β} {s s'' : σ} {b : β}
    (h : Returns (x >>= f) s b s'') : ∃ a s', Returns x s a s' ∧ Returns (f a) s' b s'' := by
  obtain ⟨faults, n, n'', hrun⟩ := h
  simp only [bind] at hrun
  split at hrun
  next a w hx => exact ⟨a, w.2, ⟨faults, n, w.1, hx⟩, ⟨faults, w.1, n'', hrun⟩⟩
  next => cases hrun

theorem returns_statement {f : σ → Except String (α × σ)} {s s' : σ} {a : α}
    (h : Returns (statement f : Tx ε σ α) s a s') : f s = .ok (a, s') := by
  obtain ⟨faults, n, n', hrun⟩ := h
  simp only [statement] at hrun
  split at hrun
  next => cases hrun
  next =>
    split at hrun
    next a₁ s₁ hf =>
      cases hrun
      exact hf
    next => cases hrun

theorem returns_query {f : σ → α} {s s' : σ} {a : α}
    (h : Returns (query f : Tx ε σ α) s a s') : a = f s ∧ s' = s := by
  have hf := returns_statement h
  simp only [Except.ok.injEq, Prod.mk.injEq] at hf
  exact ⟨hf.1.symm, hf.2.symm⟩

theorem returns_execute {f : σ → σ} {s s' : σ} {a : PUnit}
    (h : Returns (execute f : Tx ε σ PUnit) s a s') : s' = f s := by
  have hf := returns_statement h
  simp only [Except.ok.injEq, Prod.mk.injEq] at hf
  exact hf.2.symm

theorem returns_executeOr {reason : String} {f : σ → Option σ} {s s' : σ} {a : PUnit}
    (h : Returns (executeOr reason f : Tx ε σ PUnit) s a s') : f s = some s' := by
  have hf := returns_statement h
  cases hfs : f s with
  | none => simp [hfs] at hf
  | some s₁ =>
    simp only [hfs, Except.ok.injEq, Prod.mk.injEq] at hf
    rw [hf.2]

theorem not_returns_raise {e : ε} {s s' : σ} {a : α} :
    ¬ Returns (raise e : Tx ε σ α) s a s' := by
  rintro ⟨faults, n, n', hrun⟩
  cases hrun

theorem returns_ofExcept {x : Except ε α} {s s' : σ} {a : α}
    (h : Returns (ofExcept x : Tx ε σ α) s a s') : x = .ok a ∧ s' = s := by
  cases x with
  | ok b =>
    obtain ⟨rfl, rfl⟩ := returns_pure h
    exact ⟨rfl, rfl⟩
  | error e => exact absurd h not_returns_raise

/-- Invariant rule for a loop: what holds of the items done so far, the accumulator and the
store, and is kept by one iteration, holds at the end. -/
theorem returns_foldlM {f : β → α → Tx ε σ β} (P : List α → β → σ → Prop) {xs : List α}
    {b b' : β} {s s' : σ} (hinit : P [] b s)
    (hstep : ∀ done x b s b' s', P done b s → Returns (f b x) s b' s' → P (done ++ [x]) b' s')
    (h : Returns (xs.foldlM f b) s b' s') : P xs b' s' := by
  suffices hgen : ∀ (xs done : List α) (b : β) (s : σ), P done b s →
      Returns (xs.foldlM f b) s b' s' → P (done ++ xs) b' s' from hgen xs [] b s hinit h
  intro xs
  induction xs with
  | nil =>
    intro done b s hP hrun
    obtain ⟨rfl, rfl⟩ := returns_pure hrun
    simpa using hP
  | cons x xs ih =>
    intro done b s hP hrun
    rw [List.foldlM_cons] at hrun
    obtain ⟨b₁, s₁, hx, hrest⟩ := returns_bind hrun
    simpa using ih (done ++ [x]) b₁ s₁ (hstep done x b s b₁ s₁ hP hx) hrest

/-! ### Failing runs -/

theorem not_fails_pure {a : α} {s : σ} {e : TxError ε} : ¬ Fails (pure a : Tx ε σ α) s e := by
  rintro ⟨faults, n, hrun⟩
  cases hrun

theorem fails_bind {x : Tx ε σ α} {f : α → Tx ε σ β} {s : σ} {e : TxError ε}
    (h : Fails (x >>= f) s e) :
    Fails x s e ∨ ∃ a s', Returns x s a s' ∧ Fails (f a) s' e := by
  obtain ⟨faults, n, hrun⟩ := h
  simp only [bind] at hrun
  split at hrun
  next a w hx => exact Or.inr ⟨a, w.2, ⟨faults, n, w.1, hx⟩, ⟨faults, w.1, hrun⟩⟩
  next e' hx =>
    cases hrun
    exact Or.inl ⟨faults, n, hx⟩

theorem fails_statement {f : σ → Except String (α × σ)} {s : σ} {e : TxError ε}
    (h : Fails (statement f : Tx ε σ α) s e) : ∃ reason, e = .engine reason := by
  obtain ⟨faults, n, hrun⟩ := h
  simp only [statement] at hrun
  split at hrun
  next reason _ =>
    cases hrun
    exact ⟨reason, rfl⟩
  next =>
    split at hrun
    next => cases hrun
    next reason _ =>
      cases hrun
      exact ⟨reason, rfl⟩

theorem fails_query {f : σ → α} {s : σ} {e : TxError ε}
    (h : Fails (query f : Tx ε σ α) s e) : ∃ reason, e = .engine reason :=
  fails_statement h

theorem fails_raise {e₀ : ε} {s : σ} {e : TxError ε} (h : Fails (raise e₀ : Tx ε σ α) s e) :
    e = .raised e₀ := by
  obtain ⟨faults, n, hrun⟩ := h
  cases hrun
  rfl

theorem fails_ofExcept {x : Except ε α} {s : σ} {e : TxError ε}
    (h : Fails (ofExcept x : Tx ε σ α) s e) : ∃ e₀, x = .error e₀ ∧ e = .raised e₀ := by
  cases x with
  | ok a => exact absurd h not_fails_pure
  | error e₀ => exact ⟨e₀, rfl, fails_raise h⟩

/-- A failing loop fails in one of its iterations, from a state the invariant holds in. -/
theorem fails_foldlM {f : β → α → Tx ε σ β} (P : List α → β → σ → Prop) {xs : List α}
    {b : β} {s : σ} {e : TxError ε} (hinit : P [] b s)
    (hstep : ∀ done x b s b' s', P done b s → Returns (f b x) s b' s' → P (done ++ [x]) b' s')
    (h : Fails (xs.foldlM f b) s e) :
    ∃ done x rest b₁ s₁, xs = done ++ x :: rest ∧ P done b₁ s₁ ∧ Fails (f b₁ x) s₁ e := by
  suffices hgen : ∀ (xs done : List α) (b : β) (s : σ), P done b s →
      Fails (xs.foldlM f b) s e → ∃ done' x rest b₁ s₁,
        done ++ xs = done' ++ x :: rest ∧ P done' b₁ s₁ ∧ Fails (f b₁ x) s₁ e by
    simpa using hgen xs [] b s hinit h
  intro xs
  induction xs with
  | nil => exact fun done b s _ hrun => absurd hrun not_fails_pure
  | cons x xs ih =>
    intro done b s hP hrun
    rw [List.foldlM_cons] at hrun
    rcases fails_bind hrun with hx | ⟨b₁, s₁, hx, hrest⟩
    · exact ⟨done, x, xs, b, s, rfl, hP, hx⟩
    · simpa using ih (done ++ [x]) b₁ s₁ (hstep done x b s b₁ s₁ hP hx) hrest

/-! ### Runs without engine failures -/

theorem Succeeds.returns {tx : Tx ε σ α} {s s' : σ} {a : α} (h : Succeeds tx s a s') :
    Returns tx s a s' := by
  obtain ⟨n', hrun⟩ := h 0
  exact ⟨noFaults, 0, n', hrun⟩

theorem succeeds_pure {a : α} {s : σ} : Succeeds (pure a : Tx ε σ α) s a s :=
  fun n => ⟨n, rfl⟩

theorem succeeds_bind {x : Tx ε σ α} {f : α → Tx ε σ β} {s s' s'' : σ} {a : α} {b : β}
    (hx : Succeeds x s a s') (hf : Succeeds (f a) s' b s'') : Succeeds (x >>= f) s b s'' := by
  intro n
  obtain ⟨n', hx'⟩ := hx n
  obtain ⟨n'', hf'⟩ := hf n'
  exact ⟨n'', by simp only [bind, hx', hf']⟩

theorem succeeds_statement {f : σ → Except String (α × σ)} {s s' : σ} {a : α}
    (h : f s = .ok (a, s')) : Succeeds (statement f : Tx ε σ α) s a s' := by
  intro n
  exact ⟨n + 1, by simp [statement, noFaults, h]⟩

theorem succeeds_query {f : σ → α} {s : σ} : Succeeds (query f : Tx ε σ α) s (f s) s :=
  succeeds_statement rfl

theorem succeeds_execute {f : σ → σ} {s : σ} :
    Succeeds (execute f : Tx ε σ PUnit) s ⟨⟩ (f s) :=
  succeeds_statement rfl

theorem succeeds_executeOr {reason : String} {f : σ → Option σ} {s s' : σ}
    (h : f s = some s') : Succeeds (executeOr reason f : Tx ε σ PUnit) s ⟨⟩ s' :=
  succeeds_statement (by simp [h])

/-- Invariant rule for a loop that succeeds: from the invariant, each iteration succeeds and
keeps it. -/
theorem succeeds_foldlM {f : β → α → Tx ε σ β} (P : List α → β → σ → Prop) {xs : List α}
    {b : β} {s : σ} (hinit : P [] b s)
    (hstep : ∀ done x rest b s, xs = done ++ x :: rest → P done b s →
      ∃ b' s', Succeeds (f b x) s b' s' ∧ P (done ++ [x]) b' s') :
    ∃ b' s', Succeeds (xs.foldlM f b) s b' s' ∧ P xs b' s' := by
  suffices hgen : ∀ (rest done : List α) (b : β) (s : σ), xs = done ++ rest → P done b s →
      ∃ b' s', Succeeds (rest.foldlM f b) s b' s' ∧ P xs b' s' from hgen xs [] b s rfl hinit
  intro rest
  induction rest with
  | nil =>
    intro done b s hsplit hP
    rw [hsplit, List.append_nil]
    exact ⟨b, s, succeeds_pure, hP⟩
  | cons x rest ih =>
    intro done b s hsplit hP
    obtain ⟨b₁, s₁, hx, hP₁⟩ := hstep done x rest b s hsplit hP
    obtain ⟨b₂, s₂, hrest, hP₂⟩ := ih (done ++ [x]) b₁ s₁ (by simp [hsplit]) hP₁
    rw [List.foldlM_cons]
    exact ⟨b₂, s₂, succeeds_bind hx hrest, hP₂⟩

theorem succeeds_ofExcept {x : Except ε α} {s : σ} {a : α} (h : x = .ok a) :
    Succeeds (ofExcept x : Tx ε σ α) s a s := by
  subst h
  exact succeeds_pure

end Tx

section Atomic

variable {ε σ α : Type u}

/-- Run a computation against a store. A failure drops every change. -/
def atomically (tx : Tx ε σ α) (faults : FaultPlan) (s : σ) : Except (TxError ε) α × σ :=
  match tx faults (0, s) with
  | .ok (a, _, s') => (.ok a, s')
  | .error e => (.error e, s)

/-- A transaction: opening and committing it are statements that can fail too. -/
def transaction (body : Tx ε σ α) : FaultPlan → σ → Except (TxError ε) α × σ :=
  atomically do
    Tx.execute id
    let a ← body
    Tx.execute id
    return a

/-- A failed computation leaves the store as it was. -/
theorem atomically_error {tx : Tx ε σ α} {faults : FaultPlan} {s s' : σ} {e : TxError ε}
    (h : atomically tx faults s = (.error e, s')) : s' = s ∧ tx.Fails s e := by
  unfold atomically at h
  split at h
  next => cases h
  next e' hrun =>
    cases h
    exact ⟨rfl, faults, 0, hrun⟩

theorem atomically_ok {tx : Tx ε σ α} {faults : FaultPlan} {s s' : σ} {a : α}
    (h : atomically tx faults s = (.ok a, s')) : tx.Returns s a s' := by
  unfold atomically at h
  split at h
  next a' n' s₁ hrun =>
    cases h
    exact ⟨faults, 0, n', hrun⟩
  next => cases h

theorem atomically_noFaults {tx : Tx ε σ α} {s s' : σ} {a : α} (h : tx.Succeeds s a s') :
    atomically tx noFaults s = (.ok a, s') := by
  obtain ⟨n', hrun⟩ := h 0
  simp [atomically, hrun]

/-- A failed transaction leaves the store as it was, and its body failed unless the engine
refused to open or to commit it. -/
theorem transaction_error {body : Tx ε σ α} {faults : FaultPlan} {s s' : σ} {e : TxError ε}
    (h : transaction body faults s = (.error e, s')) :
    s' = s ∧ (body.Fails s e ∨ ∃ reason, e = .engine reason) := by
  obtain ⟨rfl, hfails⟩ := atomically_error h
  refine ⟨rfl, ?_⟩
  rcases Tx.fails_bind hfails with hbegin | ⟨_, s₁, hbegin, hrest⟩
  · exact Or.inr (Tx.fails_statement hbegin)
  · obtain rfl : s₁ = _ := Tx.returns_execute hbegin
    rcases Tx.fails_bind hrest with hbody | ⟨a, s₂, -, hcommit⟩
    · exact Or.inl hbody
    · rcases Tx.fails_bind hcommit with hcommit | ⟨_, _, -, hpure⟩
      · exact Or.inr (Tx.fails_statement hcommit)
      · exact absurd hpure Tx.not_fails_pure

/-- A transaction that returns keeps exactly the changes of its body. -/
theorem transaction_ok {body : Tx ε σ α} {faults : FaultPlan} {s s' : σ} {a : α}
    (h : transaction body faults s = (.ok a, s')) : body.Returns s a s' := by
  obtain ⟨_, s₁, hbegin, hrest⟩ := Tx.returns_bind (atomically_ok h)
  obtain rfl : s₁ = _ := Tx.returns_execute hbegin
  obtain ⟨a₁, s₂, hbody, hrest⟩ := Tx.returns_bind hrest
  obtain ⟨_, s₃, hcommit, hpure⟩ := Tx.returns_bind hrest
  obtain rfl : s₃ = _ := Tx.returns_execute hcommit
  obtain ⟨rfl, rfl⟩ := Tx.returns_pure hpure
  exact hbody

theorem transaction_noFaults {body : Tx ε σ α} {s s' : σ} {a : α} (h : body.Succeeds s a s') :
    transaction body noFaults s = (.ok a, s') := by
  refine atomically_noFaults (Tx.succeeds_bind Tx.succeeds_execute ?_)
  exact Tx.succeeds_bind h (Tx.succeeds_bind Tx.succeeds_execute Tx.succeeds_pure)

end Atomic
