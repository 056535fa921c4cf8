import Mathlib.Data.List.Basic
import Mathlib.Tactic

/-!
# Computations that add to a log

Computations with a list as their state to which they only add. They can count what is in the list,
to find out what they have added since.

## Main definitions

* `Yields`: what holds of every result.
* `Logs`: what a computation returns and adds; `value` and `added` on an empty list.
* `Appends`: these do not depend on what is in the list before.
* `AppendsSince`: a computation with a count of the list that was taken before.

## Main results

* `yields_bind`, `appends_bind`, `appends_count`: sequences and counts.
* `logs_bind`, `Appends.logs`: what is returned and added.
-/

namespace AppendLog

variable {ω α β : Type} {P : α → Prop} {Q : β → Prop}

/-! ## Results -/

/-- Every result of the computation satisfies `P`. -/
def Yields (P : α → Prop) (m : StateM (List ω) α) : Prop := ∀ log, P (m.run log).1

theorem yields_pure {a : α} (h : P a) : Yields P (pure a : StateM (List ω) α) := fun _ => h

theorem yields_bind {m : StateM (List ω) α} {f : α → StateM (List ω) β} (hm : Yields P m)
    (hf : ∀ a, P a → Yields Q (f a)) : Yields Q (m >>= f) :=
  fun log => hf _ (hm log) _

theorem yields_map {m : StateM (List ω) α} {f : α → β} (hm : Yields P m)
    (hf : ∀ a, P a → Q (f a)) : Yields Q (f <$> m) :=
  fun log => hf _ (hm log)

/-- Nothing is known about the result. -/
theorem yields_true (m : StateM (List ω) α) : Yields (fun _ => True) m := fun _ => trivial

/-! ## What is added -/

/-- The computation returns `a` and adds `more`. -/
def Logs (m : StateM (List ω) α) (a : α) (more : List ω) : Prop :=
  ∀ log, m.run log = (a, log ++ more)

theorem logs_pure (a : α) : Logs (pure a : StateM (List ω) α) a [] := fun log => by
  rw [List.append_nil]
  rfl

/-- One entry is added. -/
theorem logs_modify (entry : ω) :
    Logs (modify (· ++ [entry]) : StateM (List ω) Unit) ⟨⟩ [entry] := fun _ => rfl

theorem logs_bind {m : StateM (List ω) α} {f : α → StateM (List ω) β} {a : α} {b : β}
    {more more' : List ω} (hm : Logs m a more) (hf : Logs (f a) b more') :
    Logs (m >>= f) b (more ++ more') := by
  intro log
  show (f (m.run log).1).run (m.run log).2 = _
  rw [hm, hf, List.append_assoc]

theorem logs_map {m : StateM (List ω) α} {a : α} {more : List ω} (hm : Logs m a more)
    (f : α → β) : Logs (f <$> m) (f a) more := by
  intro log
  show (f (m.run log).1, (m.run log).2) = _
  rw [hm]

/-- The result on an empty list. -/
def value (m : StateM (List ω) α) : α := (m.run []).1

/-- What is added to an empty list. -/
def added (m : StateM (List ω) α) : List ω := (m.run []).2

theorem Logs.value_eq {m : StateM (List ω) α} {a : α} {more : List ω} (h : Logs m a more) :
    value m = a := by
  rw [value, h]

theorem Logs.added_eq {m : StateM (List ω) α} {a : α} {more : List ω} (h : Logs m a more) :
    added m = more := by
  rw [added, h, List.nil_append]

/-- What the computation returns and adds does not depend on what is in the list. -/
def Appends (m : StateM (List ω) α) : Prop := ∃ a more, Logs m a more

theorem Appends.logs {m : StateM (List ω) α} (h : Appends m) : Logs m (value m) (added m) := by
  obtain ⟨a, more, hlogs⟩ := h
  rw [hlogs.value_eq, hlogs.added_eq]
  exact hlogs

theorem appends_pure (a : α) : Appends (pure a : StateM (List ω) α) := ⟨_, _, logs_pure a⟩

theorem appends_modify (entry : ω) : Appends (modify (· ++ [entry]) : StateM (List ω) Unit) :=
  ⟨_, _, logs_modify entry⟩

theorem appends_bind {m : StateM (List ω) α} {f : α → StateM (List ω) β} (hm : Appends m)
    (hf : ∀ a, Appends (f a)) : Appends (m >>= f) :=
  ⟨_, _, logs_bind hm.logs (hf _).logs⟩

theorem appends_map {m : StateM (List ω) α} {f : α → β} (hm : Appends m) : Appends (f <$> m) :=
  ⟨_, _, logs_map hm.logs f⟩

/-! ## Counts -/

/-- What the computation returns and adds does not depend on what was in the list when the count
was taken, but on what was added since. -/
def AppendsSince (k : ℕ → StateM (List ω) α) : Prop :=
  ∀ since, ∃ a more, ∀ log, (k log.length).run (log ++ since) = (a, log ++ since ++ more)

/-- A count, and a computation that compares it with a later one. -/
theorem appends_count {k : ℕ → StateM (List ω) α} (h : AppendsSince k) :
    Appends ((List.length <$> get) >>= k) := by
  obtain ⟨a, more, hrun⟩ := h []
  refine ⟨a, more, fun log => ?_⟩
  have hcount := hrun log
  rw [List.append_nil] at hcount
  exact hcount

/-- The count is not used. -/
theorem Appends.since {m : StateM (List ω) α} (h : Appends m) : AppendsSince fun _ => m :=
  fun since => ⟨value m, added m, fun log => h.logs (log ++ since)⟩

/-- What is added before the count is used was added since. -/
theorem appendsSince_bind {m : StateM (List ω) α} {k : ℕ → α → StateM (List ω) β} (hm : Appends m)
    (hk : ∀ a, AppendsSince fun before => k before a) :
    AppendsSince fun before => m >>= k before := by
  intro since
  obtain ⟨b, more, hrun⟩ := hk (value m) (since ++ added m)
  refine ⟨b, added m ++ more, fun log => ?_⟩
  show (k log.length (m.run (log ++ since)).1).run (m.run (log ++ since)).2 = _
  have hrest := hrun log
  rw [hm.logs]
  simp only [List.append_assoc] at hrest ⊢
  exact hrest

/-- The count is used only at the start. -/
theorem AppendsSince.bind {k : ℕ → StateM (List ω) α} {f : α → StateM (List ω) β}
    (hk : AppendsSince k) (hf : ∀ a, Appends (f a)) : AppendsSince fun before => k before >>= f := by
  intro since
  obtain ⟨a, more, hrun⟩ := hk since
  refine ⟨value (f a), more ++ added (f a), fun log => ?_⟩
  show (f ((k log.length).run (log ++ since)).1).run ((k log.length).run (log ++ since)).2 = _
  rw [hrun, (hf a).logs, List.append_assoc (log ++ since)]

/-- What depends on whether anything was added since the count. -/
theorem appendsSince_ite (p : Prop) [Decidable p] {m : StateM (List ω) Unit} (hm : Appends m) :
    AppendsSince fun before => (do
      if (← List.length <$> get) = before ∧ p then m) := by
  intro since
  by_cases hquiet : since = [] ∧ p
  · refine ⟨value m, added m, fun log => ?_⟩
    show (if (log ++ since).length = log.length ∧ p then m else pure ⟨⟩).run (log ++ since) = _
    rw [if_pos ⟨by simp [hquiet.1], hquiet.2⟩]
    exact hm.logs _
  · refine ⟨⟨⟩, [], fun log => ?_⟩
    show (if (log ++ since).length = log.length ∧ p then m else pure ⟨⟩).run (log ++ since) = _
    rw [if_neg fun h => hquiet ⟨by simpa using h.1, h.2⟩, List.append_nil]
    rfl

/-- What every result satisfies. -/
theorem Yields.value {m : StateM (List ω) α} (h : Yields P m) : P (value m) := h []

end AppendLog
