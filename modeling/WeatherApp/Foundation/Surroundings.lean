import WeatherApp.Foundation.Process
import WeatherApp.Foundation.Run

/-!
# Programs in an environment with a state

The environment of a program can have a state of its own, which the calls change: the pool of the
tasks that the program has started. A run takes one call after the other, with any reply that the
environment has for it.

`Process.Safe` says that an invariant of the environment holds all along, that the environment has a
reply to every call, and that the result satisfies a postcondition. It is proved along the program
text and holds in every state of its runs.

## Main definitions

* `Surroundings`: the replies of an environment, and what becomes of its state.
* `Process.system`: the runs of a program in an environment.
* `Process.Safe`: an invariant, progress, and a postcondition.

## Main results

* `safe_bind`, `safe_bindExcept`: the rules for sequencing.
* `Process.Safe.reachable`: a safe program is safe in every state of its runs.
-/

universe u

/-- `H s c r s'`: in the state `s` the environment can reply to the call `c` with `r`, and its state
is `s'` then. -/
abbrev Surroundings (σ C : Type u) (R : C → Type u) : Type u := σ → (c : C) → R c → σ → Prop

namespace Process

variable {σ C : Type u} {R : C → Type u} {α β ε : Type u} {H : Surroundings σ C R} {I : σ → Prop}
  {s : σ}

/-- The runs of a program in an environment. -/
def system (H : Surroundings σ C R) (p : Process C R α) (s : σ) :
    LabelledSystem (Process C R α × σ) (CallEvent C R) where
  init x := x = (p, s)
  step x event x' := ∃ k, x.1 = call event.call k ∧ H x.2 event.call event.reply x'.2 ∧
    x'.1 = k event.reply

/-- The invariant holds now and after every call, the environment has a reply to every call, and the
result satisfies the postcondition. -/
def Safe (H : Surroundings σ C R) (I : σ → Prop) (Q : α → σ → Prop) : Process C R α → σ → Prop
  | ret a, s => I s ∧ Q a s
  | call c k, s => I s ∧ (∃ r s', H s c r s') ∧ ∀ r s', H s c r s' → (k r).Safe H I Q s'

/-- The invariant holds at the start. -/
theorem Safe.invariant {p : Process C R α} {Q : α → σ → Prop} (h : p.Safe H I Q s) : I s := by
  cases p with
  | ret a => exact h.1
  | call c k => exact h.1

/-- The rule of consequence. -/
theorem Safe.weaken {p : Process C R α} {Q Q' : α → σ → Prop} (h : p.Safe H I Q s)
    (hpost : ∀ a s', Q a s' → Q' a s') : p.Safe H I Q' s := by
  induction p generalizing s with
  | ret a => exact ⟨h.1, hpost a s h.2⟩
  | call c k ih => exact ⟨h.1, h.2.1, fun r s' hreply => ih r (h.2.2 r s' hreply)⟩

/-- A sequence is safe when its parts are. -/
theorem safe_bind {p : Process C R α} {f : α → Process C R β} {Q : α → σ → Prop}
    {Q' : β → σ → Prop} (hp : p.Safe H I Q s) (hf : ∀ a s', Q a s' → (f a).Safe H I Q' s') :
    (p >>= f).Safe H I Q' s := by
  induction p generalizing s with
  | ret a => exact hf a s hp.2
  | call c k ih => exact ⟨hp.1, hp.2.1, fun r s' hreply => ih r (hp.2.2 r s' hreply)⟩

/-- Programs that can fail. -/
theorem safe_bindExcept {p : ExceptT ε (Process C R) α} {f : α → ExceptT ε (Process C R) β}
    {Q : Except ε α → σ → Prop} {Q' : Except ε β → σ → Prop} (hp : Safe H I Q p.run s)
    (hok : ∀ a s', Q (.ok a) s' → Safe H I Q' (f a).run s')
    (herror : ∀ e s', Q (.error e) s' → I s' → Q' (.error e) s') :
    Safe H I Q' (p >>= f).run s := by
  have hinvariant : p.run.Safe H I (fun a s' => Q a s' ∧ I s') s := by
    generalize p.run = p at hp
    induction p generalizing s with
    | ret a => exact ⟨hp.1, hp.2, hp.1⟩
    | call c k ih => exact ⟨hp.1, hp.2.1, fun r s' hreply => ih r (hp.2.2 r s' hreply)⟩
  refine safe_bind hinvariant fun result s' hresult => ?_
  cases result with
  | ok a => exact hok a s' hresult.1
  | error e => exact ⟨hresult.2, herror e s' hresult.1 hresult.2⟩

/-- A safe program is safe in every state of its runs. -/
theorem Safe.reachable {p q : Process C R α} {Q : α → σ → Prop} {s' : σ} (h : p.Safe H I Q s)
    (hreach : (system H p s).Reachable (q, s')) : q.Safe H I Q s' := by
  refine hreach.invariant (P := fun x => x.1.Safe H I Q x.2) ?_ ?_
  · rintro x rfl
    exact h
  · rintro ⟨q, s⟩ event ⟨q', s'⟩ hsafe ⟨k, hcall, hreply, hnext⟩
    replace hcall : q = _ := hcall
    replace hnext : q' = _ := hnext
    subst hcall hnext
    exact hsafe.2.2 event.reply s' hreply

/-- A reply continues a run. -/
theorem reachable_reply {p₀ : Process C R α} {s₀ s' : σ} {c : C} {k : R c → Process C R α}
    (h : (system H p₀ s₀).Reachable (call c k, s)) (r : R c) (hreply : H s c r s') :
    (system H p₀ s₀).Reachable (k r, s') :=
  LabelledSystem.Reachable.step (l := ⟨c, r⟩) h ⟨k, rfl, hreply, rfl⟩

/-- The postcondition holds of every result. -/
theorem Safe.returned {p : Process C R α} {Q : α → σ → Prop} {a : α} {s' : σ}
    (h : p.Safe H I Q s) (hreach : (system H p s).Reachable (ret a, s')) : Q a s' :=
  (h.reachable hreach).2

/-- A run goes on until the program returns. -/
theorem Safe.progress {p q : Process C R α} {Q : α → σ → Prop} {s' : σ} (h : p.Safe H I Q s)
    (hreach : (system H p s).Reachable (q, s')) :
    (∃ a, q = ret a) ∨ ∃ event x, (system H p s).step (q, s') event x := by
  have hsafe := h.reachable hreach
  cases q with
  | ret a => exact .inl ⟨a, rfl⟩
  | call c k =>
    obtain ⟨r, s'', hreply⟩ := hsafe.2.1
    exact .inr ⟨⟨c, r⟩, (k r, s''), k, rfl, hreply, rfl⟩

end Process
