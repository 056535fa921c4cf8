import WeatherApp.Foundation.Surroundings

/-!
# Threads that share a state

Threads run programs against one shared state. A thread makes its next call at any time, and the
others make theirs in between; threads start, finish and crash at any time, and the shared state
changes by itself.

A `Sharing` says what a thread promises of its calls and what it may rely on while the others go
on. `Process.Holds` says of a program that it keeps these promises, and that its result satisfies a
postcondition, however the others interleave. It is proved along the text of the program, by the
rules below, for one thread at a time. `Sharing.Sound` are the conditions under which the threads
may rely on each other: `Sharing.Sound.reachable` is the rule for their parallel composition.

## Main definitions

* `Sharing`: the calls, the invariant of the shared state, and what threads promise and rely on.
* `Process.Holds`: a program that keeps the promises of a thread.
* `Process.Quiet`: a program that changes nothing.
* `Threads`, `Sharing.system`: the threads, and the interleavings of their steps.
* `Sharing.Sound`: what a step promises the other threads.

## Main results

* `holds_bind`, `holds_bindExcept`: the rules for sequencing.
* `Process.Holds.along`: what every call keeps, for whole programs.
* `Sharing.Sound.reachable`: the rule for parallel composition.
-/

universe u

/-- What threads `ι` promise each other in a shared state. -/
structure Sharing (ι : Type u) (σ C : Type u) (R : C → Type u) where
  /-- `effect i s c r s'`: the call `c` of the thread `i` can be replied to with `r` in `s`, and the
  state is `s'` then. -/
  effect : ι → Surroundings σ C R
  /-- What holds in every shared state. -/
  invariant : σ → Prop
  /-- What a thread finds changed by the others between two of its calls. -/
  rely : ι → σ → σ → Prop
  rely_refl : ∀ i s, rely i s s
  rely_trans : ∀ i s s' s'', rely i s s' → rely i s' s'' → rely i s s''
  /-- What a thread promises of its calls. -/
  promised : ι → σ → C → Prop

namespace Process

variable {ι σ C : Type u} {R : C → Type u} {α β ε : Type u} {K : Sharing ι σ C R} {i : ι} {s s' : σ}

/-- However the other threads interleave, the program keeps the promises of the thread and its
result satisfies the postcondition. -/
def Holds (K : Sharing ι σ C R) (i : ι) (Q : α → σ → Prop) : Process C R α → σ → Prop
  | ret a, s => ∀ s', K.rely i s s' → K.invariant s' → Q a s'
  | call c k, s => ∀ s₁, K.rely i s s₁ → K.invariant s₁ → K.promised i s₁ c ∧
      ∀ r s₂, K.effect i s₁ c r s₂ → K.invariant s₂ → (k r).Holds K i Q s₂

/-- The others do not break what a thread promises. -/
theorem Holds.rely {p : Process C R α} {Q : α → σ → Prop} (h : p.Holds K i Q s)
    (hrely : K.rely i s s') : p.Holds K i Q s' := by
  cases p with
  | ret a => exact fun s₁ h₁ => h s₁ (K.rely_trans i s s' s₁ hrely h₁)
  | call c k => exact fun s₁ h₁ => h s₁ (K.rely_trans i s s' s₁ hrely h₁)

/-- It is enough that a program keeps its promises from what it finds when it goes on. -/
theorem holds_of_forall {p : Process C R α} {Q : α → σ → Prop}
    (h : ∀ s', K.rely i s s' → K.invariant s' → p.Holds K i Q s') : p.Holds K i Q s := by
  cases p with
  | ret a => exact fun s' hrely hinv => h s' hrely hinv s' (K.rely_refl i s') hinv
  | call c k => exact fun s' hrely hinv => h s' hrely hinv s' (K.rely_refl i s') hinv

/-- The rule of consequence. -/
theorem Holds.weaken {p : Process C R α} {Q Q' : α → σ → Prop} (h : p.Holds K i Q s)
    (hpost : ∀ a s', K.invariant s' → Q a s' → Q' a s') : p.Holds K i Q' s := by
  induction p generalizing s with
  | ret a => exact fun s' hrely hinv => hpost a s' hinv (h s' hrely hinv)
  | call c k ih =>
    intro s₁ hrely hinv
    obtain ⟨hpromised, hrest⟩ := h s₁ hrely hinv
    exact ⟨hpromised, fun r s₂ heffect hinv₂ => ih r (hrest r s₂ heffect hinv₂)⟩

theorem holds_pure {a : α} {Q : α → σ → Prop}
    (h : ∀ s', K.rely i s s' → K.invariant s' → Q a s') :
    (pure a : Process C R α).Holds K i Q s := h

/-- A sequence keeps its promises when its parts do. -/
theorem holds_bind {p : Process C R α} {f : α → Process C R β} {P : α → σ → Prop}
    {Q : β → σ → Prop} (hp : p.Holds K i P s)
    (hf : ∀ a s', K.invariant s' → P a s' → (f a).Holds K i Q s') : (p >>= f).Holds K i Q s := by
  induction p generalizing s with
  | ret a => exact holds_of_forall fun s' hrely hinv => hf a s' hinv (hp s' hrely hinv)
  | call c k ih =>
    intro s₁ hrely hinv
    obtain ⟨hpromised, hrest⟩ := hp s₁ hrely hinv
    exact ⟨hpromised, fun r s₂ heffect hinv₂ => ih r (hrest r s₂ heffect hinv₂)⟩

/-- What holds of a result goes on to hold of it. -/
theorem Holds.later {p : Process C R α} {Q : α → σ → Prop} (h : p.Holds K i Q s) :
    p.Holds K i (fun a s' => ∀ s'', K.rely i s' s'' → K.invariant s'' → Q a s'') s := by
  induction p generalizing s with
  | ret a =>
    exact fun s' hrely _ s'' hrely' => h s'' (K.rely_trans i s s' s'' hrely hrely')
  | call c k ih =>
    intro s₁ hrely hinv
    obtain ⟨hpromised, hrest⟩ := h s₁ hrely hinv
    exact ⟨hpromised, fun r s₂ heffect hinv₂ => ih r (hrest r s₂ heffect hinv₂)⟩

/-- Programs that can fail: a sequence stops at the first failure. -/
theorem holds_bindExcept {p : ExceptT ε (Process C R) α} {f : α → ExceptT ε (Process C R) β}
    {P : Except ε α → σ → Prop} {Q : Except ε β → σ → Prop} (hp : Holds K i P p.run s)
    (hok : ∀ a s', K.invariant s' → P (.ok a) s' → Holds K i Q (f a).run s')
    (herror : ∀ e s', K.invariant s' → P (.error e) s' → Q (.error e) s') :
    Holds K i Q (p >>= f).run s := by
  refine holds_bind hp.later fun result s' hinv hresult => ?_
  cases result with
  | ok a => exact hok a s' hinv (hresult s' (K.rely_refl i s') hinv)
  | error e => exact fun s'' hrely hinv' => herror e s'' hinv' (hresult s'' hrely hinv')

/-- One call, whose postcondition holds however the others go on. -/
theorem holds_perform {c : C} {Q : R c → σ → Prop}
    (h : ∀ s₁, K.rely i s s₁ → K.invariant s₁ → K.promised i s₁ c ∧
      ∀ r s₂, K.effect i s₁ c r s₂ → K.invariant s₂ → ∀ s₃, K.rely i s₂ s₃ → Q r s₃) :
    (perform c).Holds K i Q s := by
  intro s₁ hrely hinv
  obtain ⟨hpromised, hrest⟩ := h s₁ hrely hinv
  exact ⟨hpromised, fun r s₂ heffect hinv₂ s₃ hrely₃ _ => hrest r s₂ heffect hinv₂ s₃ hrely₃⟩

/-- What all calls and the others keep relates the states before and after a program. -/
theorem Holds.along {p : Process C R α} {Q : α → σ → Prop} {G : σ → σ → Prop}
    (htrans : ∀ s s' s'', G s s' → G s' s'' → G s s'') (hrely : ∀ s s', K.rely i s s' → G s s')
    (heffect : ∀ s c r s', K.invariant s → K.promised i s c → K.effect i s c r s' → G s s')
    (h : p.Holds K i Q s) : p.Holds K i (fun a s' => G s s' ∧ Q a s') s := by
  induction p generalizing s with
  | ret a => exact fun s' hs hinv => ⟨hrely s s' hs, h s' hs hinv⟩
  | call c k ih =>
    intro s₁ hs hinv
    obtain ⟨hpromised, hrest⟩ := h s₁ hs hinv
    refine ⟨hpromised, fun r s₂ hr hinv₂ => (ih r (hrest r s₂ hr hinv₂)).weaken ?_⟩
    rintro a s' - ⟨hafter, hpost⟩
    have hbefore : G s s₂ := htrans s s₁ s₂ (hrely s s₁ hs) (heffect s₁ c r s₂ hinv hpromised hr)
    exact ⟨htrans s s₂ s' hbefore hafter, hpost⟩

/-! ## Programs that change nothing -/

/-- The program changes nothing, and its result satisfies `P`. -/
def Quiet (K : Sharing ι σ C R) (i : ι) (P : α → Prop) (p : Process C R α) : Prop :=
  ∀ s (Q : α → σ → Prop), (∀ a, P a → (pure a : Process C R α).Holds K i Q s) → p.Holds K i Q s

theorem quiet_pure {P : α → Prop} {a : α} (h : P a) : (pure a : Process C R α).Quiet K i P :=
  fun _ _ hpost => hpost a h

theorem Quiet.weaken {P P' : α → Prop} {p : Process C R α} (h : p.Quiet K i P)
    (himp : ∀ a, P a → P' a) : p.Quiet K i P' :=
  fun s Q hpost => h s Q fun a ha => hpost a (himp a ha)

/-- A program after one that changes nothing finds what that one has found. -/
theorem Quiet.holds_bind {P : α → Prop} {p : Process C R α} {f : α → Process C R β}
    {Q : β → σ → Prop} (hp : p.Quiet K i P) (hf : ∀ a, P a → (f a).Holds K i Q s) :
    (p >>= f).Holds K i Q s := by
  refine Process.holds_bind (P := fun a s' => P a ∧ K.rely i s s') (hp s _ fun a ha => ?_) ?_
  · exact fun s' hrely _ => ⟨ha, hrely⟩
  · rintro a s' - ⟨ha, hrely⟩
    exact (hf a ha).rely hrely

theorem quiet_bind {P : α → Prop} {P' : β → Prop} {p : Process C R α} {f : α → Process C R β}
    (hp : p.Quiet K i P) (hf : ∀ a, P a → (f a).Quiet K i P') : (p >>= f).Quiet K i P' :=
  fun s Q hpost => hp.holds_bind fun a ha => hf a ha s Q hpost

/-- A call that has no effect and needs no promise. -/
theorem quiet_perform {c : C} {P : R c → Prop} (hpromised : ∀ s, K.invariant s → K.promised i s c)
    (heffect : ∀ s r s', K.effect i s c r s' → s' = s ∧ P r) : (perform c).Quiet K i P := by
  intro s Q hpost s₁ hrely hinv
  refine ⟨hpromised s₁ hinv, fun r s₂ hr _ => ?_⟩
  obtain ⟨rfl, hP⟩ := heffect s₁ r s₂ hr
  exact (hpost r hP).rely hrely

end Process

/-! ## Interleavings -/

/-- The shared state, and what is left of the programs of the threads. -/
structure Threads (ι σ C : Type u) (R : C → Type u) (α : Type u) where
  shared : σ
  program : ι → Option (Process C R α)

/-- A step of a thread. -/
inductive ThreadStep (ι C : Type u) (R : C → Type u) where
  /-- The thread starts with a program. -/
  | start (i : ι)
  /-- The thread makes its next call. -/
  | call (i : ι) (event : CallEvent C R)
  /-- The thread is at its end. -/
  | finish (i : ι)
  /-- The thread crashes. -/
  | crash (i : ι)
  /-- Something else happens. -/
  | other

/-- How threads start and end, and what happens beside them. -/
structure ThreadLife (ι σ C : Type u) (R : C → Type u) (α : Type u) where
  init : σ → Prop
  /-- `start i s p s'`: the thread `i` can start with the program `p`. -/
  start : ι → σ → Process C R α → σ → Prop
  /-- `finish i a s s'`: the thread `i` is gone after its result `a`. -/
  finish : ι → α → σ → σ → Prop
  /-- `crash i s s'`: the thread `i` is gone without a result. -/
  crash : ι → σ → σ → Prop
  other : σ → σ → Prop

namespace Sharing

variable {ι σ C : Type u} {R : C → Type u} {α : Type u} [DecidableEq ι]

/-- The interleavings of threads. -/
inductive Step (effect : ι → Surroundings σ C R) (life : ThreadLife ι σ C R α) :
    Threads ι σ C R α → ThreadStep ι C R → Threads ι σ C R α → Prop where
  | start {t : Threads ι σ C R α} {i : ι} {p : Process C R α} {s : σ} :
      t.program i = none → life.start i t.shared p s →
      Step effect life t (.start i) ⟨s, Function.update t.program i (some p)⟩
  | call {t : Threads ι σ C R α} {i : ι} {event : CallEvent C R}
      {k : R event.call → Process C R α} {s : σ} :
      t.program i = some (.call event.call k) → effect i t.shared event.call event.reply s →
      Step effect life t (.call i event) ⟨s, Function.update t.program i (some (k event.reply))⟩
  | finish {t : Threads ι σ C R α} {i : ι} {a : α} {s : σ} :
      t.program i = some (.ret a) → life.finish i a t.shared s →
      Step effect life t (.finish i) ⟨s, Function.update t.program i none⟩
  | crash {t : Threads ι σ C R α} {i : ι} {p : Process C R α} {s : σ} :
      t.program i = some p → life.crash i t.shared s →
      Step effect life t (.crash i) ⟨s, Function.update t.program i none⟩
  | other {t : Threads ι σ C R α} {s : σ} : life.other t.shared s →
      Step effect life t .other ⟨s, t.program⟩

/-- The runs of threads that start with none. -/
def system (effect : ι → Surroundings σ C R) (life : ThreadLife ι σ C R α) :
    LabelledSystem (Threads ι σ C R α) (ThreadStep ι C R) where
  init t := life.init t.shared ∧ ∀ i, t.program i = none
  step := Step effect life

/-- What a thread does leaves the invariant and what the others rely on. -/
def Leaves (K : Sharing ι σ C R) (i : ι) (s s' : σ) : Prop :=
  K.invariant s' ∧ ∀ j, j ≠ i → K.rely j s s'

/-- The conditions for the parallel composition. -/
structure Sound (K : Sharing ι σ C R) (life : ThreadLife ι σ C R α) (alive : ι → σ → Prop)
    (Q : ι → α → σ → Prop) : Prop where
  init : ∀ s, life.init s → K.invariant s
  start : ∀ i s p s', K.invariant s → life.start i s p s' →
    K.Leaves i s s' ∧ alive i s' ∧ p.Holds K i (Q i) s'
  call : ∀ i s c r s', K.invariant s → alive i s → K.promised i s c → K.effect i s c r s' →
    K.Leaves i s s' ∧ alive i s'
  finish : ∀ i a s s', K.invariant s → alive i s → Q i a s → life.finish i a s s' → K.Leaves i s s'
  crash : ∀ i s s', K.invariant s → alive i s → life.crash i s s' → K.Leaves i s s'
  other : ∀ s s', K.invariant s → life.other s s' → K.invariant s' ∧ ∀ i, K.rely i s s'
  /-- A thread that is alive is so until its own end. -/
  alive : ∀ i s s', K.rely i s s' → alive i s → alive i s'

/-- What holds of the shared state and of every thread. -/
def Sound.All (K : Sharing ι σ C R) (alive : ι → σ → Prop) (Q : ι → α → σ → Prop)
    (t : Threads ι σ C R α) : Prop :=
  K.invariant t.shared ∧
    ∀ i p, t.program i = some p → alive i t.shared ∧ p.Holds K i (Q i) t.shared

variable {K : Sharing ι σ C R} {life : ThreadLife ι σ C R α} {alive : ι → σ → Prop}
  {Q : ι → α → σ → Prop}

/-- The threads after a step of one of them. -/
theorem Sound.All.update (hsound : K.Sound life alive Q) {t : Threads ι σ C R α} {i : ι} {s : σ}
    {next : Option (Process C R α)} (h : Sound.All K alive Q t) (hleaves : K.Leaves i t.shared s)
    (hnext : ∀ p, next = some p → alive i s ∧ p.Holds K i (Q i) s) :
    Sound.All K alive Q ⟨s, Function.update t.program i next⟩ := by
  refine ⟨hleaves.1, fun j p hp => ?_⟩
  change Function.update t.program i next j = some p at hp
  by_cases hj : j = i
  · subst hj
    rw [Function.update_self] at hp
    exact hnext p hp
  · rw [Function.update_of_ne hj] at hp
    have hrely : K.rely j t.shared s := hleaves.2 j hj
    obtain ⟨halive, hholds⟩ := h.2 j p hp
    exact ⟨hsound.alive j t.shared s hrely halive, hholds.rely hrely⟩

theorem Sound.All.step (hsound : K.Sound life alive Q) {t t' : Threads ι σ C R α}
    {label : ThreadStep ι C R} (h : Sound.All K alive Q t) (hstep : Step K.effect life t label t') :
    Sound.All K alive Q t' := by
  cases hstep with
  | @start i p s _ hstart =>
    obtain ⟨hleaves, halive, hholds⟩ := hsound.start i t.shared p s h.1 hstart
    refine h.update hsound hleaves fun p' hp' => ?_
    obtain rfl := Option.some.inj hp'
    exact ⟨halive, hholds⟩
  | @call i event k s hprogram heffect =>
    obtain ⟨halive, hholds⟩ := h.2 i _ hprogram
    obtain ⟨hpromised, hrest⟩ := hholds t.shared (K.rely_refl i _) h.1
    obtain ⟨hleaves, halive'⟩ := hsound.call i _ _ _ s h.1 halive hpromised heffect
    refine h.update hsound hleaves fun p' hp' => ?_
    obtain rfl := Option.some.inj hp'
    exact ⟨halive', hrest event.reply s heffect hleaves.1⟩
  | @finish i a s hprogram hfinish =>
    obtain ⟨halive, hholds⟩ := h.2 i _ hprogram
    have hpost : Q i a t.shared := hholds t.shared (K.rely_refl i _) h.1
    have hleaves := hsound.finish i a t.shared s h.1 halive hpost hfinish
    exact h.update hsound hleaves fun p' hp' => by cases hp'
  | @crash i p s hprogram hcrash =>
    have hleaves := hsound.crash i t.shared s h.1 (h.2 i p hprogram).1 hcrash
    exact h.update hsound hleaves fun p' hp' => by cases hp'
  | @other s hother =>
    obtain ⟨hinv, hrely⟩ := hsound.other t.shared s h.1 hother
    refine ⟨hinv, fun i p hp => ?_⟩
    obtain ⟨halive, hholds⟩ := h.2 i p hp
    exact ⟨hsound.alive i _ _ (hrely i) halive, hholds.rely (hrely i)⟩

/-- The rule for parallel composition: in every interleaving the invariant holds and every thread
keeps its promises. -/
theorem Sound.reachable (hsound : K.Sound life alive Q) {t : Threads ι σ C R α}
    (h : (system K.effect life).Reachable t) : Sound.All K alive Q t := by
  refine h.invariant (P := Sound.All K alive Q) ?_ fun t label t' ht hstep => ht.step hsound hstep
  rintro t ⟨hinit, hnone⟩
  refine ⟨hsound.init t.shared hinit, fun i p hp => ?_⟩
  rw [hnone i] at hp
  cases hp

/-- What a thread promises of the call that it is about to make. -/
theorem Sound.promised (hsound : K.Sound life alive Q) {t : Threads ι σ C R α}
    (h : (system K.effect life).Reachable t) {i : ι} {c : C} {k : R c → Process C R α}
    (hprogram : t.program i = some (.call c k)) : K.promised i t.shared c := by
  obtain ⟨hinv, hthreads⟩ := hsound.reachable h
  exact ((hthreads i _ hprogram).2 t.shared (K.rely_refl i _) hinv).1

/-- What holds of the result of a thread. -/
theorem Sound.returned (hsound : K.Sound life alive Q) {t : Threads ι σ C R α}
    (h : (system K.effect life).Reachable t) {i : ι} {a : α}
    (hprogram : t.program i = some (.ret a)) : Q i a t.shared := by
  obtain ⟨hinv, hthreads⟩ := hsound.reachable h
  exact (hthreads i _ hprogram).2 t.shared (K.rely_refl i _) hinv

end Sharing
