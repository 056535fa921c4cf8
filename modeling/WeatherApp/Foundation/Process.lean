import Mathlib.Tactic

/-!
# Programs that call their environment

A `Process` is a sequential program that calls its environment and continues with the reply. What
a program does depends on its environment only through the replies, so one text is the program of
a caller in every interleaving with others.

A `Contract` says what a program promises of the calls it makes and what the environment promises
of the replies, in a shared state that others change meanwhile (`rely`). `Process.Keeps` says that
a program keeps its promises as long as the environment does, and that its result satisfies a
postcondition.

`Process.Reaches` is the execution of a program up to some call, for replies that can be anything.

## Main definitions

* `Process`: programs, a monad.
* `Contract`, `Process.Keeps`: promises of calls and replies in a changing shared state.
* `Process.Reaches`: the calls made so far, and the rest of the program.
* `Process.Always`: what holds of the calls and the result, whatever the replies are.

## Main results

* `keeps_bind`, `keeps_bindExcept`: the rules for sequencing.
* `Process.Keeps.rely`: what others do does not break a program's promises.
* `Process.Keeps.weaken`: the rule of consequence.
* `Process.Reaches.bind_cases`: an execution of a sequence is one of its first part, or one of both.
* `Process.Always.keeps`: what always holds is kept under any contract.
-/

universe u

/-- A program with results in `α` whose calls `c : C` are replied to in `R c`. -/
inductive Process (C : Type u) (R : C → Type u) (α : Type u) where
  | ret (a : α)
  | call (c : C) (k : R c → Process C R α)

/-- A call with its reply. -/
structure CallEvent (C : Type u) (R : C → Type u) where
  call : C
  reply : R call

namespace Process

variable {C : Type u} {R : C → Type u} {α β : Type u}

/-- Run a program, then the one that its result selects. -/
def bind : Process C R α → (α → Process C R β) → Process C R β
  | ret a, f => f a
  | call c k, f => call c fun r => (k r).bind f

instance : Monad (Process C R) where
  pure := ret
  bind := bind

/-- The program that makes one call. -/
def perform (c : C) : Process C R (R c) := call c ret

theorem bind_assoc {γ : Type u} (p : Process C R α) (f : α → Process C R β)
    (g : β → Process C R γ) : p >>= f >>= g = p >>= fun a => f a >>= g := by
  induction p with
  | ret a => rfl
  | call c k ih => exact congrArg (call c) (funext ih)

end Process

/-- What programs and their environment promise each other in a shared state. -/
structure Contract (σ : Type u) (C : Type u) (R : C → Type u) where
  /-- How the shared state can change between two calls of a program. -/
  rely : σ → σ → Prop
  rely_refl : ∀ s, rely s s
  rely_trans : ∀ s s' s'', rely s s' → rely s' s'' → rely s s''
  /-- What a program promises of a call, after the calls and replies so far. -/
  promised : σ → List (CallEvent C R) → C → Prop
  promised_rely : ∀ s s' events c, rely s s' → promised s events c → promised s' events c
  /-- What the environment promises of the reply to a call, in the state after it. -/
  answered : σ → (c : C) → R c → Prop

namespace Process

variable {σ C : Type u} {R : C → Type u} {α β ε : Type u} {K : Contract σ C R}
  {P : σ → List (CallEvent C R) → α → Prop} {Q : σ → List (CallEvent C R) → β → Prop}
  {s s' : σ} {events : List (CallEvent C R)}

/-- As long as the environment keeps its promises, the program keeps its own and its result
satisfies the postcondition. -/
def Keeps (K : Contract σ C R) (P : σ → List (CallEvent C R) → α → Prop) :
    Process C R α → σ → List (CallEvent C R) → Prop
  | ret a, s, events => P s events a
  | call c k, s, events => K.promised s events c ∧ ∀ s' r, K.rely s s' → K.answered s' c r →
      (k r).Keeps K P s' (events ++ [⟨c, r⟩])

theorem keeps_pure {a : α} (h : P s events a) : (pure a : Process C R α).Keeps K P s events := h

theorem keeps_call {c : C} {k : R c → Process C R α} (hpromised : K.promised s events c)
    (hrest : ∀ s' r, K.rely s s' → K.answered s' c r →
      (k r).Keeps K P s' (events ++ [⟨c, r⟩])) : (call c k).Keeps K P s events :=
  ⟨hpromised, hrest⟩

/-- The rule of consequence. -/
theorem Keeps.weaken {p : Process C R α} {P' : σ → List (CallEvent C R) → α → Prop}
    (h : p.Keeps K P s events)
    (hpost : ∀ s' events' a, K.rely s s' → P s' events' a → P' s' events' a) :
    p.Keeps K P' s events := by
  induction p generalizing s events with
  | ret a => exact hpost s events a (K.rely_refl s) h
  | call c k ih =>
    refine ⟨h.1, fun s' r hrely hanswered => ih r (h.2 s' r hrely hanswered) ?_⟩
    intro s'' events' a hrely'
    exact hpost s'' events' a (K.rely_trans _ _ _ hrely hrely')

/-- What others do does not break the promises of a program. -/
theorem Keeps.rely {p : Process C R α}
    (hpost : ∀ s s' events a, K.rely s s' → P s events a → P s' events a)
    (h : p.Keeps K P s events) (hrely : K.rely s s') : p.Keeps K P s' events := by
  cases p with
  | ret a => exact hpost s s' events a hrely h
  | call c k =>
    exact ⟨K.promised_rely s s' events c hrely h.1, fun s'' r hrely' =>
      h.2 s'' r (K.rely_trans _ _ _ hrely hrely')⟩

/-- The calls of a program are recorded after those made before. -/
theorem Keeps.recorded {p : Process C R α} (h : p.Keeps K P s events) :
    p.Keeps K (fun s' events' a => P s' events' a ∧ events <+: events') s events := by
  induction p generalizing s events with
  | ret a => exact ⟨h, List.prefix_rfl⟩
  | call c k ih =>
    refine ⟨h.1, fun s' r hrely hanswered => ?_⟩
    refine (ih r (h.2 s' r hrely hanswered)).weaken fun s'' events' a _ hpost => ?_
    exact ⟨hpost.1, (List.prefix_append _ _).trans hpost.2⟩

/-- A sequence keeps its promises when its parts do. -/
theorem keeps_bind {p : Process C R α} {f : α → Process C R β} (hp : p.Keeps K P s events)
    (hf : ∀ s' events' a, K.rely s s' → P s' events' a → (f a).Keeps K Q s' events') :
    (p >>= f).Keeps K Q s events := by
  induction p generalizing s events with
  | ret a => exact hf s events a (K.rely_refl s) hp
  | call c k ih =>
    refine ⟨hp.1, fun s' r hrely hanswered => ih r (hp.2 s' r hrely hanswered) ?_⟩
    intro s'' events' a hrely'
    exact hf s'' events' a (K.rely_trans _ _ _ hrely hrely')

/-- One call followed by a program. -/
theorem keeps_perform {c : C} {f : R c → Process C R β} (hpromised : K.promised s events c)
    (hrest : ∀ s' r, K.rely s s' → K.answered s' c r →
      (f r).Keeps K Q s' (events ++ [⟨c, r⟩])) : (perform c >>= f).Keeps K Q s events :=
  ⟨hpromised, hrest⟩

/-- Programs that can fail: a sequence stops at the first failure. -/
theorem keeps_bindExcept {p : ExceptT ε (Process C R) α} {f : α → ExceptT ε (Process C R) β}
    {P : σ → List (CallEvent C R) → Except ε α → Prop}
    {Q : σ → List (CallEvent C R) → Except ε β → Prop}
    (hp : Keeps K P p.run s events)
    (hok : ∀ s' events' a, K.rely s s' → P s' events' (.ok a) →
      Keeps K Q (f a).run s' events')
    (herror : ∀ s' events' e, K.rely s s' → P s' events' (.error e) → Q s' events' (.error e)) :
    Keeps K Q (p >>= f).run s events := by
  refine keeps_bind hp fun s' events' result hrely hresult => ?_
  cases result with
  | ok a => exact hok s' events' a hrely hresult
  | error e => exact herror s' events' e hrely hresult

/-! ## Executions -/

/-- After these calls and replies, `q` is the rest of the program. -/
inductive Reaches : Process C R α → List (CallEvent C R) → Process C R α → Prop where
  | refl (p : Process C R α) : Reaches p [] p
  | next {c : C} {k : R c → Process C R α} {rest : List (CallEvent C R)} {q : Process C R α}
      (r : R c) (h : Reaches (k r) rest q) : Reaches (call c k) (⟨c, r⟩ :: rest) q

theorem reaches_ret {a : α} {q : Process C R α} :
    Reaches (ret a) events q ↔ events = [] ∧ q = ret a := by
  constructor
  · intro h
    cases h with
    | refl => exact ⟨rfl, rfl⟩
  · rintro ⟨rfl, rfl⟩
    exact .refl _

theorem reaches_call {c : C} {k : R c → Process C R α} {q : Process C R α} :
    Reaches (call c k) events q ↔
      (events = [] ∧ q = call c k) ∨
        ∃ r rest, events = ⟨c, r⟩ :: rest ∧ Reaches (k r) rest q := by
  constructor
  · intro h
    cases h with
    | refl => exact Or.inl ⟨rfl, rfl⟩
    | next r h => exact Or.inr ⟨r, _, rfl, h⟩
  · rintro (⟨rfl, rfl⟩ | ⟨r, rest, rfl, h⟩)
    · exact .refl _
    · exact .next r h

/-- The replies determine the execution. -/
theorem Reaches.continues {p q q' : Process C R α} {more : List (CallEvent C R)}
    (h : Reaches p events q) (h' : Reaches p (events ++ more) q') : Reaches q more q' := by
  induction h with
  | refl => exact h'
  | next r _ ih =>
    obtain ⟨hnil, -⟩ | ⟨r', rest, heq, hrest⟩ := reaches_call.1 h'
    · cases hnil
    · obtain ⟨hevent, rfl⟩ := List.cons.inj heq
      cases hevent
      exact ih hrest

/-- A program returns at one point of its execution. -/
theorem Reaches.returned_unique {p : Process C R α} {before before' all : List (CallEvent C R)}
    {a a' : α} (h : Reaches p before (ret a)) (h' : Reaches p before' (ret a'))
    (hbefore : before <+: all) (hbefore' : before' <+: all) : a = a' := by
  obtain ⟨more, rfl⟩ | ⟨more, rfl⟩ := List.prefix_or_prefix_of_prefix hbefore hbefore'
  · obtain ⟨-, heq⟩ := reaches_ret.1 (h.continues h')
    cases heq
    rfl
  · obtain ⟨-, heq⟩ := reaches_ret.1 (h'.continues h)
    cases heq
    rfl

/-- An execution of a sequence is still in its first part, or the first part has returned. -/
theorem Reaches.bind_cases {p : Process C R α} {f : α → Process C R β} {q : Process C R β}
    (h : Reaches (p >>= f) events q) :
    (∃ c k, Reaches p events (call c k) ∧ q = call c fun r => k r >>= f) ∨
      ∃ before after a, events = before ++ after ∧ Reaches p before (ret a) ∧
        Reaches (f a) after q := by
  induction p generalizing events with
  | ret a => exact Or.inr ⟨[], events, a, rfl, .refl _, h⟩
  | call c k ih =>
    obtain ⟨rfl, rfl⟩ | ⟨r, rest, rfl, hrest⟩ := reaches_call.1 h
    · exact Or.inl ⟨c, k, .refl _, rfl⟩
    · -- the reply selects the rest of the first part
      obtain ⟨c', k', hreach, rfl⟩ | ⟨before, after, a, rfl, hreach, hafter⟩ := ih r hrest
      · exact Or.inl ⟨c', k', .next r hreach, rfl⟩
      · exact Or.inr ⟨⟨c, r⟩ :: before, after, a, rfl, .next r hreach, hafter⟩

/-! ## Whatever the replies are -/

/-- Every call satisfies `I` and every result `Q`, whatever the replies are. -/
def Always (I : C → Prop) (Q : α → Prop) : Process C R α → Prop
  | ret a => Q a
  | call c k => I c ∧ ∀ r, (k r).Always I Q

variable {I : C → Prop}

/-- The rule of consequence. -/
theorem Always.weaken {p : Process C R α} {I' : C → Prop} {Q Q' : α → Prop} (h : p.Always I Q)
    (hcalls : ∀ c, I c → I' c) (hpost : ∀ a, Q a → Q' a) : p.Always I' Q' := by
  induction p with
  | ret a => exact hpost a h
  | call c k ih => exact ⟨hcalls c h.1, fun r => ih r (h.2 r)⟩

theorem always_bind {p : Process C R α} {f : α → Process C R β} {Q : α → Prop} {Q' : β → Prop}
    (hp : p.Always I Q) (hf : ∀ a, Q a → (f a).Always I Q') : (p >>= f).Always I Q' := by
  induction p with
  | ret a => exact hf a hp
  | call c k ih => exact ⟨hp.1, fun r => ih r (hp.2 r)⟩

/-- Programs that can fail. -/
theorem always_bindExcept {p : ExceptT ε (Process C R) α} {f : α → ExceptT ε (Process C R) β}
    {Q : Except ε α → Prop} {Q' : Except ε β → Prop} (hp : Always I Q p.run)
    (hok : ∀ a, Q (.ok a) → Always I Q' (f a).run)
    (herror : ∀ e, Q (.error e) → Q' (.error e)) : Always I Q' (p >>= f).run := by
  refine always_bind hp fun result hresult => ?_
  cases result with
  | ok a => exact hok a hresult
  | error e => exact herror e hresult

/-- The calls of an execution, and what is left of the program. -/
theorem Always.reaches {p q : Process C R α} {Q : α → Prop} (h : p.Always I Q)
    (hreach : Reaches p events q) : (∀ event ∈ events, I event.call) ∧ q.Always I Q := by
  induction hreach with
  | refl => exact ⟨fun event hmem => absurd hmem List.not_mem_nil, h⟩
  | next r _ ih =>
    obtain ⟨hcalls, hrest⟩ := ih (h.2 r)
    refine ⟨fun event hmem => ?_, hrest⟩
    obtain rfl | hmem := List.mem_cons.1 hmem
    · exact h.1
    · exact hcalls event hmem

/-- What always holds is kept under a contract that promises no more. -/
theorem Always.keeps {p : Process C R α} {Q : α → Prop} (h : p.Always I Q)
    (hpromised : ∀ s events c, I c → K.promised s events c) :
    p.Keeps K (fun _ _ a => Q a) s events := by
  induction p generalizing s events with
  | ret a => exact h
  | call c k ih => exact ⟨hpromised s events c h.1, fun s' r _ _ => ih r (h.2 r)⟩

end Process
