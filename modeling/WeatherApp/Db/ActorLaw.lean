import WeatherApp.Db.Actor

/-!
# The protocol of the database actor

Any number of callers put commands on the channel and ask for shutdown, are cancelled where they
await, handles are cloned and dropped, and the worker works, in any order.

## Main definitions

* `WorkInv`: what holds of the channel and its worker.
* `ActorInv`: the invariant of all runs.

## Main results

* `actor_protocol`: what holds in every state reached.
-/

namespace WeatherApp

variable {δ ρ : Type}

/-! ## The worker -/

/-- The first post-commit failure of the answers. -/
def firstFailure (answers : List (Answer ρ)) : Option String :=
  (answers.filterMap Answer.failure).head?

/-- What an answer is after answers whose first failure is `first`: the command was executed, or it
was rejected with that failure. -/
def AnswerLaw (first : Option String) (answer : Answer ρ) : Prop :=
  match first with
  | none => answer.executed = true ∧
      ∀ message, answer.failure = some message → answer.reply = .error message
  | some message =>
    answer.executed = false ∧ answer.failure = none ∧ answer.reply = .error message

/-- The number of the command that the worker has in hand. -/
def WorkerPhase.hand : WorkerPhase δ ρ → List ℕ
  | handling number _ => [number]
  | _ => []

/-- The failure that the worker has reported and does not keep yet. -/
def WorkerPhase.failing : WorkerPhase δ ρ → Option String
  | latching message => some message
  | poisoning message => some message
  | _ => none

/-- The commands are answered in queue order, and the failure that is kept is the first one. -/
structure WorkInv (w : ActorWork δ ρ) : Prop where
  numbered : w.answers.map Answer.number ++ (w.worker.hand ++ w.queue.map Prod.fst) =
    List.range w.queued
  first : firstFailure w.answers = w.worker.failing.or w.rejecting
  latched : ∀ message, w.poison = some message → firstFailure w.answers = some message
  poisoning : ∀ message, w.worker = .poisoning message → w.poison = some message
  lawful : ∀ before answer after, w.answers = before ++ answer :: after →
    AnswerLaw (firstFailure before) answer

theorem firstFailure_append (answers : List (Answer ρ)) (answer : Answer ρ) :
    firstFailure (answers ++ [answer]) = (firstFailure answers).or answer.failure := by
  rw [firstFailure, firstFailure, List.filterMap_append, List.head?_append]
  cases hfailure : answer.failure <;> simp [hfailure]

/-- The first failure stays the first. -/
theorem firstFailure_append_of_some {answers : List (Answer ρ)} {message : String}
    (h : firstFailure answers = some message) (more : List (Answer ρ)) :
    firstFailure (answers ++ more) = some message := by
  rw [firstFailure, List.filterMap_append, List.head?_append]
  rw [firstFailure] at h
  rw [h, Option.some_or]

/-- A law of all answers and the ones before them holds after one more that obeys it. -/
theorem answerLaw_append {answers : List (Answer ρ)} {answer : Answer ρ}
    (hlawful : ∀ before other after, answers = before ++ other :: after →
      AnswerLaw (firstFailure before) other)
    (hanswer : AnswerLaw (firstFailure answers) answer) :
    ∀ before other after, answers ++ [answer] = before ++ other :: after →
      AnswerLaw (firstFailure before) other := by
  intro before other after h
  rcases List.eq_nil_or_concat after with rfl | ⟨rest, last, rfl⟩
  · obtain ⟨rfl, hsame⟩ := List.append_inj' h rfl
    cases hsame
    exact hanswer
  · rw [List.concat_eq_append, ← List.cons_append, ← List.append_assoc] at h
    exact hlawful before other rest (List.append_inj' h rfl).1

/-- A command with a post-commit failure is answered with it. -/
theorem reply_of_failure {command : DbCommand δ ρ} {db : δ} {message : String}
    (h : (command.handle db).failure = some message) :
    (command.handle db).reply = .error message := by
  cases command with
  | operation run => cases h
  | migrateTimezoneBundle migrateTimezone finalize clearPendingTimezone =>
    simp only [DbCommand.handle] at h ⊢
    split at h
    · cases h
    · split at h
      · exact congrArg Except.error (Option.some.inj h)
      · cases h

theorem workInv_start (db : δ) : WorkInv (ActorRun.start (ρ := ρ) db).work where
  numbered := rfl
  first := rfl
  latched _ h := nomatch h
  poisoning _ h := nomatch h
  lawful before answer after h := absurd h (by simp [ActorRun.start])

variable {w w' : ActorWork δ ρ}

theorem WorkInv.enqueue (hinv : WorkInv w) (command : DbCommand δ ρ) :
    WorkInv (w.enqueue command) := by
  refine ⟨?_, hinv.first, hinv.latched, hinv.poisoning, hinv.lawful⟩
  have hnumbered := hinv.numbered
  simp only [ActorWork.enqueue, List.map_append, List.map_cons, List.map_nil, List.range_succ,
    ← hnumbered, List.append_assoc]

theorem WorkInv.step (hinv : WorkInv w) (h : w.step = some w') : WorkInv w' := by
  have hnumbered := hinv.numbered
  have hfirst := hinv.first
  rw [ActorWork.step] at h
  split at h
  next hworker =>
    rw [hworker] at hnumbered hfirst
    split at h
    next number command rest hqueue =>
      cases h
      rw [hqueue] at hnumbered
      exact ⟨hnumbered, hfirst, hinv.latched, fun _ h => (nomatch h), hinv.lawful⟩
    next => cases h
  next number command hworker =>
    rw [hworker] at hnumbered hfirst
    split at h
    next message hrejecting =>
      cases h
      rw [hrejecting] at hfirst
      have hsame : firstFailure w.answers = some message := hfirst
      refine ⟨?_, ?_, fun other hother => ?_, fun _ h => (nomatch h), ?_⟩
      · rw [← hnumbered]
        simp [WorkerPhase.hand]
      · rw [firstFailure_append_of_some hsame]
        exact hrejecting.symm
      · exact firstFailure_append_of_some (hinv.latched other hother) _
      · refine answerLaw_append hinv.lawful ?_
        rw [hsame]
        exact ⟨rfl, rfl, rfl⟩
    next hrejecting =>
      cases h
      rw [hrejecting] at hfirst
      have hnone : firstFailure w.answers = none := hfirst
      refine ⟨?_, ?_, fun other hother => ?_, fun other hother => ?_, ?_⟩
      · rw [← hnumbered]
        cases (command.handle w.db).failure <;> simp [WorkerPhase.hand]
      · rw [firstFailure_append, hnone, hrejecting]
        cases (command.handle w.db).failure <;> rfl
      · exact firstFailure_append_of_some (hinv.latched other hother) _
      · cases hfailure : (command.handle w.db).failure with
        | none =>
          simp only [hfailure, Option.elim_none] at hother
          cases hother
        | some message =>
          simp only [hfailure, Option.elim_some] at hother
          cases hother
      · refine answerLaw_append hinv.lawful ?_
        rw [hnone]
        exact ⟨rfl, fun message hmessage => reply_of_failure hmessage⟩
  next message hworker =>
    cases h
    rw [hworker] at hnumbered hfirst
    have hsame : firstFailure w.answers = some message := hfirst
    have hstable : w.poison.getD message = message := by
      cases hpoison : w.poison with
      | none => rfl
      | some other =>
        have hother := hinv.latched other hpoison
        rw [hsame] at hother
        exact (Option.some.inj hother).symm
    rw [hstable]
    refine ⟨hnumbered, hsame, fun other hother => ?_, fun other hother => ?_, hinv.lawful⟩
    · cases hother
      exact hsame
    · cases hother
      rfl
  next => cases h

theorem WorkInv.reject (hinv : WorkInv w) {stable : String} (h : w.worker = .poisoning stable) :
    WorkInv (w.reject stable) := by
  have hnumbered := hinv.numbered
  have hfirst := hinv.first
  rw [h] at hnumbered hfirst
  exact ⟨hnumbered, hfirst, hinv.latched, fun _ h => (nomatch h), hinv.lawful⟩

/-- The worker or its reaper moves on, with no command in hand and no failure to keep. -/
theorem WorkInv.setWorker (hinv : WorkInv w) {worker : WorkerPhase δ ρ}
    (hhand : w.worker.hand = []) (hfailing : w.worker.failing = none) (hhand' : worker.hand = [])
    (hfailing' : worker.failing = none) : WorkInv { w with worker } := by
  have hnumbered := hinv.numbered
  have hfirst := hinv.first
  rw [hhand] at hnumbered
  rw [hfailing] at hfirst
  refine ⟨?_, ?_, hinv.latched, fun message h => ?_, hinv.lawful⟩
  · dsimp only
    rw [hhand']
    exact hnumbered
  · dsimp only
    rw [hfailing']
    exact hfirst
  · dsimp only at h
    rw [h] at hfailing'
    cases hfailing'

/-! ## The callers -/

variable {s s' : ActorRun δ ρ} {caller : ℕ} {p : CallerPhase δ ρ}

/-- What is known of a caller in a phase. -/
structure CallerInv (s : ActorRun δ ρ) (caller : ℕ) (p : CallerPhase δ ρ) : Prop where
  gate : p.holdsGate = true ↔ s.gate = some caller
  admitted : p.isAdmitted = true → s.phase.rank ≤ 1
  poisoned : p = .poisoned → s.work.poison.isSome
  closing : ∀ step after, p = .closing step after →
    after ≠ .refuse ∧ (step = .take → 2 ≤ s.phase.rank) ∧
      (∀ expected, step = .exchange expected → expected.rank ≤ 1) ∧
      (after = .dropped ↔ s.handles = 0)
  unowned : s.handles = 0 → ∃ step, p = .closing step .dropped
  number : ∀ number, p = .awaitingReply number → number < s.work.queued

/-- The invariant of all runs. -/
structure ActorInv (s : ActorRun δ ρ) : Prop where
  callers : ∀ caller p, s.callers.get caller = some p → CallerInv s caller p
  held : ∀ caller, s.gate = some caller → (s.callers.get caller).isSome
  tx : s.tx = false → 2 ≤ s.phase.rank
  stopped : s.stopped = true → s.tx = false ∧ s.work.queue = []
  latched : s.phase = .poisoned → s.work.poison.isSome
  work : WorkInv s.work
  terminal : ∀ outcome, s.terminal = some outcome ↔ s.work.worker = .published outcome
  closed : s.phase = .closed ↔
    ∃ outcome, s.work.worker = .closed outcome ∨ s.work.worker = .published outcome
  refused : ∀ error ∈ s.refused,
    error = actorClosedError ∨ firstFailure s.work.answers = some error
  returned : ∀ number reply, (number, reply) ∈ s.returned →
    ∃ answer ∈ s.work.answers, answer.number = number ∧ answer.reply = reply
  outcomes : ∀ outcome ∈ s.outcomes, s.terminal = some outcome

theorem actorInv_start (db : δ) : ActorInv (.start db : ActorRun δ ρ) where
  callers _ _ h := nomatch h
  held _ h := nomatch h
  tx h := nomatch h
  stopped h := nomatch h
  latched h := nomatch h
  work := workInv_start db
  terminal _ := ⟨fun h => (nomatch h), fun h => (nomatch h)⟩
  closed := ⟨fun h => (nomatch h), fun ⟨_, h⟩ => by rcases h with h | h <;> cases h⟩
  refused _ h := nomatch h
  returned _ _ h := nomatch h
  outcomes _ h := nomatch h

/-- The state that callers share without changing it in most of their steps. -/
def ActorRun.SameShared (s s' : ActorRun δ ρ) : Prop :=
  s'.phase = s.phase ∧ s'.tx = s.tx ∧ s'.terminal = s.terminal ∧ s'.work = s.work ∧
    s'.handles = s.handles

/-- A step that changes one caller, and the gate between free and its own. -/
theorem ActorInv.update (hinv : ActorInv s) (caller : ℕ) (hshared : s.SameShared s')
    (hothers : ∀ other, other ≠ caller → s'.callers.get other = s.callers.get other)
    (hgate : ∀ other, other ≠ caller → (s'.gate = some other ↔ s.gate = some other))
    (hself : ∀ p, s'.callers.get caller = some p → CallerInv s' caller p)
    (hheld : s'.gate = some caller → (s'.callers.get caller).isSome)
    (hrefused : ∀ error ∈ s'.refused, error ∈ s.refused ∨ error = actorClosedError ∨
      firstFailure s.work.answers = some error)
    (hreturned : ∀ number reply, (number, reply) ∈ s'.returned → (number, reply) ∈ s.returned ∨
      ∃ answer ∈ s.work.answers, answer.number = number ∧ answer.reply = reply)
    (houtcomes : ∀ outcome ∈ s'.outcomes, outcome ∈ s.outcomes ∨ s.terminal = some outcome) :
    ActorInv s' := by
  obtain ⟨hphase, htx, hterminal, hwork, hhandles⟩ := hshared
  have hstopped : s'.stopped = s.stopped := by rw [ActorRun.stopped, hwork, ActorRun.stopped]
  refine ⟨fun other p hget => ?_, fun other hother => ?_, ?_, ?_, ?_, ?_, ?_, ?_,
    fun error herror => ?_, fun number reply hreply => ?_, fun outcome houtcome => ?_⟩
  · by_cases hother : other = caller
    · subst hother
      exact hself p hget
    · rw [hothers other hother] at hget
      obtain ⟨hgate', hadmitted, hpoisoned, hclosing, hunowned, hnumber⟩ :=
        hinv.callers other p hget
      refine ⟨hgate'.trans (hgate other hother).symm, ?_, ?_, ?_, ?_, ?_⟩
      · rw [hphase]
        exact hadmitted
      · rw [hwork]
        exact hpoisoned
      · rw [hphase, hhandles]
        exact hclosing
      · rw [hhandles]
        exact hunowned
      · rw [hwork]
        exact hnumber
  · by_cases hself' : other = caller
    · subst hself'
      exact hheld hother
    · rw [hothers other hself']
      exact hinv.held other ((hgate other hself').1 hother)
  · rw [htx, hphase]
    exact hinv.tx
  · rw [hstopped, htx, hwork]
    exact hinv.stopped
  · rw [hphase, hwork]
    exact hinv.latched
  · rw [hwork]
    exact hinv.work
  · rw [hterminal, hwork]
    exact hinv.terminal
  · rw [hphase, hwork]
    exact hinv.closed
  · rw [hwork]
    rcases hrefused error herror with hold | hnew
    · exact hinv.refused error hold
    · exact hnew
  · rw [hwork]
    rcases hreturned number reply hreply with hold | hnew
    · exact hinv.returned number reply hold
    · exact hnew
  · rw [hterminal]
    rcases houtcomes outcome houtcome with hold | hnew
    · exact hinv.outcomes outcome hold
    · exact hnew

/-- A caller moves, and the gate changes between free and its own. -/
theorem ActorInv.move (hinv : ActorInv s) {gate : Option ℕ} {phase : CallerPhase δ ρ}
    (hgate : ∀ other, other ≠ caller → (gate = some other ↔ s.gate = some other))
    (hself : CallerInv { s.move caller phase with gate } caller phase) :
    ActorInv { s.move caller phase with gate } :=
  hinv.update caller ⟨rfl, rfl, rfl, rfl, rfl⟩
    (fun _ hother => KeyedMap.get_set_of_ne hother) hgate
    (fun p hget => by
      rw [ActorRun.move, KeyedMap.get_set_self, Option.some.injEq] at hget
      exact hget ▸ hself)
    (fun _ => by rw [ActorRun.move, KeyedMap.get_set_self, Option.isSome_some])
    (fun _ h => .inl h) (fun _ _ h => .inl h) (fun _ h => .inl h)

/-- A caller ends, and the gate is not its own afterwards. -/
theorem ActorInv.leave (hinv : ActorInv s) {gate : Option ℕ} {refused : List String}
    {returned : List (ℕ × Except String (DbReply ρ))} {outcomes : List ActorOutcome}
    (hgate : ∀ other, other ≠ caller → (gate = some other ↔ s.gate = some other))
    (hfree : gate ≠ some caller)
    (hrefused : ∀ error ∈ refused, error ∈ s.refused ∨ error = actorClosedError ∨
      firstFailure s.work.answers = some error)
    (hreturned : ∀ number reply, (number, reply) ∈ returned → (number, reply) ∈ s.returned ∨
      ∃ answer ∈ s.work.answers, answer.number = number ∧ answer.reply = reply)
    (houtcomes : ∀ outcome ∈ outcomes, outcome ∈ s.outcomes ∨ s.terminal = some outcome) :
    ActorInv { s.leave caller with gate, refused, returned, outcomes } :=
  hinv.update caller ⟨rfl, rfl, rfl, rfl, rfl⟩
    (fun _ hother => by rw [ActorRun.leave, KeyedMap.get_remove, if_neg hother]) hgate
    (fun p hget => by
      rw [ActorRun.leave, KeyedMap.get_remove, if_pos rfl] at hget
      cases hget)
    (fun h => absurd h hfree) hrefused hreturned houtcomes

theorem gate_release (h : s.gate = some caller) (other : ℕ) (hother : other ≠ caller) :
    none = some other ↔ s.gate = some other := by
  rw [h, Option.some.injEq]
  exact ⟨fun h => (nomatch h), fun h => absurd h.symm hother⟩

theorem gate_acquire (h : s.gate = none) (other : ℕ) (hother : other ≠ caller) :
    some caller = some other ↔ s.gate = some other := by
  rw [h, Option.some.injEq]
  exact ⟨fun h => absurd h.symm hother, fun h => (nomatch h)⟩

/-- Nobody is admitted once the sender is taken. -/
theorem ActorInv.not_admitted (hinv : ActorInv s) (htx : s.tx = false)
    (hget : s.callers.get caller = some p) : p.isAdmitted = false := by
  by_contra hadmitted
  have hle := (hinv.callers caller p hget).admitted (Bool.not_eq_false _ ▸ hadmitted)
  have hge := hinv.tx htx
  omega

/-- The channel and the worker change while the worker runs. -/
theorem ActorInv.setWork (hinv : ActorInv s) {work : ActorWork δ ρ} (hwork : WorkInv work)
    (hrunning : s.stopped = false) (hrunning' : ActorRun.stopped { s with work } = false)
    (hqueued : s.work.queued ≤ work.queued)
    (hpoison : s.work.poison.isSome → work.poison.isSome)
    (hanswers : ∃ more, work.answers = s.work.answers ++ more) : ActorInv { s with work } := by
  obtain ⟨more, hmore⟩ := hanswers
  refine ⟨fun other p hget => ?_, hinv.held, hinv.tx, fun h => ?_,
    fun h => hpoison (hinv.latched h), hwork, fun outcome => ⟨fun h => ?_, fun h => ?_⟩,
    ⟨fun h => ?_, fun ⟨outcome, h⟩ => ?_⟩, fun error herror => ?_, fun number reply hreply => ?_,
    hinv.outcomes⟩
  · obtain ⟨hgate, hadmitted, hpoisoned, hclosing, hunowned, hnumber⟩ := hinv.callers other p hget
    exact ⟨hgate, hadmitted, fun h => hpoison (hpoisoned h), hclosing, hunowned,
      fun number h => (hnumber number h).trans_le hqueued⟩
  · rw [hrunning'] at h
    cases h
  · rw [ActorRun.stopped, (hinv.terminal outcome).1 h] at hrunning
    cases hrunning
  · dsimp only at h
    rw [ActorRun.stopped, h] at hrunning'
    cases hrunning'
  · obtain ⟨outcome, hworker | hworker⟩ := hinv.closed.1 h
    all_goals
      rw [ActorRun.stopped, hworker] at hrunning
      cases hrunning
  · dsimp only at h
    rcases h with h | h
    all_goals
      rw [ActorRun.stopped, h] at hrunning'
      cases hrunning'
  · dsimp only
    rw [hmore]
    exact (hinv.refused error herror).imp_right fun h => firstFailure_append_of_some h more
  · obtain ⟨answer, hmem, hanswer⟩ := hinv.returned number reply hreply
    exact ⟨answer, by rw [hmore]; exact List.mem_append_left _ hmem, hanswer⟩

/-- The phase moves forward. -/
theorem ActorInv.setPhase (hinv : ActorInv s) (phase : ActorPhase)
    (hle : s.phase.rank ≤ phase.rank)
    (hadmitted : ∀ other p, s.callers.get other = some p → p.isAdmitted = true →
      phase.rank ≤ 1)
    (hlatched : phase = .poisoned → s.work.poison.isSome)
    (hclosed : phase = .closed ↔ s.phase = .closed) : ActorInv { s with phase } := by
  refine ⟨fun other p hget => ?_, hinv.held, fun h => (hinv.tx h).trans hle, hinv.stopped,
    hlatched, hinv.work, hinv.terminal, hclosed.trans hinv.closed, hinv.refused, hinv.returned,
    hinv.outcomes⟩
  obtain ⟨hgate, -, hpoisoned, hclosing, hunowned, hnumber⟩ := hinv.callers other p hget
  refine ⟨hgate, hadmitted other p hget, hpoisoned, fun step after h => ?_, hunowned, hnumber⟩
  obtain ⟨hrefuse, htake, hrest⟩ := hclosing step after h
  exact ⟨hrefuse, fun hstep => (htake hstep).trans hle, hrest⟩

/-- The worker returns, and its reaper closes the actor and publishes the outcome. -/
theorem ActorInv.setStopped (hinv : ActorInv s) {phase : ActorPhase}
    {terminal : Option ActorOutcome} {worker : WorkerPhase δ ρ} (htx : s.tx = false)
    (hqueue : s.work.queue = []) (hhand : s.work.worker.hand = [])
    (hfailing : s.work.worker.failing = none) (hhand' : worker.hand = [])
    (hfailing' : worker.failing = none) (hle : s.phase.rank ≤ phase.rank)
    (hlatched : phase = .poisoned → s.phase = .poisoned)
    (hterminal : ∀ outcome, terminal = some outcome ↔ worker = .published outcome)
    (hclosed : phase = .closed ↔
      ∃ outcome, worker = .closed outcome ∨ worker = .published outcome)
    (hkept : ∀ outcome, s.terminal = some outcome → terminal = some outcome) :
    ActorInv { s with phase, terminal, work := { s.work with worker } } := by
  refine ⟨fun other p hget => ?_, hinv.held, fun h => (hinv.tx h).trans hle,
    fun _ => ⟨htx, hqueue⟩, fun h => hinv.latched (hlatched h),
    hinv.work.setWorker hhand hfailing hhand' hfailing', hterminal, hclosed, hinv.refused,
    hinv.returned, fun outcome h => hkept outcome (hinv.outcomes outcome h)⟩
  obtain ⟨hgate, -, hpoisoned, hclosing, hunowned, hnumber⟩ := hinv.callers other p hget
  refine ⟨hgate, fun h => ?_, hpoisoned, fun step after h => ?_, hunowned, hnumber⟩
  · rw [hinv.not_admitted htx hget] at h
    cases h
  · obtain ⟨hrefuse, htake, hrest⟩ := hclosing step after h
    exact ⟨hrefuse, fun hstep => (htake hstep).trans hle, hrest⟩

/-! ### Steps of callers -/

theorem CallerInv.owned (hp : CallerInv s caller p) (hne : ∀ step, p ≠ .closing step .dropped) :
    s.handles ≠ 0 := by
  intro h
  obtain ⟨step, hstep⟩ := hp.unowned h
  exact hne step hstep

/-- An admission that has the gate fails. -/
theorem ActorInv.refuse (hinv : ActorInv s) (hgate : s.gate = some caller) {error : String}
    (herror : error = actorClosedError ∨ firstFailure s.work.answers = some error) :
    ActorInv (s.refuse caller error) := by
  refine hinv.leave (gate_release hgate) (fun h => nomatch h) (fun other hother => ?_)
    (fun _ _ h => .inl h) (fun _ h => .inl h)
  rcases List.mem_append.1 hother with hother | hother
  · exact .inl hother
  · rw [List.mem_singleton.1 hother]
    exact .inr herror

/-- A caller moves to a phase in which it has the gate just if it had it before. -/
theorem ActorInv.moveHolding (hinv : ActorInv s) {phase : CallerPhase δ ρ}
    (hself : CallerInv (s.move caller phase) caller phase) : ActorInv (s.move caller phase) :=
  hinv.move (fun _ _ => Iff.rfl) hself

theorem ActorInv.enqueue (hinv : ActorInv s) (hrunning : s.stopped = false)
    (command : DbCommand δ ρ) : ActorInv { s with work := s.work.enqueue command } :=
  hinv.setWork (hinv.work.enqueue command) hrunning hrunning (Nat.le_succ _) (fun h => h)
    ⟨[], (List.append_nil _).symm⟩

/-- The steps of `close_sender`. -/
theorem ActorInv.closeStep (hinv : ActorInv s) {step : CloseStep} {after : AfterClose}
    (hget : s.callers.get caller = some (.closing step after)) :
    ActorInv (s.closeStep caller after step) := by
  have hp := hinv.callers caller _ hget
  obtain ⟨hrefuse, htake, hexchange, hdropped⟩ := hp.closing step after rfl
  have hself : ∀ {s₁ : ActorRun δ ρ} {step' : CloseStep}, s₁.gate = s.gate →
      s₁.handles = s.handles → (step' = .take → 2 ≤ s₁.phase.rank) →
      (∀ expected, step' = .exchange expected → expected.rank ≤ 1) →
      CallerInv s₁ caller (.closing step' after) := by
    intro s₁ step' hgate hhandles htaking hexchanging
    refine ⟨by rw [hgate]; exact hp.gate, fun h => (nomatch h), fun h => (nomatch h),
      fun other otherAfter h => ?_, fun h => ?_, fun _ h => (nomatch h)⟩
    · cases h
      exact ⟨hrefuse, htaking, hexchanging, by rw [hhandles]; exact hdropped⟩
    · rw [hhandles] at h
      exact ⟨step', by rw [hdropped.2 h]⟩
  have hnext : ActorInv (s.move caller
      (.closing (if 2 ≤ s.phase.rank then .take else .exchange s.phase) after)) := by
    refine hinv.moveHolding (hself rfl rfl (fun h => ?_) fun expected h => ?_)
    · split_ifs at h with hle
      exact hle
    · split_ifs at h with hle
      cases h
      omega
  cases step with
  | load => exact hnext
  | exchange expected =>
    rw [ActorRun.closeStep]
    by_cases hsame : s.phase = expected
    · rw [if_pos hsame]
      have hearly : s.phase.rank ≤ 1 := hsame ▸ hexchange expected rfl
      -- whoever is admitted has the gate, and would have a handle
      have hadmitted : ∀ other p, s.callers.get other = some p → p.isAdmitted = true →
          ActorPhase.closing.rank ≤ 1 := by
        intro other p hother hadmitted
        exfalso
        have hotherInv := hinv.callers other p hother
        by_cases hlast : after = .dropped
        · obtain ⟨otherStep, rfl⟩ := hotherInv.unowned (hdropped.1 hlast)
          cases hadmitted
        · have hholds : p.holdsGate = true := by
            cases p <;> first | rfl | cases hadmitted
          have hgate : s.gate = some caller := hp.gate.1 (by
            simpa [CallerPhase.holdsGate] using hlast)
          have hsame' := hotherInv.gate.1 hholds
          rw [hgate, Option.some.injEq] at hsame'
          subst hsame'
          rw [hget, Option.some.injEq] at hother
          subst hother
          cases hadmitted
      have hclosing := hinv.setPhase .closing (hearly.trans (by decide)) hadmitted
        (fun h => nomatch h) ⟨fun h => (nomatch h), fun h => by
          rw [h] at hearly
          exact absurd hearly (by decide)⟩
      exact hclosing.moveHolding (hself rfl rfl (fun _ => le_rfl) fun _ h => nomatch h)
    · rw [if_neg hsame]
      exact hnext
  | take =>
    have htaken : ActorInv { s with tx := false } := by
      refine ⟨fun other p hother => ?_, hinv.held, fun _ => htake rfl, fun h => ?_, hinv.latched,
        hinv.work, hinv.terminal, hinv.closed, hinv.refused, hinv.returned, hinv.outcomes⟩
      · obtain ⟨h₁, h₂, h₃, h₄, h₅, h₆⟩ := hinv.callers other p hother
        exact ⟨h₁, h₂, h₃, h₄, h₅, h₆⟩
      · exact ⟨rfl, (hinv.stopped h).2⟩
    cases after with
    | refuse => exact absurd rfl hrefuse
    | awaitTerminal =>
      have hgate : s.gate = some caller := hp.gate.1 rfl
      refine htaken.move (gate_release hgate) ⟨⟨fun h => (nomatch h), fun h => (nomatch h)⟩,
        fun h => (nomatch h), fun h => (nomatch h), fun _ _ h => (nomatch h), fun h => ?_,
        fun _ h => (nomatch h)⟩
      exact absurd h (hp.owned fun _ h => nomatch h)
    | dropped =>
      have hfree : s.gate ≠ some caller := fun h => nomatch hp.gate.2 h
      exact htaken.leave (fun _ _ => Iff.rfl) hfree (fun _ h => .inl h) (fun _ _ h => .inl h)
        (fun _ h => .inl h)

/-- A stopped worker has answered all commands. -/
theorem ActorInv.answered (hinv : ActorInv s) (hstopped : s.stopped = true) :
    s.work.answers.map Answer.number = List.range s.work.queued := by
  have hnumbered := hinv.work.numbered
  have hhand : s.work.worker.hand = [] := by
    rw [ActorRun.stopped] at hstopped
    cases hworker : s.work.worker <;> first | rfl | (rw [hworker] at hstopped; cases hstopped)
  rw [hhand, (hinv.stopped hstopped).2, List.map_nil, List.append_nil, List.append_nil]
    at hnumbered
  exact hnumbered

/-- The worker runs while a caller is admitted. -/
theorem ActorInv.running (hinv : ActorInv s) (hget : s.callers.get caller = some p)
    (hadmitted : p.isAdmitted = true) : s.stopped = false := by
  by_contra hstopped
  have htx := (hinv.stopped (Bool.not_eq_false _ ▸ hstopped)).1
  rw [hinv.not_admitted htx hget] at hadmitted
  cases hadmitted

theorem ActorInv.callerStep (hinv : ActorInv s) (hget : s.callers.get caller = some p)
    (h : s.callerStep caller p = some s') : ActorInv s' := by
  have hp := hinv.callers caller p hget
  cases p with
  | locking request =>
    have hhandles := hp.owned fun _ h => nomatch h
    simp only [ActorRun.callerStep, Option.ite_none_left_eq_some, Option.some.injEq] at h
    obtain ⟨hfree, rfl⟩ := h
    refine hinv.move (gate_acquire (Option.not_isSome_iff_eq_none.1 hfree)) ?_
    cases request with
    | command command =>
      exact ⟨⟨fun _ => rfl, fun _ => rfl⟩, fun h => (nomatch h), fun h => (nomatch h),
        fun _ _ h => (nomatch h), fun h => absurd h hhandles, fun _ h => (nomatch h)⟩
    | shutdown =>
      refine ⟨⟨fun _ => rfl, fun _ => rfl⟩, fun h => (nomatch h), fun h => (nomatch h),
        fun step after h => ?_, fun h => absurd h hhandles, fun _ h => (nomatch h)⟩
      cases h
      exact ⟨fun h => (nomatch h), fun h => (nomatch h), fun _ h => (nomatch h),
        fun h => (nomatch h), fun h => absurd h hhandles⟩
  | admitting command =>
    have hhandles := hp.owned fun _ h => nomatch h
    have hgate : s.gate = some caller := hp.gate.1 rfl
    simp only [ActorRun.callerStep] at h
    split at h
    next hphase =>
      cases h
      refine hinv.moveHolding ⟨⟨fun _ => hgate, fun _ => rfl⟩, fun _ => ?_, fun h => (nomatch h),
        fun _ _ h => (nomatch h), fun h => absurd h hhandles, fun _ h => (nomatch h)⟩
      change s.phase.rank ≤ 1
      rw [hphase]
      decide
    next hphase =>
      cases h
      exact hinv.moveHolding ⟨⟨fun _ => hgate, fun _ => rfl⟩, fun h => (nomatch h),
        fun _ => hinv.latched hphase, fun _ _ h => (nomatch h), fun h => absurd h hhandles,
        fun _ h => (nomatch h)⟩
    all_goals
      cases h
      exact hinv.refuse hgate (.inl rfl)
  | poisoned =>
    cases h
    obtain ⟨message, hmessage⟩ := Option.isSome_iff_exists.1 (hp.poisoned rfl)
    refine hinv.refuse (hp.gate.1 rfl) (.inr ?_)
    rw [hmessage]
    exact hinv.work.latched message hmessage
  | cloning command =>
    have hhandles := hp.owned fun _ h => nomatch h
    have hgate : s.gate = some caller := hp.gate.1 rfl
    simp only [ActorRun.callerStep] at h
    split_ifs at h
    · cases h
      exact hinv.moveHolding ⟨⟨fun _ => hgate, fun _ => rfl⟩, fun _ => hp.admitted rfl,
        fun h => (nomatch h), fun _ _ h => (nomatch h), fun h => absurd h hhandles,
        fun _ h => (nomatch h)⟩
    · cases h
      exact hinv.refuse hgate (.inl rfl)
  | sending command =>
    have hhandles := hp.owned fun _ h => nomatch h
    have hrunning := hinv.running hget rfl
    simp only [ActorRun.callerStep, hrunning, Bool.false_eq_true, if_false,
      Option.ite_none_right_eq_some, Option.some.injEq] at h
    obtain ⟨-, rfl⟩ := h
    refine (hinv.enqueue hrunning command).move (gate_release (hp.gate.1 rfl))
      ⟨⟨fun h => (nomatch h), fun h => (nomatch h)⟩, fun h => (nomatch h), fun h => (nomatch h),
        fun _ _ h => (nomatch h), fun h => absurd h hhandles, fun number h => ?_⟩
    cases h
    exact Nat.lt_succ_self _
  | awaitingReply number =>
    have hfree : s.gate ≠ some caller := fun h => nomatch hp.gate.2 h
    simp only [ActorRun.callerStep] at h
    split at h
    next answer hanswer =>
      cases h
      refine hinv.leave (fun _ _ => Iff.rfl) hfree (fun _ h => .inl h) (fun other reply h => ?_)
        (fun _ h => .inl h)
      rcases List.mem_append.1 h with h | h
      · exact .inl h
      · cases List.mem_singleton.1 h
        have hnumber := List.find?_some
          (p := fun answer : Answer ρ => decide (answer.number = number)) hanswer
        exact .inr ⟨answer, List.mem_of_find?_eq_some hanswer, of_decide_eq_true hnumber, rfl⟩
    next hnone =>
      split_ifs at h with hstopped
      -- the command was answered before the worker returned
      have hmem : number ∈ s.work.answers.map Answer.number := by
        rw [hinv.answered hstopped]
        exact List.mem_range.2 (hp.number number rfl)
      obtain ⟨answer, hanswer, rfl⟩ := List.mem_map.1 hmem
      exact absurd (decide_eq_true rfl) (List.find?_eq_none.1 hnone answer hanswer)
  | closing step after =>
    cases h
    exact hinv.closeStep hget
  | awaitingTerminal =>
    have hfree : s.gate ≠ some caller := fun h => nomatch hp.gate.2 h
    obtain ⟨outcome, houtcome, rfl⟩ := Option.map_eq_some_iff.1 h
    refine hinv.leave (fun _ _ => Iff.rfl) hfree (fun _ h => .inl h) (fun _ _ h => .inl h)
      (fun other h => ?_)
    rcases List.mem_append.1 h with h | h
    · exact .inl h
    · rw [List.mem_singleton.1 h]
      exact .inr houtcome

/-! ### All steps -/

/-- The worker has not returned. -/
def WorkerPhase.isRunning : WorkerPhase δ ρ → Bool
  | finished _ | closed _ | published _ => false
  | _ => true

theorem stopped_eq (s : ActorRun δ ρ) : s.stopped = !s.work.worker.isRunning := by
  rw [ActorRun.stopped]
  cases s.work.worker <;> rfl

/-- What a step of the running worker does to the channel. -/
theorem work_step_frame (h : w.step = some w') :
    w.worker.isRunning = true ∧ w'.worker.isRunning = true ∧ w'.queued = w.queued ∧
      (w.poison.isSome → w'.poison.isSome) ∧ ∃ more, w'.answers = w.answers ++ more := by
  rw [ActorWork.step] at h
  split at h
  next hworker =>
    split at h
    · cases h
      exact ⟨by rw [hworker]; rfl, rfl, rfl, fun h => h, [], (List.append_nil _).symm⟩
    · cases h
  next number command hworker =>
    split at h
    · cases h
      exact ⟨by rw [hworker]; rfl, rfl, rfl, fun h => h, _, rfl⟩
    next =>
      cases h
      refine ⟨by rw [hworker]; rfl, ?_, rfl, fun h => h, _, rfl⟩
      cases (command.handle w.db).failure <;> simp [WorkerPhase.isRunning]
  next hworker =>
    cases h
    exact ⟨by rw [hworker]; rfl, rfl, rfl, fun _ => rfl, [], (List.append_nil _).symm⟩
  next => cases h

theorem ActorInv.workerStep (hinv : ActorInv s) (h : s.workerStep = some s') : ActorInv s' := by
  rw [ActorRun.workerStep] at h
  split at h
  next stable hworker =>
    cases h
    have hpoison := hinv.work.poisoning stable hworker
    have hrunning : s.stopped = false := by rw [stopped_eq, hworker]; rfl
    have hrejecting := hinv.setWork (hinv.work.reject hworker) hrunning rfl le_rfl (fun h => h)
      ⟨[], (List.append_nil _).symm⟩
    by_cases hphase : s.phase = .opened
    · rw [if_pos hphase]
      exact hrejecting.setPhase _ (by rw [show ({ s with work := s.work.reject stable } :
        ActorRun δ ρ).phase = .opened from hphase]; decide) (fun _ _ _ _ => le_rfl)
        (fun _ => by rw [ActorWork.reject, hpoison]; rfl)
        ⟨fun h => (nomatch h), fun h => (nomatch hphase.symm.trans h)⟩
    · rw [if_neg hphase]
      exact hrejecting
  next outcome hworker =>
    cases h
    have hstopped : s.stopped = true := by rw [stopped_eq, hworker]; rfl
    obtain ⟨htx, hqueue⟩ := hinv.stopped hstopped
    have hnone : ∀ other, s.terminal ≠ some other := fun other h => by
      have hpublished := (hinv.terminal other).1 h
      rw [hworker] at hpublished
      cases hpublished
    exact hinv.setStopped htx hqueue (by rw [hworker]; rfl) (by rw [hworker]; rfl) rfl rfl
      (by cases s.phase <;> decide) (fun h => nomatch h)
      (fun other => ⟨fun h => absurd h (hnone other), fun h => (nomatch h)⟩)
      ⟨fun _ => ⟨outcome, .inl rfl⟩, fun _ => rfl⟩ (fun other h => absurd h (hnone other))
  next outcome hworker =>
    cases h
    have hstopped : s.stopped = true := by rw [stopped_eq, hworker]; rfl
    obtain ⟨htx, hqueue⟩ := hinv.stopped hstopped
    have hphase : s.phase = .closed := hinv.closed.2 ⟨outcome, .inl hworker⟩
    have hnone : ∀ other, s.terminal ≠ some other := fun other h => by
      have hpublished := (hinv.terminal other).1 h
      rw [hworker] at hpublished
      cases hpublished
    exact hinv.setStopped htx hqueue (by rw [hworker]; rfl) (by rw [hworker]; rfl) rfl rfl le_rfl
      (fun h => h)
      (fun other => ⟨fun h => by cases h; rfl, fun h => by cases h; rfl⟩)
      ⟨fun _ => ⟨outcome, .inr rfl⟩, fun _ => hphase⟩ (fun other h => absurd h (hnone other))
  next =>
    obtain ⟨work, hstep, rfl⟩ := Option.map_eq_some_iff.1 h
    obtain ⟨hrunning, hrunning', hqueued, hpoison, hanswers⟩ := work_step_frame hstep
    exact hinv.setWork (hinv.work.step hstep) (by rw [stopped_eq, hrunning]; rfl)
      (by rw [stopped_eq, hrunning']; rfl) hqueued.ge hpoison hanswers

/-- Handles are cloned and dropped while some are left, or nobody uses the actor. -/
theorem ActorInv.setHandles (hinv : ActorInv s) (handles : ℕ)
    (h : s.handles ≠ 0 ∧ handles ≠ 0 ∨ ∀ other, s.callers.get other = none) :
    ActorInv { s with handles } := by
  refine ⟨fun other p hget => ?_, hinv.held, hinv.tx, hinv.stopped, hinv.latched, hinv.work,
    hinv.terminal, hinv.closed, hinv.refused, hinv.returned, hinv.outcomes⟩
  rcases h with ⟨hbefore, hafter⟩ | hnone
  · obtain ⟨hgate, hadmitted, hpoisoned, hclosing, -, hnumber⟩ := hinv.callers other p hget
    refine ⟨hgate, hadmitted, hpoisoned, fun step after h => ?_, fun h => absurd h hafter, hnumber⟩
    obtain ⟨hrefuse, htake, hexchange, hdropped⟩ := hclosing step after h
    exact ⟨hrefuse, htake, hexchange, fun h => absurd (hdropped.1 h) hbefore,
      fun h => absurd h hafter⟩
  · dsimp only at hget
    rw [hnone other] at hget
    cases hget

theorem actorInv_step (hinv : ActorInv s) {l : ActorLabel δ ρ} (h : s.step l = some s') :
    ActorInv s' := by
  cases l with
  | call caller request =>
    simp only [ActorRun.step, Option.ite_none_right_eq_some, Option.some.injEq] at h
    obtain ⟨⟨hhandles, hfresh⟩, rfl⟩ := h
    have hnone : s.callers.get caller = none := Option.isNone_iff_eq_none.1 hfresh
    have hfree : s.gate ≠ some caller := by
      intro hgate
      have hheld := hinv.held caller hgate
      rw [hnone] at hheld
      cases hheld
    exact hinv.moveHolding ⟨⟨fun h => (by cases h), fun h => absurd h hfree⟩,
      fun h => (by cases h), fun h => (by cases h), fun _ _ h => (by cases h),
      fun h => absurd h hhandles.ne', fun _ h => (by cases h)⟩
  | caller caller =>
    obtain ⟨p, hget, hstep⟩ := Option.bind_eq_some_iff.1 h
    exact hinv.callerStep hget hstep
  | cancel caller =>
    simp only [ActorRun.step] at h
    split at h
    next p hget =>
      simp only [Option.ite_none_right_eq_some, Option.some.injEq] at h
      obtain ⟨-, rfl⟩ := h
      have hp := hinv.callers caller p hget
      cases hholds : p.holdsGate with
      | true =>
        exact hinv.leave (gate_release (hp.gate.1 hholds)) (fun h => by cases h)
          (fun _ h => .inl h) (fun _ _ h => .inl h) (fun _ h => .inl h)
      | false =>
        have hfree : s.gate ≠ some caller := by
          intro hgate
          rw [hp.gate.2 hgate] at hholds
          cases hholds
        exact hinv.leave (fun _ _ => Iff.rfl) hfree (fun _ h => .inl h) (fun _ _ h => .inl h)
          (fun _ h => .inl h)
    next => cases h
  | clone =>
    simp only [ActorRun.step, Option.ite_none_right_eq_some, Option.some.injEq] at h
    obtain ⟨hhandles, rfl⟩ := h
    exact hinv.setHandles _ (.inl ⟨hhandles.ne', Nat.succ_ne_zero _⟩)
  | drop party =>
    simp only [ActorRun.step] at h
    split at h
    · cases h
    next hhandles =>
      simp only [Option.ite_none_right_eq_some, Option.some.injEq] at h
      obtain ⟨hsize, rfl⟩ := h
      have hempty : ∀ other, s.callers.get other = none := by
        rw [KeyedMap.eq_empty_of_rows_eq_nil (List.eq_nil_of_length_eq_zero hsize)]
        exact fun _ => rfl
      have hfree : s.gate ≠ some party := by
        intro hgate
        have hheld := hinv.held party hgate
        rw [hempty] at hheld
        cases hheld
      refine (hinv.setHandles 0 (.inr hempty)).moveHolding
        ⟨⟨fun h => (by cases h), fun h => absurd h hfree⟩, fun h => (by cases h),
          fun h => (by cases h), fun step after h => ?_, fun _ => ⟨.load, rfl⟩,
          fun _ h => (by cases h)⟩
      cases h
      exact ⟨fun h => (by cases h), fun h => (by cases h), fun _ h => (by cases h), fun _ => rfl,
        fun _ => rfl⟩
    next handles hhandles =>
      cases h
      exact hinv.setHandles _ (.inl ⟨by rw [hhandles]; exact Nat.succ_ne_zero _,
        Nat.succ_ne_zero _⟩)
  | worker => exact hinv.workerStep h
  | checkpoint result =>
    simp only [ActorRun.step] at h
    split at h
    next hworker hqueue =>
      split_ifs at h with hsender
      cases h
      have htx : s.tx = false := by
        cases htx : s.tx with
        | false => rfl
        | true => rw [htx, Bool.true_or] at hsender; exact absurd rfl hsender
      have hrunning : s.stopped = false := by rw [stopped_eq, hworker]; rfl
      have hnone : ∀ other, s.terminal ≠ some other := fun other h => by
        have hpublished := (hinv.terminal other).1 h
        rw [hworker] at hpublished
        cases hpublished
      have hphase : s.phase ≠ .closed := fun h => by
        obtain ⟨other, hclosed | hpublished⟩ := hinv.closed.1 h
        · rw [hworker] at hclosed
          cases hclosed
        · rw [hworker] at hpublished
          cases hpublished
      exact hinv.setStopped htx hqueue (by rw [hworker]; rfl) (by rw [hworker]; rfl) rfl rfl le_rfl
        (fun h => h) (fun other => ⟨fun h => absurd h (hnone other), fun h => (by cases h)⟩)
        ⟨fun h => absurd h hphase, fun h => by obtain ⟨_, h | h⟩ := h <;> cases h⟩
        (fun other h => absurd h (hnone other))
    next => cases h

theorem rank_le_closing {phase : ActorPhase} (h : phase.rank ≤ 1) :
    phase.rank ≤ ActorPhase.closing.rank := h.trans (by decide)

theorem rank_le_closed (phase : ActorPhase) : phase.rank ≤ ActorPhase.closed.rank := by
  cases phase <;> decide

theorem rank_opened_le (phase : ActorPhase) : ActorPhase.opened.rank ≤ phase.rank := Nat.zero_le _

theorem actorInv_reachable {db : δ} (h : (actorSystem ρ db).Reachable s) : ActorInv s :=
  h.invariant (P := ActorInv) (by rintro _ rfl; exact actorInv_start db)
    fun _ _ _ hinv hstep => actorInv_step hinv hstep

/-! ## What moves only forward -/

/-- The phase moves forward, commands are queued before closing begins, and an outcome that is
published stays. -/
structure Forward (s s' : ActorRun δ ρ) : Prop where
  phase : s.phase.rank ≤ s'.phase.rank
  queued : 2 ≤ s.phase.rank → s'.work.queued = s.work.queued
  terminal : ∀ outcome, s.terminal = some outcome → s'.terminal = some outcome

/-- A step that keeps the phase, the channel and the outcome. -/
theorem Forward.of_eq (hphase : s'.phase = s.phase) (hqueued : s'.work.queued = s.work.queued)
    (hterminal : s'.terminal = s.terminal) : Forward s s' :=
  ⟨by rw [hphase], fun _ => hqueued, fun _ h => hterminal.trans h⟩

theorem ActorInv.forward_callerStep (hinv : ActorInv s) (hget : s.callers.get caller = some p)
    (h : s.callerStep caller p = some s') : Forward s s' := by
  have hp := hinv.callers caller p hget
  cases p with
  | locking request =>
    simp only [ActorRun.callerStep, Option.ite_none_left_eq_some, Option.some.injEq] at h
    obtain ⟨-, rfl⟩ := h
    exact .of_eq rfl rfl rfl
  | admitting command =>
    simp only [ActorRun.callerStep] at h
    split at h <;> (cases h; exact .of_eq rfl rfl rfl)
  | poisoned =>
    cases h
    exact .of_eq rfl rfl rfl
  | cloning command =>
    simp only [ActorRun.callerStep] at h
    split_ifs at h <;> (cases h; exact .of_eq rfl rfl rfl)
  | sending command =>
    have hearly := hp.admitted rfl
    simp only [ActorRun.callerStep] at h
    split_ifs at h
    · cases h
      exact .of_eq rfl rfl rfl
    · cases h
      exact ⟨le_rfl, fun hlate => absurd hlate (by omega), fun _ h => h⟩
  | awaitingReply number =>
    simp only [ActorRun.callerStep] at h
    split at h
    · cases h
      exact .of_eq rfl rfl rfl
    · split_ifs at h
      cases h
      exact .of_eq rfl rfl rfl
  | closing step after =>
    cases h
    cases step with
    | load => exact .of_eq rfl rfl rfl
    | exchange expected =>
      rw [ActorRun.closeStep]
      by_cases hsame : s.phase = expected
      · rw [if_pos hsame]
        have hearly : s.phase.rank ≤ 1 := hsame ▸ (hp.closing _ after rfl).2.2.1 expected rfl
        exact ⟨rank_le_closing hearly, fun _ => rfl, fun _ h => h⟩
      · rw [if_neg hsame]
        exact .of_eq rfl rfl rfl
    | take => cases after <;> exact .of_eq rfl rfl rfl
  | awaitingTerminal =>
    obtain ⟨outcome, -, rfl⟩ := Option.map_eq_some_iff.1 h
    exact .of_eq rfl rfl rfl

theorem ActorInv.forward_workerStep (hinv : ActorInv s) (h : s.workerStep = some s') :
    Forward s s' := by
  rw [ActorRun.workerStep] at h
  split at h
  next stable hworker =>
    cases h
    by_cases hphase : s.phase = .opened
    · rw [if_pos hphase]
      exact ⟨by rw [hphase]; exact rank_opened_le _, fun _ => rfl, fun _ h => h⟩
    · rw [if_neg hphase]
      exact .of_eq rfl rfl rfl
  next outcome hworker =>
    cases h
    exact ⟨rank_le_closed _, fun _ => rfl, fun _ h => h⟩
  next outcome hworker =>
    cases h
    refine ⟨le_rfl, fun _ => rfl, fun other h => ?_⟩
    have hpublished := (hinv.terminal other).1 h
    rw [hworker] at hpublished
    cases hpublished
  next =>
    obtain ⟨work, hstep, rfl⟩ := Option.map_eq_some_iff.1 h
    exact .of_eq rfl (work_step_frame hstep).2.2.1 rfl

theorem ActorInv.forward (hinv : ActorInv s) {l : ActorLabel δ ρ} (h : s.step l = some s') :
    Forward s s' := by
  cases l with
  | call caller request =>
    simp only [ActorRun.step, Option.ite_none_right_eq_some, Option.some.injEq] at h
    obtain ⟨-, rfl⟩ := h
    exact .of_eq rfl rfl rfl
  | caller caller =>
    obtain ⟨p, hget, hstep⟩ := Option.bind_eq_some_iff.1 h
    exact hinv.forward_callerStep hget hstep
  | cancel caller =>
    simp only [ActorRun.step] at h
    split at h
    · simp only [Option.ite_none_right_eq_some, Option.some.injEq] at h
      obtain ⟨-, rfl⟩ := h
      exact .of_eq rfl rfl rfl
    · cases h
  | clone =>
    simp only [ActorRun.step, Option.ite_none_right_eq_some, Option.some.injEq] at h
    obtain ⟨-, rfl⟩ := h
    exact .of_eq rfl rfl rfl
  | drop party =>
    simp only [ActorRun.step] at h
    split at h
    · cases h
    · simp only [Option.ite_none_right_eq_some, Option.some.injEq] at h
      obtain ⟨-, rfl⟩ := h
      exact .of_eq rfl rfl rfl
    · cases h
      exact .of_eq rfl rfl rfl
  | worker => exact hinv.forward_workerStep h
  | checkpoint result =>
    simp only [ActorRun.step] at h
    split at h
    · split_ifs at h
      cases h
      exact .of_eq rfl rfl rfl
    · cases h

/-- The worker can go on as long as a command is not answered. -/
theorem ActorInv.progress (hinv : ActorInv s)
    (hopen : s.work.worker.hand ++ s.work.queue.map Prod.fst ≠ []) :
    ∃ s', s.step .worker = some s' := by
  have hstopped : s.stopped = false := by
    by_contra hstopped
    have hanswered := hinv.answered (Bool.not_eq_false _ ▸ hstopped)
    have hnumbered := hinv.work.numbered
    rw [hanswered] at hnumbered
    exact hopen (List.append_right_eq_self.1 hnumbered)
  rw [← Option.isSome_iff_exists]
  simp only [ActorRun.step, ActorRun.workerStep]
  cases hworker : s.work.worker with
  | receiving =>
    cases hqueue : s.work.queue with
    | nil =>
      rw [hworker, hqueue] at hopen
      exact absurd rfl hopen
    | cons first rest => simp [ActorWork.step, hworker, hqueue]
  | handling number command =>
    cases hrejecting : s.work.rejecting <;> simp [ActorWork.step, hworker, hrejecting]
  | latching message => simp [ActorWork.step, hworker]
  | poisoning stable => rfl
  | finished outcome => rw [stopped_eq, hworker] at hstopped; cases hstopped
  | closed outcome => rw [stopped_eq, hworker] at hstopped; cases hstopped
  | published outcome => rw [stopped_eq, hworker] at hstopped; cases hstopped

/-! ## The protocol -/

/-- What holds in every state of a run. -/
structure ActorProtocol (s : ActorRun δ ρ) : Prop where
  /-- The commands put on the channel are answered once each and in its order; what is not
  answered is in the worker's hand or on the channel. -/
  inOrder : s.work.answers.map Answer.number ++
    (s.work.worker.hand ++ s.work.queue.map Prod.fst) = List.range s.work.queued
  /-- The worker goes on until all of them are answered. -/
  progress : s.work.worker.hand ++ s.work.queue.map Prod.fst ≠ [] →
    ∃ s', s.step .worker = some s'
  /-- A command is executed before the first post-commit failure, and rejected with it after. -/
  answers : ∀ before answer after, s.work.answers = before ++ answer :: after →
    AnswerLaw (firstFailure before) answer
  /-- A call that returns has the reply to its command. -/
  replies : ∀ number reply, (number, reply) ∈ s.returned →
    ∃ answer ∈ s.work.answers, answer.number = number ∧ answer.reply = reply
  /-- A caller is refused with the first failure or the closed error. -/
  refusals : ∀ error ∈ s.refused,
    error = actorClosedError ∨ firstFailure s.work.answers = some error
  /-- The phase moves forward, nothing is queued once closing has begun, and the outcome stays. -/
  forward : ∀ l s', s.step l = some s' → Forward s s'
  /-- All calls of `shutdown` return the outcome that was published. -/
  outcomes : ∀ outcome ∈ s.outcomes, s.terminal = some outcome
  /-- When the outcome is published, the actor is closed and every queued command answered. -/
  terminal : s.terminal.isSome → s.phase = .closed ∧
    s.work.answers.map Answer.number = List.range s.work.queued

/-- In every state that any interleaving of callers, cancellations, dropped handles and worker steps
reaches, the actor keeps its protocol. -/
theorem actor_protocol {db : δ} (h : (actorSystem ρ db).Reachable s) : ActorProtocol s := by
  have hinv := actorInv_reachable h
  refine ⟨hinv.work.numbered, hinv.progress, hinv.work.lawful, hinv.returned, hinv.refused,
    fun _ _ hstep => hinv.forward hstep, hinv.outcomes, fun hterminal => ?_⟩
  obtain ⟨outcome, houtcome⟩ := Option.isSome_iff_exists.1 hterminal
  have hpublished := (hinv.terminal outcome).1 houtcome
  exact ⟨hinv.closed.2 ⟨outcome, .inr hpublished⟩,
    hinv.answered (by rw [stopped_eq, hpublished]; rfl)⟩

/-- A timezone bundle whose finalizer fails, with one command queued behind it, one caller that
comes after the failure and a shutdown. -/
theorem actor_protocol_sampleRun :
    ∃ s, (actorSystem String 0).Reachable s ∧
      s.work.answers.map (fun answer => (answer.number, answer.executed)) =
        [(0, true), (1, false)] ∧
      s.refused = ["database actor poisoned after timezone post-commit failure: " ++
        "failed to finalize timezone config: disk full"] ∧
      s.outcomes = [.success] ∧ ActorProtocol s := by
  have hrun : (LabelledSystem.perform ActorRun.step (fun _ _ => true)
      (.start 0 : ActorRun ℕ String)
      [.call 0 (.command (.migrateTimezoneBundle (fun db => (.ok 3, db + 1))
          (.returned (.error "disk full")) fun db => (.ok (), db))),
        .caller 0, .caller 0, .caller 0, .caller 0,
        .call 1 (.command (.operation fun db => (.ok "row", db))),
        .caller 1, .caller 1, .caller 1, .caller 1,
        .worker, .worker, .worker, .worker,
        .call 2 (.command (.operation fun db => (.ok "row", db))), .caller 2, .caller 2, .caller 2,
        .call 3 .shutdown, .caller 3, .caller 3, .caller 3, .caller 3,
        .worker, .worker, .checkpoint (.ok ()), .worker, .worker, .caller 3]).map (fun s =>
        (s.work.answers.map (fun answer => (answer.number, answer.executed)), s.refused,
          s.outcomes)) =
      some ([(0, true), (1, false)],
        ["database actor poisoned after timezone post-commit failure: " ++
          "failed to finalize timezone config: disk full"], [.success]) := by
    decide +kernel
  obtain ⟨s, hperform, hend⟩ := Option.map_eq_some_iff.1 hrun
  simp only [Prod.mk.injEq] at hend
  have hreached := LabelledSystem.Run.perform (S := actorSystem String 0) (fun _ _ _ h => h)
    (.start rfl) hperform
  exact ⟨s, ⟨_, hreached⟩, hend.1, hend.2.1, hend.2.2, actor_protocol ⟨_, hreached⟩⟩

end WeatherApp
