import WeatherApp.Engine.CommitLockLaw

/-!
# Answers are commits

A request that is answered with success is one of the commits: the holder of the guard commits
before it answers, and the caller of a bundle waits for the reply to that bundle.

## Main definitions

* `CommitOutcome.Committed`: what a success says has been committed.
* `AnswerInv`: what is answered with success has been committed.

## Main results

* `AnswerInv.step`: every step keeps it.
-/

namespace WeatherApp

section Answers

variable {Tz σ : Type} {path : String} {s s' : CommitRun Tz}

/-- The bundle of a holder that has been admitted. -/
def GuardHolder.admitted : GuardHolder → Option TimezoneBundle
  | queued bundle | finalizing bundle _ | applyingBundle bundle _ _ | clearing bundle _ =>
    some bundle
  | _ => none

/-- What a success says has been committed. -/
def CommitOutcome.Committed (commits : List (ℕ × ConfigCommit)) (number : ℕ) :
    CommitOutcome → Prop
  | updated (.ok config) => (number, .replace config) ∈ commits
  | migrated (.ok migration) => (number, .setTimezone migration.newTimezone) ∈ commits
  | _ => True

/-- What a reply with success says has been committed. -/
def AwaitedReply.Committed (commits : List (ℕ × ConfigCommit)) (number : ℕ)
    (awaited : AwaitedReply) : Prop :=
  ∀ rows, awaited.reply = some (.ok rows) → (number, .setTimezone awaited.newTimezone) ∈ commits

theorem CommitOutcome.Committed.mono {commits more : List (ℕ × ConfigCommit)} {number : ℕ}
    {outcome : CommitOutcome} (h : outcome.Committed commits number) :
    outcome.Committed (commits ++ more) number := by
  match outcome with
  | .updated (.ok _) | .migrated (.ok _) => exact List.mem_append_left _ h
  | .updated (.error _) | .migrated (.error _) | .updateCancelled | .migrationCancelled =>
    exact trivial

/-- What is answered with success has been committed. -/
structure AnswerInv (s : CommitRun Tz) : Prop where
  outcomes : ∀ entry ∈ s.outcomes, entry.2.Committed s.commits entry.1
  replies : ∀ number awaited, s.replies.get number = some awaited →
    awaited.Committed s.commits number
  clearing : ∀ number bundle rewritten, s.guard = some (number, .clearing bundle rewritten) →
    (number, .setTimezone bundle.newTimezone) ∈ s.commits
  awaited : ∀ number holder bundle awaited, s.guard = some (number, holder) →
    holder.admitted = some bundle → s.replies.get number = some awaited →
      awaited.newTimezone = bundle.newTimezone

namespace AnswerInv

/-- One more commit. -/
theorem commit (h : AnswerInv s) (entry : ℕ × ConfigCommit) :
    AnswerInv { s with commits := s.commits ++ [entry] } where
  outcomes outcome houtcome := (h.outcomes outcome houtcome).mono
  replies number awaited hget rows hrows :=
    List.mem_append_left _ (h.replies number awaited hget rows hrows)
  clearing number bundle rewritten hguard :=
    List.mem_append_left _ (h.clearing number bundle rewritten hguard)
  awaited := h.awaited

/-- One more outcome. -/
theorem outcome (h : AnswerInv s) {number : ℕ} {outcome : CommitOutcome}
    (houtcome : outcome.Committed s.commits number) :
    AnswerInv { s with outcomes := s.outcomes ++ [(number, outcome)] } where
  outcomes entry hentry := by
    rcases List.mem_append.1 hentry with hold | hnew
    · exact h.outcomes entry hold
    · rw [List.mem_singleton.1 hnew]
      exact houtcome
  replies := h.replies
  clearing := h.clearing
  awaited := h.awaited

/-- The guard is dropped. -/
theorem release (h : AnswerInv s) : AnswerInv { s with guard := none } where
  outcomes := h.outcomes
  replies := h.replies
  clearing _ _ _ hguard := nomatch hguard
  awaited _ _ _ _ hguard := nomatch hguard

theorem finish (h : AnswerInv s) {number : ℕ} {outcome : CommitOutcome}
    (houtcome : outcome.Committed s.commits number) : AnswerInv (s.finish number outcome) :=
  h.release.outcome houtcome

/-- A holder that has no bundle yet. -/
theorem hold (h : AnswerInv s) (number : ℕ) {holder : GuardHolder}
    (hholder : holder.admitted = none) : AnswerInv (s.hold number holder) where
  outcomes := h.outcomes
  replies := h.replies
  clearing _ _ _ hguard := by
    cases hguard
    cases hholder
  awaited _ _ _ _ hguard hbundle := by
    cases hguard
    rw [hholder] at hbundle
    cases hbundle

/-- The bundle goes on. -/
theorem next (h : AnswerInv s) {number : ℕ} {holder holder' : GuardHolder}
    (hguard : s.guard = some (number, holder)) (hbundle : holder'.admitted = holder.admitted)
    (hcommit : ∀ bundle rewritten, holder' = .clearing bundle rewritten →
      (number, .setTimezone bundle.newTimezone) ∈ s.commits) :
    AnswerInv (s.hold number holder') where
  outcomes := h.outcomes
  replies := h.replies
  clearing _ _ _ hheld := by
    cases hheld
    exact hcommit _ _ rfl
  awaited _ _ bundle awaited hheld hadmitted hget := by
    cases hheld
    exact h.awaited number holder bundle awaited hguard (hbundle ▸ hadmitted) hget

/-- A reply is sent to the caller, if it still waits. -/
theorem dropBundle (h : AnswerInv s) {number : ℕ} {reply : Except String ℕ}
    (hreply : ∀ awaited rows, s.replies.get number = some awaited → reply = .ok rows →
      (number, .setTimezone awaited.newTimezone) ∈ s.commits) :
    AnswerInv (s.dropBundle number reply) where
  outcomes := h.outcomes
  replies number' awaited hget rows hrows := by
    unfold CommitRun.dropBundle at hget
    dsimp only at hget
    split at hget
    next old hold =>
      rw [KeyedMap.get_set] at hget
      split_ifs at hget with hnumber
      · cases hget
        subst hnumber
        exact hreply old rows hold (Option.some.inj hrows)
      · exact h.replies number' awaited hget rows hrows
    next => exact h.replies number' awaited hget rows hrows
  clearing _ _ _ hguard := nomatch hguard
  awaited _ _ _ _ hguard := nomatch hguard

/-- A caller leaves. -/
theorem remove (h : AnswerInv s) (number : ℕ) :
    AnswerInv { s with replies := s.replies.remove number } where
  outcomes := h.outcomes
  replies number' awaited hget := h.replies number' awaited (KeyedMap.get_of_get_remove hget)
  clearing := h.clearing
  awaited number' holder bundle awaited hguard hbundle hget :=
    h.awaited number' holder bundle awaited hguard hbundle (KeyedMap.get_of_get_remove hget)

theorem receive (h : AnswerInv s) {number : ℕ} (hstep : s.receive number = some s') :
    AnswerInv s' := by
  obtain ⟨awaited, reply, hget, hreply, rfl⟩ := CommitRun.receive_cases hstep
  refine (h.remove number).outcome ?_
  cases reply with
  | error err => exact trivial
  | ok rows => exact h.replies number awaited hget rows hreply

theorem cancel (h : AnswerInv s) {number : ℕ} (hstep : s.cancel number = some s') :
    AnswerInv s' := by
  rcases CommitRun.cancel_cases hstep with ⟨request, -, rfl⟩ |
    ⟨holder, outcome, -, hawaiting, rfl⟩ | ⟨awaited, -, rfl⟩
  · have hleft : AnswerInv { s with waiting := s.waiting.remove number } :=
      ⟨h.outcomes, h.replies, h.clearing, h.awaited⟩
    refine hleft.outcome ?_
    cases request with
    | updateConfig | migrateDbTimezone => exact trivial
  · rcases (GuardHolder.isAwaiting_eq_some hawaiting).2 with rfl | rfl
    · exact h.finish trivial
    · exact h.finish trivial
  · exact (h.remove number).outcome trivial

section Steps

variable [TzDatabase Tz]

theorem arrive (h : AnswerInv s) (request : CommitRequest) : AnswerInv (s.arrive request) := by
  have hcounted : AnswerInv { s with requests := s.requests + 1 } :=
    ⟨h.outcomes, h.replies, h.clearing, h.awaited⟩
  unfold CommitRun.arrive
  cases request with
  | updateConfig candidate => exact ⟨h.outcomes, h.replies, h.clearing, h.awaited⟩
  | migrateDbTimezone newTimezone =>
    dsimp only
    split
    next => exact ⟨h.outcomes, h.replies, h.clearing, h.awaited⟩
    next => exact hcounted.outcome trivial

theorem lockUpdate [Environment] (h : AnswerInv s) (number : ℕ) (candidate : AppConfig) :
    AnswerInv (s.lockUpdate number candidate) := by
  unfold CommitRun.lockUpdate
  dsimp only
  split
  next => exact h.finish trivial
  next =>
    split_ifs with hfields hsame
    · exact h.finish trivial
    · -- the live configuration is the answer, and is what is committed
      refine (h.commit (number, .replace _)).finish (List.mem_append_right _ ?_)
      rw [hsame]
      exact List.mem_singleton_self _
    · exact h.hold number rfl

theorem lockMigration [Environment] (h : AnswerInv s) (number : ℕ) (newTimezone : String) :
    AnswerInv (s.lockMigration number newTimezone) := by
  unfold CommitRun.lockMigration
  dsimp only
  split_ifs with hsame
  · exact h.hold number rfl
  · split
    next => exact h.finish trivial
    next => exact h.hold number rfl

variable [DecidableEq Tz]

theorem executeBundle (h : AnswerInv s) {number : ℕ} {bundle : TimezoneBundle}
    (hguard : s.guard = some (number, .queued bundle)) (faults : HolderFaults) :
    AnswerInv (s.executeBundle number bundle faults) := by
  unfold CommitRun.executeBundle
  split
  next => exact h.dropBundle fun _ _ _ hreply => nomatch hreply
  next =>
    split
    next err db _ =>
      have hdropped : AnswerInv (s.dropBundle number (.error (dbErrorText err))) :=
        h.dropBundle fun _ _ _ hreply => nomatch hreply
      exact ⟨hdropped.outcomes, hdropped.replies, hdropped.clearing, hdropped.awaited⟩
    next rewritten db _ =>
      have hnext : AnswerInv (s.hold number (.finalizing bundle rewritten)) :=
        h.next hguard rfl nofun
      exact ⟨hnext.outcomes, hnext.replies, hnext.clearing, hnext.awaited⟩

/-- The holder of the guard commits before it answers. -/
theorem holderStep [Environment] [TomlFormat] (h : AnswerInv s) {number : ℕ}
    {holder : GuardHolder} (hguard : s.guard = some (number, holder)) (faults : HolderFaults) :
    AnswerInv (s.holderStep path number faults holder) := by
  cases holder with
  | preparingUpdate candidate =>
    rw [CommitRun.holderStep]
    split
    next err _ =>
      have hfinished : AnswerInv (s.finish number (.updated (.error (.persistence err)))) :=
        h.finish trivial
      exact ⟨hfinished.outcomes, hfinished.replies, hfinished.clearing, hfinished.awaited⟩
    next => exact h.hold number rfl
  | persistingUpdate candidate content =>
    rw [CommitRun.holderStep]
    split
    next err _ =>
      have hfinished :
          AnswerInv (s.finish number (.updated (.error (.persistence (persistError path err))))) :=
        h.finish trivial
      exact ⟨hfinished.outcomes, hfinished.replies, hfinished.clearing, hfinished.awaited⟩
    next =>
      have hheld : AnswerInv (s.hold number (.applyingUpdate candidate)) := h.hold number rfl
      exact ⟨hheld.outcomes, hheld.replies, hheld.clearing, hheld.awaited⟩
  | applyingUpdate candidate =>
    have hcommitted : AnswerInv (s.applyCommit number candidate (.replace candidate)) := by
      have hcommit := h.commit (number, .replace candidate)
      exact ⟨hcommit.outcomes, hcommit.replies, hcommit.clearing, hcommit.awaited⟩
    exact hcommitted.finish (List.mem_append_right _ (List.mem_singleton_self _))
  | preparingMigration oldTimezone newTimezone candidate =>
    rw [CommitRun.holderStep]
    split
    next => exact h.finish trivial
    next => exact h.hold number rfl
  | admitting bundle =>
    rw [CommitRun.holderStep]
    split
    next => exact h.finish trivial
    next =>
      -- the caller waits for the reply to this bundle from now on
      refine ⟨h.outcomes, ?_, ?_, ?_⟩
      · intro number' awaited hget rows hrows
        simp only [KeyedMap.get_set] at hget
        split_ifs at hget
        · cases hget
          cases hrows
        · exact h.replies number' awaited hget rows hrows
      · rintro _ _ _ ⟨⟩
      · rintro _ _ bundle' awaited ⟨⟩ ⟨⟩ hget
        simp only [KeyedMap.get_set_self] at hget
        cases hget
        rfl
  | queued bundle => exact h.executeBundle hguard faults
  | finalizing bundle rewritten =>
    rw [CommitRun.holderStep]
    split
    next =>
      refine (h.commit (number, .setTimezone bundle.newTimezone)).next hguard rfl ?_
      rintro _ _ ⟨⟩
      exact List.mem_append_right _ (List.mem_singleton_self _)
    next content candidate _ =>
      split
      next => exact h.hold number rfl
      next =>
        have hnext : AnswerInv (s.hold number (.applyingBundle bundle candidate rewritten)) :=
          h.next hguard rfl fun _ _ hheld => by cases hheld
        exact ⟨hnext.outcomes, hnext.replies, hnext.clearing, hnext.awaited⟩
  | applyingBundle bundle candidate rewritten =>
    rw [CommitRun.holderStep]
    split
    next => exact h.hold number rfl
    next =>
      have hnext : AnswerInv (CommitRun.hold
          { s with commits := s.commits ++ [(number, .setTimezone bundle.newTimezone)] } number
          (.clearing bundle rewritten)) := by
        refine (h.commit (number, .setTimezone bundle.newTimezone)).next hguard rfl ?_
        rintro _ _ ⟨⟩
        exact List.mem_append_right _ (List.mem_singleton_self _)
      exact ⟨hnext.outcomes, hnext.replies, hnext.clearing, hnext.awaited⟩
  | clearing bundle rewritten =>
    rw [CommitRun.holderStep]
    split
    next db _ =>
      have hdropped : AnswerInv (s.dropBundle number (.ok rewritten)) := by
        apply h.dropBundle
        intro awaited rows hget _
        rw [h.awaited number _ bundle awaited hguard rfl hget]
        exact h.clearing number bundle rewritten hguard
      exact ⟨hdropped.outcomes, hdropped.replies, hdropped.clearing, hdropped.awaited⟩
    next err db _ =>
      have hheld : AnswerInv (s.hold number
          (.failing ("failed to clear timezone sync marker: " ++ dbErrorText err))) :=
        h.hold number rfl
      exact ⟨hheld.outcomes, hheld.replies, hheld.clearing, hheld.awaited⟩
  | failing message =>
    have hdropped : AnswerInv (s.dropBundle number (.error
        s!"database actor poisoned after timezone post-commit failure: {message}")) :=
      h.dropBundle fun _ _ _ hreply => by cases hreply
    exact ⟨hdropped.outcomes, hdropped.replies, hdropped.clearing, hdropped.awaited⟩

/-- Every step keeps the invariant. -/
theorem step [Environment] [TomlFormat] [Sha256] [SnapshotMessage σ] (h : AnswerInv s)
    {label : CommitLabel σ} (hstep : s.step path label = some s') : AnswerInv s' := by
  have hunqueued : ∀ number, AnswerInv { s with waiting := s.waiting.remove number } :=
    fun _ => ⟨h.outcomes, h.replies, h.clearing, h.awaited⟩
  apply CommitRun.step_elim hstep
  · exact fun request _ => h.arrive request
  · exact fun number candidate _ _ => (hunqueued number).lockUpdate number candidate
  · exact fun number newTimezone _ _ => (hunqueued number).lockMigration number newTimezone
  · exact fun _ _ faults _ hguard => h.holderStep hguard faults
  · exact fun _ => h.receive
  · exact fun _ => h.cancel
  · intro snapshot fetchedAtUnixMs faults _
    obtain ⟨db, changes, hput⟩ := s.putHistory_eq snapshot fetchedAtUnixMs faults
    rw [hput]
    exact ⟨h.outcomes, h.replies, h.clearing, h.awaited⟩

end Steps

end AnswerInv

end Answers

end WeatherApp
