import WeatherApp.Engine.CommitLockLaw

/-!
# Failures change nothing

A request that fails before its effect has changed nothing, and never will: an effect is only made
on behalf of the request that has the guard.

## Main definitions

* `CommitRun.Spared`: nothing has been or will be done for a request.
* `EffectInv`: what fails has been spared.

## Main results

* `EffectInv.step`: every step keeps it.
* `EffectInv.frame`: without an effect a step changes nothing.
-/

namespace WeatherApp

section Effects

variable {Tz σ : Type} {path : String} {s s' : CommitRun Tz}

/-- Nothing durable has been done for the request, and nothing will be: nobody works on it. -/
structure CommitRun.Spared (s : CommitRun Tz) (number : ℕ) : Prop where
  counted : number < s.requests
  waiting : s.waiting.get number = none
  guard : ∀ holder, s.guard ≠ some (number, holder)
  effects : number ∉ s.effects

theorem CommitRun.Spared.unqueue {number : ℕ} (h : s.Spared number) (left : ℕ) :
    CommitRun.Spared { s with waiting := s.waiting.remove left } number := by
  refine { h with waiting := ?_ }
  show (s.waiting.remove left).get number = none
  rw [KeyedMap.get_remove]
  split_ifs
  · rfl
  · exact h.waiting

/-- What a failure says of its request. -/
def CommitOutcome.Spares (s : CommitRun Tz) (number : ℕ) : CommitOutcome → Prop
  | updated (.error _) | updateCancelled => s.Spared number
  | migrated (.error _) => s.Spared number ∨ s.terminal ≠ none
  | _ => True

theorem CommitOutcome.Spares.mono {number : ℕ} {outcome : CommitOutcome}
    (h : outcome.Spares s number) (hspared : s.Spared number → s'.Spared number)
    (hterminal : s.terminal ≠ none → s'.terminal ≠ none) : outcome.Spares s' number := by
  match outcome with
  | .updated (.error _) | .updateCancelled => exact hspared h
  | .migrated (.error _) => exact h.imp hspared hterminal
  | .updated (.ok _) | .migrated (.ok _) | .migrationCancelled => exact trivial

/-- What fails has changed nothing, unless the engine is to be restarted. -/
structure EffectInv (s : CommitRun Tz) : Prop where
  waiting : ∀ number request, s.waiting.get number = some request →
    number < s.requests ∧ number ∉ s.effects ∧ ∀ holder, s.guard ≠ some (number, holder)
  guard : ∀ number holder, s.guard = some (number, holder) →
    number < s.requests ∧ (number ∈ s.effects ↔ holder.isBeforeEffect = false)
  effects : ∀ number ∈ s.effects, number < s.requests
  replies : ∀ number awaited err, s.replies.get number = some awaited →
    awaited.reply = some (.error err) → s.Spared number ∨ s.terminal ≠ none
  outcomes : ∀ entry ∈ s.outcomes, entry.2.Spares s entry.1

namespace EffectInv

/-- The holder of the guard is not waiting for it. -/
theorem waiting_of_guard (h : EffectInv s) {number : ℕ} {holder : GuardHolder}
    (hguard : s.guard = some (number, holder)) : s.waiting.get number = none := by
  by_contra hsome
  obtain ⟨request, hrequest⟩ := Option.ne_none_iff_exists'.1 hsome
  exact (h.waiting number request hrequest).2.2 holder hguard

/-- The holder of the guard lets go of it before it has done anything. -/
theorem spared_of_guard (h : EffectInv s) {number : ℕ} {holder : GuardHolder}
    (hguard : s.guard = some (number, holder)) (hbefore : holder.isBeforeEffect = true) :
    CommitRun.Spared { s with guard := none } number where
  counted := (h.guard number holder hguard).1
  waiting := h.waiting_of_guard hguard
  guard _ := nofun
  effects hmem := by
    have hafter := (h.guard number holder hguard).2.1 hmem
    rw [hbefore] at hafter
    cases hafter

/-- What the configuration, its file and the database are does not matter here. -/
theorem values (h : EffectInv s) (state : ConfigState) (file : String) (db : DbInstance Tz)
    (commits : List (ℕ × ConfigCommit)) (changes : List (HistoryChange Tz)) :
    EffectInv { s with state, file, db, commits, changes } where
  waiting := h.waiting
  guard := h.guard
  effects := h.effects
  replies number awaited err hget herr :=
    (h.replies number awaited err hget herr).imp (fun hspared => { hspared with }) id
  outcomes entry hentry := (h.outcomes entry hentry).mono (fun hspared => { hspared with }) id

/-- The engine asks to be restarted. -/
theorem terminate (h : EffectInv s) (message : String) :
    EffectInv { s with terminal := some message } where
  waiting := h.waiting
  guard := h.guard
  effects := h.effects
  replies _ _ _ _ _ := .inr (Option.some_ne_none message)
  outcomes entry hentry :=
    (h.outcomes entry hentry).mono (fun hspared => { hspared with })
      fun _ => Option.some_ne_none message

/-- One more outcome. -/
theorem outcome (h : EffectInv s) {number : ℕ} {outcome : CommitOutcome}
    (houtcome : outcome.Spares s number) :
    EffectInv { s with outcomes := s.outcomes ++ [(number, outcome)] } where
  waiting := h.waiting
  guard := h.guard
  effects := h.effects
  replies number' awaited err hget herr :=
    (h.replies number' awaited err hget herr).imp (fun hspared => { hspared with }) id
  outcomes entry hentry := by
    have hspared : entry.2.Spares s entry.1 := by
      rcases List.mem_append.1 hentry with hold | hnew
      · exact h.outcomes entry hold
      · rw [List.mem_singleton.1 hnew]
        exact houtcome
    exact hspared.mono (fun hspared => { hspared with }) id

/-- The guard is dropped. -/
theorem release (h : EffectInv s) : EffectInv { s with guard := none } where
  waiting number request hget :=
    ⟨(h.waiting number request hget).1, (h.waiting number request hget).2.1, fun _ => nofun⟩
  guard _ _ hguard := nomatch hguard
  effects := h.effects
  replies number awaited err hget herr :=
    (h.replies number awaited err hget herr).imp
      (fun hspared => { hspared with guard := fun _ => nofun }) id
  outcomes entry hentry :=
    (h.outcomes entry hentry).mono (fun hspared => { hspared with guard := fun _ => nofun }) id

/-- The future that has the guard ends, after its effect only with a success. -/
theorem finish (h : EffectInv s) {number : ℕ} {holder : GuardHolder}
    (hguard : s.guard = some (number, holder)) (outcome : CommitOutcome)
    (houtcome : holder.isBeforeEffect = false → outcome.Spares { s with guard := none } number) :
    EffectInv (s.finish number outcome) := by
  refine h.release.outcome ?_
  cases hbefore : holder.isBeforeEffect with
  | false => exact houtcome hbefore
  | true =>
    have hspared := h.spared_of_guard hguard hbefore
    match outcome with
    | .updated (.error _) | .updateCancelled => exact hspared
    | .migrated (.error _) => exact .inl hspared
    | .updated (.ok _) | .migrated (.ok _) | .migrationCancelled => exact trivial

/-- A holder that fails before its effect answers with any error. -/
theorem fail (h : EffectInv s) {number : ℕ} {holder : GuardHolder}
    (hguard : s.guard = some (number, holder)) (hbefore : holder.isBeforeEffect = true)
    (outcome : CommitOutcome) : EffectInv (s.finish number outcome) := by
  apply h.finish hguard
  intro hafter
  rw [hbefore] at hafter
  cases hafter

/-- The guard goes on from one who works on the request to the next. -/
theorem next (h : EffectInv s) {number : ℕ} {holder : GuardHolder}
    (hguard : s.guard = some (number, holder)) (holder' : GuardHolder)
    (hbefore : holder'.isBeforeEffect = holder.isBeforeEffect) :
    EffectInv (s.hold number holder') := by
  have hspared : ∀ number', s.Spared number' → (s.hold number holder').Spared number' := by
    intro number' hspared
    refine { hspared with guard := ?_ }
    rintro _ ⟨⟩
    exact hspared.guard holder hguard
  refine ⟨?_, ?_, h.effects, ?_, ?_⟩
  · intro number' request hget
    obtain ⟨hcounted, heffects, hholder⟩ := h.waiting number' request hget
    refine ⟨hcounted, heffects, ?_⟩
    rintro _ ⟨⟩
    exact hholder holder hguard
  · rintro _ _ ⟨⟩
    rw [hbefore]
    exact h.guard number holder hguard
  · intro number' awaited err hget herr
    exact (h.replies number' awaited err hget herr).imp (hspared number') id
  · intro entry hentry
    exact (h.outcomes entry hentry).mono (hspared entry.1) id

/-- The holder of the guard does something durable. -/
theorem effect (h : EffectInv s) {number : ℕ} {holder : GuardHolder}
    (hguard : s.guard = some (number, holder)) (holder' : GuardHolder)
    (hafter : holder'.isBeforeEffect = false) :
    EffectInv { s.hold number holder' with effects := s.effects ++ [number] } := by
  have hspared : ∀ number', s.Spared number' →
      CommitRun.Spared { s.hold number holder' with effects := s.effects ++ [number] } number' := by
    intro number' hspared
    refine { hspared with guard := ?_, effects := ?_ }
    · rintro _ ⟨⟩
      exact hspared.guard holder hguard
    · intro hmem
      rcases List.mem_append.1 hmem with hold | hnew
      · exact hspared.effects hold
      · rw [List.mem_singleton.1 hnew] at hspared
        exact hspared.guard holder hguard
  refine ⟨?_, ?_, ?_, ?_, ?_⟩
  · intro number' request hget
    obtain ⟨hcounted, heffects, hholder⟩ := h.waiting number' request hget
    refine ⟨hcounted, ?_, ?_⟩
    · intro hmem
      rcases List.mem_append.1 hmem with hold | hnew
      · exact heffects hold
      · rw [List.mem_singleton.1 hnew] at hholder
        exact hholder holder hguard
    · rintro _ ⟨⟩
      exact hholder holder hguard
  · rintro _ _ ⟨⟩
    refine ⟨(h.guard number holder hguard).1, fun _ => hafter, fun _ => ?_⟩
    exact List.mem_append_right _ (List.mem_singleton_self _)
  · intro number' hmem
    rcases List.mem_append.1 hmem with hold | hnew
    · exact h.effects number' hold
    · rw [List.mem_singleton.1 hnew]
      exact (h.guard number holder hguard).1
  · intro number' awaited err hget herr
    exact (h.replies number' awaited err hget herr).imp (hspared number') id
  · intro entry hentry
    exact (h.outcomes entry hentry).mono (hspared entry.1) id

/-- A caller leaves. -/
theorem remove (h : EffectInv s) (number : ℕ) :
    EffectInv { s with replies := s.replies.remove number } where
  waiting := h.waiting
  guard := h.guard
  effects := h.effects
  replies number' awaited err hget herr :=
    (h.replies number' awaited err (KeyedMap.get_of_get_remove hget) herr).imp
      (fun hspared => { hspared with }) id
  outcomes entry hentry := (h.outcomes entry hentry).mono (fun hspared => { hspared with }) id

/-- A caller starts to wait, or is sent its reply. -/
theorem await (h : EffectInv s) {number : ℕ} {awaited : AwaitedReply}
    (hawaited : ∀ err, awaited.reply = some (.error err) →
      s.Spared number ∨ s.terminal ≠ none) :
    EffectInv { s with replies := s.replies.set number awaited } where
  waiting := h.waiting
  guard := h.guard
  effects := h.effects
  replies number' awaited' err hget herr := by
    have hspared : s.Spared number' ∨ s.terminal ≠ none := by
      rw [KeyedMap.get_set] at hget
      split_ifs at hget with hnumber
      · cases hget
        subst hnumber
        exact hawaited err herr
      · exact h.replies number' awaited' err hget herr
    exact hspared.imp (fun hspared => { hspared with }) id
  outcomes entry hentry := (h.outcomes entry hentry).mono (fun hspared => { hspared with }) id

/-- The bundle is dropped, after its effect with a failure only if the engine is to be restarted. -/
theorem dropBundle (h : EffectInv s) {number : ℕ} {holder : GuardHolder}
    (hguard : s.guard = some (number, holder)) (reply : Except String ℕ)
    (hreply : ∀ err, reply = .error err → holder.isBeforeEffect = true ∨ s.terminal ≠ none) :
    EffectInv (s.dropBundle number reply) := by
  unfold CommitRun.dropBundle
  split
  next awaited _ =>
    refine h.release.await ?_
    intro err herr
    rcases hreply err (Option.some.inj herr) with hbefore | hterminal
    · exact .inl (h.spared_of_guard hguard hbefore)
    · exact .inr hterminal
  next => exact h.release

/-- A request that waits gets the guard. -/
theorem take (h : EffectInv s) {number : ℕ} {request : CommitRequest}
    (hrequest : s.waiting.get number = some request) (holder : GuardHolder)
    (hbefore : holder.isBeforeEffect = true) :
    EffectInv
      (CommitRun.hold { s with waiting := s.waiting.remove number } number holder) := by
  obtain ⟨hcounted, heffects, -⟩ := h.waiting number request hrequest
  have hspared : ∀ number', s.Spared number' →
      (CommitRun.hold { s with waiting := s.waiting.remove number } number holder).Spared
        number' := by
    intro number' hspared
    refine { hspared.unqueue number with guard := ?_ }
    rintro _ ⟨⟩
    rw [hspared.waiting] at hrequest
    cases hrequest
  refine ⟨?_, ?_, h.effects, ?_, ?_⟩
  · intro number' request' hget
    obtain ⟨hcounted', heffects', -⟩ :=
      h.waiting number' request' (KeyedMap.get_of_get_remove hget)
    refine ⟨hcounted', heffects', ?_⟩
    rintro _ ⟨⟩
    have hleft : (s.waiting.remove number).get number = none := by
      rw [KeyedMap.get_remove, if_pos rfl]
    exact absurd hget (hleft ▸ nofun)
  · rintro _ _ ⟨⟩
    refine ⟨hcounted, fun hmem => absurd hmem heffects, fun hafter => ?_⟩
    rw [hbefore] at hafter
    cases hafter
  · intro number' awaited err hget herr
    exact (h.replies number' awaited err hget herr).imp (hspared number') id
  · intro entry hentry
    exact (h.outcomes entry hentry).mono (hspared entry.1) id

/-- A request that waits does not wait any more. -/
theorem leave (h : EffectInv s) {number : ℕ} {request : CommitRequest} {outcome : CommitOutcome}
    (hrequest : s.waiting.get number = some request)
    (hheld : ∀ t : CommitRun Tz, t.Spared number → outcome.Spares t number) :
    EffectInv { s with
      waiting := s.waiting.remove number
      outcomes := s.outcomes ++ [(number, outcome)] } := by
  have hwaits := h.waiting number request hrequest
  have hleft : EffectInv { s with waiting := s.waiting.remove number } := by
    refine ⟨?_, h.guard, h.effects, ?_, ?_⟩
    · intro number' request' hget
      exact h.waiting number' request' (KeyedMap.get_of_get_remove hget)
    · intro number' awaited err hget herr
      exact (h.replies number' awaited err hget herr).imp (fun hspared => hspared.unqueue number) id
    · intro entry hentry
      exact (h.outcomes entry hentry).mono (fun hspared => hspared.unqueue number) id
  refine hleft.outcome (hheld _ ?_)
  refine ⟨hwaits.1, ?_, hwaits.2.2, hwaits.2.1⟩
  show (s.waiting.remove number).get number = none
  rw [KeyedMap.get_remove, if_pos rfl]

section Steps

variable [TzDatabase Tz]

omit [TzDatabase Tz] in
/-- Nothing is known of the next request yet. -/
theorem fresh (h : EffectInv s) : s.waiting.get s.requests = none ∧
    (∀ holder, s.guard ≠ some (s.requests, holder)) ∧ s.requests ∉ s.effects := by
  refine ⟨?_, ?_, ?_⟩
  · by_contra hsome
    obtain ⟨request, hrequest⟩ := Option.ne_none_iff_exists'.1 hsome
    exact lt_irrefl _ (h.waiting _ request hrequest).1
  · intro holder hguard
    exact lt_irrefl _ (h.guard _ holder hguard).1
  · intro hmem
    exact lt_irrefl _ (h.effects _ hmem)

omit [TzDatabase Tz] in
/-- One more request. -/
theorem count (h : EffectInv s) : EffectInv { s with requests := s.requests + 1 } where
  waiting number request hget :=
    ⟨(h.waiting number request hget).1.trans (Nat.lt_succ_self _), (h.waiting number request hget).2⟩
  guard number holder hguard :=
    ⟨(h.guard number holder hguard).1.trans (Nat.lt_succ_self _), (h.guard number holder hguard).2⟩
  effects number hmem := (h.effects number hmem).trans (Nat.lt_succ_self _)
  replies number awaited err hget herr :=
    (h.replies number awaited err hget herr).imp
      (fun hspared => { hspared with counted := hspared.counted.trans (Nat.lt_succ_self _) }) id
  outcomes entry hentry :=
    (h.outcomes entry hentry).mono
      (fun hspared => { hspared with counted := hspared.counted.trans (Nat.lt_succ_self _) }) id

theorem arrive (h : EffectInv s) (request : CommitRequest) : EffectInv (s.arrive request) := by
  obtain ⟨hwaiting, hguard, heffects⟩ := h.fresh
  have hqueued : EffectInv { s with
      requests := s.requests + 1
      waiting := s.waiting.set s.requests request } := by
    have hspared : ∀ number, s.Spared number → CommitRun.Spared { s with
        requests := s.requests + 1
        waiting := s.waiting.set s.requests request } number := by
      intro number hspared
      refine { hspared with
        counted := hspared.counted.trans (Nat.lt_succ_self _)
        waiting := ?_ }
      exact (KeyedMap.get_set_of_ne hspared.counted.ne).trans hspared.waiting
    refine ⟨?_, h.count.guard, h.count.effects, ?_, ?_⟩
    · intro number request' hget
      rw [KeyedMap.get_set] at hget
      split_ifs at hget with hnumber
      · subst hnumber
        exact ⟨Nat.lt_succ_self _, heffects, hguard⟩
      · exact h.count.waiting number request' hget
    · intro number awaited err hget herr
      exact (h.replies number awaited err hget herr).imp (hspared number) id
    · intro entry hentry
      exact (h.outcomes entry hentry).mono (hspared entry.1) id
  unfold CommitRun.arrive
  cases request with
  | updateConfig candidate => exact hqueued
  | migrateDbTimezone newTimezone =>
    dsimp only
    split
    next => exact hqueued
    next => exact h.count.outcome (.inl ⟨Nat.lt_succ_self _, hwaiting, hguard, heffects⟩)

theorem lockUpdate [Environment] (h : EffectInv s) {number : ℕ} {request : CommitRequest}
    (hrequest : s.waiting.get number = some request) (candidate : AppConfig) :
    EffectInv
      (CommitRun.lockUpdate { s with waiting := s.waiting.remove number } number candidate) := by
  -- it has the guard while it checks the candidate
  have htaken := h.take hrequest (.preparingUpdate candidate) rfl
  have hended : ∀ outcome, EffectInv
      (CommitRun.finish { s with waiting := s.waiting.remove number } number outcome) :=
    fun outcome => htaken.finish rfl outcome nofun
  unfold CommitRun.lockUpdate
  dsimp only
  split
  next => exact hended _
  next =>
    split_ifs with hfields hsame
    · exact hended _
    · exact (hended _).values _ _ _ _ _
    · exact h.take hrequest _ rfl

theorem lockMigration [Environment] (h : EffectInv s) {number : ℕ} {request : CommitRequest}
    (hrequest : s.waiting.get number = some request) (newTimezone : String) :
    EffectInv (CommitRun.lockMigration { s with waiting := s.waiting.remove number } number
      newTimezone) := by
  have htaken := h.take hrequest (.admitting ⟨newTimezone, newTimezone, none⟩) rfl
  unfold CommitRun.lockMigration
  dsimp only
  split_ifs with hsame
  · exact h.take hrequest _ rfl
  · split
    next => exact htaken.finish rfl _ nofun
    next => exact h.take hrequest _ rfl

omit [TzDatabase Tz] in
theorem receive (h : EffectInv s) {number : ℕ} (hstep : s.receive number = some s') :
    EffectInv s' := by
  obtain ⟨awaited, reply, hget, hreply, rfl⟩ := CommitRun.receive_cases hstep
  refine (h.remove number).outcome ?_
  cases reply with
  | error err =>
    exact (h.replies number awaited err hget hreply).imp (fun hspared => { hspared with }) id
  | ok rows => exact trivial

omit [TzDatabase Tz] in
theorem cancel (h : EffectInv s) {number : ℕ} (hstep : s.cancel number = some s') :
    EffectInv s' := by
  rcases CommitRun.cancel_cases hstep with ⟨request, hrequest, rfl⟩ |
    ⟨holder, outcome, hguard, hawaiting, rfl⟩ | ⟨awaited, -, rfl⟩
  · apply h.leave hrequest
    intro t hspared
    cases request with
    | updateConfig => exact hspared
    | migrateDbTimezone => exact trivial
  · apply h.finish hguard outcome
    rw [(GuardHolder.isAwaiting_eq_some hawaiting).1]
    exact nofun
  · exact (h.remove number).outcome trivial

variable [DecidableEq Tz]

theorem executeBundle (h : EffectInv s) {number : ℕ} {bundle : TimezoneBundle}
    (hguard : s.guard = some (number, .queued bundle)) (faults : HolderFaults) :
    EffectInv (s.executeBundle number bundle faults) := by
  have hdropped : ∀ reply, EffectInv (s.dropBundle number reply) :=
    fun reply => h.dropBundle hguard reply fun _ _ => .inl rfl
  unfold CommitRun.executeBundle
  split
  next => exact hdropped _
  next =>
    split
    next => exact (hdropped _).values _ _ _ _ _
    next rewritten db _ =>
      have heffect := h.effect hguard (.finalizing bundle rewritten) rfl
      exact heffect.values _ _ db _ _

/-- The holder of the guard fails only before its effect, unless the engine is to be restarted. -/
theorem holderStep [Environment] [TomlFormat] (h : EffectInv s) {number : ℕ}
    {holder : GuardHolder} (hguard : s.guard = some (number, holder)) (faults : HolderFaults) :
    EffectInv (s.holderStep path number faults holder) := by
  cases holder with
  | preparingUpdate candidate =>
    rw [CommitRun.holderStep]
    split
    next => exact (h.fail hguard rfl _).values _ _ _ _ _
    next => exact h.next hguard _ rfl
  | persistingUpdate candidate content =>
    rw [CommitRun.holderStep]
    split
    next => exact (h.fail hguard rfl _).values _ _ _ _ _
    next =>
      have heffect := h.effect hguard (.applyingUpdate candidate) rfl
      exact heffect.values _ content _ _ _
  | applyingUpdate candidate =>
    have hfinished := h.finish hguard (.updated (.ok candidate)) fun _ => trivial
    exact hfinished.values _ _ _ _ _
  | preparingMigration oldTimezone newTimezone candidate =>
    rw [CommitRun.holderStep]
    split
    next => exact h.fail hguard rfl _
    next => exact h.next hguard _ rfl
  | admitting bundle =>
    rw [CommitRun.holderStep]
    split
    next => exact h.fail hguard rfl _
    next =>
      have hqueued := h.next hguard (.queued bundle) rfl
      exact hqueued.await fun _ herr => by cases herr
  | queued bundle => exact h.executeBundle hguard faults
  | finalizing bundle rewritten =>
    rw [CommitRun.holderStep]
    split
    next =>
      have hnext := h.next hguard (.clearing bundle rewritten) rfl
      exact hnext.values _ _ _ _ _
    next content candidate _ =>
      split
      next => exact h.next hguard _ rfl
      next =>
        have hnext := h.next hguard (.applyingBundle bundle candidate rewritten) rfl
        exact hnext.values _ content _ _ _
  | applyingBundle bundle candidate rewritten =>
    rw [CommitRun.holderStep]
    split
    next => exact h.next hguard _ rfl
    next =>
      have hnext := h.next hguard (.clearing bundle rewritten) rfl
      exact hnext.values _ _ _ _ _
  | clearing bundle rewritten =>
    rw [CommitRun.holderStep]
    split
    next db _ =>
      have hdropped := h.dropBundle hguard (.ok rewritten) fun _ herr => by cases herr
      exact hdropped.values _ _ db _ _
    next err db _ =>
      have hnext := h.next hguard (.failing
        ("failed to clear timezone sync marker: " ++ dbErrorText err)) rfl
      exact hnext.values _ _ db _ _
  | failing message =>
    -- the engine asks to be restarted before the caller has its reply
    have hdropped := (h.terminate (s.terminal.getD
      s!"database actor poisoned after timezone post-commit failure: {message}")).dropBundle hguard
        (.error s!"database actor poisoned after timezone post-commit failure: {message}")
        fun _ _ => .inr (Option.some_ne_none _)
    exact hdropped.values _ _ _ _ _

/-- Every step keeps the invariant. -/
theorem step [Environment] [TomlFormat] [Sha256] [SnapshotMessage σ] (h : EffectInv s)
    {label : CommitLabel σ} (hstep : s.step path label = some s') : EffectInv s' := by
  apply CommitRun.step_elim hstep
  · exact fun request _ => h.arrive request
  · exact fun _ candidate _ hrequest => h.lockUpdate hrequest candidate
  · exact fun _ newTimezone _ hrequest => h.lockMigration hrequest newTimezone
  · exact fun _ _ faults _ hguard => h.holderStep hguard faults
  · exact fun _ => h.receive
  · exact fun _ => h.cancel
  · intro snapshot fetchedAtUnixMs faults _
    obtain ⟨db, changes, hput⟩ := s.putHistory_eq snapshot fetchedAtUnixMs faults
    rw [hput]
    exact h.values s.state s.file db s.commits changes

end Steps

end EffectInv

/-! ## What a step without an effect changes -/

section Frame

variable [Environment] [TomlFormat] [TzDatabase Tz] [DecidableEq Tz]

omit [Environment] [TomlFormat] in
theorem CommitRun.subset_effects_executeBundle (s : CommitRun Tz) (number : ℕ)
    (bundle : TimezoneBundle) (faults : HolderFaults) :
    s.effects ⊆ (s.executeBundle number bundle faults).effects := by
  unfold CommitRun.executeBundle
  split
  next => exact List.Subset.refl _
  next =>
    split
    next => exact List.Subset.refl _
    next => exact List.subset_append_left _ _

omit [Environment] in
theorem CommitRun.subset_effects_holderStep (s : CommitRun Tz) (number : ℕ)
    (faults : HolderFaults) (holder : GuardHolder) :
    s.effects ⊆ (s.holderStep path number faults holder).effects := by
  cases holder with
  | queued bundle => exact s.subset_effects_executeBundle number bundle faults
  | persistingUpdate =>
    rw [CommitRun.holderStep]
    split
    next => exact List.Subset.refl _
    next => exact List.subset_append_left _ _
  | preparingUpdate | preparingMigration | admitting | applyingBundle | clearing =>
    rw [CommitRun.holderStep]
    split
    next => exact List.Subset.refl _
    next => exact List.Subset.refl _
  | finalizing =>
    rw [CommitRun.holderStep]
    split
    next => exact List.Subset.refl _
    next =>
      split
      next => exact List.Subset.refl _
      next => exact List.Subset.refl _
  | applyingUpdate | failing => exact List.Subset.refl _

omit [Environment] in
/-- The holder of the guard that has had no effect has changed nothing. -/
theorem EffectInv.frame_holderStep (h : EffectInv s) {number : ℕ} {holder : GuardHolder}
    (hguard : s.guard = some (number, holder)) {faults : HolderFaults}
    (hspared : number ∉ (s.holderStep path number faults holder).effects) :
    s.SameValues (s.holderStep path number faults holder) := by
  have hbefore : holder.isBeforeEffect = true := by
    by_contra hafter
    rw [Bool.not_eq_true] at hafter
    exact hspared (s.subset_effects_holderStep number faults holder
      ((h.guard number holder hguard).2.2 hafter))
  cases holder with
  | preparingUpdate | preparingMigration | admitting =>
    rw [CommitRun.holderStep]
    split
    next => exact ⟨rfl, rfl, rfl⟩
    next => exact ⟨rfl, rfl, rfl⟩
  | persistingUpdate =>
    rw [CommitRun.holderStep] at hspared ⊢
    split at hspared
    next => exact ⟨rfl, rfl, rfl⟩
    next => exact absurd (List.mem_append_right _ (List.mem_singleton_self _)) hspared
  | queued bundle =>
    rw [CommitRun.holderStep] at hspared ⊢
    unfold CommitRun.executeBundle at hspared ⊢
    split at hspared
    next => exact ⟨rfl, rfl, rfl⟩
    next =>
      split at hspared
      next hmigrate => exact ⟨rfl, rfl, migrateTimezone_error hmigrate⟩
      next => exact absurd (List.mem_append_right _ (List.mem_singleton_self _)) hspared
  | applyingUpdate | finalizing | applyingBundle | clearing | failing => cases hbefore

variable [Sha256] [SnapshotMessage σ]

/-- What has been done stays done. -/
theorem CommitRun.subset_effects {label : CommitLabel σ} (hstep : s.step path label = some s') :
    s.effects ⊆ s'.effects := by
  rcases CommitRun.step_cases hstep with hquiet | ⟨faults, number, holder, -, -, rfl⟩ |
    ⟨snapshot, fetchedAtUnixMs, faults, -, rfl⟩
  · rw [hquiet.effects]
    exact List.Subset.refl _
  · exact s.subset_effects_holderStep number faults holder
  · obtain ⟨db, changes, hput⟩ := s.putHistory_eq snapshot fetchedAtUnixMs faults
    rw [hput]
    exact List.Subset.refl _

/-- A step on behalf of a request that has had no effect changes nothing. -/
theorem EffectInv.frame (h : EffectInv s) {label : CommitLabel σ}
    (hstep : s.step path label = some s') {number : ℕ} (hbehalf : s.behalf label = some number)
    (hspared : number ∉ s'.effects) : s.SameValues s' := by
  rcases CommitRun.step_cases hstep with hquiet | ⟨faults, held, holder, rfl, hguard, rfl⟩ |
    ⟨snapshot, fetchedAtUnixMs, faults, rfl, rfl⟩
  · exact hquiet.toSameValues
  · have hnumber : held = number := by
      rw [CommitRun.behalf, hguard] at hbehalf
      exact Option.some.inj hbehalf
    subst hnumber
    exact h.frame_holderStep hguard hspared
  · -- a put is on behalf of nobody
    cases hbehalf

end Frame

end Effects

end WeatherApp
