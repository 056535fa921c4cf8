import WeatherApp.Engine.CommitLockLaw
import WeatherApp.Engine.DiskLaw

/-!
# Timezone migrations of a running engine

While an engine works on timezone migrations, each of the steps after the commit in the database
leaves files from which a startup can recover: the marker names a timezone for which the
configuration file has been prepared, until the file has it.

## Main definitions

* `TimezoneInv`: the invariant of an engine that is sent migrations.

## Main results

* `TimezoneInv.migrate`: what the commit in the database leaves.
* `TimezoneInv.step`: every step keeps the invariant.
-/

namespace WeatherApp

section Runs

variable [Environment] [TomlFormat] {Tz σ : Type} [TzDatabase Tz]

/-! ## An engine that runs -/

namespace GuardHolder

/-- The holder works on a migration. -/
def isMigration : GuardHolder → Bool
  | preparingUpdate _ | persistingUpdate _ _ | applyingUpdate _ => false
  | _ => true

/-- The bundle of a holder that has migrated the database. -/
def migrated : GuardHolder → Option TimezoneBundle
  | finalizing bundle _ | applyingBundle bundle _ _ | clearing bundle _ => some bundle
  | _ => none

omit [Environment] [TomlFormat] in
theorem migrated_eq_none {holder : GuardHolder} (h : holder.isOnWorker = false) :
    holder.migrated = none := by
  cases holder with
  | finalizing | applyingBundle | clearing => cases h
  | preparingUpdate | persistingUpdate | applyingUpdate | preparingMigration | admitting | queued
  | failing => rfl

end GuardHolder

/-- The invariant of an engine that gets no other requests for commits than migrations, and whose
database held the `origin` and has since been changed by the `earlier` runs. -/
structure TimezoneInv (path : String) (origin : List HistoryRow)
    (earlier : List (HistoryChange Tz)) (s : CommitRun Tz) : Prop where
  values : ValueInv path s
  waiting : ∀ number candidate, s.waiting.get number ≠ some (.updateConfig candidate)
  guard : ∀ number holder, s.guard = some (number, holder) → holder.isMigration = true
  working : ∀ number holder, s.guard = some (number, holder) → holder.isOnWorker = true →
    s.terminal = none
  migrated : ∀ number holder bundle, s.guard = some (number, holder) →
    holder.migrated = some bundle → TzDatabase.fromStr bundle.newTimezone = some s.db.timezone
  clearing : ∀ number bundle rewritten filed, s.guard = some (number, .clearing bundle rewritten) →
    Loads Tz path s.file filed → filed.db.timezone = bundle.newTimezone
  disk : ∀ filed, Loads Tz path s.file filed →
    DiskInv path ⟨some s.file, some s.db.tables⟩ (keptRows origin (earlier ++ s.changes)) filed
      s.db.timezone

namespace TimezoneInv

variable {path : String} {origin : List HistoryRow} {earlier : List (HistoryChange Tz)}
  {s s' : CommitRun Tz}

/-- A step that changes neither the configuration nor the database, after which nobody has the
guard who has not had it before or who has migrated the database. -/
theorem quiet (h : TimezoneInv path origin earlier s) (hvalues : ValueInv path s')
    (hquiet : s.Quiet s') (hterminal : s'.terminal = s.terminal)
    (hwaiting : ∀ number candidate, s'.waiting.get number ≠ some (.updateConfig candidate))
    (hguard : ∀ number holder, s'.guard = some (number, holder) →
      s.guard = some (number, holder) ∨
        (holder.isMigration = true ∧ holder.isOnWorker = false)) :
    TimezoneInv path origin earlier s' := by
  refine ⟨hvalues, hwaiting, ?_, ?_, ?_, ?_, ?_⟩
  · intro number holder hheld
    rcases hguard number holder hheld with hold | ⟨hmigration, -⟩
    · exact h.guard number holder hold
    · exact hmigration
  · intro number holder hheld hworker
    rw [hterminal]
    rcases hguard number holder hheld with hold | ⟨-, hidle⟩
    · exact h.working number holder hold hworker
    · exact nomatch hworker.symm.trans hidle
  · intro number holder bundle hheld hmigrated
    rw [hquiet.db]
    rcases hguard number holder hheld with hold | ⟨-, hidle⟩
    · exact h.migrated number holder bundle hold hmigrated
    · exact nomatch hmigrated.symm.trans (GuardHolder.migrated_eq_none hidle)
  · intro number bundle rewritten filed hheld hloads
    rw [hquiet.file] at hloads
    rcases hguard _ _ hheld with hold | ⟨-, hidle⟩
    · exact h.clearing number bundle rewritten filed hold hloads
    · cases hidle
  · intro filed hloads
    rw [hquiet.file] at hloads ⊢
    rw [hquiet.db, hquiet.changes]
    exact h.disk filed hloads

/-- The file holds the live configuration while the bundle is with the actor. -/
theorem filed_eq_live (h : TimezoneInv path origin earlier s) {number : ℕ}
    {bundle : TimezoneBundle} (hterminal : s.terminal = none)
    (hguard : s.guard = some (number, .queued bundle) ∨
      ∃ rewritten, s.guard = some (number, .finalizing bundle rewritten)) :
    Loads Tz path s.file s.state.live := by
  obtain ⟨filed, hloads, hholds⟩ := h.values.filed
  have hlive : filed = s.state.live ∨ s.terminal ≠ none := by
    rcases hguard with hguard | ⟨rewritten, hguard⟩
    · rw [CommitRun.FileHolds, hguard] at hholds
      exact hholds
    · rw [CommitRun.FileHolds, hguard] at hholds
      exact hholds
  rwa [hlive.resolve_right (not_not.2 hterminal)] at hloads

/-- The guard has been dropped. -/
theorem freed (h : TimezoneInv path origin earlier s) (hvalues : ValueInv path s')
    (hwaiting : s'.waiting = s.waiting) (hguard : s'.guard = none)
    (hdisk : ∀ filed, Loads Tz path s'.file filed →
      DiskInv path ⟨some s'.file, some s'.db.tables⟩ (keptRows origin (earlier ++ s'.changes))
        filed s'.db.timezone) : TimezoneInv path origin earlier s' := by
  refine ⟨hvalues, ?_, ?_, ?_, ?_, ?_, hdisk⟩
  · rw [hwaiting]
    exact h.waiting
  · exact fun _ _ hheld => nomatch hguard.symm.trans hheld
  · exact fun _ _ hheld => nomatch hguard.symm.trans hheld
  · exact fun _ _ _ hheld => nomatch hguard.symm.trans hheld
  · exact fun _ _ _ _ hheld => nomatch hguard.symm.trans hheld

/-- The guard goes on to one who works on a migration. -/
theorem held (h : TimezoneInv path origin earlier s) (hvalues : ValueInv path s')
    (hwaiting : s'.waiting = s.waiting) {number : ℕ} {holder : GuardHolder}
    (hguard : s'.guard = some (number, holder)) (hmigration : holder.isMigration = true)
    (hworking : s'.terminal = none)
    (hmigrated : ∀ bundle, holder.migrated = some bundle →
      TzDatabase.fromStr bundle.newTimezone = some s'.db.timezone)
    (hclearing : ∀ bundle rewritten filed, holder = .clearing bundle rewritten →
      Loads Tz path s'.file filed → filed.db.timezone = bundle.newTimezone)
    (hdisk : ∀ filed, Loads Tz path s'.file filed →
      DiskInv path ⟨some s'.file, some s'.db.tables⟩ (keptRows origin (earlier ++ s'.changes))
        filed s'.db.timezone) : TimezoneInv path origin earlier s' := by
  refine ⟨hvalues, ?_, ?_, fun _ _ _ _ => hworking, ?_, ?_, hdisk⟩
  · rw [hwaiting]
    exact h.waiting
  · intro number' holder' hheld
    obtain ⟨rfl, rfl⟩ := Prod.mk.inj (Option.some.inj (hguard.symm.trans hheld))
    exact hmigration
  · intro number' holder' bundle hheld
    obtain ⟨rfl, rfl⟩ := Prod.mk.inj (Option.some.inj (hguard.symm.trans hheld))
    exact hmigrated bundle
  · intro number' bundle rewritten filed hheld
    obtain ⟨rfl, hholder⟩ := Prod.mk.inj (Option.some.inj (hguard.symm.trans hheld))
    exact hclearing bundle rewritten filed hholder

section Holder

variable [DecidableEq Tz]

/-- The commit in the database: the marker names a timezone for which the file can be written. -/
theorem migrate (h : TimezoneInv path origin earlier s) {number rewritten : ℕ}
    {bundle : TimezoneBundle} (hguard : s.guard = some (number, .queued bundle))
    (hterminal : s.terminal = none) {faults : FaultPlan} {db : DbInstance Tz}
    (hmigrate : s.db.migrateTimezone bundle.oldTimezone bundle.newTimezone faults =
      (.ok rewritten, db)) {filed : AppConfig} (hloads : Loads Tz path s.file filed) :
    TzDatabase.fromStr bundle.newTimezone = some db.timezone ∧
      DiskInv path ⟨some s.file, some db.tables⟩
        (keptRows origin (earlier ++
          if bundle.oldTimezone = bundle.newTimezone then s.changes
          else s.changes ++ [.migrate db.timezone])) filed db.timezone := by
  have hdisk := h.disk filed hloads
  have hbundle : BundleOf Tz s.state.live bundle := h.values.holder number _ hguard
  obtain rfl : s.state.live = filed :=
    LoadsAs.config_eq hloads (h.filed_eq_live hterminal (.inl hguard))
  obtain ⟨oldTimezone, newTimezone, hold, hnew, hmigratable, rfl, heffect⟩ :=
    migrateTimezone_ok hmigrate
  refine ⟨hnew, ?_⟩
  obtain ⟨tables, newTimezone⟩ := db
  rcases heffect with ⟨rfl, -, htables⟩ | ⟨hdiffers, hmigrated⟩
  · -- the timezone is the one that is stored
    obtain rfl : tables = s.db.tables := htables
    have hsame : bundle.oldTimezone = bundle.newTimezone :=
      (TzDatabase.name_of_fromStr hold).symm.trans (TzDatabase.name_of_fromStr hnew)
    obtain ⟨stored, hstored, hparse⟩ := hmigratable.stored
    have hcurrent : s.db.timezone = oldTimezone := by
      rw [hdisk.stored_eq hstored, TzDatabase.fromStr_name] at hparse
      exact Option.some.inj hparse
    rw [if_pos hsame, ← hcurrent]
    exact hdisk
  · have hother : bundle.oldTimezone ≠ bundle.newTimezone := by
      intro hsame
      rw [hsame, hnew] at hold
      exact hdiffers (Option.some.inj hold).symm
    rw [if_neg hother, ← List.append_assoc, keptRows_append]
    obtain ⟨⟨file, candidate⟩, hfinalize⟩ :=
      Option.ne_none_iff_exists'.1 fun hnone => hother (hbundle.same hnone)
    obtain ⟨rfl, -, hwritten⟩ := hbundle.prepared file candidate hfinalize
    refine hdisk.migrate hmigrated ⟨file, ?_⟩
    rw [TzDatabase.name_of_fromStr hnew]
    exact hwritten

theorem executeBundle (h : TimezoneInv path origin earlier s) {number : ℕ}
    {bundle : TimezoneBundle} (hguard : s.guard = some (number, .queued bundle))
    (faults : HolderFaults) :
    TimezoneInv path origin earlier (s.executeBundle number bundle faults) := by
  have hvalues := h.values.executeBundle hguard faults
  unfold CommitRun.executeBundle at hvalues ⊢
  split at hvalues
  next => exact h.freed hvalues rfl rfl h.disk
  next hrejects =>
    have hterminal : s.terminal = none := (Option.or_eq_none_iff.1 hrejects).1
    split at hvalues
    next hmigrate =>
      obtain rfl := migrateTimezone_error hmigrate
      exact h.freed hvalues rfl rfl h.disk
    next rewritten db hmigrate =>
      refine h.held hvalues rfl rfl rfl hterminal ?_ (fun _ _ _ hholder => nomatch hholder) ?_
      · rintro _ ⟨⟩
        obtain ⟨filed, hloads, -⟩ := h.values.filed
        exact (h.migrate hguard hterminal hmigrate hloads).1
      · exact fun filed hloads => (h.migrate hguard hterminal hmigrate hloads).2

/-- Each of the steps after the commit leaves files from which a startup can recover. -/
theorem holderStep (h : TimezoneInv path origin earlier s) {number : ℕ} {holder : GuardHolder}
    (hguard : s.guard = some (number, holder)) (faults : HolderFaults) :
    TimezoneInv path origin earlier (s.holderStep path number faults holder) := by
  have hvalues := h.values.holderStep hguard faults
  have hmigration := h.guard number holder hguard
  have hholder := h.values.holder number holder hguard
  cases holder with
  | preparingUpdate | persistingUpdate | applyingUpdate => cases hmigration
  | preparingMigration oldTimezone newTimezone candidate =>
    rw [CommitRun.holderStep] at hvalues ⊢
    split at hvalues
    next => exact h.freed hvalues rfl rfl h.disk
    next =>
      refine h.quiet hvalues ⟨⟨rfl, rfl, rfl⟩, rfl, rfl⟩ rfl h.waiting ?_
      rintro _ _ ⟨⟩
      exact .inr ⟨rfl, rfl⟩
  | admitting bundle =>
    rw [CommitRun.holderStep] at hvalues ⊢
    split at hvalues
    next => exact h.freed hvalues rfl rfl h.disk
    next =>
      refine h.quiet hvalues ⟨⟨rfl, rfl, rfl⟩, rfl, rfl⟩ rfl h.waiting ?_
      rintro _ _ ⟨⟩
      exact .inr ⟨rfl, rfl⟩
  | queued bundle => exact h.executeBundle hguard faults
  | finalizing bundle rewritten =>
    have hterminal := h.working number _ hguard rfl
    have hmigrated := h.migrated number _ bundle hguard rfl
    have hlive := h.filed_eq_live hterminal (.inr ⟨rewritten, hguard⟩)
    rw [CommitRun.holderStep] at hvalues ⊢
    split at hvalues
    next hnone =>
      refine h.held hvalues rfl rfl rfl hterminal ?_ ?_ h.disk
      · rintro _ ⟨⟩
        exact hmigrated
      · rintro _ _ filed ⟨⟩ hloads
        -- the live configuration has the timezone already
        obtain rfl : s.state.live = filed := LoadsAs.config_eq hloads hlive
        rw [← hholder.same hnone, hholder.old]
    next file candidate hfinalize =>
      obtain ⟨rfl, hcandidate, hwritten⟩ := hholder.prepared file candidate hfinalize
      split at hvalues
      next =>
        exact h.held hvalues rfl rfl rfl hterminal (fun _ hbundle => by cases hbundle)
          (fun _ _ _ hholder => by cases hholder) h.disk
      next =>
        refine h.held hvalues rfl rfl rfl hterminal ?_ (fun _ _ _ hholder => by cases hholder) ?_
        · rintro _ ⟨⟩
          exact hmigrated
        · intro filed hloads
          obtain rfl : s.state.live.withTimezone bundle.newTimezone = filed :=
            LoadsAs.config_eq hloads (hcandidate.loads hwritten)
          exact (h.disk _ hlive).replace hcandidate hwritten
            (TzDatabase.name_of_fromStr hmigrated).symm
  | applyingBundle bundle candidate rewritten =>
    have hterminal := h.working number _ hguard rfl
    have hmigrated := h.migrated number _ bundle hguard rfl
    obtain ⟨filed, hloads, hholds⟩ := h.values.filed
    rw [CommitRun.FileHolds, hguard] at hholds
    obtain rfl : filed = candidate := hholds
    rw [CommitRun.holderStep] at hvalues ⊢
    split at hvalues
    next =>
      exact h.held hvalues rfl rfl rfl hterminal (fun _ hbundle => by cases hbundle)
        (fun _ _ _ hholder => by cases hholder) h.disk
    next =>
      refine h.held hvalues rfl rfl rfl hterminal ?_ ?_ h.disk
      · rintro _ ⟨⟩
        exact hmigrated
      · rintro _ _ filed' ⟨⟩ hloads'
        obtain rfl : filed = filed' := LoadsAs.config_eq hloads' hloads
        rw [hholder.1]
        rfl
  | clearing bundle rewritten =>
    have hterminal := h.working number _ hguard rfl
    have hmigrated := h.migrated number _ bundle hguard rfl
    rw [CommitRun.holderStep] at hvalues ⊢
    split at hvalues
    next db hclear =>
      refine h.freed hvalues rfl rfl ?_
      intro filed hloads
      obtain ⟨htimezone, hsettled, hstored, hhistory, -⟩ := clearPendingTimezone_ok hclear
      have hfiled : filed.db.timezone = TzDatabase.name s.db.timezone := by
        rw [h.clearing number bundle rewritten filed hguard hloads]
        exact (TzDatabase.name_of_fromStr hmigrated).symm
      show DiskInv path _ _ filed db.timezone
      rw [htimezone]
      exact (h.disk filed hloads).clear hfiled hhistory hsettled hstored
    next hclear =>
      obtain rfl := clearPendingTimezone_error hclear
      exact h.held hvalues rfl rfl rfl hterminal (fun _ hbundle => by cases hbundle)
        (fun _ _ _ hholder => by cases hholder) h.disk
  | failing message => exact h.freed hvalues rfl rfl h.disk

end Holder

section Requests

omit [TomlFormat] in
/-- A migration that gets the lock gets no further than to its first await. -/
theorem lockMigration_guard (s : CommitRun Tz) (number : ℕ) (newTimezone : String) :
    (s.lockMigration number newTimezone).waiting = s.waiting ∧
      (s.lockMigration number newTimezone).terminal = s.terminal ∧
      ∀ number' holder, (s.lockMigration number newTimezone).guard = some (number', holder) →
        s.guard = some (number', holder) ∨
          (holder.isMigration = true ∧ holder.isOnWorker = false) := by
  unfold CommitRun.lockMigration
  dsimp only
  split_ifs
  · refine ⟨rfl, rfl, ?_⟩
    rintro _ _ ⟨⟩
    exact .inr ⟨rfl, rfl⟩
  · split
    next => exact ⟨rfl, rfl, fun _ _ hheld => nomatch hheld⟩
    next =>
      refine ⟨rfl, rfl, ?_⟩
      rintro _ _ ⟨⟩
      exact .inr ⟨rfl, rfl⟩

theorem arrive (h : TimezoneInv path origin earlier s) {request : CommitRequest}
    (hrequest : ∀ candidate, request ≠ .updateConfig candidate) :
    TimezoneInv path origin earlier (s.arrive request) := by
  have hvalues := h.values.arrive request
  unfold CommitRun.arrive at hvalues ⊢
  cases request with
  | updateConfig candidate => exact absurd rfl (hrequest candidate)
  | migrateDbTimezone newTimezone =>
    dsimp only at hvalues ⊢
    split at hvalues
    next =>
      refine h.quiet hvalues ⟨⟨rfl, rfl, rfl⟩, rfl, rfl⟩ rfl ?_ fun _ _ => .inl
      intro number candidate hget
      simp only [KeyedMap.get_set] at hget
      split_ifs at hget
      · cases hget
      · exact h.waiting number candidate hget
    next => exact h.quiet hvalues ⟨⟨rfl, rfl, rfl⟩, rfl, rfl⟩ rfl h.waiting fun _ _ => .inl

theorem lock (h : TimezoneInv path origin earlier s) (hguard : s.guard = none) (number : ℕ)
    (newTimezone : String) :
    TimezoneInv path origin earlier (CommitRun.lockMigration
      { s with waiting := s.waiting.remove number } number newTimezone) := by
  have hremoved : TimezoneInv path origin earlier
      { s with waiting := s.waiting.remove number } := by
    refine h.quiet ⟨h.values.live, h.values.filed, h.values.holder, h.values.serial⟩
      ⟨⟨rfl, rfl, rfl⟩, rfl, rfl⟩ rfl ?_ fun _ _ => .inl
    exact fun number' candidate hget =>
      h.waiting number' candidate (KeyedMap.get_of_get_remove hget)
  obtain ⟨hwaiting, hterminal, hheld⟩ := lockMigration_guard
    { s with waiting := s.waiting.remove number } number newTimezone
  refine hremoved.quiet (hremoved.values.lockMigration hguard number newTimezone)
    (CommitRun.quiet_lockMigration _ number newTimezone) hterminal ?_ hheld
  rw [hwaiting]
  exact hremoved.waiting

theorem receive (h : TimezoneInv path origin earlier s) {number : ℕ}
    (hstep : s.receive number = some s') : TimezoneInv path origin earlier s' := by
  have hvalues := h.values.receive hstep
  have hquiet := CommitRun.quiet_receive hstep
  obtain ⟨_, _, -, -, rfl⟩ := CommitRun.receive_cases hstep
  exact h.quiet hvalues hquiet rfl h.waiting fun _ _ => .inl

theorem cancel (h : TimezoneInv path origin earlier s) {number : ℕ}
    (hstep : s.cancel number = some s') : TimezoneInv path origin earlier s' := by
  have hvalues := h.values.cancel hstep
  have hquiet := CommitRun.quiet_cancel hstep
  rcases CommitRun.cancel_cases hstep with ⟨request, -, rfl⟩ |
    ⟨holder, outcome, -, -, rfl⟩ | ⟨awaited, -, rfl⟩
  · refine h.quiet hvalues hquiet rfl ?_ fun _ _ => .inl
    exact fun number' candidate hget =>
      h.waiting number' candidate (KeyedMap.get_of_get_remove hget)
  · exact h.freed hvalues rfl rfl h.disk
  · exact h.quiet hvalues hquiet rfl h.waiting fun _ _ => .inl

end Requests

variable [DecidableEq Tz] [Sha256] [SnapshotMessage σ]

omit [DecidableEq Tz] in
theorem putHistory (h : TimezoneInv path origin earlier s) (snapshot : σ) (fetchedAtUnixMs : ℤ)
    (faults : FaultPlan) :
    TimezoneInv path origin earlier (s.putHistory snapshot fetchedAtUnixMs faults) := by
  have hvalues := h.values.putHistory snapshot fetchedAtUnixMs faults
  unfold CommitRun.putHistory at hvalues ⊢
  split at hvalues
  next db row hput hrow =>
    obtain ⟨row', hrow', htables, htimezone⟩ := putHistorySnapshot_ok hput
    obtain rfl : row' = row := Except.ok.inj (hrow'.symm.trans hrow)
    obtain ⟨hdate, hfetched, -⟩ := historyRow_eq_ok hrow
    refine ⟨hvalues, h.waiting, h.guard, h.working, ?_, h.clearing, ?_⟩
    · intro number holder bundle hguard hmigrated
      show _ = some db.timezone
      rw [htimezone]
      exact h.migrated number holder bundle hguard hmigrated
    · intro filed hloads
      show DiskInv path ⟨some s.file, some db.tables⟩
        (keptRows origin (earlier ++ (s.changes ++ [.put row']))) filed db.timezone
      rw [htables, htimezone, ← List.append_assoc, keptRows_append]
      exact (h.disk filed hloads).put (hfetched ▸ hdate)
  next result db hput hnot =>
    have hsame : db = s.db := by
      cases result with
      | error err => exact putHistorySnapshot_error hput
      | ok =>
        obtain ⟨row, hrow, -⟩ := putHistorySnapshot_ok hput
        exact (hnot _ row hrow rfl).elim
    subst hsame
    exact h.quiet hvalues ⟨⟨rfl, rfl, rfl⟩, rfl, rfl⟩ rfl h.waiting fun _ _ => .inl

/-- Every step keeps the invariant. -/
theorem step (h : TimezoneInv path origin earlier s) {label : CommitLabel σ}
    (hlabel : ∀ candidate, label ≠ .request (.updateConfig candidate))
    (hstep : s.step path label = some s') : TimezoneInv path origin earlier s' := by
  apply CommitRun.step_elim hstep
  · rintro request rfl
    exact h.arrive fun candidate hrequest => hlabel candidate (congrArg _ hrequest)
  · exact fun number candidate _ hrequest => absurd hrequest (h.waiting number candidate)
  · exact fun number newTimezone hguard _ => h.lock hguard number newTimezone
  · exact fun _ _ faults _ hguard => h.holderStep hguard faults
  · exact fun _ => h.receive
  · exact fun _ => h.cancel
  · exact fun snapshot fetchedAtUnixMs faults _ => h.putHistory snapshot fetchedAtUnixMs faults

end TimezoneInv

end Runs

end WeatherApp
