import WeatherApp.Host.Machine

/-!
# What a call does to the host

`Change` says what a call of a process can do to the host, whatever its reply is. Everything that
the calls of all processes keep is derived from it.

## Main definitions

* `Change`: the effects of calls.
* `IsSpawned`: a process that a call creates.
* `Grows`: what all processes only add to.

## Main results

* `change_of_effect`: a call has one of these effects.
* `grows_change`: every call only adds.
* `processes_change`: what a call does to the processes.
-/

namespace WeatherApp.Host

variable {nonce : Nonces} {p : ℕ} {s s' s'' : HostState}

/-- The process has ended or was waited for. -/
def ProcessStage.IsOver (stage : ProcessStage) : Prop :=
  stage = .reaped ∨ ∃ result, stage = .ended result

/-- What a call can do to the host. -/
inductive Change (nonce : Nonces) (p : ℕ) (s : HostState) : HostCall → HostState → Prop where
  | stay (c : HostCall) : Change nonce p s c s
  | openNew (path : String) : Change nonce p s (.openFile path true)
      (s.setVolume ((s.volume.create path "").1.openFile p (s.volume.create path "").2))
  | openOld {path : String} {i : ℕ} : s.volume.entry path = some i →
      Change nonce p s (.openFile path false) (s.setVolume (s.volume.openFile p i))
  | lock {file : OpenFile} {isExclusive : Bool} {i : ℕ} {lock : FileLock} :
      s.volume.inode file = some i →
      (if isExclusive then (s.volume.lock i).tryExclusive file
        else (s.volume.lock i).tryShared file) = some lock →
      Change nonce p s (.tryLock file isExclusive) (s.setVolume (s.volume.setLock i lock))
  | unlock (file : OpenFile) :
      Change nonce p s (.unlock file) (s.setVolume (s.volume.unlock file))
  | close (file : OpenFile) : Change nonce p s (.close file) (s.setVolume (s.volume.close file))
  | truncate {file : OpenFile} {i : ℕ} : s.volume.inode file = some i →
      Change nonce p s (.truncate file) (s.setVolume (s.volume.write i ""))
  | write {file : OpenFile} {i : ℕ} (text : String) : s.volume.inode file = some i →
      Change nonce p s (.write file text)
        (s.setVolume (s.volume.write i (s.volume.content i ++ text)))
  | hold (guard : LockGuard) : Change nonce p s (.hold guard)
      { s with guards := Function.update s.guards p (guard :: s.guards p) }
  | giveUp (guard : LockGuard) : Change nonce p s (.giveUp guard)
      { s with guards := Function.update s.guards p ((s.guards p).erase guard) }
  | nextId (scope : String) : s.sequence p + 1 < 2 ^ 64 → Change nonce p s (.correlationId scope)
      { s with sequence := Function.update s.sequence p (s.sequence p + 1) }
  | respond (response : ResponseMessage) : Change nonce p s (.respond response)
      { s with responses := (p, response) :: s.responses }
  | send (message : RequestMessage) : Change nonce p s (.send message)
      { s with requests := (p, message) :: s.requests }
  | spawnProbe (config : Option String) : s.FreshNonce nonce → Change nonce p s (.spawnProbe config)
      (s.create (.probe config) (some p) .created)
  | spawnDaemon (config : Option String) (ownerToken : String) : s.FreshNonce nonce →
      Change nonce p s (.spawnDaemon config ownerToken)
        (s.create (.daemon config none true (some ownerToken)) (some p) .created)
  | reap {c : HostCall} {q : ℕ} {record : ProcessRecord} : c = .tryWait q ∨ c = .wait q →
      s.processes q = some record → record.parent = some p → record.stage.IsOver →
      Change nonce p s c (s.setStage q record .reaped)

theorem stay_eq_some {condition : Bool} (h : s.stay condition = some s') :
    condition = true ∧ s' = s := by
  rw [HostState.stay, Option.ite_none_right_eq_some] at h
  exact ⟨h.1, (Option.some.inj h.2).symm⟩

/-- A child that was waited for has ended. -/
theorem reap_eq_some {q : ℕ} (h : s.reap p q = some s') :
    ∃ record, s.processes q = some record ∧ record.parent = some p ∧ record.stage.IsOver ∧
      s' = s.setStage q record .reaped := by
  unfold HostState.reap at h
  split at h
  next => cases h
  next record hrecord =>
    rw [Option.ite_none_left_eq_some] at h
    obtain ⟨hparent, hstage⟩ := h
    refine ⟨record, hrecord, not_not.1 hparent, ?_⟩
    split at hstage
    next result hended => exact ⟨.inr ⟨result, hended⟩, (Option.some.inj hstage).symm⟩
    next hreaped => exact ⟨.inl hreaped, (Option.some.inj hstage).symm⟩
    next => cases hstage
    next => cases hstage

theorem openFile_eq_some {path : String} {create : Bool} {file : OpenFile}
    (h : s.openFile p path create file = some s') :
    file = ⟨p, s.volume.opened⟩ ∧
      (create = true ∧
        s' = s.setVolume ((s.volume.create path "").1.openFile p (s.volume.create path "").2) ∨
      create = false ∧
        ∃ i, s.volume.entry path = some i ∧ s' = s.setVolume (s.volume.openFile p i)) := by
  rw [HostState.openFile, Option.ite_none_left_eq_some] at h
  refine ⟨not_not.1 h.1, ?_⟩
  cases create with
  | true => exact .inl ⟨rfl, (Option.some.inj h.2).symm⟩
  | false =>
    obtain ⟨i, hentry, heq⟩ := Option.map_eq_some_iff.1 h.2
    exact .inr ⟨rfl, i, hentry, heq.symm⟩

theorem lockFile_eq_some {file : OpenFile} {isExclusive : Bool}
    (h : s.lockFile file isExclusive = some s') :
    ∃ i lock, s.volume.inode file = some i ∧
      (if isExclusive then (s.volume.lock i).tryExclusive file
        else (s.volume.lock i).tryShared file) = some lock ∧
      s' = s.setVolume (s.volume.setLock i lock) := by
  obtain ⟨i, hi, hrest⟩ := Option.bind_eq_some_iff.1 h
  obtain ⟨lock, hlock, heq⟩ := Option.map_eq_some_iff.1 hrest
  exact ⟨i, lock, hi, hlock, heq.symm⟩

theorem writeFile_eq_some {file : OpenFile} {change : String → String}
    (h : s.writeFile file change = some s') :
    ∃ i, s.volume.inode file = some i ∧
      s' = s.setVolume (s.volume.write i (change (s.volume.content i))) := by
  obtain ⟨i, hi, heq⟩ := Option.map_eq_some_iff.1 h
  exact ⟨i, hi, heq.symm⟩

/-- The next id of a process. -/
theorem effect_correlationId {scope id : String}
    (h : (HostCall.correlationId scope).effect nonce p s id = some s') :
    s.sequence p + 1 < 2 ^ 64 ∧ id = correlationId scope (nonce p) (s.sequence p) ∧
      s' = { s with sequence := Function.update s.sequence p (s.sequence p + 1) } := by
  simp only [HostCall.effect, CorrelationIdGenerator.next] at h
  split at h
  next => cases h
  next next generator hnext =>
    rw [Option.ite_none_right_eq_some] at hnext h
    obtain ⟨hlt, heq⟩ := hnext
    obtain ⟨rfl, rfl⟩ := Prod.mk.inj (Option.some.inj heq)
    exact ⟨hlt, h.1, (Option.some.inj h.2).symm⟩

/-- A call has one of the effects. -/
theorem change_of_effect {c : HostCall} {r : c.Reply} (h : c.effect nonce p s r = some s') :
    Change nonce p s c s' := by
  have hstay : s' = s → Change nonce p s c s' := by
    rintro rfl
    exact .stay c
  cases c with
  | openFile path create =>
    cases r with
    | error err => exact hstay (stay_eq_some h).2
    | ok file =>
      obtain ⟨-, ⟨rfl, rfl⟩ | ⟨rfl, i, hentry, rfl⟩⟩ := openFile_eq_some h
      · exact .openNew path
      · exact .openOld hentry
  | tryLock file isExclusive =>
    cases r with
    | error err => exact hstay (stay_eq_some h).2
    | ok =>
      obtain ⟨i, lock, hi, hlock, rfl⟩ := lockFile_eq_some h
      exact .lock hi hlock
  | unlock file =>
    obtain rfl := Option.some.inj h
    exact .unlock file
  | close file =>
    obtain rfl := Option.some.inj h
    exact .close file
  | truncate file =>
    cases r with
    | error err => exact hstay (Option.some.inj h).symm
    | ok =>
      have hwrite : s.writeFile file (fun _ => "") = some s' := h
      obtain ⟨i, hi, rfl⟩ := writeFile_eq_some hwrite
      exact .truncate hi
  | write file text =>
    cases r with
    | error err => exact hstay (Option.some.inj h).symm
    | ok =>
      have hwrite : s.writeFile file (· ++ text) = some s' := h
      obtain ⟨i, hi, rfl⟩ := writeFile_eq_some hwrite
      exact .write text hi
  | hold guard =>
    obtain rfl := Option.some.inj h
    exact .hold guard
  | giveUp guard =>
    obtain rfl := Option.some.inj h
    exact .giveUp guard
  | correlationId scope =>
    obtain ⟨hlt, -, rfl⟩ := effect_correlationId h
    exact .nextId scope hlt
  | respond response =>
    obtain rfl := Option.some.inj h
    exact .respond response
  | send message =>
    cases r with
    | error err => exact hstay (Option.some.inj h).symm
    | ok =>
      obtain rfl := Option.some.inj h
      exact .send message
  | spawnProbe config =>
    cases r with
    | error err => exact hstay (Option.some.inj h).symm
    | ok q =>
      obtain ⟨⟨-, hfresh⟩, hcreated⟩ := Option.ite_none_right_eq_some.1 h
      obtain rfl := Option.some.inj hcreated
      exact .spawnProbe config hfresh
  | spawnDaemon config ownerToken =>
    cases r with
    | error err => exact hstay (Option.some.inj h).symm
    | ok q =>
      obtain ⟨⟨-, hfresh⟩, hcreated⟩ := Option.ite_none_right_eq_some.1 h
      obtain rfl := Option.some.inj hcreated
      exact .spawnDaemon config ownerToken hfresh
  | tryWait q =>
    cases r with
    | error err => exact hstay (Option.some.inj h).symm
    | ok exited =>
      cases exited with
      | false => exact hstay (stay_eq_some h).2
      | true =>
        obtain ⟨record, hrecord, hparent, hended, rfl⟩ := reap_eq_some h
        exact .reap (.inl rfl) hrecord hparent hended
  | wait q =>
    obtain ⟨record, hrecord, hparent, hended, rfl⟩ := reap_eq_some h
    exact .reap (.inr rfl) hrecord hparent hended
  | output q =>
    cases r with
    | error err => exact hstay (Option.some.inj h).symm
    | ok probe =>
      simp only [HostCall.effect] at h
      split at h
      next => exact hstay (stay_eq_some h).2
      next => cases h
  | identify file =>
    cases r with
    | error err => exact hstay (Option.some.inj h).symm
    | ok i => exact hstay (stay_eq_some h).2
  | identifyPath path =>
    cases r with
    | error err => exact hstay (stay_eq_some h).2
    | ok i => exact hstay (stay_eq_some h).2
  | readToEnd file =>
    cases r with
    | error err => exact hstay (Option.some.inj h).symm
    | ok text => exact hstay (stay_eq_some h).2
  | receive endpoint =>
    cases r with
    | request message => exact hstay (stay_eq_some h).2
    | restart => exact hstay (Option.some.inj h).symm
    | signal => exact hstay (Option.some.inj h).symm
    | failure error => exact hstay (Option.some.inj h).symm
    | drained failure => exact hstay (Option.some.inj h).symm
  | await requestId =>
    cases r with
    | none => exact hstay (Option.some.inj h).symm
    | some response => exact hstay (stay_eq_some h).2
  | stall => cases r
  | _ => exact hstay (Option.some.inj h).symm

/-! ## What only grows -/

/-- Processes stay what they are, ids are not given again, and messages stay. -/
structure Grows (s s' : HostState) : Prop where
  records : ∀ q record, s.processes q = some record →
    ∃ record', s'.processes q = some record' ∧ record'.kind = record.kind ∧
      record'.parent = record.parent
  sequence : ∀ q, s.sequence q ≤ s'.sequence q
  requests : ∀ x ∈ s.requests, x ∈ s'.requests
  responses : ∀ x ∈ s.responses, x ∈ s'.responses

theorem Grows.refl (s : HostState) : Grows s s where
  records _ record h := ⟨record, h, rfl, rfl⟩
  sequence _ := le_rfl
  requests _ h := h
  responses _ h := h

theorem Grows.trans (h : Grows s s') (h' : Grows s' s'') : Grows s s'' where
  records q record hrecord := by
    obtain ⟨record', hrecord', hkind, hparent⟩ := h.records q record hrecord
    obtain ⟨record'', hrecord'', hkind', hparent'⟩ := h'.records q record' hrecord'
    exact ⟨record'', hrecord'', hkind'.trans hkind, hparent'.trans hparent⟩
  sequence q := (h.sequence q).trans (h'.sequence q)
  requests x hx := h'.requests x (h.requests x hx)
  responses x hx := h'.responses x (h.responses x hx)

theorem grows_setVolume (volume : Volume String String) : Grows s (s.setVolume volume) :=
  ⟨fun _ record h => ⟨record, h, rfl, rfl⟩, fun _ => le_rfl, fun _ h => h, fun _ h => h⟩

theorem grows_setGuards (guards : ℕ → List LockGuard) : Grows s { s with guards := guards } :=
  ⟨fun _ record h => ⟨record, h, rfl, rfl⟩, fun _ => le_rfl, fun _ h => h, fun _ h => h⟩

/-- A record is the new one or an old one. -/
theorem processes_create {kind : ProcessKind} {parent : Option ℕ} {stage : ProcessStage} {q : ℕ}
    {record : ProcessRecord} :
    (s.create kind parent stage).processes q = some record ↔
      q = s.nextProcess ∧ ⟨kind, parent, stage⟩ = record ∨
        q ≠ s.nextProcess ∧ s.processes q = some record :=
  Volume.update_some_eq_some

theorem processes_setStage {q q' : ℕ} {record record' : ProcessRecord} {stage : ProcessStage} :
    (s.setStage q record stage).processes q' = some record' ↔
      q' = q ∧ { record with stage := stage } = record' ∨ q' ≠ q ∧ s.processes q' = some record' :=
  Volume.update_some_eq_some

theorem grows_create (hunborn : s.processes s.nextProcess = none) (kind : ProcessKind)
    (parent : Option ℕ) (stage : ProcessStage) : Grows s (s.create kind parent stage) where
  records q record hrecord := by
    refine ⟨record, processes_create.2 (.inr ⟨?_, hrecord⟩), rfl, rfl⟩
    rintro rfl
    rw [hunborn] at hrecord
    cases hrecord
  sequence _ := le_rfl
  requests _ h := h
  responses _ h := h

theorem grows_setStage {q : ℕ} {record : ProcessRecord} (h : s.processes q = some record)
    (stage : ProcessStage) : Grows s (s.setStage q record stage) where
  records q' record' hrecord' := by
    by_cases hq : q' = q
    · subst hq
      obtain rfl := Option.some.inj (h.symm.trans hrecord')
      exact ⟨_, processes_setStage.2 (.inl ⟨rfl, rfl⟩), rfl, rfl⟩
    · exact ⟨record', processes_setStage.2 (.inr ⟨hq, hrecord'⟩), rfl, rfl⟩
  sequence _ := le_rfl
  requests _ h := h
  responses _ h := h

/-- Every call only adds. -/
theorem grows_change (hunborn : s.processes s.nextProcess = none) {c : HostCall}
    (h : Change nonce p s c s') : Grows s s' := by
  cases h with
  | stay => exact .refl s
  | openNew | openOld | lock | unlock | close | truncate | write => exact grows_setVolume _
  | hold | giveUp => exact grows_setGuards _
  | nextId scope hlt =>
    refine ⟨fun _ record h => ⟨record, h, rfl, rfl⟩, fun q => ?_, fun _ h => h, fun _ h => h⟩
    change s.sequence q ≤ Function.update s.sequence p (s.sequence p + 1) q
    by_cases hq : q = p
    · subst hq
      rw [Function.update_self]
      exact Nat.le_succ _
    · rw [Function.update_of_ne hq]
  | respond response =>
    exact ⟨fun _ record h => ⟨record, h, rfl, rfl⟩, fun _ => le_rfl, fun _ h => h,
      fun _ h => List.mem_cons_of_mem _ h⟩
  | send message =>
    exact ⟨fun _ record h => ⟨record, h, rfl, rfl⟩, fun _ => le_rfl,
      fun _ h => List.mem_cons_of_mem _ h, fun _ h => h⟩
  | spawnProbe config => exact grows_create hunborn _ _ _
  | spawnDaemon config ownerToken => exact grows_create hunborn _ _ _
  | reap _ hrecord => exact grows_setStage hrecord _

/-! ## What becomes of the processes -/

theorem ProcessStage.IsOver.ne_running {stage : ProcessStage} (h : stage.IsOver) :
    stage ≠ .running := by
  rintro rfl
  obtain h | ⟨result, h⟩ := h
  · cases h
  · cases h

/-- A process that a call creates. -/
structure IsSpawned (p : ℕ) (s : HostState) (c : HostCall) (s' : HostState) (q : ℕ)
    (record : ProcessRecord) : Prop where
  new : q = s.nextProcess
  next : s'.nextProcess = s.nextProcess + 1
  parent : record.parent = some p
  stage : record.stage = .created
  kind : (∃ config, record.kind = .probe config) ∨ ∃ config ownerToken,
    c = .spawnDaemon config ownerToken ∧ record.kind = .daemon config none true (some ownerToken)

/-- A process is as it was, was waited for by its parent, or was created. -/
theorem processes_change {c : HostCall} {q : ℕ} {record' : ProcessRecord}
    (h : Change nonce p s c s') (hrecord' : s'.processes q = some record') :
    s.processes q = some record' ∨
      (∃ record, s.processes q = some record ∧ record.parent = some p ∧ record.stage.IsOver ∧
        record' = { record with stage := .reaped }) ∨
      IsSpawned p s c s' q record' := by
  cases h with
  | spawnProbe config =>
    obtain ⟨hq, rfl⟩ | ⟨-, hold⟩ := processes_create.1 hrecord'
    · exact .inr (.inr ⟨hq, rfl, rfl, rfl, .inl ⟨config, rfl⟩⟩)
    · exact .inl hold
  | spawnDaemon config ownerToken =>
    obtain ⟨hq, rfl⟩ | ⟨-, hold⟩ := processes_create.1 hrecord'
    · exact .inr (.inr ⟨hq, rfl, rfl, rfl, .inr ⟨config, ownerToken, rfl, rfl⟩⟩)
    · exact .inl hold
  | reap _ hrecord hparent hover =>
    obtain ⟨rfl, rfl⟩ | ⟨-, hold⟩ := processes_setStage.1 hrecord'
    · exact .inr (.inl ⟨_, hrecord, hparent, hover, rfl⟩)
    · exact .inl hold
  | _ => exact .inl hrecord'

theorem nextProcess_change {c : HostCall} (h : Change nonce p s c s') :
    s.nextProcess ≤ s'.nextProcess := by
  cases h with
  | spawnProbe | spawnDaemon => exact Nat.le_succ _
  | _ => exact le_rfl

/-- What runs, runs on. -/
theorem running_change (hunborn : s.processes s.nextProcess = none) {c : HostCall} {q : ℕ}
    {record : ProcessRecord} (hrecord : s.processes q = some record)
    (hrunning : record.stage = .running) (h : Change nonce p s c s') :
    s'.processes q = some record := by
  obtain ⟨record', hrecord', -, -⟩ := (grows_change hunborn h).records q record hrecord
  rw [hrecord']
  obtain hsame | ⟨old, hold, -, hover, -⟩ | hspawned := processes_change h hrecord'
  · exact hsame.symm.trans hrecord
  · obtain rfl := Option.some.inj (hold.symm.trans hrecord)
    exact absurd hrunning hover.ne_running
  · rw [hspawned.new, hunborn] at hrecord
    cases hrecord

end WeatherApp.Host
