import WeatherApp.Host.ContractLaw

/-!
# Starts, ends and what others do

The start and the end of a process, however it ends, and what others do to the files keep the
invariant of the host and what the processes rely on.

## Main results

* `leaves_start`, `leaves_end`: the start and the end of a process.
* `valid_hostChange`, `rely_hostChange`: what others do to the files.
-/

namespace WeatherApp.Host

variable [LockMetadataJson] {nonce : Nonces} {kept : String → Prop} {p q : ℕ} {s s' : HostState}

/-! ## Stages -/

theorem valid_setStage (hvalid : s.Valid nonce kept) {record : ProcessRecord}
    (hrecord : s.processes p = some record) {stage : ProcessStage} (hstarted : stage ≠ .created)
    (hguards : stage = .running ∨ s.guards p = [])
    (hreported : ∀ status, stage = .ended (some (.ok (some status))) →
      Reported nonce s status.state status.lockMetadata) :
    (s.setStage p record stage).Valid nonce kept := by
  have hgrows := grows_setStage hrecord stage
  -- a record of the new state is an old one but for its stage
  have hold : ∀ q record', (s.setStage p record stage).processes q = some record' →
      ∃ old, s.processes q = some old ∧ old.kind = record'.kind ∧ old.parent = record'.parent := by
    intro q record' hrecord'
    obtain ⟨rfl, rfl⟩ | ⟨-, hsame⟩ := processes_setStage.1 hrecord'
    · exact ⟨record, hrecord, rfl, rfl⟩
    · exact ⟨record', hsame, rfl, rfl⟩
  constructor
  case volume => exact hvalid.volume
  case readable => exact fun i metadata hread => (hvalid.readable i metadata hread).grows hgrows
  case guards => exact fun q guard hmem => (hvalid.guards q guard hmem).spares (.refl _) hgrows
  case distinct => exact hvalid.distinct
  case alive =>
    intro q guard hmem
    obtain ⟨old, hold, hrunning⟩ := hvalid.alive q guard hmem
    by_cases hq : q = p
    · subst hq
      -- a process that has guards runs, and one that has ended has none
      obtain rfl | hnone := hguards
      · exact ⟨_, processes_setStage.2 (.inl ⟨rfl, rfl⟩), rfl⟩
      · change guard ∈ s.guards q at hmem
        rw [hnone] at hmem
        exact absurd hmem List.not_mem_nil
    · exact ⟨old, processes_setStage.2 (.inr ⟨hq, hold⟩), hrunning⟩
  case requests =>
    intro x hx
    obtain ⟨hown, hauthorized⟩ := hvalid.requests x hx
    exact ⟨hown.grows hgrows, hauthorized.grows hgrows⟩
  case requestIds => exact hvalid.requestIds
  case responses => exact fun x hx => (hvalid.responses x hx).grows hgrows
  case unborn =>
    intro q hq
    have hne : q ≠ p := by
      rintro rfl
      rw [hvalid.unborn q hq] at hrecord
      cases hrecord
    exact (Function.update_of_ne hne ..).trans (hvalid.unborn q hq)
  case parents =>
    intro q record' parent hrecord' hparent
    obtain ⟨old, hq, -, hsame⟩ := hold q record' hrecord'
    obtain ⟨other, hother, hne⟩ := hvalid.parents q old parent hq (hsame.trans hparent)
    by_cases hp : parent = p
    · exact ⟨_, processes_setStage.2 (.inl ⟨hp, rfl⟩), hstarted⟩
    · exact ⟨other, processes_setStage.2 (.inr ⟨hp, hother⟩), hne⟩
  case sequence => exact hvalid.sequence
  case named => exact hvalid.named
  case nonces => exact hvalid.nonces
  case tokens =>
    intro q record' config logLevel foreground token hrecord' hkind
    obtain ⟨old, hq, hkinds, hsame⟩ := hold q record' hrecord'
    rw [← hsame]
    exact hvalid.tokens q old config logLevel foreground token hq (hkinds.trans hkind)
  case outputs =>
    intro q record' status hrecord' hended
    obtain ⟨rfl, rfl⟩ | ⟨-, hsame⟩ := processes_setStage.1 hrecord'
    · exact (hreported status hended).grows hgrows
    · exact (hvalid.outputs q record' status hsame hended).grows hgrows

omit [LockMetadataJson] in
theorem rely_setStage {record : ProcessRecord} (hrecord : s.processes p = some record)
    (hreaped : record.stage ≠ .reaped) (stage : ProcessStage) (hq : q ≠ p) :
    Rely kept q s (s.setStage p record stage) where
  spares := .refl _
  guards := rfl
  sequence := rfl
  grows := grows_setStage hrecord stage
  requests _ h := h
  running old hold _ := processes_setStage.2 (.inr ⟨hq, hold⟩)
  children r record' hrecord' hparent := by
    obtain ⟨rfl, rfl⟩ | ⟨-, hsame⟩ := processes_setStage.1 hrecord'
    · exact ⟨record, hrecord, hparent, rfl, fun hstage => absurd hstage hreaped⟩
    · exact ⟨record', hsame, hparent, rfl, id⟩

/-! ## Starts -/

theorem valid_create (hvalid : s.Valid nonce kept) {kind : ProcessKind}
    (hfresh : s.FreshNonce nonce) (hstartable : kind.Startable nonce) :
    (s.create kind none .running).Valid nonce kept := by
  have hgrows := grows_create hvalid.unborn_next kind none .running
  have hborn : ∀ q record, s.processes q = some record →
      (s.create kind none .running).processes q = some record := by
    intro q record hrecord
    refine processes_create.2 (.inr ⟨?_, hrecord⟩)
    rintro rfl
    rw [hvalid.unborn_next] at hrecord
    cases hrecord
  constructor
  case volume => exact hvalid.volume
  case readable => exact fun i metadata hread => (hvalid.readable i metadata hread).grows hgrows
  case guards => exact fun q guard hmem => (hvalid.guards q guard hmem).spares (.refl _) hgrows
  case distinct => exact hvalid.distinct
  case alive =>
    intro q guard hmem
    obtain ⟨record, hrecord, hrunning⟩ := hvalid.alive q guard hmem
    exact ⟨record, hborn q record hrecord, hrunning⟩
  case requests =>
    intro x hx
    obtain ⟨hown, hauthorized⟩ := hvalid.requests x hx
    exact ⟨hown.grows hgrows, hauthorized.grows hgrows⟩
  case requestIds => exact hvalid.requestIds
  case responses => exact fun x hx => (hvalid.responses x hx).grows hgrows
  case unborn =>
    intro q hq
    change s.nextProcess + 1 ≤ q at hq
    -- the number of the new process is not used any more
    exact (Function.update_of_ne (by omega) ..).trans (hvalid.unborn q (by omega))
  case parents =>
    intro q record parent hrecord hparent
    obtain ⟨-, rfl⟩ | ⟨-, hold⟩ := processes_create.1 hrecord
    · cases hparent
    · obtain ⟨other, hother, hstarted⟩ := hvalid.parents q record parent hold hparent
      exact ⟨other, hborn parent other hother, hstarted⟩
  case sequence => exact hvalid.sequence
  case named => exact fun q hq => Nat.lt_succ_of_lt (hvalid.named q hq)
  case nonces => exact fun q r => nonces_succ hvalid hfresh
  case tokens =>
    intro q record config logLevel foreground token hrecord hkind
    obtain ⟨-, rfl⟩ | ⟨-, hold⟩ := processes_create.1 hrecord
    · simp only at hkind
      subst hkind
      exact .inr hstartable
    · exact hvalid.tokens q record config logLevel foreground token hold hkind
  case outputs =>
    intro q record status hrecord hended
    obtain ⟨-, rfl⟩ | ⟨-, hold⟩ := processes_create.1 hrecord
    · cases hended
    · exact (hvalid.outputs q record status hold hended).grows hgrows

/-- The start of a process. It has no children. -/
theorem leaves_start {program : HostProgram ExitValue} (hvalid : s.Valid nonce kept)
    (h : HostStart nonce p s program s') :
    (hostSharing nonce kept).Leaves p s s' ∧ Alive s' p ∧ ∃ rounds kind, IsKind s' p kind ∧
      program = kind.program rounds p ∧
        ∀ q record, s'.processes q = some record → record.parent ≠ some p := by
  cases h with
  | @created record rounds hrecord hcreated =>
    have hstage : record.stage ≠ .reaped := by
      rw [hcreated]
      decide
    refine ⟨⟨valid_setStage hvalid hrecord (by decide) (.inl rfl) (fun _ h => by cases h),
      fun q hq => rely_setStage hrecord hstage _ hq⟩,
      ⟨_, processes_setStage.2 (.inl ⟨rfl, rfl⟩), rfl⟩, rounds, record.kind,
      ⟨_, processes_setStage.2 (.inl ⟨rfl, rfl⟩), rfl⟩, rfl, fun q record' hrecord' hparent => ?_⟩
    -- a parent has started before
    obtain ⟨old, hold, hparent'⟩ : ∃ old, s.processes q = some old ∧ old.parent = some p := by
      obtain ⟨rfl, rfl⟩ | ⟨-, hsame⟩ := processes_setStage.1 hrecord'
      · exact ⟨record, hrecord, hparent⟩
      · exact ⟨record', hsame, hparent⟩
    obtain ⟨other, hother, hstarted⟩ := hvalid.parents q old p hold hparent'
    obtain rfl := Option.some.inj (hother.symm.trans hrecord)
    exact hstarted hcreated
  | @user kind rounds hnew hfresh hstartable =>
    subst hnew
    refine ⟨⟨valid_create hvalid hfresh hstartable, fun q hq => ?_⟩,
      ⟨_, processes_create.2 (.inl ⟨rfl, rfl⟩), rfl⟩, rounds, kind,
      ⟨_, processes_create.2 (.inl ⟨rfl, rfl⟩), rfl⟩, rfl, fun q record' hrecord' hparent => ?_⟩
    · refine ⟨.refl _, rfl, rfl, grows_create hvalid.unborn_next _ _ _, fun _ h => h,
        fun record hold _ => processes_create.2 (.inr ⟨hq, hold⟩), fun r record' hrecord' hparent => ?_⟩
      obtain ⟨-, rfl⟩ | ⟨-, hsame⟩ := processes_create.1 hrecord'
      · cases hparent
      · exact ⟨record', hsame, hparent, rfl, id⟩
    · obtain ⟨-, rfl⟩ | ⟨-, hsame⟩ := processes_create.1 hrecord'
      · cases hparent
      · obtain ⟨other, hother, -⟩ := hvalid.parents q record' _ hsame hparent
        rw [hvalid.unborn_next] at hother
        cases hother

/-! ## Files -/

/-- Others change the files, but spare those that are locked by guards. -/
theorem valid_setVolume (hvalid : s.Valid nonce kept) {volume : Volume String String}
    (hvolume : volume.Valid)
    (hreadable : ∀ i metadata, LockMetadataJson.read (volume.content i) = some metadata →
      IsLaunch nonce s metadata)
    (hspares : ∀ q, ∀ guard ∈ s.guards q, s.volume.Spares kept (· = guard.file) volume) :
    (s.setVolume volume).Valid nonce kept := by
  have hgrows := grows_setVolume (s := s) volume
  constructor
  case volume => exact hvolume
  case readable => exact fun i metadata hread => (hreadable i metadata hread).grows hgrows
  case guards =>
    exact fun q guard hmem => (hvalid.guards q guard hmem).spares (hspares q guard hmem) hgrows
  case distinct => exact hvalid.distinct
  case alive => exact hvalid.alive
  case requests => exact hvalid.requests
  case requestIds => exact hvalid.requestIds
  case responses => exact fun x hx => (hvalid.responses x hx).grows hgrows
  case unborn => exact hvalid.unborn
  case parents => exact hvalid.parents
  case sequence => exact hvalid.sequence
  case named => exact hvalid.named
  case nonces => exact hvalid.nonces
  case tokens => exact hvalid.tokens
  case outputs =>
    exact fun q record status hrecord hended =>
      (hvalid.outputs q record status hrecord hended).grows hgrows

omit [LockMetadataJson] in
theorem rely_setVolume {volume : Volume String String}
    (hspares : s.volume.Spares kept (·.process = q) volume) :
    Rely kept q s (s.setVolume volume) where
  spares := hspares
  guards := rfl
  sequence := rfl
  grows := grows_setVolume volume
  requests _ h := h
  running _ h _ := h
  children _ record h hparent := ⟨record, h, hparent, rfl, id⟩

/-- What others do to the files. -/
theorem valid_hostChange (hvalid : s.Valid nonce kept) (h : HostChange kept s s') :
    s'.Valid nonce kept := by
  cases h with
  | @remove path hpath =>
    exact valid_setVolume hvalid (Volume.valid_remove hvalid.volume path) hvalid.readable
      fun _ _ _ => Volume.spares_remove hpath
  | @replace path content hpath hcontent =>
    refine valid_setVolume hvalid (Volume.valid_replace hvalid.volume path content)
      (fun i metadata hread => ?_) fun _ _ _ => Volume.spares_replace hvalid.volume hpath content
    obtain hsame | hnew :=
      Volume.content_create (v := s.volume.remove path) (i := i) path content
    · refine hvalid.readable i metadata ?_
      rwa [Volume.replace, hsame] at hread
    · rw [Volume.replace, hnew, hcontent] at hread
      cases hread

theorem rely_hostChange (hvalid : s.Valid nonce kept) (h : HostChange kept s s') (q : ℕ) :
    Rely kept q s s' := by
  cases h with
  | remove hpath => exact rely_setVolume (Volume.spares_remove hpath)
  | replace hpath => exact rely_setVolume (Volume.spares_replace hvalid.volume hpath _)

/-! ## Ends -/

/-- A process gives up its guards. -/
theorem valid_forget (hvalid : s.Valid nonce kept) (p : ℕ) :
    ({ s with guards := Function.update s.guards p [] } : HostState).Valid nonce kept := by
  have hmem : ∀ q, ∀ guard ∈ Function.update s.guards p [] q, guard ∈ s.guards q := by
    intro q guard hguard
    by_cases hq : q = p
    · subst hq
      rw [Function.update_self] at hguard
      exact absurd hguard List.not_mem_nil
    · rwa [Function.update_of_ne hq] at hguard
  have hgrows := grows_setGuards (s := s) (Function.update s.guards p [])
  constructor
  case volume => exact hvalid.volume
  case readable => exact fun i metadata hread => (hvalid.readable i metadata hread).grows hgrows
  case guards =>
    exact fun q guard hguard =>
      (hvalid.guards q guard (hmem q guard hguard)).spares (.refl _) hgrows
  case distinct =>
    intro q
    change ((Function.update s.guards p [] q).map (·.file)).Nodup
    by_cases hq : q = p
    · subst hq
      rw [Function.update_self]
      exact List.nodup_nil
    · rw [Function.update_of_ne hq]
      exact hvalid.distinct q
  case alive => exact fun q guard hguard => hvalid.alive q guard (hmem q guard hguard)
  case requests => exact hvalid.requests
  case requestIds => exact hvalid.requestIds
  case responses => exact fun x hx => (hvalid.responses x hx).grows hgrows
  case unborn => exact hvalid.unborn
  case parents => exact hvalid.parents
  case sequence => exact hvalid.sequence
  case named => exact hvalid.named
  case nonces => exact hvalid.nonces
  case tokens => exact hvalid.tokens
  case outputs =>
    exact fun q record status hrecord hended =>
      (hvalid.outputs q record status hrecord hended).grows hgrows

/-- The end of a process. -/
theorem leaves_end (hvalid : s.Valid nonce kept) (halive : Alive s p) {result : Option ExitValue}
    (hreported : ∀ status, result = some (.ok (some status)) →
      Reported nonce s status.state status.lockMetadata)
    (h : HostEnd p result s s') : (hostSharing nonce kept).Leaves p s s' := by
  obtain ⟨record, hrecord, rfl⟩ := h
  obtain ⟨running, halive, hstage⟩ := halive
  obtain rfl := Option.some.inj (halive.symm.trans hrecord)
  have hreaped : running.stage ≠ .reaped := by
    rw [hstage]
    decide
  let forgotten : HostState := { s with guards := Function.update s.guards p [] }
  let closed : HostState := forgotten.setVolume (s.volume.exit p)
  have hforgotten : forgotten.Valid nonce kept := valid_forget hvalid p
  have hclosed : closed.Valid nonce kept := by
    refine valid_setVolume hforgotten (Volume.valid_exit hvalid.volume p) hforgotten.readable
      fun q guard hguard => Volume.spares_exit ?_
    rintro file rfl hprocess
    obtain rfl : q = p := (hforgotten.guards q guard hguard).1.symm.trans hprocess
    change guard ∈ Function.update s.guards q [] q at hguard
    rw [Function.update_self] at hguard
    exact absurd hguard List.not_mem_nil
  have hgrows : Grows s closed := (grows_setGuards _).trans (grows_setVolume _)
  have hrunning : closed.processes p = some running := hrecord
  refine ⟨valid_setStage hclosed hrunning (fun h => by cases h) (.inr (Function.update_self ..))
    fun status hstatus => (hreported status (ProcessStage.ended.inj hstatus)).grows hgrows,
    fun q hq => ?_⟩
  have hspares : s.volume.Spares kept (·.process = q) (s.volume.exit p) := by
    refine Volume.spares_exit ?_
    rintro file rfl
    exact hq
  have hclose : Rely kept q s closed :=
    ⟨hspares, Function.update_of_ne hq .., rfl, hgrows, fun _ h => h, fun _ h _ => h,
      fun _ record h hparent => ⟨record, h, hparent, rfl, id⟩⟩
  have hover : Rely kept q closed (closed.setStage p running (.ended result)) :=
    rely_setStage hrunning hreaped _ hq
  exact hclose.trans hover

end WeatherApp.Host
