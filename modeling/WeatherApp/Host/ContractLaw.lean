import WeatherApp.Host.Contract

/-!
# What a promised call keeps

A call that keeps the promise of its process keeps the invariant of the host, and the other
processes find only what they rely on.

## Main definitions

* `Untouched`: the files that a call leaves.

## Main results

* `spares_change`: a call leaves the files of others and of guards.
* `valid_change`: the invariant is kept.
* `rely_change`: what the others see of a call.
-/

namespace WeatherApp.Host

variable [LockMetadataJson] {nonce : Nonces} {kept : String → Prop} {p q : ℕ} {s s' : HostState}
  {c : HostCall}

/-! ## Files -/

/-- The files that a call leaves: those of others and those of guards. -/
def Untouched (s : HostState) (p : ℕ) (file : OpenFile) : Prop :=
  file.process ≠ p ∨ ∃ guard ∈ s.guards p, guard.file = file

omit [LockMetadataJson] in
theorem OwnFile.touched {file : OpenFile} (h : OwnFile s p file) : ¬ Untouched s p file := by
  rintro (hprocess | ⟨guard, hmem, hfile⟩)
  · exact hprocess h.1
  · exact h.2 guard hmem hfile

/-- A file that is about to be opened is the process's own. -/
theorem ownFile_opened (hvalid : s.Valid nonce kept) : OwnFile s p ⟨p, s.volume.opened⟩ := by
  refine ⟨rfl, fun guard hmem hfile => ?_⟩
  obtain ⟨-, i, hlock, -⟩ := hvalid.guards p guard hmem
  have hlt := hvalid.volume.number_lt _ i (hlock.inode_eq hvalid.volume)
  rw [hfile] at hlt
  exact absurd hlt (Nat.lt_irrefl _)

/-- A call leaves the files of others and of guards. -/
theorem spares_change (hvalid : s.Valid nonce kept) (hpromised : Promised nonce kept p s c)
    (h : Change nonce p s c s') : s.volume.Spares kept (Untouched s p) s'.volume := by
  cases h with
  | openNew path =>
    -- a file is created, and opened under a number that nobody has
    refine (Volume.spares_create hvalid.volume path "").trans (Volume.spares_openFile ?_ _)
    rw [Volume.create_opened]
    exact (ownFile_opened hvalid).touched
  | openOld hentry => exact Volume.spares_openFile (ownFile_opened hvalid).touched _
  | lock hfile hlock => exact Volume.spares_tryLock hlock hpromised.touched
  | unlock file => exact Volume.spares_unlock hpromised.touched
  | close file => exact Volume.spares_close hpromised.touched
  | truncate hfile =>
    -- only who has the lock of a file empties it
    obtain ⟨hown, i, hlock⟩ := hpromised
    obtain rfl := Option.some.inj (hfile.symm.trans (hlock.inode_eq hvalid.volume))
    exact Volume.spares_write hlock hown.touched ""
  | write text hfile =>
    obtain ⟨hown, i, -, hlock, -, -⟩ := hpromised
    obtain rfl := Option.some.inj (hfile.symm.trans (hlock.inode_eq hvalid.volume))
    exact Volume.spares_write hlock hown.touched _
  | _ => exact .refl _

omit [LockMetadataJson] in
theorem volume_change (hvalid : s.volume.Valid) (h : Change nonce p s c s') :
    s'.volume.Valid := by
  cases h with
  | openNew path =>
    exact Volume.valid_openFile (Volume.valid_create hvalid path "") (Volume.create_lt hvalid path "")
  | openOld hentry => exact Volume.valid_openFile hvalid (hvalid.entry_lt _ _ hentry)
  | lock hfile hlock => exact Volume.valid_tryLock hvalid hfile hlock
  | unlock file => exact Volume.valid_unlock hvalid file
  | close file => exact Volume.valid_close hvalid file
  | truncate => exact Volume.valid_write hvalid _ _
  | write => exact Volume.valid_write hvalid _ _
  | _ => exact hvalid

/-- A file is as it was, empty, or the beginning of the text of metadata. -/
theorem content_change (hvalid : s.Valid nonce kept) (hpromised : Promised nonce kept p s c)
    (h : Change nonce p s c s') (i : ℕ) :
    s'.volume.content i = s.volume.content i ∨ s'.volume.content i = "" ∨
      ∃ metadata, IsLaunch nonce s metadata ∧
        (s'.volume.content i).toList <+: (lockText metadata).toList := by
  cases h with
  | openNew path =>
    obtain hsame | hblank := Volume.content_create (v := s.volume) (i := i) path ""
    · exact .inl hsame
    · exact .inr (.inl hblank)
  | truncate hfile =>
    obtain hsame | ⟨-, hblank⟩ := Volume.content_write s.volume _ i ""
    · exact .inl hsame
    · exact .inr (.inl hblank)
  | @write file j text hfile =>
    -- a write goes on with the text of the metadata
    obtain ⟨-, i', metadata, hlock, hlaunch, hbegins⟩ := hpromised
    obtain rfl := Option.some.inj (hfile.symm.trans (hlock.inode_eq hvalid.volume))
    obtain hsame | ⟨-, hcontent⟩ := Volume.content_write s.volume j i
      (s.volume.content j ++ text)
    · exact .inl hsame
    · refine .inr (.inr ⟨metadata, hlaunch, ?_⟩)
      change ((s.volume.write j _).content i).toList <+: _
      rw [hcontent]
      exact hbegins
  | _ => exact .inl rfl

/-- Metadata in a file is that of an engine. -/
theorem readable_change (hlawful : LockMetadataJson.Lawful) (hvalid : s.Valid nonce kept)
    (hpromised : Promised nonce kept p s c) (h : Change nonce p s c s') {i : ℕ}
    {metadata : EngineLockMetadata}
    (hread : LockMetadataJson.read (s'.volume.content i) = some metadata) :
    IsLaunch nonce s' metadata := by
  have hgrows := grows_change hvalid.unborn_next h
  obtain hsame | hblank | ⟨written, hlaunch, hbegins⟩ := content_change hvalid hpromised h i
  · rw [hsame] at hread
    exact (hvalid.readable i metadata hread).grows hgrows
  -- a file that was just emptied has no metadata
  · rw [hblank, hlawful.read_empty] at hread
    cases hread
  -- what reads as metadata is the metadata that is being written
  · rw [hlawful.read_beginning written _ metadata hbegins hread]
    exact hlaunch.grows hgrows

/-! ## Guards -/

theorem GuardHeld.spares {guard : LockGuard} (h : GuardHeld nonce kept s p guard)
    (hspares : s.volume.Spares kept (· = guard.file) s'.volume) (hgrows : Grows s s') :
    GuardHeld nonce kept s' p guard := by
  obtain ⟨hprocess, i, hlock, hentry, hmetadata⟩ := h
  refine ⟨hprocess, i, (hspares.locks _ i rfl).2 hlock,
    fun hkept => hspares.entry _ i hkept (hentry hkept), fun metadata hguard => ?_⟩
  obtain ⟨hcontent, hlaunch, hpid⟩ := hmetadata metadata hguard
  exact ⟨(hspares.content _ i rfl hlock).trans hcontent, hlaunch.grows hgrows, hpid⟩

omit [LockMetadataJson] in
/-- A guard was there, or is the one that the process has from now on. -/
theorem guards_change {guard : LockGuard} (h : Change nonce p s c s') (hmem : guard ∈ s'.guards q) :
    guard ∈ s.guards q ∨ q = p ∧ c = .hold guard ∧ s'.volume = s.volume := by
  cases h with
  | hold held =>
    by_cases hq : q = p
    · subst hq
      simp only [Function.update_self] at hmem
      obtain rfl | hmem := List.mem_cons.1 hmem
      · exact .inr ⟨rfl, rfl, rfl⟩
      · exact .inl hmem
    · simp only [Function.update_of_ne hq] at hmem
      exact .inl hmem
  | giveUp held =>
    by_cases hq : q = p
    · subst hq
      simp only [Function.update_self] at hmem
      exact .inl (List.mem_of_mem_erase hmem)
    · simp only [Function.update_of_ne hq] at hmem
      exact .inl hmem
  | _ => exact .inl hmem

theorem guardHeld_change (hvalid : s.Valid nonce kept) (hpromised : Promised nonce kept p s c)
    (h : Change nonce p s c s') {guard : LockGuard} (hmem : guard ∈ s'.guards q) :
    GuardHeld nonce kept s' q guard := by
  have hgrows := grows_change hvalid.unborn_next h
  obtain hmem | ⟨rfl, rfl, hvolume⟩ := guards_change h hmem
  · have hheld := hvalid.guards q guard hmem
    -- the guard was there, and nobody touches the file of a guard
    refine hheld.spares ((spares_change hvalid hpromised h).mono ?_) hgrows
    rintro file rfl
    by_cases hq : q = p
    · subst hq
      exact .inr ⟨guard, hmem, rfl⟩
    · exact .inl (by rw [hheld.1]; exact hq)
  -- a new guard: its file was locked and found at its path
  · refine hpromised.1.spares ?_ hgrows
    rw [hvolume]
    exact .refl _

theorem distinct_change (hvalid : s.Valid nonce kept) (hpromised : Promised nonce kept p s c)
    (h : Change nonce p s c s') (q : ℕ) : ((s'.guards q).map (·.file)).Nodup := by
  have hold := hvalid.distinct q
  by_cases hq : q = p
  · subst hq
    cases h with
    | hold guard =>
      simp only [Function.update_self, List.map_cons, List.nodup_cons, List.mem_map]
      refine ⟨?_, hold⟩
      -- the file of the new guard is not one of another guard
      rintro ⟨other, hmem, hfile⟩
      exact hpromised.2 other hmem hfile
    | giveUp guard =>
      simp only [Function.update_self]
      exact hold.sublist (List.erase_sublist.map _)
    | _ => exact hold
  · cases h with
    | hold guard =>
      simp only [Function.update_of_ne hq]
      exact hold
    | giveUp guard =>
      simp only [Function.update_of_ne hq]
      exact hold
    | _ => exact hold

/-! ## Processes -/

theorem unborn_change (hvalid : s.Valid nonce kept) (h : Change nonce p s c s')
    (hq : s'.nextProcess ≤ q) : s'.processes q = none := by
  have hunborn : s.processes q = none := hvalid.unborn q ((nextProcess_change h).trans hq)
  by_contra hne
  obtain ⟨record', hrecord'⟩ := Option.ne_none_iff_exists'.1 hne
  obtain hsame | ⟨record, hrecord, -⟩ | hspawned := processes_change h hrecord'
  · rw [hunborn] at hsame
    cases hsame
  · rw [hunborn] at hrecord
    cases hrecord
  · rw [hspawned.new, hspawned.next] at hq
    exact absurd hq (Nat.not_succ_le_self _)

theorem started_change (hvalid : s.Valid nonce kept) (h : Change nonce p s c s')
    {record : ProcessRecord} (hrecord : s.processes q = some record)
    (hstarted : record.stage ≠ .created) :
    ∃ record', s'.processes q = some record' ∧ record'.stage ≠ .created := by
  obtain ⟨record', hrecord', -, -⟩ :=
    (grows_change hvalid.unborn_next h).records q record hrecord
  refine ⟨record', hrecord', ?_⟩
  obtain hsame | ⟨old, hold, -, hover, rfl⟩ | hspawned := processes_change h hrecord'
  · obtain rfl := Option.some.inj (hsame.symm.trans hrecord)
    exact hstarted
  · intro hstage
    cases hstage
  · rw [hspawned.new, hvalid.unborn_next] at hrecord
    cases hrecord

theorem parents_change (hvalid : s.Valid nonce kept) (halive : Alive s p)
    (h : Change nonce p s c s') {record' : ProcessRecord} {parent : ℕ}
    (hrecord' : s'.processes q = some record') (hparent : record'.parent = some parent) :
    ∃ record, s'.processes parent = some record ∧ record.stage ≠ .created := by
  obtain hsame | ⟨old, hold, -, -, rfl⟩ | hspawned := processes_change h hrecord'
  · obtain ⟨record, hrecord, hstarted⟩ := hvalid.parents q record' parent hsame hparent
    exact started_change hvalid h hrecord hstarted
  · obtain ⟨record, hrecord, hstarted⟩ := hvalid.parents q old parent hold hparent
    exact started_change hvalid h hrecord hstarted
  -- a new process has the caller for its parent, which runs
  · obtain rfl := Option.some.inj (hspawned.parent.symm.trans hparent)
    obtain ⟨record, hrecord, hrunning⟩ := halive
    refine started_change hvalid h hrecord ?_
    rw [hrunning]
    decide

/-- The token of a daemon is that of its parent, or of nobody. -/
theorem tokens_change (hvalid : s.Valid nonce kept) (hpromised : Promised nonce kept p s c)
    (h : Change nonce p s c s') {record' : ProcessRecord} {config logLevel : Option String}
    {foreground : Bool} {token : String} (hrecord' : s'.processes q = some record')
    (hkind : record'.kind = .daemon config logLevel foreground (some token)) :
    (∃ parent, record'.parent = some parent ∧ HasId nonce s' parent "tui-owner" token) ∨
      Foreign nonce token := by
  have hgrows := grows_change hvalid.unborn_next h
  have hold : ∀ record, s.processes q = some record → record.kind = record'.kind →
      record.parent = record'.parent → (∃ parent, record'.parent = some parent ∧
        HasId nonce s' parent "tui-owner" token) ∨ Foreign nonce token := by
    intro record hrecord hkinds hparents
    obtain ⟨parent, hparent, hid⟩ | hforeign :=
      hvalid.tokens q record config logLevel foreground token hrecord (hkinds.trans hkind)
    · exact .inl ⟨parent, hparents.symm.trans hparent, hid.grows hgrows⟩
    · exact .inr hforeign
  obtain hsame | ⟨record, hrecord, -, -, rfl⟩ | hspawned := processes_change h hrecord'
  · exact hold record' hsame rfl rfl
  · exact hold record hrecord rfl rfl
  · obtain ⟨other, hprobe⟩ | ⟨other, ownerToken, rfl, hdaemon⟩ := hspawned.kind
    · rw [hprobe] at hkind
      cases hkind
    · rw [hdaemon] at hkind
      cases hkind
      exact .inl ⟨p, hspawned.parent, HasId.grows hpromised hgrows⟩

theorem outputs_change (hvalid : s.Valid nonce kept) (h : Change nonce p s c s')
    {record' : ProcessRecord} {status : ProbeStatus} (hrecord' : s'.processes q = some record')
    (hended : record'.stage = .ended (some (.ok (some status)))) :
    Reported nonce s' status.state status.lockMetadata := by
  obtain hsame | ⟨record, -, -, -, rfl⟩ | hspawned := processes_change h hrecord'
  · exact (hvalid.outputs q record' status hsame hended).grows (grows_change hvalid.unborn_next h)
  · cases hended
  · rw [hspawned.stage] at hended
    cases hended

/-! ## Messages -/

omit [LockMetadataJson] in
theorem requests_change {x : ℕ × RequestMessage} (h : Change nonce p s c s')
    (hx : x ∈ s'.requests) : x ∈ s.requests ∨ x.1 = p ∧ c = .send x.2 := by
  cases h with
  | send message =>
    obtain rfl | hmem := List.mem_cons.1 hx
    · exact .inr ⟨rfl, rfl⟩
    · exact .inl hmem
  | _ => exact .inl hx

omit [LockMetadataJson] in
theorem responses_change {x : ℕ × ResponseMessage} (h : Change nonce p s c s')
    (hx : x ∈ s'.responses) : x ∈ s.responses ∨ x.1 = p ∧ c = .respond x.2 := by
  cases h with
  | respond response =>
    obtain rfl | hmem := List.mem_cons.1 hx
    · exact .inr ⟨rfl, rfl⟩
    · exact .inl hmem
  | _ => exact .inl hx

omit [LockMetadataJson] in
theorem sequence_change (hsequence : ∀ q, s.sequence q < 2 ^ 64) (h : Change nonce p s c s')
    (q : ℕ) : s'.sequence q < 2 ^ 64 := by
  cases h with
  | nextId scope hlt =>
    by_cases hq : q = p
    · subst hq
      simp only [Function.update_self]
      exact hlt
    · simp only [Function.update_of_ne hq]
      exact hsequence q
  | _ => exact hsequence q

theorem Alive.lt (halive : Alive s p) (hvalid : s.Valid nonce kept) : p < s.nextProcess := by
  obtain ⟨record, hrecord, -⟩ := halive
  by_contra hle
  rw [hvalid.unborn p (Nat.le_of_not_lt hle)] at hrecord
  cases hrecord

theorem named_change (hvalid : s.Valid nonce kept) (halive : Alive s p) (h : Change nonce p s c s')
    (hq : 0 < s'.sequence q) : q < s'.nextProcess := by
  refine lt_of_lt_of_le ?_ (nextProcess_change h)
  cases h with
  | nextId scope hlt =>
    by_cases hp : q = p
    · subst hp
      exact halive.lt hvalid
    · simp only [Function.update_of_ne hp] at hq
      exact hvalid.named q hq
  | _ => exact hvalid.named q hq

/-- The nonce of a process that is created is new. -/
theorem nonces_succ (hvalid : s.Valid nonce kept) (hfresh : s.FreshNonce nonce) {r : ℕ}
    (hq : q < s.nextProcess + 1) (hr : r < s.nextProcess + 1) (hsame : nonce q = nonce r) :
    q = r := by
  obtain hq | rfl := Nat.lt_succ_iff_lt_or_eq.1 hq
  · obtain hr | rfl := Nat.lt_succ_iff_lt_or_eq.1 hr
    · exact hvalid.nonces q r hq hr hsame
    · exact absurd hsame (hfresh q hq)
  · obtain hr | rfl := Nat.lt_succ_iff_lt_or_eq.1 hr
    · exact absurd hsame.symm (hfresh r hr)
    · rfl

theorem nonces_change (hvalid : s.Valid nonce kept) (h : Change nonce p s c s') {r : ℕ}
    (hq : q < s'.nextProcess) (hr : r < s'.nextProcess) (hsame : nonce q = nonce r) : q = r := by
  cases h with
  | spawnProbe config hfresh => exact nonces_succ hvalid hfresh hq hr hsame
  | spawnDaemon config ownerToken hfresh => exact nonces_succ hvalid hfresh hq hr hsame
  | _ => exact hvalid.nonces q r hq hr hsame

/-- An id has been given to one process. -/
theorem HasId.unique (hvalid : s.Valid nonce kept) {scope scope' id : String}
    (h : HasId nonce s p scope id) (h' : HasId nonce s q scope' id) : p = q := by
  obtain ⟨k, hk, rfl⟩ := h
  obtain ⟨k', hk', hid⟩ := h'
  obtain ⟨-, hsame, -⟩ :=
    correlationId_inj (hk.trans (hvalid.sequence p)) (hk'.trans (hvalid.sequence q)) hid
  exact hvalid.nonces p q (hvalid.named p (by omega)) (hvalid.named q (by omega)) hsame

theorem requestIds_change (hvalid : s.Valid nonce kept) (hpromised : Promised nonce kept p s c) (h : Change nonce p s c s') :
    (s'.requests.map (·.2.requestId)).Nodup := by
  cases h with
  | send message =>
    obtain ⟨-, scope, hid, hfresh⟩ := hpromised
    refine List.nodup_cons.2 ⟨fun hmem => ?_, hvalid.requestIds⟩
    obtain ⟨⟨sender, other⟩, hother, hsame⟩ := List.mem_map.1 hmem
    obtain ⟨scope', hother'⟩ := (hvalid.requests _ hother).1
    -- another process has other ids, and the process itself has not used this one
    simp only at hsame hother'
    rw [hsame] at hother'
    obtain rfl := hid.unique hvalid hother'
    exact hfresh other hother hsame
  | _ => exact hvalid.requestIds

/-! ## The whole -/

/-- A promised call keeps the invariant. -/
theorem valid_change (hlawful : LockMetadataJson.Lawful) (hvalid : s.Valid nonce kept)
    (halive : Alive s p) (hpromised : Promised nonce kept p s c)
    (h : Change nonce p s c s') : s'.Valid nonce kept := by
  have hgrows := grows_change hvalid.unborn_next h
  constructor
  case volume => exact volume_change hvalid.volume h
  case readable => exact fun i metadata => readable_change hlawful hvalid hpromised h
  case guards => exact fun q guard => guardHeld_change hvalid hpromised h
  case distinct => exact distinct_change hvalid hpromised h
  case alive =>
    intro q guard hmem
    have hrunning : Alive s q := by
      obtain hold | ⟨rfl, -, -⟩ := guards_change h hmem
      · exact hvalid.alive q guard hold
      · exact halive
    obtain ⟨record, hrecord, hstage⟩ := hrunning
    exact ⟨record, running_change hvalid.unborn_next hrecord hstage h, hstage⟩
  case requests =>
    rintro ⟨sender, message⟩ hx
    obtain hold | ⟨rfl, rfl⟩ := requests_change h hx
    · obtain ⟨hown, hauthorized⟩ := hvalid.requests _ hold
      exact ⟨hown.grows hgrows, hauthorized.grows hgrows⟩
    · obtain ⟨hauthorized, scope, hid, -⟩ := hpromised
      exact ⟨⟨scope, hid.grows hgrows⟩, hauthorized.grows hgrows⟩
  case requestIds => exact requestIds_change hvalid hpromised h
  case responses =>
    rintro ⟨sender, response⟩ hx
    obtain hold | ⟨rfl, rfl⟩ := responses_change h hx
    · exact (hvalid.responses _ hold).grows hgrows
    · exact Truthful.grows hpromised hgrows
  case unborn => exact fun q => unborn_change hvalid h
  case parents => exact fun q record parent => parents_change hvalid halive h
  case sequence => exact sequence_change hvalid.sequence h
  case named => exact fun q => named_change hvalid halive h
  case nonces => exact fun q r => nonces_change hvalid h
  case tokens =>
    exact fun q record config logLevel foreground token => tokens_change hvalid hpromised h
  case outputs => exact fun q record status => outputs_change hvalid h

/-- What the other processes see of a promised call. -/
theorem rely_change (hvalid : s.Valid nonce kept) (hpromised : Promised nonce kept p s c)
    (h : Change nonce p s c s') (hq : q ≠ p) : Rely kept q s s' where
  spares := (spares_change hvalid hpromised h).mono fun file hfile => .inl (by rw [hfile]; exact hq)
  guards := by
    cases h with
    | hold | giveUp => exact Function.update_of_ne hq ..
    | _ => rfl
  sequence := by
    cases h with
    | nextId => exact Function.update_of_ne hq ..
    | _ => rfl
  grows := grows_change hvalid.unborn_next h
  requests message hmem := by
    obtain hold | ⟨hsender, -⟩ := requests_change h hmem
    · exact hold
    · exact absurd hsender hq
  running record hrecord hrunning := running_change hvalid.unborn_next hrecord hrunning h
  children r record' hrecord' hparent := by
    obtain hsame | ⟨record, hrecord, hother, -, rfl⟩ | hspawned := processes_change h hrecord'
    · exact ⟨record', hsame, hparent, rfl, id⟩
    · exact absurd (Option.some.inj (hparent.symm.trans hother)) hq
    · exact absurd (Option.some.inj (hparent.symm.trans hspawned.parent)) hq

end WeatherApp.Host
