import WeatherApp.Host.Rules

/-!
# The locks of the engine are held

However the other processes interleave, an acquisition that succeeds leaves the process with one
more guard, which holds the lock of its file, and one that fails leaves it with the guards that it
had. On the way the process writes only what it has locked, and only the beginning of its own
metadata.

## Main definitions

* `Locked`: the lock of an open file beside the guards of a process.

## Main results

* `acquire_holds`: the acquisition of a lock.
* `LockGuard.drop_holds`: the end of a guard.
-/

namespace WeatherApp.Host

variable [LockMetadataJson] {nonce : Nonces} {kept : String → Prop} {p i : ℕ} {s s' : HostState}
  {guards : List LockGuard} {file : OpenFile} {path : String}

/-- The file is one of the process, but of none of these guards. -/
def OwnBeside (p : ℕ) (guards : List LockGuard) (file : OpenFile) : Prop :=
  file.process = p ∧ ∀ guard ∈ guards, guard.file ≠ file

omit [LockMetadataJson] in
theorem OwnBeside.ownFile (h : OwnBeside p guards file) (hguards : s.guards p = guards) :
    OwnFile s p file := by
  subst hguards
  exact h

/-- The process has these guards, and beside them the lock of an open file. -/
structure Locked (p : ℕ) (guards : List LockGuard) (file : OpenFile) (i : ℕ) (s : HostState) :
    Prop where
  own : OwnBeside p guards file
  guards : s.guards p = guards
  lock : s.volume.Locks file i

omit [LockMetadataJson] in
theorem Locked.rely (h : Locked p guards file i s) (hrely : Rely kept p s s') :
    Locked p guards file i s' where
  own := h.own
  guards := hrely.guards.trans h.guards
  lock := (hrely.spares.locks file i h.own.1).2 h.lock

/-! ## Calls with the file -/

/-- An open file is the process's own. -/
theorem openFile_holds (hguards : s.guards p = guards) (create : Bool) :
    HostHolds nonce kept p s (perform (.openFile path create)) (Outcome
      (fun file s' => OwnBeside p guards file ∧ s'.guards p = guards)
      (fun s' => s'.guards p = guards)) := by
  refine hostHolds_perform fun s₁ hrely hvalid => ⟨trivial, fun r s₂ heffect _ s₃ hrely₃ => ?_⟩
  have hkeep : s₃.guards p = guards := by
    have hsteady : Steady p s₁ s₂ :=
      steady_change (c := .openFile path create) trivial (change_of_effect heffect)
    rw [hrely₃.guards, hsteady.guards, hrely.guards, hguards]
  cases r with
  | error err => exact hkeep
  | ok file =>
    -- the number of the file is new, so that no guard has it
    obtain ⟨rfl, -⟩ := openFile_eq_some heffect
    refine ⟨?_, hkeep⟩
    have hown : OwnFile s₁ p ⟨p, s₁.volume.opened⟩ := ownFile_opened hvalid
    rwa [OwnFile, hrely.guards, hguards] at hown

/-- The lock of an open file. -/
theorem tryLock_holds (hown : OwnBeside p guards file) (hguards : s.guards p = guards) :
    HostHolds nonce kept p s (perform (.tryLock file true)) (Outcome
      (fun _ s' => ∃ i, Locked p guards file i s')
      (fun s' => s'.guards p = guards)) := by
  refine hostHolds_perform fun s₁ hrely hvalid => ?_
  have hguards₁ : s₁.guards p = guards := hrely.guards.trans hguards
  refine ⟨hown.ownFile hguards₁, fun r s₂ heffect _ s₃ hrely₃ => ?_⟩
  cases r with
  | error err =>
    obtain rfl := (stay_eq_some heffect).2
    exact hrely₃.guards.trans hguards₁
  | ok =>
    obtain ⟨i, lock, -, hlock, rfl⟩ := lockFile_eq_some heffect
    -- an exclusive lock is given only where nobody else has one
    obtain ⟨rfl, -⟩ := FileLock.tryExclusive_eq_some hlock
    have hlocked : Locked p guards file i (s₁.setVolume (s₁.volume.setLock i (.exclusive file))) :=
      ⟨hown, hguards₁, Function.update_self ..⟩
    exact ⟨i, hlocked.rely hrely₃⟩

theorem unlock_holds (hown : OwnBeside p guards file) (hguards : s.guards p = guards) :
    HostHolds nonce kept p s (perform (.unlock file)) fun _ s' => s'.guards p = guards := by
  refine Process.Holds.weaken (hostHolds_steady trivial fun _ hrely _ =>
    hown.ownFile (hrely.guards.trans hguards)) fun _ _ _ hsteady => hsteady.guards.trans hguards

theorem close_holds (hown : OwnBeside p guards file) (hguards : s.guards p = guards) :
    HostHolds nonce kept p s (perform (.close file)) fun _ s' => s'.guards p = guards := by
  refine Process.Holds.weaken (hostHolds_steady trivial fun _ hrely _ =>
    hown.ownFile (hrely.guards.trans hguards)) fun _ _ _ hsteady => hsteady.guards.trans hguards

/-- If the path is found to name the file, it does so for as long as it is kept. -/
theorem fileMatchesPath_holds (hprocess : file.process = p) (path : String) :
    HostHolds nonce kept p s (fileMatchesPath file path).run (Outcome
      (fun matched s' => Rely kept p s s' ∧ (matched = true → kept path →
        ∃ i, s'.volume.inode file = some i ∧ s'.volume.entry path = some i))
      (Rely kept p s)) := by
  unfold fileMatchesPath
  refine hostHolds_quietThen (hostQuiet_orContext (hostQuiet_call (.tryClone file) trivial)) (fun _ _ => ?_)
    (fun s' hrely _ => hrely)
  -- the file does not change while it is open
  refine hostHolds_then (P := fun i s' => Rely kept p s s' ∧ s'.volume.inode file = some i)
    (B := Rely kept p s) (hostHolds_orContext ?_) ?_ (fun _ _ _ h => h)
  · refine hostHolds_perform fun s₁ hrely _ => ⟨trivial, fun r s₂ heffect _ s₃ hrely₃ => ?_⟩
    cases r with
    | error err =>
      obtain rfl := Option.some.inj heffect
      exact hrely.trans hrely₃
    | ok i =>
      obtain ⟨hinode, rfl⟩ := stay_eq_some heffect
      refine ⟨hrely.trans hrely₃, ?_⟩
      rw [hrely₃.spares.inode file hprocess]
      exact of_decide_eq_true hinode
  rintro i s₁ - - ⟨hrely₁, hinode⟩
  -- what the path names stays only if the path is kept
  refine hostHolds_then (P := fun (handle : Except IoError ℕ) s' => Rely kept p s s' ∧
      s'.volume.inode file = some i ∧
        ∀ j, handle = .ok j → kept path → s'.volume.entry path = some j)
    (B := fun _ => False) (hostHolds_lift ?_) ?_ (fun _ _ _ h => h.elim)
  · refine hostHolds_perform fun s₂ hrely₂ _ => ⟨trivial, fun r s₃ heffect _ s₄ hrely₄ => ?_⟩
    have hsame : s₃ = s₂ := quiet_effect (c := .identifyPath path) trivial heffect
    subst hsame
    refine ⟨(hrely₁.trans hrely₂).trans hrely₄, ?_, ?_⟩
    · rw [hrely₄.spares.inode file hprocess, hrely₂.spares.inode file hprocess, hinode]
    · rintro j rfl hkept
      exact hrely₄.spares.entry path j hkept (of_decide_eq_true (stay_eq_some heffect).1)
  rintro handle s₂ - - ⟨hrely₂, hinode₂, hentry⟩
  cases handle with
  | ok j =>
    refine hostHolds_pure fun s₃ hrely₃ _ => ⟨hrely₂.trans hrely₃, fun hmatched hkept => ?_⟩
    -- the two identities are those of one file
    obtain rfl : i = j := of_decide_eq_true hmatched
    refine ⟨i, ?_, hrely₃.spares.entry path i hkept (hentry i rfl hkept)⟩
    rw [hrely₃.spares.inode file hprocess, hinode₂]
  | error err =>
    by_cases hkind : err.kind = .notFound
    · simp only [hkind, if_true]
      refine hostHolds_pure fun s₃ hrely₃ _ => ⟨hrely₂.trans hrely₃, fun hmatched => ?_⟩
      cases hmatched
    · simp only [hkind, if_false]
      exact hostHolds_throw fun s₃ hrely₃ _ => hrely₂.trans hrely₃

/-! ## The end of a guard -/

namespace LockGuard

omit [LockMetadataJson] in
/-- A guard that is given up has a file of its own. -/
theorem ownBeside_erase {guard : LockGuard} (hmem : guard ∈ guards)
    (hdistinct : (guards.map (·.file)).Nodup) (hprocess : guard.file.process = p) :
    OwnBeside p (guards.erase guard) guard.file := by
  refine ⟨hprocess, fun other hother hfile => ?_⟩
  have hnodup : guards.Nodup := hdistinct.of_map
  have hne : other ≠ guard := (hnodup.mem_erase_iff.1 hother).1
  exact hne (List.inj_on_of_nodup_map hdistinct (List.mem_of_mem_erase hother) hmem hfile)

theorem dropFile_holds (hown : OwnBeside p guards file) (hguards : s.guards p = guards) :
    HostHolds nonce kept p s (dropFile file) fun _ s' => s'.guards p = guards :=
  hostHolds_bind (unlock_holds hown hguards) fun _ _ _ _ hguards' => close_holds hown hguards'

theorem drop_holds {guard : LockGuard} (hmem : guard ∈ s.guards p) :
    HostHolds nonce kept p s guard.drop fun _ s' => s'.guards p = (s.guards p).erase guard := by
  refine hostHolds_bind (P := fun _ s' => OwnBeside p ((s.guards p).erase guard) guard.file ∧
    s'.guards p = (s.guards p).erase guard) ?_ ?_
  -- once the guard is given up, the file is one of the process's own
  · refine hostHolds_perform fun s₁ hrely hvalid => ⟨trivial, fun r s₂ heffect _ s₃ hrely₃ => ?_⟩
    obtain rfl := Option.some.inj heffect
    rw [← hrely.guards] at hmem ⊢
    refine ⟨ownBeside_erase hmem (hvalid.distinct p) (hvalid.guards p guard hmem).1, ?_⟩
    exact hrely₃.guards.trans (Function.update_self ..)
  · rintro _ s' - - ⟨hown, hguards⟩
    exact dropFile_holds hown hguards

/-- The guard that was taken last is the one that is dropped. -/
theorem dropLast_holds {guard : LockGuard} (hguards : s.guards p = guard :: guards) :
    HostHolds nonce kept p s guard.drop fun _ s' => s'.guards p = guards := by
  have hmem : guard ∈ s.guards p := by
    rw [hguards]
    exact List.mem_cons_self
  refine Process.Holds.weaken (drop_holds hmem) fun _ s' _ h => ?_
  rw [h, hguards, List.erase_cons_head]

/-! ## The metadata -/

theorem truncate_holds (h : Locked p guards file i s) :
    HostHolds nonce kept p s (perform (.truncate file)) (Outcome
      (fun _ s' => Locked p guards file i s' ∧ s'.volume.content i = "")
      (fun s' => s'.guards p = guards)) := by
  refine hostHolds_perform fun s₁ hrely hvalid => ?_
  have h₁ : Locked p guards file i s₁ := h.rely hrely
  refine ⟨⟨h.own.ownFile h₁.guards, i, h₁.lock⟩, fun r s₂ heffect _ s₃ hrely₃ => ?_⟩
  cases r with
  | error err =>
    obtain rfl := Option.some.inj heffect
    exact (h₁.rely hrely₃).guards
  | ok =>
    -- the open file is the locked one, which nobody else writes
    have hwrite : s₁.writeFile file (fun _ => "") = some s₂ := heffect
    obtain ⟨j, hj, rfl⟩ := writeFile_eq_some hwrite
    obtain rfl := Option.some.inj ((h₁.lock.inode_eq hvalid.volume).symm.trans hj)
    have h₂ : Locked p guards file i (s₁.setVolume (s₁.volume.write i "")) :=
      ⟨h.own, h₁.guards, h₁.lock⟩
    refine ⟨h₂.rely hrely₃, ?_⟩
    rw [hrely₃.spares.content file i h.own.1 h₂.lock]
    exact Function.update_self ..

theorem write_holds (h : Locked p guards file i s) {written text : String}
    (hcontent : s.volume.content i = written) {metadata : EngineLockMetadata}
    (hlaunch : IsLaunch nonce s metadata)
    (hbegins : (written ++ text).toList <+: (lockText metadata).toList) :
    HostHolds nonce kept p s (perform (.write file text)) (Outcome
      (fun _ s' => Locked p guards file i s' ∧ s'.volume.content i = written ++ text)
      (fun s' => s'.guards p = guards)) := by
  refine hostHolds_perform fun s₁ hrely hvalid => ?_
  have h₁ : Locked p guards file i s₁ := h.rely hrely
  have hcontent₁ : s₁.volume.content i = written :=
    (hrely.spares.content file i h.own.1 h.lock).trans hcontent
  rw [← hcontent₁] at hbegins
  refine ⟨⟨h.own.ownFile h₁.guards, i, metadata, h₁.lock, hlaunch.grows hrely.grows, hbegins⟩,
    fun r s₂ heffect _ s₃ hrely₃ => ?_⟩
  cases r with
  | error err =>
    obtain rfl := Option.some.inj heffect
    exact (h₁.rely hrely₃).guards
  | ok =>
    -- the text goes to the end of what is written already
    have hwrite : s₁.writeFile file (· ++ text) = some s₂ := heffect
    obtain ⟨j, hj, rfl⟩ := writeFile_eq_some hwrite
    obtain rfl := Option.some.inj ((h₁.lock.inode_eq hvalid.volume).symm.trans hj)
    have h₂ : Locked p guards file i
        (s₁.setVolume (s₁.volume.write i (s₁.volume.content i ++ text))) :=
      ⟨h.own, h₁.guards, h₁.lock⟩
    refine ⟨h₂.rely hrely₃, ?_⟩
    rw [hrely₃.spares.content file i h.own.1 h₂.lock, ← hcontent₁]
    exact Function.update_self ..

omit [LockMetadataJson] in
/-- What is written first is the beginning of what is written in the end. -/
theorem foldl_append_begins (pieces : List String) (written : String) :
    written.toList <+: (pieces.foldl (· ++ ·) written).toList := by
  induction pieces generalizing written with
  | nil => exact List.prefix_refl _
  | cons piece rest ih =>
    refine List.IsPrefix.trans ?_ (ih (written ++ piece))
    rw [String.toList_append]
    exact List.prefix_append _ _

theorem writePieces_holds (context : String) (pieces : List String)
    (h : Locked p guards file i s) {written : String} (hcontent : s.volume.content i = written)
    {metadata : EngineLockMetadata} (hlaunch : IsLaunch nonce s metadata)
    (hbegins : (pieces.foldl (· ++ ·) written).toList <+: (lockText metadata).toList) :
    HostHolds nonce kept p s (writePieces context file pieces).run (Outcome
      (fun _ s' => Locked p guards file i s' ∧
        s'.volume.content i = pieces.foldl (· ++ ·) written)
      (fun s' => s'.guards p = guards)) := by
  -- after each piece the file is the beginning of the text
  induction pieces generalizing s written with
  | nil =>
    refine hostHolds_pure fun s' hrely _ => ⟨h.rely hrely, ?_⟩
    rw [hrely.spares.content file i h.own.1 h.lock, hcontent]
    rfl
  | cons piece rest ih =>
    have hfirst : (written ++ piece).toList <+: (lockText metadata).toList :=
      (foldl_append_begins rest (written ++ piece)).trans hbegins
    refine hostHolds_then (hostHolds_orContext (write_holds h hcontent hlaunch hfirst)) ?_
      fun _ _ _ h => h
    rintro _ s' - hgrows ⟨h', hcontent'⟩
    exact ih h' hcontent' (hlaunch.grows hgrows) hbegins

theorem writeMetadata_holds (h : Locked p guards file i s) (path : String)
    {metadata : EngineLockMetadata} (hlaunch : IsLaunch nonce s metadata) :
    HostHolds nonce kept p s (writeMetadata file path metadata).run (Outcome
      (fun _ s' => Locked p guards file i s' ∧ s'.volume.content i = lockText metadata)
      (fun s' => s'.guards p = guards)) := by
  unfold writeMetadata
  have htext : lockText metadata =
      (LockMetadataJson.pieces metadata).foldl (· ++ ·) "" ++ "\n" := by
    rw [lockText, List.foldl_append]
    rfl
  refine hostHolds_quietThen (hostQuiet_orContext (hostQuiet_call (.seekStart file) trivial))
    (fun _ _ => ?_) fun s' hrely _ => (h.rely hrely).guards
  -- the file is emptied before the metadata is written, and written piece by piece
  refine hostHolds_then (hostHolds_orContext (truncate_holds h)) ?_ fun _ _ _ h => h
  rintro _ s₁ - hgrows₁ ⟨h₁, hcontent₁⟩
  have hlaunch₁ : IsLaunch nonce s₁ metadata := hlaunch.grows hgrows₁
  refine hostHolds_then (writePieces_holds _ _ h₁ hcontent₁ hlaunch₁ ?_) ?_ fun _ _ _ h => h
  · rw [htext, String.toList_append]
    exact List.prefix_append _ _
  rintro _ s₂ - hgrows₂ ⟨h₂, hcontent₂⟩
  refine hostHolds_then
    (hostHolds_orContext (write_holds h₂ hcontent₂ (hlaunch₁.grows hgrows₂) ?_)) ?_
    fun _ _ _ h => h
  · rw [← htext]
  rintro _ s₃ - - ⟨h₃, hcontent₃⟩
  -- the whole text is there; syncing it changes nothing
  refine hostHolds_ofQuiet (hostQuiet_orContext (hostQuiet_call (.syncData file) trivial)) ?_
  rintro result s₄ - hrely₄ -
  cases result with
  | ok =>
    refine ⟨h₃.rely hrely₄, ?_⟩
    rw [hrely₄.spares.content file i h₃.own.1 h₃.lock, hcontent₃, htext]
  | error => exact (h₃.rely hrely₄).guards

/-! ## The acquisition -/

/-- The metadata is that of an engine of the process. -/
def Describes (nonce : Nonces) (p : ℕ) (metadata : Option EngineLockMetadata) (s : HostState) :
    Prop :=
  ∀ described, metadata = some described → IsLaunch nonce s described ∧ described.pid = p

omit [LockMetadataJson] in
theorem Describes.grows {metadata : Option EngineLockMetadata} (h : Describes nonce p metadata s)
    (hgrows : Grows s s') : Describes nonce p metadata s' := by
  intro described hdescribed
  obtain ⟨hlaunch, hpid⟩ := h described hdescribed
  exact ⟨hlaunch.grows hgrows, hpid⟩

/-- The result of an acquisition: one more guard, or those that there were. -/
def Acquired (p : ℕ) (guards : List LockGuard) (path : String)
    (metadata : Option EngineLockMetadata) : Except String LockGuard → HostState → Prop :=
  Outcome (fun guard s => s.guards p = guard :: guards ∧ guard.path = path ∧
    guard.metadata = metadata) fun s => s.guards p = guards

/-- An attempt that can be made from any state in which the process has these guards. -/
def CanAcquire (nonce : Nonces) (kept : String → Prop) (p : ℕ) (guards : List LockGuard)
    (path : String) (metadata : Option EngineLockMetadata) (program : HostM LockGuard) : Prop :=
  ∀ s, s.guards p = guards → Describes nonce p metadata s →
    HostHolds nonce kept p s program.run (Acquired p guards path metadata)

variable {metadata : Option EngineLockMetadata} {again : Option (HostM LockGuard)}

theorem retryOr_holds {drop : HostProgram Unit} {error : String}
    (hagain : ∀ next ∈ again, CanAcquire nonce kept p guards path metadata next)
    (hdrop : ∀ s, s.guards p = guards →
      HostHolds nonce kept p s drop fun _ s' => s'.guards p = guards)
    (hguards : s.guards p = guards) (hdescribes : Describes nonce p metadata s) :
    HostHolds nonce kept p s (retryOr again drop error).run
      (Acquired p guards path metadata) :=
  hostHolds_retryOr hguards (fun _ _ hrely h => hrely.guards.trans h) hdrop
    fun next hnext s' hgrows hguards' => hagain next hnext s' hguards' (hdescribes.grows hgrows)

/-- From here on the process has the guard. -/
theorem hold_holds (h : Locked p guards file i s)
    (hentry : kept path → s.volume.entry path = some i)
    (hcontent : ∀ described, metadata = some described →
      s.volume.content i = lockText described ∧ IsLaunch nonce s described ∧ described.pid = p) :
    HostHolds nonce kept p s (perform (.hold ⟨path, metadata, file⟩))
      fun _ s' => s'.guards p = ⟨path, metadata, file⟩ :: guards := by
  refine hostHolds_perform fun s₁ hrely hvalid => ?_
  have h₁ : Locked p guards file i s₁ := h.rely hrely
  refine ⟨⟨⟨h.own.1, i, h₁.lock, fun hkept => hrely.spares.entry path i hkept (hentry hkept),
    fun described hdescribed => ?_⟩, ?_⟩, fun r s₂ heffect _ s₃ hrely₃ => ?_⟩
  · obtain ⟨htext, hlaunch, hpid⟩ := hcontent described hdescribed
    refine ⟨?_, hlaunch.grows hrely.grows, hpid⟩
    exact (hrely.spares.content file i h.own.1 h.lock).trans htext
  · rw [h₁.guards]
    exact h.own.2
  · obtain rfl := Option.some.inj heffect
    rw [hrely₃.guards]
    simp only [Function.update_self, h₁.guards]

theorem finish_holds (h : Locked p guards file i s)
    (hentry : kept path → s.volume.entry path = some i)
    (hcontent : ∀ described, metadata = some described →
      s.volume.content i = lockText described ∧ IsLaunch nonce s described ∧ described.pid = p) :
    HostHolds nonce kept p s
      (do let _ ← invoke (.hold ⟨path, metadata, file⟩)
          return ⟨path, metadata, file⟩ : HostM LockGuard).run
      (Acquired p guards path metadata) := by
  refine hostHolds_then (B := fun _ => False) (hostHolds_lift (hold_holds h hentry hcontent)) ?_
    fun _ _ _ h => h.elim
  exact fun _ _ _ _ hguards => hostHolds_pure fun s' hrely _ =>
    ⟨hrely.guards.trans hguards, rfl, rfl⟩

/-- The path is found to name the locked file. -/
theorem matched_holds (h : Locked p guards file i s) (path : String) :
    HostHolds nonce kept p s (fileMatchesPath file path).run (Outcome
      (fun matched s' => Rely kept p s s' ∧ Locked p guards file i s' ∧
        (matched = true → kept path → s'.volume.entry path = some i))
      (fun s' => s'.guards p = guards)) := by
  refine hostHolds_weaken (fileMatchesPath_holds h.own.1 path) ?_
    fun s' _ hrely => (h.rely hrely).guards
  rintro matched s' hvalid ⟨hrely, hnames⟩
  have h' : Locked p guards file i s' := h.rely hrely
  refine ⟨hrely, h', fun hmatched hkept => ?_⟩
  obtain ⟨j, hinode, hentry⟩ := hnames hmatched hkept
  obtain rfl := Option.some.inj ((h'.lock.inode_eq hvalid.volume).symm.trans hinode)
  exact hentry

theorem settle_holds (hagain : ∀ next ∈ again, CanAcquire nonce kept p guards path metadata next)
    (h : Locked p guards file i s) (hdescribes : Describes nonce p metadata s) :
    HostHolds nonce kept p s (settle path metadata file again).run
      (Acquired p guards path metadata) := by
  unfold settle
  refine hostHolds_then (hostHolds_onError (matched_holds h path)
    fun s' _ _ hguards => close_holds h.own hguards) ?_ fun _ _ _ hguards => hguards
  rintro matched s₁ - hgrows₁ ⟨hrely₁, h₁, hentry₁⟩
  cases matched with
  | false =>
    -- the path names another file by now
    refine hostHolds_then (B := fun _ => False) (hostHolds_lift (unlock_holds h₁.own h₁.guards)) ?_
      fun _ _ _ h => h.elim
    intro _ s₂ _ hgrows₂ hguards₂
    exact retryOr_holds hagain (fun s hguards => close_holds h.own hguards) hguards₂
      ((hdescribes.grows hgrows₁).grows hgrows₂)
  | true =>
    cases metadata with
    | none => exact finish_holds h₁ (hentry₁ rfl) fun _ hdescribed => by cases hdescribed
    | some described =>
      obtain ⟨hlaunch, hpid⟩ := (hdescribes.grows hgrows₁) described rfl
      refine hostHolds_then (P := fun matched s' => Locked p guards file i s' ∧
          s'.volume.content i = lockText described ∧
          (matched = true → kept path → s'.volume.entry path = some i))
        (hostHolds_onError (B := fun s' => s'.guards p = guards) ?_
          fun s' _ _ hguards => dropFile_holds h.own hguards) ?_ fun _ _ _ hguards => hguards
      -- the path is checked once more, after the metadata is written
      · refine hostHolds_then (writeMetadata_holds h₁ path hlaunch) ?_ fun _ _ _ h => h
        rintro _ s₂ - - ⟨h₂, hcontent₂⟩
        refine hostHolds_weaken (matched_holds h₂ path) ?_ fun _ _ h => h
        rintro matched s₃ - ⟨hrely₃, h₃, hentry₃⟩
        refine ⟨h₃, ?_, hentry₃⟩
        rw [hrely₃.spares.content file i h.own.1 h₂.lock, hcontent₂]
      rintro matched s₂ - hgrows₂ ⟨h₂, hcontent₂, hentry₂⟩
      cases matched with
      | false =>
        refine hostHolds_then (B := fun _ => False)
          (hostHolds_lift (dropFile_holds h₂.own h₂.guards)) ?_ fun _ _ _ h => h.elim
        intro _ s₃ _ hgrows₃ hguards₃
        refine retryOr_holds hagain (fun s hguards => ?_) hguards₃
          (((hdescribes.grows hgrows₁).grows hgrows₂).grows hgrows₃)
        exact hostHolds_return fun s' hrely _ => hrely.guards.trans hguards
      | true =>
        refine finish_holds h₂ (hentry₂ rfl) fun other hother => ?_
        obtain rfl := Option.some.inj hother
        exact ⟨hcontent₂, hlaunch.grows hgrows₂, hpid⟩

theorem attempt_holds (hagain : ∀ next ∈ again, CanAcquire nonce kept p guards path metadata next) :
    CanAcquire nonce kept p guards path metadata (attempt path metadata again) := by
  intro s hguards hdescribes
  unfold attempt
  refine hostHolds_then (hostHolds_orContext (openFile_holds hguards true)) ?_
    fun _ _ _ hguards => hguards
  rintro file s₁ - hgrows₁ ⟨hown, hguards₁⟩
  have hdescribes₁ : Describes nonce p metadata s₁ := hdescribes.grows hgrows₁
  refine hostHolds_then (B := fun _ => False) (hostHolds_lift (tryLock_holds hown hguards₁)) ?_
    fun _ _ _ h => h.elim
  intro locked s₂ _ hgrows₂ hlocked
  cases locked with
  | ok =>
    obtain ⟨i, h₂⟩ := hlocked
    exact settle_holds hagain h₂ (hdescribes₁.grows hgrows₂)
  | error err =>
    refine retryOr_holds (fun next hnext => hagain next ?_)
      (fun s hguards => close_holds hown hguards) hlocked (hdescribes₁.grows hgrows₂)
    by_cases hkind : err.kind = .wouldBlock
    · rwa [if_pos hkind] at hnext
    · rw [if_neg hkind] at hnext
      cases hnext

/-- An acquisition leaves the process with one more guard, or with those that it had. -/
theorem acquire_holds (retries : ℕ) :
    CanAcquire nonce kept p guards path metadata (acquire path retries metadata) := by
  intro s hguards hdescribes
  unfold acquire
  refine hostHolds_quietThen (hostQuiet_invoke (.createParent path) trivial) (fun created _ => ?_)
    fun s' hrely _ => hrely.guards.trans hguards
  cases created with
  | ok =>
    exact attempts_of_attempt (fun _ hagain => attempt_holds hagain) retries s hguards hdescribes
  | error err => exact hostHolds_throw fun s' hrely _ => hrely.guards.trans hguards

end LockGuard

end WeatherApp.Host
