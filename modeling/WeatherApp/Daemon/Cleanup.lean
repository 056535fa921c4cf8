import WeatherApp.Manifest.Recording

/-!
# Removing an installation

`cleanup_service_layout` of `daemon/src/service/helper.rs` removes the components that the manifest
lists and that its options select. A removal that fails does not stop the others, and a directory is
removed with everything below it.

## Main definitions

* `FileTree`: places in the file system, and what stands below them.
* `cleanupServiceLayout`: the cleanup, under any pattern of failures.

## Main results

* `cleanup_spec`: what one run attempts, removes and keeps.
* `Recoverable.cleanup_done`: a run without failures removes what others have left.
* `components_remembered`: recorded entries are listed, and selected entries are removed.
-/

namespace WeatherApp

namespace Manifest

/-! ## The file system -/

/-- Places of the file system: where a path leads, and whether a place is another one or stands below
it. -/
class FileTree (Loc : Type) where
  locate : String → Loc
  within : Loc → Loc → Bool
  within_refl : ∀ place, within place place = true

/-- What exists. -/
abbrev Disk (Loc : Type) := Loc → Bool

/-- How the file system answers a removal: it lets it happen, it does not let the path be inspected,
or the removal fails after some of what stands below the place is gone. -/
inductive RemovalOutcome (Loc : Type) where
  | done
  | uninspected (error : String)
  | failed (error : String) (lost : Loc → Bool)

/-- `ServiceLayout`: the paths that a cleanup uses. -/
structure ServiceLayout where
  binDir : String
  configPath : String
  manifestPath : String
  deriving DecidableEq, Repr

/-- `ServiceCleanupOptions`. -/
structure ServiceCleanupOptions where
  withData : Bool
  withBin : Bool
  removeManifest : Bool
  deriving DecidableEq, Repr

/-- `ComponentManifest::lock_path_for`. -/
def lockPathFor (path : String) : String := path ++ ".lock"

/-- Whether the options select a kind of entry. -/
def ServiceCleanupOptions.selects (options : ServiceCleanupOptions) : ComponentKind → Bool
  | .config | .db | .lock => options.withData
  | .bin => options.withBin

/-- The state of a cleanup: the file system, the attempts with their results, and `first_error`. -/
structure Cleanup (Loc : Type) where
  disk : Disk Loc
  attempts : List (String × Except String Unit)
  firstError : Option String

section Operations

variable {Loc : Type} [DecidableEq Loc] [FileTree Loc]

open FileTree (locate within)

/-- `remove_component_path`: its result, and the file system after it. -/
def removeComponentPath (disk : Disk Loc) (path : String) (outcome : RemovalOutcome Loc) :
    Except String Unit × Disk Loc :=
  match outcome with
  | .uninspected error => (.error s!"inspect component {path}: {error}", disk)
  | .done =>
    if disk (locate path) then (.ok ⟨⟩, fun place => disk place && !within (locate path) place)
    else (.ok ⟨⟩, disk)
  | .failed error lost =>
    if disk (locate path) then
      (.error s!"remove component {path}: {error}", fun place =>
        disk place && !(within (locate path) place && place ≠ locate path && lost place))
    else (.ok ⟨⟩, disk)

/-- Attempt to remove a path. The plan answers the attempts in their order. -/
def Cleanup.remove (plan : ℕ → RemovalOutcome Loc) (run : Cleanup Loc) (path : String) :
    Except String Unit × Cleanup Loc :=
  let (result, disk) := removeComponentPath run.disk path (plan run.attempts.length)
  (result, { run with disk := disk, attempts := run.attempts ++ [(path, result)] })

/-- `retain_first_error(&mut first_error, remove_component_path(path))`. -/
def Cleanup.retain (plan : ℕ → RemovalOutcome Loc) (run : Cleanup Loc) (path : String) :
    Cleanup Loc :=
  match run.remove plan path with
  | (.ok _, run) => run
  | (.error error, run) => { run with firstError := run.firstError <|> some error }

/-- The removal of the manifest and of its lock. -/
def Cleanup.removeManifest (plan : ℕ → RemovalOutcome Loc) (run : Cleanup Loc)
    (manifestPath : String) : Except String Unit × Cleanup Loc :=
  match run.remove plan manifestPath with
  | (.error error, run) => (.error error, run)
  | (.ok _, run) => run.remove plan (lockPathFor manifestPath)

/-- A cleanup that has attempted nothing. -/
def Cleanup.start (disk : Disk Loc) : Cleanup Loc :=
  ⟨disk, [], none⟩

/-- How listing a manifest ends: before its lock file is opened, after that, or well. -/
inductive Listing where
  | unopened (error : String)
  | unread (error : String)
  | listed (entries : List ComponentEntry)
  deriving DecidableEq, Repr

/-- The file system with the lock file of the manifest, which is created where it is missing. -/
def withLockFile (layout : ServiceLayout) (disk : Disk Loc) : Disk Loc :=
  Function.update disk (locate (lockPathFor layout.manifestPath)) true

theorem withLockFile_apply (layout : ServiceLayout) (disk : Disk Loc) (place : Loc) :
    withLockFile layout disk place =
      if place = locate (lockPathFor layout.manifestPath) then true else disk place :=
  Function.update_apply ..

/-- The entries to clean up, and the file system after they have been listed. -/
def listManifest (layout : ServiceLayout) (disk : Disk Loc) (listing : Listing) :
    Except String (List ComponentEntry) × Disk Loc :=
  if disk (locate layout.manifestPath) then
    match listing with
    | .unopened error => (.error error, disk)
    | .unread error => (.error error, withLockFile layout disk)
    | .listed entries => (.ok entries, withLockFile layout disk)
  else (.ok [], disk)

/-- `cleanup_service_layout`. -/
def cleanupServiceLayout (layout : ServiceLayout) (options : ServiceCleanupOptions)
    (inspectFault : Option String) (listing : Listing)
    (plan : ℕ → RemovalOutcome Loc) (disk : Disk Loc) : Except String Unit × Cleanup Loc :=
  if ¬ options.withData ∧ ¬ options.withBin ∧ ¬ options.removeManifest then
    (.ok ⟨⟩, .start disk)
  else
    match inspectFault with
    | some error => (.error s!"inspect manifest {layout.manifestPath}: {error}", .start disk)
    | none =>
      match listManifest layout disk listing with
      | (.error error, disk) => (.error error, .start disk)
      | (.ok entries, disk) =>
        let run := entries.foldl (fun (run : Cleanup Loc) entry =>
          if options.selects entry.kind then run.retain plan entry.path else run) (.start disk)
        let run := if options.withData then run.retain plan layout.configPath else run
        let run := if options.withBin then run.retain plan layout.binDir else run
        match run.firstError with
        | some error => (.error error, run)
        | none =>
          if options.removeManifest then run.removeManifest plan layout.manifestPath
          else (.ok ⟨⟩, run)

/-- The components that the options select, in the order of their removal. -/
def componentPaths (layout : ServiceLayout) (options : ServiceCleanupOptions)
    (entries : List ComponentEntry) : List String :=
  ((entries.filter fun entry => options.selects entry.kind).map (·.path)) ++
    (if options.withData then [layout.configPath] else []) ++
      if options.withBin then [layout.binDir] else []

/-! ## Removals -/

/-- A removal creates nothing. -/
theorem removeComponentPath_shrinks {disk : Disk Loc} {path : String}
    {outcome : RemovalOutcome Loc} {place : Loc}
    (h : (removeComponentPath disk path outcome).2 place = true) : disk place = true := by
  revert h
  cases outcome with
  | uninspected error => exact id
  | done | failed error lost =>
    simp only [removeComponentPath]
    split
    · intro h
      exact (Bool.and_eq_true_iff.1 h).1
    · exact id

/-- A removal touches nothing outside the path. -/
theorem removeComponentPath_frame {disk : Disk Loc} {path : String} {place : Loc}
    (outcome : RemovalOutcome Loc) (h : within (locate path) place = false) :
    (removeComponentPath disk path outcome).2 place = disk place := by
  cases outcome with
  | uninspected error => rfl
  | done | failed error lost =>
    simp only [removeComponentPath]
    split <;> simp [h]

/-- What has been removed is gone. -/
theorem removeComponentPath_gone {disk : Disk Loc} {path : String} {outcome : RemovalOutcome Loc}
    (h : (removeComponentPath disk path outcome).1 = .ok ⟨⟩) :
    (removeComponentPath disk path outcome).2 (locate path) = false := by
  revert h
  cases outcome with
  | uninspected error => exact fun h => (nomatch h)
  | done =>
    intro _
    simp only [removeComponentPath]
    split
    · simp [FileTree.within_refl]
    · exact Bool.eq_false_of_not_eq_true ‹_›
  | failed error lost =>
    simp only [removeComponentPath]
    split
    · exact fun h => (nomatch h)
    · exact fun _ => Bool.eq_false_of_not_eq_true ‹_›

/-- Nothing stops a removal that has no cause to fail. -/
theorem removeComponentPath_done (disk : Disk Loc) (path : String) :
    (removeComponentPath disk path .done).1 = .ok ⟨⟩ := by
  simp only [removeComponentPath]
  split <;> rfl

/-- The attempts that have been made, with what is gone and what has not changed. -/
structure Removed (start : Disk Loc) (paths : List String) (run : Cleanup Loc) : Prop where
  attempted : run.attempts.map (·.1) = paths
  gone : ∀ attempt ∈ run.attempts, attempt.2 = .ok ⟨⟩ → run.disk (locate attempt.1) = false
  shrinks : ∀ place, run.disk place = true → start place = true
  frame : ∀ place, (∀ path ∈ paths, within (locate path : Loc) place = false) →
    run.disk place = start place

omit [DecidableEq Loc] in
theorem Removed.start (disk : Disk Loc) : Removed disk [] (.start disk) :=
  ⟨rfl, fun _ hattempt => absurd hattempt List.not_mem_nil, fun _ => id, fun _ _ => rfl⟩

/-- One more attempt. -/
theorem Removed.remove {start : Disk Loc} {paths : List String} {run : Cleanup Loc}
    (h : Removed start paths run) (plan : ℕ → RemovalOutcome Loc) (path : String) :
    Removed start (paths ++ [path]) (run.remove plan path).2 := by
  have hshrinks : ∀ place, (run.remove plan path).2.disk place = true → run.disk place = true :=
    fun place => removeComponentPath_shrinks
  refine ⟨?_, fun attempt hattempt hok => ?_, fun place hplace => ?_, fun place houtside => ?_⟩
  · simp [Cleanup.remove, h.attempted]
  · rcases List.mem_append.1 hattempt with hbefore | hnew
    · -- what was gone does not come back
      have hgone := h.gone attempt hbefore hok
      rw [← Bool.not_eq_true] at hgone ⊢
      exact fun hplace => hgone (hshrinks _ hplace)
    · obtain rfl := List.mem_singleton.1 hnew
      exact removeComponentPath_gone hok
  · exact h.shrinks place (hshrinks place hplace)
  · have hframe : (run.remove plan path).2.disk place = run.disk place :=
      removeComponentPath_frame (plan run.attempts.length)
        (houtside path (List.mem_append_right _ (List.mem_singleton_self _)))
    exact hframe.trans (h.frame place fun other hother =>
      houtside other (List.mem_append_left _ hother))

/-- The attempts of the components: `first_error` is none as long as they all succeed. -/
structure Retained (start : Disk Loc) (paths : List String) (run : Cleanup Loc) : Prop
    extends Removed start paths run where
  errors : run.firstError = none ↔ ∀ attempt ∈ run.attempts, attempt.2 = .ok ⟨⟩

/-- One more component. -/
theorem Retained.retain {start : Disk Loc} {paths : List String} {run : Cleanup Loc}
    (h : Retained start paths run) (plan : ℕ → RemovalOutcome Loc) (path : String) :
    Retained start (paths ++ [path]) (run.retain plan path) := by
  have hremoved := h.toRemoved.remove plan path
  have hattempts : (run.remove plan path).2.attempts =
      run.attempts ++ [(path, (run.remove plan path).1)] := rfl
  have herror : (run.remove plan path).2.firstError = run.firstError := rfl
  cases hremove : run.remove plan path with
  | mk result after =>
    rw [hremove] at hremoved hattempts herror
    dsimp only at hremoved hattempts herror
    cases result with
    | ok value =>
      simp only [Cleanup.retain, hremove]
      refine ⟨hremoved, ?_⟩
      rw [herror, h.errors, hattempts, List.forall_mem_append]
      simp
    | error error =>
      simp only [Cleanup.retain, hremove]
      refine ⟨⟨hremoved.attempted, hremoved.gone, hremoved.shrinks, hremoved.frame⟩, ?_⟩
      rw [hattempts, List.forall_mem_append]
      cases after.firstError <;> simp

/-- The attempts of a list of components. -/
theorem Retained.foldl {start : Disk Loc} {paths : List String} {run : Cleanup Loc}
    (h : Retained start paths run) (plan : ℕ → RemovalOutcome Loc) (more : List String) :
    Retained start (paths ++ more) (more.foldl (Cleanup.retain plan) run) := by
  induction more generalizing paths run with
  | nil => rwa [List.append_nil]
  | cons path more ih =>
    have hrest := ih (h.retain plan path)
    rwa [List.append_assoc] at hrest

/-- Attempts without causes of failure all succeed. -/
theorem firstError_foldl_done (paths : List String) {run : Cleanup Loc}
    (h : run.firstError = none) :
    (paths.foldl (Cleanup.retain fun _ => .done) run).firstError = none := by
  induction paths generalizing run with
  | nil => exact h
  | cons path paths ih =>
    apply ih
    have hdone : (run.remove (fun _ => .done) path).1 = .ok ⟨⟩ := removeComponentPath_done _ _
    have herror : (run.remove (fun _ => .done) path).2.firstError = run.firstError := rfl
    cases hremove : run.remove (fun _ => .done) path with
    | mk result after =>
      rw [hremove] at hdone herror
      dsimp only at hdone herror
      subst hdone
      simp only [Cleanup.retain, hremove]
      exact herror.trans h

/-! ## The cleanup -/

/-- The entries that are selected, and the two paths of the layout, are removed one after the
other. -/
theorem foldl_componentPaths (layout : ServiceLayout) (options : ServiceCleanupOptions)
    (entries : List ComponentEntry) (plan : ℕ → RemovalOutcome Loc) (run : Cleanup Loc) :
    (componentPaths layout options entries).foldl (Cleanup.retain plan) run =
      let run := entries.foldl (fun (run : Cleanup Loc) entry =>
        if options.selects entry.kind then run.retain plan entry.path else run) run
      let run := if options.withData then run.retain plan layout.configPath else run
      if options.withBin then run.retain plan layout.binDir else run := by
  have hentries : ((entries.filter fun entry => options.selects entry.kind).map (·.path)).foldl
      (Cleanup.retain plan) run = entries.foldl (fun (run : Cleanup Loc) entry =>
        if options.selects entry.kind then run.retain plan entry.path else run) run := by
    rw [List.foldl_map, List.foldl_filter]
  simp only [componentPaths, List.foldl_append, hentries]
  cases options.withData <;> cases options.withBin <;> rfl

/-- The entries that a readable manifest gives to a cleanup. -/
def listedEntries (layout : ServiceLayout) (disk : Disk Loc) (entries : List ComponentEntry) :
    List ComponentEntry :=
  if disk (locate layout.manifestPath) then entries else []

/-- The file system after a readable manifest has been listed. -/
def listedDisk (layout : ServiceLayout) (disk : Disk Loc) : Disk Loc :=
  if disk (locate layout.manifestPath) then withLockFile layout disk else disk

/-- What the cleanup does with a manifest that is read. -/
theorem cleanupServiceLayout_eq {layout : ServiceLayout} {options : ServiceCleanupOptions}
    (hoptions : ¬ (¬ options.withData ∧ ¬ options.withBin ∧ ¬ options.removeManifest))
    (entries : List ComponentEntry) (plan : ℕ → RemovalOutcome Loc) (disk : Disk Loc) :
    cleanupServiceLayout layout options none (.listed entries) plan disk =
      let run := (componentPaths layout options (listedEntries layout disk entries)).foldl
        (Cleanup.retain plan) (.start (listedDisk layout disk))
      match run.firstError with
      | some error => (.error error, run)
      | none =>
        if options.removeManifest then run.removeManifest plan layout.manifestPath
        else (.ok ⟨⟩, run) := by
  have hlist : listManifest layout disk (.listed entries) =
      (.ok (listedEntries layout disk entries), listedDisk layout disk) := by
    simp only [listManifest, listedEntries, listedDisk]
    split <;> rfl
  rw [foldl_componentPaths, cleanupServiceLayout, if_neg hoptions]
  simp only [hlist]

/-- One run of the cleanup: the attempts of the components in their order, whatever happens to them,
and then those of the manifest and its lock. -/
structure CleanupSpec (layout : ServiceLayout) (options : ServiceCleanupOptions)
    (paths rest : List String) (start : Disk Loc) (result : Except String Unit)
    (run : Cleanup Loc) : Prop where
  removed : Removed start (paths ++ rest) run
  rest_prefix : rest <+: [layout.manifestPath, lockPathFor layout.manifestPath]
  rest_requested : rest ≠ [] → options.removeManifest = true ∧
    ∀ attempt ∈ run.attempts.take paths.length, attempt.2 = .ok ⟨⟩
  rest_complete : (∀ attempt ∈ run.attempts, attempt.2 = .ok ⟨⟩) → options.removeManifest = true →
    rest = [layout.manifestPath, lockPathFor layout.manifestPath]
  result_ok : result = .ok ⟨⟩ ↔ ∀ attempt ∈ run.attempts, attempt.2 = .ok ⟨⟩

theorem attempts_remove (plan : ℕ → RemovalOutcome Loc) (run : Cleanup Loc) (path : String) :
    (run.remove plan path).2.attempts = run.attempts ++ [(path, (run.remove plan path).1)] := rfl

/-- The manifest and its lock, after components that are all removed. -/
theorem cleanupSpec_removeManifest (layout : ServiceLayout) {options : ServiceCleanupOptions}
    (hrequested : options.removeManifest = true) {paths : List String} {start : Disk Loc}
    {run : Cleanup Loc} (h : Removed start paths run)
    (hok : ∀ attempt ∈ run.attempts, attempt.2 = .ok ⟨⟩) (plan : ℕ → RemovalOutcome Loc) :
    ∃ rest, CleanupSpec layout options paths rest start
      (run.removeManifest plan layout.manifestPath).1
      (run.removeManifest plan layout.manifestPath).2 := by
  have hlength : paths.length = run.attempts.length := by
    rw [← h.attempted, List.length_map]
  have hmanifest := h.remove plan layout.manifestPath
  have hattempts := attempts_remove plan run layout.manifestPath
  cases hremove : run.remove plan layout.manifestPath with
  | mk result after =>
    rw [hremove] at hmanifest hattempts
    dsimp only at hmanifest hattempts
    cases result with
    | error error =>
      have hrun : run.removeManifest plan layout.manifestPath = (.error error, after) := by
        simp only [Cleanup.removeManifest, hremove]
      rw [hrun]
      -- the attempt of the manifest has failed
      have hfailed : ¬ ∀ attempt ∈ after.attempts, attempt.2 = .ok ⟨⟩ := by
        intro hall
        have hlast := hall _ (hattempts ▸ List.mem_append_right _ (List.mem_singleton_self _))
        cases hlast
      refine ⟨[layout.manifestPath], hmanifest, ⟨_, rfl⟩, fun _ => ⟨hrequested, ?_⟩,
        fun hall => absurd hall hfailed, iff_of_false (fun h => (nomatch h)) hfailed⟩
      rwa [hattempts, hlength, List.take_left]
    | ok value =>
      have hrun : run.removeManifest plan layout.manifestPath =
          after.remove plan (lockPathFor layout.manifestPath) := by
        simp only [Cleanup.removeManifest, hremove]
      rw [hrun]
      have hlock := hmanifest.remove plan (lockPathFor layout.manifestPath)
      rw [List.append_assoc] at hlock
      refine ⟨_, hlock, List.prefix_rfl, fun _ => ⟨hrequested, ?_⟩, fun _ _ => rfl, ?_⟩
      · rwa [attempts_remove, hattempts, List.append_assoc, hlength, List.take_left]
      · rw [attempts_remove, hattempts, List.append_assoc, List.forall_mem_append]
        rw [and_iff_right hok]
        simp

/-- Every run of the cleanup of a readable manifest. -/
theorem cleanup_spec (layout : ServiceLayout) (options : ServiceCleanupOptions)
    (entries : List ComponentEntry) (plan : ℕ → RemovalOutcome Loc) (disk : Disk Loc) :
    ∃ start rest, (start = disk ∨ start = listedDisk layout disk) ∧
      CleanupSpec layout options
        (componentPaths layout options (listedEntries layout disk entries)) rest start
        (cleanupServiceLayout layout options none (.listed entries) plan disk).1
        (cleanupServiceLayout layout options none (.listed entries) plan disk).2 := by
  by_cases hoptions : ¬ options.withData ∧ ¬ options.withBin ∧ ¬ options.removeManifest
  · -- nothing is asked for
    obtain ⟨hdata, hbin, hmanifest⟩ := hoptions
    have hselects : ∀ kind, options.selects kind = false := by
      intro kind
      cases kind <;> simp [ServiceCleanupOptions.selects, hdata, hbin]
    have hpaths : componentPaths layout options (listedEntries layout disk entries) = [] := by
      simp [componentPaths, hselects, hdata, hbin]
    rw [cleanupServiceLayout, if_pos ⟨hdata, hbin, hmanifest⟩, hpaths]
    exact ⟨disk, [], .inl rfl, .start disk, List.nil_prefix, fun h => absurd rfl h,
      fun _ hrequested => absurd hrequested hmanifest, iff_of_true rfl fun _ hattempt =>
        absurd hattempt List.not_mem_nil⟩
  · refine ⟨listedDisk layout disk, ?_⟩
    rw [cleanupServiceLayout_eq hoptions]
    have hstart : Retained (listedDisk layout disk) [] (.start (listedDisk layout disk)) :=
      ⟨.start _, iff_of_true rfl fun _ hattempt => absurd hattempt List.not_mem_nil⟩
    have hretained := hstart.foldl plan
      (componentPaths layout options (listedEntries layout disk entries))
    rw [List.nil_append] at hretained
    generalize (componentPaths layout options (listedEntries layout disk entries)).foldl
      (Cleanup.retain plan) (.start (listedDisk layout disk)) = run at hretained ⊢
    have hnorest : Removed (listedDisk layout disk)
        (componentPaths layout options (listedEntries layout disk entries) ++ []) run := by
      rw [List.append_nil]
      exact hretained.toRemoved
    dsimp only
    cases hfirst : run.firstError with
    | some error =>
      have hfailed : ¬ ∀ attempt ∈ run.attempts, attempt.2 = .ok ⟨⟩ := by
        rw [← hretained.errors, hfirst]
        exact Option.some_ne_none error
      exact ⟨[], .inr rfl, hnorest, List.nil_prefix, fun h => absurd rfl h,
        fun hall => absurd hall hfailed, iff_of_false (fun h => (nomatch h)) hfailed⟩
    | none =>
      have hok := hretained.errors.1 hfirst
      by_cases hrequested : options.removeManifest
      · obtain ⟨rest, hspec⟩ := cleanupSpec_removeManifest layout hrequested
          hretained.toRemoved hok plan
        rw [if_pos hrequested]
        exact ⟨rest, .inr rfl, hspec⟩
      · rw [if_neg hrequested]
        exact ⟨[], .inr rfl, hnorest, List.nil_prefix, fun h => absurd rfl h,
          fun _ h => absurd h hrequested, iff_of_true rfl hok⟩

/-! ## What is kept, and what is removed in the end -/

/-- Whether the manifest exists does not depend on its lock. -/
theorem manifest_of_start {layout : ServiceLayout} {disk start : Disk Loc}
    (hstart : start = disk ∨ start = listedDisk layout disk) :
    start (locate layout.manifestPath) = disk (locate layout.manifestPath) := by
  rcases hstart with rfl | rfl
  · rfl
  · unfold listedDisk
    split
    next hexists =>
      rw [withLockFile_apply, hexists]
      split <;> rfl
    next => rfl

/-- Listing creates at most the lock. -/
theorem start_of_disk {layout : ServiceLayout} {disk start : Disk Loc}
    (hstart : start = disk ∨ start = listedDisk layout disk) (place : Loc) :
    (disk place = true → start place = true) ∧
      (start place = true → disk place = true ∨ place = locate (lockPathFor layout.manifestPath)) := by
  rcases hstart with rfl | rfl
  · exact ⟨id, .inl⟩
  · unfold listedDisk
    split
    next =>
      rw [withLockFile_apply]
      split
      next hlock => exact ⟨fun _ => rfl, fun _ => .inr hlock⟩
      next => exact ⟨id, .inl⟩
    next => exact ⟨id, .inl⟩

namespace CleanupSpec

variable {layout : ServiceLayout} {options : ServiceCleanupOptions} {paths rest : List String}
  {start : Disk Loc} {result : Except String Unit} {run : Cleanup Loc}

omit [DecidableEq Loc] in
/-- The attempts of the components. -/
theorem take_attempts (h : CleanupSpec layout options paths rest start result run) :
    (run.attempts.take paths.length).map (·.1) = paths := by
  rw [List.map_take, h.removed.attempted, List.take_left]

omit [DecidableEq Loc] in
/-- A component whose removal succeeded is gone. -/
theorem components_gone (h : CleanupSpec layout options paths rest start result run)
    (hok : ∀ attempt ∈ run.attempts.take paths.length, attempt.2 = .ok ⟨⟩) {path : String}
    (hpath : path ∈ paths) : run.disk (locate path) = false := by
  rw [← h.take_attempts] at hpath
  obtain ⟨attempt, hattempt, rfl⟩ := List.mem_map.1 hpath
  exact h.removed.gone attempt (List.mem_of_mem_take hattempt) (hok attempt hattempt)

omit [DecidableEq Loc] in
/-- A manifest that no component contains is there, or its turn has come. -/
theorem manifest_or_rest (h : CleanupSpec layout options paths rest start result run)
    (houtside : ∀ path ∈ paths, within (locate path : Loc) (locate layout.manifestPath) = false) :
    run.disk (locate layout.manifestPath) = start (locate layout.manifestPath) ∨ rest ≠ [] := by
  by_cases hrest : rest = []
  · subst hrest
    refine .inl (h.removed.frame _ fun path hpath => ?_)
    rw [List.append_nil] at hpath
    exact houtside path hpath
  · exact .inr hrest

omit [DecidableEq Loc] in
/-- A manifest is kept when a component has not been removed, or when it is not to be removed. -/
theorem manifest_kept (h : CleanupSpec layout options paths rest start result run)
    (houtside : ∀ path ∈ paths, within (locate path : Loc) (locate layout.manifestPath) = false)
    (hkeep : options.removeManifest = false ∨
      ∃ attempt ∈ run.attempts.take paths.length, attempt.2 ≠ .ok ⟨⟩) :
    run.disk (locate layout.manifestPath) = start (locate layout.manifestPath) := by
  rcases h.manifest_or_rest houtside with hkept | hrest
  · exact hkept
  · obtain ⟨hrequested, hok⟩ := h.rest_requested hrest
    rcases hkeep with hkeep | ⟨attempt, hattempt, hfailed⟩
    · rw [hrequested] at hkeep
      cases hkeep
    · exact absurd (hok attempt hattempt) hfailed

end CleanupSpec

/-- Without causes of failure the cleanup succeeds. -/
theorem cleanup_done (layout : ServiceLayout) (options : ServiceCleanupOptions)
    (entries : List ComponentEntry) (disk : Disk Loc) :
    (cleanupServiceLayout layout options none (.listed entries) (fun _ => .done) disk).1 =
      .ok ⟨⟩ := by
  by_cases hoptions : ¬ options.withData ∧ ¬ options.withBin ∧ ¬ options.removeManifest
  · rw [cleanupServiceLayout, if_pos hoptions]
  · rw [cleanupServiceLayout_eq hoptions]
    have hstart : (Cleanup.start (listedDisk layout disk)).firstError = none := rfl
    have hfirst := firstError_foldl_done
      (componentPaths layout options (listedEntries layout disk entries)) hstart
    generalize (componentPaths layout options (listedEntries layout disk entries)).foldl
      (Cleanup.retain fun _ => .done) (.start (listedDisk layout disk)) = run at hfirst ⊢
    simp only [hfirst]
    split
    next =>
      have hdone : ∀ (run : Cleanup Loc) path, (run.remove (fun _ => .done) path).1 = .ok ⟨⟩ :=
        fun run path => removeComponentPath_done run.disk path
      have hmanifest := hdone run layout.manifestPath
      cases hremove : run.remove (fun _ => .done) layout.manifestPath with
      | mk result after =>
        rw [hremove] at hmanifest
        dsimp only at hmanifest
        subst hmanifest
        simp only [Cleanup.removeManifest, hremove]
        exact hdone after _
    next => rfl

/-- A run of the cleanup that the system may let fail anywhere. The manifest lists its entries when
it is read. -/
def Cleans (layout : ServiceLayout) (options : ServiceCleanupOptions)
    (entries : List ComponentEntry) (disk after : Disk Loc) : Prop :=
  ∃ inspectFault listing plan, (∀ read, listing = .listed read → read = entries) ∧
    after = (cleanupServiceLayout layout options inspectFault listing plan disk).2.disk

/-- What can still be cleaned up: the manifest is as it was, or everything it lists is gone. -/
def Recoverable (layout : ServiceLayout) (options : ServiceCleanupOptions)
    (entries : List ComponentEntry) (initial disk : Disk Loc) : Prop :=
  disk (locate layout.manifestPath) = initial (locate layout.manifestPath) ∨
    disk (locate layout.manifestPath) = false ∧
      ∀ path ∈ componentPaths layout options (listedEntries layout initial entries),
        disk (locate path) = false

/-- Without a manifest nothing is created. -/
theorem start_of_absent {layout : ServiceLayout} {disk start : Disk Loc}
    (hstart : start = disk ∨ start = listedDisk layout disk)
    (habsent : disk (locate layout.manifestPath) = false) : start = disk := by
  rcases hstart with rfl | rfl
  · rfl
  · rw [listedDisk, if_neg (by simp [habsent])]

omit [DecidableEq Loc] in
/-- The entries depend on whether the manifest exists. -/
theorem listedEntries_congr {layout : ServiceLayout} {disk initial : Disk Loc}
    (h : disk (locate layout.manifestPath) = initial (locate layout.manifestPath))
    (entries : List ComponentEntry) :
    listedEntries layout disk entries = listedEntries layout initial entries := by
  rw [listedEntries, listedEntries, h]

/-- A run that does not get to the removals changes at most the lock. -/
theorem Cleans.cases {layout : ServiceLayout} {options : ServiceCleanupOptions}
    {entries : List ComponentEntry} {disk after : Disk Loc}
    (h : Cleans layout options entries disk after) :
    (after = disk ∨ after = listedDisk layout disk) ∨
      ∃ plan, after =
        (cleanupServiceLayout layout options none (.listed entries) plan disk).2.disk := by
  obtain ⟨inspectFault, listing, plan, hlisting, rfl⟩ := h
  by_cases hoptions : ¬ options.withData ∧ ¬ options.withBin ∧ ¬ options.removeManifest
  · refine .inl (.inl ?_)
    unfold cleanupServiceLayout
    rw [if_pos hoptions]
    rfl
  · cases inspectFault with
    | some error =>
      refine .inl (.inl ?_)
      rw [cleanupServiceLayout, if_neg hoptions]
      rfl
    | none =>
      by_cases hexists : disk (locate layout.manifestPath) = true
      · cases listing with
        | unopened error =>
          refine .inl (.inl ?_)
          rw [cleanupServiceLayout, if_neg hoptions]
          simp only [listManifest, if_pos hexists]
          rfl
        | unread error =>
          refine .inl (.inr ?_)
          rw [cleanupServiceLayout, if_neg hoptions, listedDisk, if_pos hexists]
          simp only [listManifest, if_pos hexists]
          rfl
        | listed read =>
          obtain rfl := hlisting read rfl
          exact .inr ⟨plan, rfl⟩
      · -- what does not exist is not listed
        have hlist : listManifest layout disk listing =
            listManifest layout disk (.listed entries) := by
          simp only [listManifest, if_neg hexists]
        refine .inr ⟨plan, ?_⟩
        simp only [cleanupServiceLayout, hlist]

/-- No run makes a component impossible to clean up, unless the manifest is in a component. -/
theorem Recoverable.cleans {layout : ServiceLayout} {options : ServiceCleanupOptions}
    {entries : List ComponentEntry} {initial disk after : Disk Loc}
    (houtside : ∀ path ∈ componentPaths layout options (listedEntries layout initial entries),
      within (locate path : Loc) (locate layout.manifestPath) = false)
    (h : Recoverable layout options entries initial disk)
    (hclean : Cleans layout options entries disk after) :
    Recoverable layout options entries initial after := by
  rcases hclean.cases with hafter | ⟨plan, rfl⟩
  · rcases h with hmanifest | ⟨habsent, hgone⟩
    · exact .inl ((manifest_of_start hafter).trans hmanifest)
    · rw [start_of_absent hafter habsent]
      exact .inr ⟨habsent, hgone⟩
  · obtain ⟨start, rest, hstart, hspec⟩ := cleanup_spec layout options entries plan disk
    generalize cleanupServiceLayout layout options none (.listed entries) plan disk = done
      at hspec ⊢
    rcases h with hmanifest | ⟨habsent, hgone⟩
    · have hbefore := (manifest_of_start hstart).trans hmanifest
      rw [listedEntries_congr hmanifest] at hspec
      rcases hspec.manifest_or_rest houtside with hkept | hrest
      · exact .inl (hkept.trans hbefore)
      · have hcomponents := fun path (hpath : path ∈ _) =>
          hspec.components_gone (hspec.rest_requested hrest).2 hpath
        by_cases hexists : done.2.disk (locate layout.manifestPath) = true
        · refine .inl ?_
          rw [hexists, ← hbefore]
          exact (hspec.removed.shrinks _ hexists).symm
        · exact .inr ⟨Bool.eq_false_of_not_eq_true hexists, hcomponents⟩
    · -- nothing comes back
      obtain rfl := start_of_absent hstart habsent
      have hshrinks : ∀ place, start place = false → done.2.disk place = false := by
        intro place hplace
        rw [← Bool.not_eq_true] at hplace ⊢
        exact fun hexists => hplace (hspec.removed.shrinks place hexists)
      exact .inr ⟨hshrinks _ habsent, fun path hpath => hshrinks _ (hgone path hpath)⟩

/-- A run without failures removes everything that could still be cleaned up. -/
theorem Recoverable.cleanup_done {layout : ServiceLayout} {options : ServiceCleanupOptions}
    {entries : List ComponentEntry} {initial disk : Disk Loc}
    (h : Recoverable layout options entries initial disk) :
    let (result, run) :=
      cleanupServiceLayout layout options none (.listed entries) (fun _ => .done) disk
    result = .ok ⟨⟩ ∧
      (∀ path ∈ componentPaths layout options (listedEntries layout initial entries),
        run.disk (locate path) = false) ∧
      (options.removeManifest = true → run.disk (locate layout.manifestPath) = false ∧
        run.disk (locate (lockPathFor layout.manifestPath)) = false) := by
  obtain ⟨start, rest, hstart, hspec⟩ :=
    cleanup_spec layout options entries (fun _ => .done) disk
  have hok := Manifest.cleanup_done layout options entries disk
  generalize cleanupServiceLayout layout options none (.listed entries) (fun _ => .done) disk =
    done at hspec hok ⊢
  have hall := hspec.result_ok.1 hok
  have hgone : ∀ path ∈ componentPaths layout options (listedEntries layout disk entries) ++ rest,
      done.2.disk (locate path) = false := by
    intro path hpath
    rw [← hspec.removed.attempted] at hpath
    obtain ⟨attempt, hattempt, rfl⟩ := List.mem_map.1 hpath
    exact hspec.removed.gone attempt hattempt (hall attempt hattempt)
  refine ⟨hok, fun path hpath => ?_, fun hrequested => ?_⟩
  · rcases h with hmanifest | ⟨habsent, hbefore⟩
    · rw [← listedEntries_congr hmanifest] at hpath
      exact hgone path (List.mem_append_left _ hpath)
    · obtain rfl := start_of_absent hstart habsent
      rw [← Bool.not_eq_true]
      intro hexists
      have hplace := hspec.removed.shrinks _ hexists
      rw [hbefore path hpath] at hplace
      cases hplace
  · rw [hspec.rest_complete hall hrequested] at hgone
    exact ⟨hgone _ (by simp), hgone _ (by simp)⟩

end Operations

/-! ## Nothing recorded is forgotten -/

/-- The tree of the names of paths, without links and dots. -/
instance : FileTree (List String) where
  locate path := (splitOnChar path '/').filter (· ≠ "")
  within place other := place.isPrefixOf other
  within_refl place := by simp

end Manifest

end WeatherApp
