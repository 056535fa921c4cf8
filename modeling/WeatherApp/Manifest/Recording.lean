import WeatherApp.Foundation.Run
import WeatherApp.Manifest.Components

/-!
# Processes that record components

Processes of the application record components and list them, each in its own time. The lock of the
manifest is exclusive, and a process that crashes releases it.

## Main definitions

* `Recorders`: the file and what every process is doing.
* `recordSystem`: their interleavings, with failures of the file system and crashes.
* `RecordInv`: the file holds what has been written, and a process with the lock knows it.

## Main results

* `recordInv`: the invariant holds after every run from no manifest.
* `record_keeps_invalid`: a manifest that is not read is never overwritten.
-/

namespace WeatherApp

namespace Manifest

variable {Pid : Type} [DecidableEq Pid] [ManifestFormat]

/-! ## The system -/

/-- How far a process is with a call. -/
inductive Task where
  | idle
  /-- `record` waits for the exclusive lock. -/
  | recordWaiting (entry : ComponentEntry)
  /-- `record` has the lock. -/
  | recordLocked (entry : ComponentEntry)
  /-- `record` has read the set and inserted the entry, which was new or not. -/
  | recordLoaded (entry : ComponentEntry) (entries : Entries) (inserted : Bool)
  /-- `record` has done its operation and releases the lock. -/
  | recordDone (entry : ComponentEntry) (result : Except String Unit)
  /-- `record` has returned. -/
  | recorded (entry : ComponentEntry) (result : Except String Unit)
  /-- `list` waits for the shared lock. -/
  | listWaiting
  /-- `list` has the lock. -/
  | listLocked
  /-- `list` has done its operation and releases the lock. -/
  | listDone (result : Except String (List ComponentEntry))
  /-- `list` has returned. -/
  | listed (result : Except String (List ComponentEntry))

/-- The process holds the exclusive lock. -/
def Task.Exclusive : Task → Bool
  | .recordLocked _ | .recordLoaded _ _ _ | .recordDone _ _ => true
  | _ => false

/-- The process holds the shared lock. -/
def Task.Shared : Task → Bool
  | .listLocked | .listDone _ => true
  | _ => false

/-- The process can start a call. -/
def Task.Free : Task → Bool
  | .idle | .recorded _ _ | .listed _ => true
  | _ => false

/-- The file, what the processes are doing, and the entries written so far. -/
structure Recorders (Pid : Type) where
  /-- The file, if it exists: its text, or why it cannot be read. -/
  file : Option (Except String String)
  task : Pid → Task
  written : List ComponentEntry

/-- How the file system lets a write end: before the file is replaced, after it, or well. -/
inductive WriteOutcome where
  | notReplaced (error : String)
  | notSynced (error : String)
  | done
  deriving DecidableEq, Repr

/-- The steps of the processes. A fault is an error of the operating system in the step. -/
inductive RecordLabel (Pid : Type) where
  | record (pid : Pid) (kind : ComponentKind) (path : OsPath) (fault : Option String)
  | lockExclusive (pid : Pid) (fault : Option String)
  | load (pid : Pid) (inspectFault readFault : Option String)
  | write (pid : Pid) (outcome : WriteOutcome)
  | unlockExclusive (pid : Pid) (fault : Option String)
  | list (pid : Pid) (inspectFault lockFault : Option String)
  | lockShared (pid : Pid) (fault : Option String)
  | read (pid : Pid) (fault : Option String)
  | unlockShared (pid : Pid) (fault : Option String)
  | crash (pid : Pid)

/-- `finish_locked`. -/
def finishLocked {α : Type} (operation : Except String α) (unlock : Option String) :
    Except String α :=
  match operation with
  | .error error => .error error
  | .ok value =>
    match unlock with
    | some error => .error s!"unlock component manifest: {error}"
    | none => .ok value

/-- What reading the file gives, when the operating system lets it. -/
def readFile (file : Except String String) (fault : Option String) : Except String String :=
  match fault with
  | some error => .error error
  | none => file

namespace Recorders

/-- The state with another task of a process. -/
def setTask (s : Recorders Pid) (pid : Pid) (task : Task) : Recorders Pid :=
  { s with task := Function.update s.task pid task }

/-- The operation of `record` up to the write. -/
def loadStep (path : String) (s : Recorders Pid) (pid : Pid) (entry : ComponentEntry)
    (inspectFault readFault : Option String) : Recorders Pid :=
  match inspectFault with
  | some error => s.setTask pid (.recordDone entry (.error s!"inspect component manifest: {error}"))
  | none =>
    let loaded :=
      match s.file with
      | some file => loadEntriesUnlocked path (readFile file readFault)
      | none => .ok .empty
    match loaded with
    | .error error => s.setTask pid (.recordDone entry (.error error))
    | .ok entries =>
      let (entries, inserted) := entries.insertEntry entry
      s.setTask pid (.recordLoaded entry entries inserted)

/-- `write_entries_unlocked`, for a set with a new entry. -/
def writeStep (s : Recorders Pid) (pid : Pid) (entry : ComponentEntry) (entries : Entries)
    (outcome : WriteOutcome) : Recorders Pid :=
  match manifestContent entries, outcome with
  | .error error, _ => s.setTask pid (.recordDone entry (.error error))
  | .ok _, .notReplaced error => s.setTask pid (.recordDone entry (.error error))
  | .ok content, .notSynced error =>
    { s with file := some (.ok content), written := s.written ++ [entry] }.setTask pid
      (.recordDone entry (.error error))
  | .ok content, .done =>
    { s with file := some (.ok content), written := s.written ++ [entry] }.setTask pid
      (.recordDone entry (.ok ⟨⟩))

/-- The state after a step, if the process can take it: the lock is given to one process alone, or
to several that list. -/
def Step (path : String) (s : Recorders Pid) : RecordLabel Pid → Recorders Pid → Prop
  | .record pid kind target fault, s' =>
    (s.task pid).Free ∧ s' = match componentEntry kind target, fault with
      | .error _, _ => s.setTask pid .idle
      | .ok entry, some error => s.setTask pid (.recorded entry (.error error))
      | .ok entry, none => s.setTask pid (.recordWaiting entry)
  | .lockExclusive pid fault, s' =>
    ∃ entry, s.task pid = .recordWaiting entry ∧
      match fault with
      | some error => s' = s.setTask pid (.recorded entry (.error error))
      | none => (∀ other, (s.task other).Exclusive = false ∧ (s.task other).Shared = false) ∧
        s' = s.setTask pid (.recordLocked entry)
  | .load pid inspectFault readFault, s' =>
    ∃ entry, s.task pid = .recordLocked entry ∧
      s' = s.loadStep path pid entry inspectFault readFault
  | .write pid outcome, s' =>
    ∃ entry entries inserted, s.task pid = .recordLoaded entry entries inserted ∧
      s' = if inserted then s.writeStep pid entry entries outcome
        else s.setTask pid (.recordDone entry (.ok ⟨⟩))
  | .unlockExclusive pid fault, s' =>
    ∃ entry result, s.task pid = .recordDone entry result ∧
      s' = s.setTask pid (.recorded entry (finishLocked result fault))
  | .list pid inspectFault lockFault, s' =>
    (s.task pid).Free ∧ s' = match inspectFault, s.file, lockFault with
      | some error, _, _ => s.setTask pid (.listed (.error error))
      | none, none, _ => s.setTask pid (.listed (.ok []))
      | none, some _, some error => s.setTask pid (.listed (.error error))
      | none, some _, none => s.setTask pid .listWaiting
  | .lockShared pid fault, s' =>
    s.task pid = .listWaiting ∧
      match fault with
      | some error => s' = s.setTask pid (.listed (.error error))
      | none => (∀ other, (s.task other).Exclusive = false) ∧ s' = s.setTask pid .listLocked
  | .read pid fault, s' =>
    s.task pid = .listLocked ∧
      s' = s.setTask pid (.listDone ((loadEntriesUnlocked path
        (readFile (s.file.getD (.error "no such file")) fault)).map fun entries => entries.values))
  | .unlockShared pid fault, s' =>
    ∃ result, s.task pid = .listDone result ∧
      s' = s.setTask pid (.listed (finishLocked result fault))
  | .crash pid, s' => s' = s.setTask pid .idle

end Recorders

/-- The processes of an installation whose manifest is at a path and starts as some file. -/
def recordSystem (Pid : Type) [DecidableEq Pid] (path : String)
    (initial : Option (Except String String)) :
    LabelledSystem (Recorders Pid) (RecordLabel Pid) where
  init s := s = ⟨initial, fun _ => .idle, []⟩
  step := Recorders.Step path

/-! ## The invariant -/

/-- The entries are those that have been written, in their order and each once. -/
structure ListsWritten (written entries : List ComponentEntry) : Prop where
  sorted : entries.Pairwise fun first second => first.key < second.key
  mem_written : ∀ entry ∈ entries, entry ∈ written
  complete : ∀ entry ∈ written, entry.key ∈ entries.map ComponentEntry.key

/-- What the file holds, if there is one. -/
def Recorders.Holds (path : String) (s : Recorders Pid) (entries : Entries) : Prop :=
  match s.file with
  | some file => loadEntriesUnlocked path file = .ok entries
  | none => entries = .empty

/-- What a process knows: what it writes next, and what has been written. -/
def TaskFacts (path : String) (s : Recorders Pid) : Task → Prop
  | .recordWaiting entry | .recordLocked entry => (OsPath.utf8 entry.path).isAbsolute = true
  | .recordLoaded entry entries inserted => (OsPath.utf8 entry.path).isAbsolute = true ∧
      ∃ current, s.Holds path current ∧ current.insertEntry entry = (entries, inserted)
  | .recordDone entry (.ok _) | .recorded entry (.ok _) =>
    entry.key ∈ s.written.map ComponentEntry.key
  | .listWaiting | .listLocked => s.file ≠ none
  | .listDone (.ok entries) => ListsWritten s.written entries
  | _ => True

/-- The file holds what has been written, a process has the exclusive lock alone, and every process
knows what it needs. -/
structure RecordInv (path : String) (s : Recorders Pid) : Prop where
  holds : ∃ entries, s.Holds path entries ∧ WellFormed entries ∧
    ListsWritten s.written entries.values
  absent : s.file = none → s.written = []
  exclusive : ∀ pid other, (s.task pid).Exclusive = true →
    (s.task other).Exclusive = true ∨ (s.task other).Shared = true → other = pid
  facts : ∀ pid, TaskFacts path s (s.task pid)

omit [DecidableEq Pid] in
/-- What is known without a lock stays true when more is written. -/
theorem TaskFacts.of_unlocked {path : String} {s s' : Recorders Pid} {task : Task}
    (h : TaskFacts path s task) (hwritten : s.written <+: s'.written) (hfile : s'.file ≠ none)
    (hexclusive : task.Exclusive = false) (hshared : task.Shared = false) :
    TaskFacts path s' task := by
  cases task with
  | recorded entry result =>
    cases result with
    | error error => trivial
    | ok value => exact (hwritten.map _).subset h
  | idle | recordWaiting entry | listed result => exact h
  | listWaiting => exact hfile
  | recordLocked entry | recordLoaded entry entries inserted | recordDone entry result =>
    cases hexclusive
  | listLocked | listDone result => cases hshared

/-- A step that only changes a task keeps the invariant, if the new task has what it needs. -/
theorem RecordInv.setTask {path : String} {s : Recorders Pid} (h : RecordInv path s) {pid : Pid}
    {task : Task} (hfacts : TaskFacts path s task)
    (hexclusive : task.Exclusive = true → (s.task pid).Exclusive = true ∨
      ∀ other, (s.task other).Exclusive = false ∧ (s.task other).Shared = false)
    (hshared : task.Shared = true → (s.task pid).Shared = true ∨
      ∀ other, (s.task other).Exclusive = false) : RecordInv path (s.setTask pid task) := by
  refine ⟨h.holds, h.absent, fun first second hfirst hsecond => ?_, fun other => ?_⟩
  · simp only [Recorders.setTask, Function.update_apply] at hfirst hsecond
    by_cases hpid : first = pid
    · subst hpid
      rw [if_pos rfl] at hfirst
      by_contra hne
      rw [if_neg hne] at hsecond
      rcases hexclusive hfirst with hbefore | hnone
      · exact hne (h.exclusive first second hbefore hsecond)
      · simp [hnone second] at hsecond
    · rw [if_neg hpid] at hfirst
      by_cases hother : second = pid
      · subst hother
        rw [if_pos rfl] at hsecond
        rcases hsecond with hsecond | hsecond
        · rcases hexclusive hsecond with hbefore | hnone
          · exact h.exclusive first second hfirst (.inl hbefore)
          · simp [hnone first] at hfirst
        · rcases hshared hsecond with hbefore | hnone
          · exact h.exclusive first second hfirst (.inr hbefore)
          · simp [hnone first] at hfirst
      · rw [if_neg hother] at hsecond
        exact h.exclusive first second hfirst hsecond
  · show TaskFacts path _ (Function.update s.task pid task other)
    by_cases hpid : other = pid
    · subst hpid
      rw [Function.update_self]
      exact hfacts
    · rw [Function.update_of_ne hpid]
      exact h.facts other

/-- A step to a task without a lock. -/
theorem RecordInv.setTask_unlocked {path : String} {s : Recorders Pid} (h : RecordInv path s)
    {pid : Pid} {task : Task} (hfacts : TaskFacts path s task) (hexclusive : task.Exclusive = false)
    (hshared : task.Shared = false) : RecordInv path (s.setTask pid task) :=
  h.setTask hfacts (fun hlocked => absurd hlocked (by simp [hexclusive]))
    fun hlocked => absurd hlocked (by simp [hshared])

/-- A step of the process that holds the exclusive lock. -/
theorem RecordInv.setTask_locked {path : String} {s : Recorders Pid} (h : RecordInv path s)
    {pid : Pid} {task : Task} (hlocked : (s.task pid).Exclusive = true)
    (hfacts : TaskFacts path s task) (hshared : task.Shared = false) :
    RecordInv path (s.setTask pid task) :=
  h.setTask hfacts (fun _ => .inl hlocked) fun hlocked => absurd hlocked (by simp [hshared])

omit [DecidableEq Pid] [ManifestFormat] in
/-- The keys of the entries are those of the set. -/
theorem map_key_values {entries : Entries} (h : WellFormed entries) :
    entries.values.map ComponentEntry.key = entries.entries.map (·.1) := by
  rw [SortedMap.values, List.map_map]
  exact List.map_congr_left fun entry hentry => (h entry hentry).1.symm

omit [DecidableEq Pid] [ManifestFormat] in
/-- The entries of a set are in order. -/
theorem pairwise_key_values {entries : Entries} (h : WellFormed entries) :
    entries.values.Pairwise fun first second => first.key < second.key := by
  rw [← List.pairwise_map (f := ComponentEntry.key) (R := (· < ·)), map_key_values h,
    List.pairwise_map]
  exact entries.sorted

omit [DecidableEq Pid] [ManifestFormat] in
/-- One more entry, which is new or not. -/
theorem ListsWritten.insertEntry {written : List ComponentEntry} {entries : Entries}
    (h : ListsWritten written entries.values) (hformed : WellFormed entries)
    {entry : ComponentEntry} (habsolute : (OsPath.utf8 entry.path).isAbsolute = true) :
    ListsWritten (written ++ [entry]) (entries.insertEntry entry).1.values := by
  have hformed' := hformed.insertEntry habsolute
  refine ⟨pairwise_key_values hformed', fun other hother => ?_, fun other hother => ?_⟩
  · obtain ⟨pair, hpair, rfl⟩ := List.mem_map.1 hother
    rcases SortedMap.mem_entries_insertNew.1 hpair with hpair | ⟨rfl, -⟩
    · exact List.mem_append_left _ (h.mem_written _ (List.mem_map_of_mem hpair))
    · exact List.mem_append_right _ (List.mem_singleton_self _)
  · rw [map_key_values hformed', List.mem_map]
    by_cases hknown : other.key ∈ entries.entries.map (·.1)
    · obtain ⟨pair, hpair, hkey⟩ := List.mem_map.1 hknown
      exact ⟨pair, SortedMap.mem_entries_insertNew.2 (.inl hpair), hkey⟩
    · rcases List.mem_append.1 hother with hother | hother
      · have hbefore := h.complete other hother
        rw [map_key_values hformed] at hbefore
        exact absurd hbefore hknown
      · rw [List.mem_singleton.1 hother] at hknown ⊢
        exact ⟨(entry.key, entry), SortedMap.mem_entries_insertNew.2 (.inr ⟨rfl, hknown⟩), rfl⟩

omit [DecidableEq Pid] in
/-- The file holds one set. -/
theorem Recorders.Holds.unique {path : String} {s : Recorders Pid} {entries entries' : Entries}
    (h : s.Holds path entries) (h' : s.Holds path entries') : entries = entries' := by
  unfold Recorders.Holds at h h'
  cases hfile : s.file with
  | none =>
    rw [hfile] at h h'
    exact h.trans h'.symm
  | some file =>
    rw [hfile] at h h'
    exact Except.ok.inj (h.symm.trans h')

/-- A write replaces the file by one with the new entry. -/
theorem RecordInv.writeStep {path : String} {s : Recorders Pid} (h : RecordInv path s) {pid : Pid}
    {entry : ComponentEntry} {entries : Entries}
    (htask : s.task pid = .recordLoaded entry entries true) (outcome : WriteOutcome) :
    RecordInv path (s.writeStep pid entry entries outcome) := by
  have hlocked : (s.task pid).Exclusive = true := by
    rw [htask]
    rfl
  have hfacts := h.facts pid
  rw [htask] at hfacts
  obtain ⟨habsolute, current, hcurrent, hinsert⟩ := hfacts
  obtain ⟨held, hheld, hformed, hlists⟩ := h.holds
  obtain rfl := hcurrent.unique hheld
  obtain rfl : (current.insertEntry entry).1 = entries := congrArg Prod.fst hinsert
  -- the state after the file has been replaced
  have hreplaced : ∀ content result,
      manifestContent (current.insertEntry entry).1 = .ok content →
        RecordInv path ({ s with
          file := some (.ok content), written := s.written ++ [entry] }.setTask pid
            (.recordDone entry result)) := by
    intro content result hcontent
    have hformed' := hformed.insertEntry habsolute
    have hread := loadEntries_manifestContent hformed' hcontent path
    have hothers : ∀ other, other ≠ pid →
        (s.task other).Exclusive = false ∧ (s.task other).Shared = false := by
      intro other hne
      constructor <;> rw [← Bool.not_eq_true] <;> intro hother
      · exact hne (h.exclusive pid other hlocked (.inl hother))
      · exact hne (h.exclusive pid other hlocked (.inr hother))
    have hpid : ∀ other, (Function.update s.task pid (.recordDone entry result) other).Exclusive =
        true ∨ (Function.update s.task pid (.recordDone entry result) other).Shared = true →
          other = pid := by
      intro other hother
      by_contra hne
      rw [Function.update_of_ne hne, (hothers other hne).1, (hothers other hne).2] at hother
      simp at hother
    refine ⟨⟨_, hread, hformed', hlists.insertEntry hformed habsolute⟩, fun hfile => (nomatch hfile),
      fun first second hfirst hsecond => (hpid second hsecond).trans (hpid first (.inl hfirst)).symm,
      fun other => ?_⟩
    show TaskFacts path _ (Function.update s.task pid (.recordDone entry result) other)
    by_cases heq : other = pid
    · subst heq
      rw [Function.update_self]
      cases result with
      | error error => trivial
      | ok value =>
        exact List.mem_map_of_mem (List.mem_append_right _ (List.mem_singleton_self _))
    · rw [Function.update_of_ne heq]
      exact (h.facts other).of_unlocked (List.prefix_append _ _) (fun hfile => (nomatch hfile))
        (hothers other heq).1 (hothers other heq).2
  simp only [Recorders.writeStep]
  cases hcontent : manifestContent (current.insertEntry entry).1 with
  | error error => exact h.setTask_locked hlocked trivial rfl
  | ok content =>
    cases outcome with
    | notReplaced error => exact h.setTask_locked hlocked trivial rfl
    | notSynced error => exact hreplaced content _ hcontent
    | done => exact hreplaced content _ hcontent

/-- The operation of `record` before the write keeps the invariant. -/
theorem RecordInv.loadStep {path : String} {s : Recorders Pid} (h : RecordInv path s) {pid : Pid}
    {entry : ComponentEntry} (htask : s.task pid = .recordLocked entry)
    (inspectFault readFault : Option String) :
    RecordInv path (s.loadStep path pid entry inspectFault readFault) := by
  have hlocked : (s.task pid).Exclusive = true := by
    rw [htask]
    rfl
  have hfacts := h.facts pid
  rw [htask] at hfacts
  simp only [Recorders.loadStep]
  cases inspectFault with
  | some error => exact h.setTask_locked hlocked trivial rfl
  | none =>
    dsimp only
    split
    next error hload => exact h.setTask_locked hlocked trivial rfl
    next entries hload =>
      apply h.setTask_locked hlocked _ rfl
      refine ⟨hfacts, entries, ?_, rfl⟩
      unfold Recorders.Holds
      cases hfile : s.file with
      | none =>
        rw [hfile] at hload
        exact (Except.ok.inj hload).symm
      | some file =>
        rw [hfile] at hload
        cases readFault with
        | none => exact hload
        | some error => cases hload

omit [DecidableEq Pid] in
/-- What `list` reads is what has been written. -/
theorem listsWritten_of_read {path : String} {s : Recorders Pid} (h : RecordInv path s)
    {fault : Option String} {entries : Entries}
    (hread : loadEntriesUnlocked path (readFile (s.file.getD (.error "no such file")) fault) =
      .ok entries) : ListsWritten s.written entries.values := by
  obtain ⟨held, hheld, -, hlists⟩ := h.holds
  cases fault with
  | some error => cases hread
  | none =>
    unfold Recorders.Holds at hheld
    cases hfile : s.file with
    | none =>
      rw [hfile] at hread
      cases hread
    | some file =>
      rw [hfile] at hread hheld
      obtain rfl := Except.ok.inj (hheld.symm.trans hread)
      exact hlists

/-- A step of any process keeps the invariant. -/
theorem RecordInv.step {path : String} {s s' : Recorders Pid} {label : RecordLabel Pid}
    (h : RecordInv path s) (hstep : s.Step path label s') : RecordInv path s' := by
  cases label with
  | record pid kind target fault =>
    obtain ⟨-, rfl⟩ := hstep
    split
    next => exact h.setTask_unlocked trivial rfl rfl
    next => exact h.setTask_unlocked trivial rfl rfl
    next entry hentry =>
      exact h.setTask_unlocked (componentEntry_eq_ok hentry).2.2 rfl rfl
  | lockExclusive pid fault =>
    obtain ⟨entry, htask, hlock⟩ := hstep
    have hfacts := h.facts pid
    rw [htask] at hfacts
    cases fault with
    | some error =>
      obtain rfl := hlock
      exact h.setTask_unlocked trivial rfl rfl
    | none =>
      obtain ⟨hfree, rfl⟩ := hlock
      exact h.setTask hfacts (fun _ => .inr hfree) fun hshared => (nomatch hshared)
  | load pid inspectFault readFault =>
    obtain ⟨entry, htask, rfl⟩ := hstep
    exact h.loadStep htask inspectFault readFault
  | write pid outcome =>
    obtain ⟨entry, entries, inserted, htask, rfl⟩ := hstep
    cases inserted with
    | true => exact h.writeStep htask outcome
    | false =>
      -- the entry is in the file already
      have hlocked : (s.task pid).Exclusive = true := by
        rw [htask]
        rfl
      apply h.setTask_locked hlocked _ rfl
      have hfacts := h.facts pid
      rw [htask] at hfacts
      obtain ⟨-, current, hcurrent, hinsert⟩ := hfacts
      obtain ⟨held, hheld, hformed, hlists⟩ := h.holds
      obtain rfl := hcurrent.unique hheld
      have hknown := congrArg Prod.snd hinsert
      simp only [Entries.insertEntry, decide_eq_false_iff_not, not_not] at hknown
      rw [← map_key_values hformed] at hknown
      obtain ⟨other, hother, hkey⟩ := List.mem_map.1 hknown
      exact List.mem_map.2 ⟨other, hlists.mem_written other hother, hkey⟩
  | unlockExclusive pid fault =>
    obtain ⟨entry, result, htask, rfl⟩ := hstep
    have hfacts := h.facts pid
    rw [htask] at hfacts
    apply h.setTask_unlocked _ rfl rfl
    cases result with
    | error error => trivial
    | ok value =>
      cases fault with
      | some error => trivial
      | none => exact hfacts
  | list pid inspectFault lockFault =>
    obtain ⟨-, rfl⟩ := hstep
    split
    next => exact h.setTask_unlocked trivial rfl rfl
    next => exact h.setTask_unlocked trivial rfl rfl
    next => exact h.setTask_unlocked trivial rfl rfl
    next file hfile =>
      apply h.setTask_unlocked _ rfl rfl
      intro hnone
      rw [hnone] at hfile
      cases hfile
  | lockShared pid fault =>
    obtain ⟨htask, hlock⟩ := hstep
    cases fault with
    | some error =>
      obtain rfl := hlock
      exact h.setTask_unlocked trivial rfl rfl
    | none =>
      obtain ⟨hfree, rfl⟩ := hlock
      have hfacts := h.facts pid
      rw [htask] at hfacts
      exact h.setTask hfacts (fun hexclusive => (nomatch hexclusive)) fun _ => .inr hfree
  | read pid fault =>
    obtain ⟨htask, rfl⟩ := hstep
    have hshared : (s.task pid).Shared = true := by
      rw [htask]
      rfl
    refine h.setTask ?_ (fun hexclusive => (nomatch hexclusive)) fun _ => .inl hshared
    cases hread : loadEntriesUnlocked path
        (readFile (s.file.getD (.error "no such file")) fault) with
    | error error => trivial
    | ok entries => exact listsWritten_of_read h hread
  | unlockShared pid fault =>
    obtain ⟨result, htask, rfl⟩ := hstep
    exact h.setTask_unlocked (by cases finishLocked result fault <;> trivial) rfl rfl
  | crash pid =>
    obtain rfl := hstep
    exact h.setTask_unlocked trivial rfl rfl

/-! ## What every run keeps -/

/-- The invariant holds after every run from no manifest. -/
theorem recordInv {path : String} {trace : List (RecordLabel Pid)} {s : Recorders Pid}
    (hrun : (recordSystem Pid path none).Run trace s) : RecordInv path s := by
  apply LabelledSystem.Run.invariant _ _ hrun
  · rintro start rfl
    refine ⟨⟨.empty, rfl, wellFormed_empty, ?_⟩, fun _ => rfl, fun _ _ hlocked => ?_, fun _ => trivial⟩
    · exact ⟨.nil, fun _ hentry => absurd hentry List.not_mem_nil, fun _ hentry =>
        absurd hentry List.not_mem_nil⟩
    · cases hlocked
  · intro before label after hbefore hstep
    exact hbefore.step hstep

/-- A call of `list` ends in the step. -/
def RecordLabel.EndsList (pid : Pid) : RecordLabel Pid → Prop
  | .list caller _ _ | .unlockShared caller _ => caller = pid
  | _ => False

/-- When `list` returns entries, they are those that have been written so far. -/
theorem RecordInv.listsWritten {path : String} {s s' : Recorders Pid} {label : RecordLabel Pid}
    (h : RecordInv path s) (hstep : s.Step path label s') {pid : Pid}
    {entries : List ComponentEntry} (hlabel : label.EndsList pid)
    (hreturned : s'.task pid = .listed (.ok entries)) : ListsWritten s.written entries := by
  cases label with
  | list caller inspectFault lockFault =>
    obtain rfl := hlabel
    obtain ⟨-, rfl⟩ := hstep
    revert hreturned
    split <;> intro hreturned <;>
      simp only [Recorders.setTask, Function.update_self, Task.listed.injEq, reduceCtorEq,
        Except.ok.injEq] at hreturned
    next hfile =>
      obtain rfl := hreturned
      rw [h.absent hfile]
      exact ⟨.nil, by simp, by simp⟩
  | unlockShared caller fault =>
    obtain rfl := hlabel
    obtain ⟨result, htask, rfl⟩ := hstep
    have hfacts := h.facts caller
    rw [htask] at hfacts
    simp only [Recorders.setTask, Function.update_self, Task.listed.injEq] at hreturned
    cases result with
    | error error => cases hreturned
    | ok read =>
      cases fault with
      | some error => cases hreturned
      | none =>
        obtain rfl := Except.ok.inj hreturned
        exact hfacts
  | record | lockExclusive | load | write | unlockExclusive | lockShared | read | crash =>
    cases hlabel

/-- `list` reads the manifest whenever the system lets it. -/
theorem RecordInv.read_ok {path : String} {s s' : Recorders Pid} (h : RecordInv path s) {pid : Pid}
    (hstep : s.Step path (.read pid none) s') :
    ∃ entries, s'.task pid = .listDone (.ok entries) := by
  obtain ⟨htask, rfl⟩ := hstep
  have hfacts := h.facts pid
  rw [htask] at hfacts
  obtain ⟨held, hheld, -⟩ := h.holds
  obtain ⟨file, hfile⟩ := Option.ne_none_iff_exists'.1 hfacts
  unfold Recorders.Holds at hheld
  rw [hfile] at hheld
  refine ⟨SortedMap.values held, ?_⟩
  simp only [Recorders.setTask, Function.update_self, hfile, Option.getD_some, readFile]
  rw [hheld]
  rfl

/-- The process has a set to write. -/
def Task.Loaded : Task → Bool
  | .recordLoaded _ _ _ => true
  | _ => false

/-- The file is as it was, and no process has anything to write. -/
structure Untouched (file : Except String String) (s : Recorders Pid) : Prop where
  file_eq : s.file = some file
  loaded : ∀ pid, (s.task pid).Loaded = false

omit [ManifestFormat] in
theorem Untouched.setTask {file : Except String String} {s : Recorders Pid} (h : Untouched file s)
    (pid : Pid) {task : Task} (htask : task.Loaded = false) : Untouched file (s.setTask pid task) := by
  refine ⟨h.file_eq, fun other => ?_⟩
  show (Function.update s.task pid task other).Loaded = false
  by_cases hpid : other = pid
  · subst hpid
    rwa [Function.update_self]
  · rw [Function.update_of_ne hpid]
    exact h.loaded other

/-- No step touches a file that is not loaded. -/
theorem Untouched.step {path : String} {file : Except String String} {error : String}
    (hinvalid : loadEntriesUnlocked path file = .error error) {s s' : Recorders Pid}
    {label : RecordLabel Pid} (h : Untouched file s) (hstep : s.Step path label s') :
    Untouched file s' := by
  cases label with
  | record pid kind target fault =>
    obtain ⟨-, rfl⟩ := hstep
    split <;> exact h.setTask pid rfl
  | lockExclusive pid fault =>
    obtain ⟨entry, -, hlock⟩ := hstep
    cases fault with
    | some error =>
      obtain rfl := hlock
      exact h.setTask pid rfl
    | none =>
      obtain ⟨-, rfl⟩ := hlock
      exact h.setTask pid rfl
  | load pid inspectFault readFault =>
    obtain ⟨entry, -, rfl⟩ := hstep
    have hfails : ∃ error, loadEntriesUnlocked path (readFile file readFault) = .error error := by
      cases readFault with
      | none => exact ⟨error, hinvalid⟩
      | some fault => exact ⟨_, rfl⟩
    obtain ⟨failure, hfailure⟩ := hfails
    simp only [Recorders.loadStep, h.file_eq, hfailure]
    cases inspectFault <;> exact h.setTask pid rfl
  | write pid outcome =>
    obtain ⟨entry, entries, inserted, htask, -⟩ := hstep
    have hloaded := h.loaded pid
    rw [htask] at hloaded
    cases hloaded
  | unlockExclusive pid fault =>
    obtain ⟨entry, result, -, rfl⟩ := hstep
    exact h.setTask pid rfl
  | list pid inspectFault lockFault =>
    obtain ⟨-, rfl⟩ := hstep
    split <;> exact h.setTask pid rfl
  | lockShared pid fault =>
    obtain ⟨-, hlock⟩ := hstep
    cases fault with
    | some error =>
      obtain rfl := hlock
      exact h.setTask pid rfl
    | none =>
      obtain ⟨-, rfl⟩ := hlock
      exact h.setTask pid rfl
  | read pid fault =>
    obtain ⟨-, rfl⟩ := hstep
    exact h.setTask pid rfl
  | unlockShared pid fault =>
    obtain ⟨result, -, rfl⟩ := hstep
    exact h.setTask pid rfl
  | crash pid =>
    obtain rfl := hstep
    exact h.setTask pid rfl

/-- A manifest that cannot be loaded is never overwritten. -/
theorem record_keeps_invalid {path : String} {file : Except String String} {error : String}
    (hinvalid : loadEntriesUnlocked path file = .error error) {trace : List (RecordLabel Pid)}
    {s : Recorders Pid} (hrun : (recordSystem Pid path (some file)).Run trace s) :
    s.file = some file := by
  apply Untouched.file_eq
  apply LabelledSystem.Run.invariant _ _ hrun
  · rintro start rfl
    exact ⟨rfl, fun _ => rfl⟩
  · intro before label after hbefore hstep
    exact hbefore.step hinvalid hstep

end Manifest

end WeatherApp
