import Mathlib.Tactic

/-!
# Files with advisory locks

A volume has directory entries that name files, and open files, each of a process. A lock belongs to
an open file: it is exclusive or shared, does not wait, and goes with the open file. Locks are
advisory: nothing keeps a process from writing into a file that another one has locked, and an entry
can be removed or replaced while its file is open and locked.

The content of files is a type of its own.

## Main definitions

* `Volume`: entries, files, open files and locks.
* `Volume.Valid`: a lock is held by open files of the locked file.
* `Volume.Locks`: an open file has the exclusive lock.
* `Volume.Spares`: what an operation leaves of open files and their locks.

## Main results

* `Volume.Locks.unique`: one open file has the exclusive lock.
* `valid_openFile`, `valid_setLock`, and so on: the operations keep `Valid`.
* `spares_openFile`, `spares_tryLock`, and so on: an operation spares the other open files.
-/

/-- An open file of a process. -/
structure OpenFile where
  process : ℕ
  number : ℕ
  deriving DecidableEq, Repr

/-- The locks of a file. -/
inductive FileLock where
  | shared (files : List OpenFile)
  | exclusive (file : OpenFile)
  deriving DecidableEq, Repr

namespace FileLock

/-- No lock. -/
def free : FileLock := .shared []

/-- The locks of the open files that are kept. -/
def keep (kept : OpenFile → Bool) : FileLock → FileLock
  | .shared files => .shared (files.filter kept)
  | .exclusive file => if kept file then .exclusive file else free

/-- Ask for the exclusive lock. -/
def tryExclusive (file : OpenFile) (lock : FileLock) : Option FileLock :=
  if lock.keep (· ≠ file) = free then some (.exclusive file) else none

/-- Ask for a shared lock. -/
def tryShared (file : OpenFile) (lock : FileLock) : Option FileLock :=
  match lock.keep (· ≠ file) with
  | .shared files => some (.shared (file :: files))
  | .exclusive _ => none

/-- The open files with a lock. -/
def files : FileLock → List OpenFile
  | .shared files => files
  | .exclusive file => [file]

theorem keep_eq_exclusive {kept : OpenFile → Bool} {lock : FileLock} {file : OpenFile} :
    lock.keep kept = .exclusive file ↔ lock = .exclusive file ∧ kept file = true := by
  cases lock with
  | shared files => simp [keep]
  | exclusive holder =>
    by_cases hkept : kept holder = true
    · rw [keep, if_pos hkept]
      constructor
      · intro h
        obtain rfl := FileLock.exclusive.inj h
        exact ⟨rfl, hkept⟩
      · exact And.left
    · rw [keep, if_neg hkept]
      constructor
      · intro h
        cases h
      · rintro ⟨h, hfile⟩
        obtain rfl := FileLock.exclusive.inj h
        exact absurd hfile hkept

theorem mem_files_keep {kept : OpenFile → Bool} {lock : FileLock} {file : OpenFile} :
    file ∈ (lock.keep kept).files ↔ file ∈ lock.files ∧ kept file = true := by
  cases lock with
  | shared holders => simp [keep, FileLock.files]
  | exclusive holder =>
    by_cases hkept : kept holder = true
    · simp only [keep, FileLock.files, if_pos hkept, List.mem_singleton]
      constructor
      · rintro rfl
        exact ⟨rfl, hkept⟩
      · exact And.left
    · simp only [keep, FileLock.files, free, if_neg hkept, List.mem_singleton, List.not_mem_nil, false_iff]
      rintro ⟨rfl, hfile⟩
      exact hkept hfile

theorem mem_files_exclusive {lock : FileLock} {file : OpenFile} (h : lock = .exclusive file) :
    file ∈ lock.files := by
  rw [h]
  exact List.mem_singleton_self file

/-- Who gets the exclusive lock is the only one with a lock, before and after. -/
theorem tryExclusive_eq_some {file : OpenFile} {lock lock' : FileLock}
    (h : lock.tryExclusive file = some lock') :
    lock' = .exclusive file ∧ ∀ holder ∈ lock.files, holder = file := by
  rw [tryExclusive, Option.ite_none_right_eq_some] at h
  refine ⟨(Option.some.inj h.2).symm, fun holder hholder => ?_⟩
  by_contra hne
  have hmem : holder ∈ (lock.keep (· ≠ file)).files :=
    mem_files_keep.2 ⟨hholder, by simpa using hne⟩
  rw [h.1] at hmem
  exact absurd hmem List.not_mem_nil

/-- A shared lock leaves the others theirs, and is not given beside an exclusive one. -/
theorem tryShared_eq_some {file : OpenFile} {lock lock' : FileLock}
    (h : lock.tryShared file = some lock') :
    (∃ files, lock' = .shared (file :: files) ∧ ∀ holder ∈ files, holder ∈ lock.files) ∧
      ∀ holder, lock = .exclusive holder → holder = file := by
  unfold tryShared at h
  split at h
  next files hkeep =>
    refine ⟨⟨files, (Option.some.inj h).symm, fun holder hholder => ?_⟩, fun holder hholder => ?_⟩
    · have hmem : holder ∈ (lock.keep (· ≠ file)).files := by
        rw [hkeep]
        exact hholder
      exact (mem_files_keep.1 hmem).1
    · by_contra hne
      have hkept : lock.keep (· ≠ file) = .exclusive holder :=
        keep_eq_exclusive.2 ⟨hholder, by simpa using hne⟩
      rw [hkept] at hkeep
      cases hkeep
  next => cases h

end FileLock

/-- Entries, files, open files and locks. Files have numbers, which are not used again. -/
structure Volume (P β : Type) where
  /-- The file that an entry names. -/
  entry : P → Option ℕ
  content : ℕ → β
  lock : ℕ → FileLock
  /-- The file that is open. -/
  inode : OpenFile → Option ℕ
  /-- How many files there have been. -/
  inodes : ℕ
  /-- How many files were opened. -/
  opened : ℕ

namespace Volume

variable {P β : Type}

/-! ## Operations -/

section Entries

variable [DecidableEq P]

/-- The file that an entry names, which is created if there is none. -/
def create (v : Volume P β) (path : P) (blank : β) : Volume P β × ℕ :=
  match v.entry path with
  | some i => (v, i)
  | none =>
    ({ v with
        entry := Function.update v.entry path (some v.inodes)
        content := Function.update v.content v.inodes blank
        inodes := v.inodes + 1 }, v.inodes)

/-- Remove an entry. -/
def remove (v : Volume P β) (path : P) : Volume P β :=
  { v with entry := Function.update v.entry path none }

/-- Let an entry name a new file. -/
def replace (v : Volume P β) (path : P) (content : β) : Volume P β :=
  ((v.remove path).create path content).1

end Entries

/-- Open a file. -/
def openFile (v : Volume P β) (process i : ℕ) : Volume P β :=
  { v with
    inode := Function.update v.inode ⟨process, v.opened⟩ (some i)
    opened := v.opened + 1 }

/-- Set the lock of a file. -/
def setLock (v : Volume P β) (i : ℕ) (lock : FileLock) : Volume P β :=
  { v with lock := Function.update v.lock i lock }

/-- The locks of the open files that are kept. -/
def keepLocks (v : Volume P β) (kept : OpenFile → Bool) : Volume P β :=
  { v with lock := fun i => (v.lock i).keep kept }

/-- Give back the lock of an open file. -/
def unlock (v : Volume P β) (file : OpenFile) : Volume P β := v.keepLocks (· ≠ file)

/-- Close an open file, and give back its lock. -/
def close (v : Volume P β) (file : OpenFile) : Volume P β :=
  { v.unlock file with inode := Function.update v.inode file none }

/-- Close what a process has open. -/
def exit (v : Volume P β) (process : ℕ) : Volume P β :=
  { v.keepLocks (·.process ≠ process) with
    inode := fun file => if file.process = process then none else v.inode file }

/-- Replace the content of a file. -/
def write (v : Volume P β) (i : ℕ) (content : β) : Volume P β :=
  { v with content := Function.update v.content i content }

/-- An empty volume. -/
def empty (blank : β) : Volume P β where
  entry _ := none
  content _ := blank
  lock _ := .free
  inode _ := none
  inodes := 0
  opened := 0

/-! ## Validity -/

/-- A lock is held by open files of the locked file. -/
structure Valid (v : Volume P β) : Prop where
  entry_lt : ∀ path i, v.entry path = some i → i < v.inodes
  inode_lt : ∀ file i, v.inode file = some i → i < v.inodes
  number_lt : ∀ file i, v.inode file = some i → file.number < v.opened
  lock_open : ∀ i, ∀ file ∈ (v.lock i).files, v.inode file = some i

/-- The open file has the exclusive lock of the file. -/
def Locks (v : Volume P β) (file : OpenFile) (i : ℕ) : Prop := v.lock i = .exclusive file

/-- One open file has the exclusive lock. -/
theorem Locks.unique {v : Volume P β} {file file' : OpenFile} {i : ℕ} (h : v.Locks file i)
    (h' : v.Locks file' i) : file = file' :=
  FileLock.exclusive.inj (h.symm.trans h')

/-- The locked file is the one that is open. -/
theorem Locks.inode_eq {v : Volume P β} {file : OpenFile} {i : ℕ} (h : v.Locks file i)
    (hvalid : v.Valid) : v.inode file = some i :=
  hvalid.lock_open i file (FileLock.mem_files_exclusive h)

theorem update_some_eq_some {γ δ : Type} [DecidableEq γ] {f : γ → Option δ} {a c : γ} {b d : δ} :
    Function.update f a (some b) c = some d ↔ c = a ∧ b = d ∨ c ≠ a ∧ f c = some d := by
  by_cases hc : c = a
  · subst hc
    simp
  · simp [hc]

theorem update_none_eq_some {γ δ : Type} [DecidableEq γ] {f : γ → Option δ} {a c : γ} {d : δ} :
    Function.update f a none c = some d ↔ c ≠ a ∧ f c = some d := by
  by_cases hc : c = a
  · subst hc
    simp
  · simp [hc]

theorem valid_empty (blank : β) : (empty blank : Volume P β).Valid where
  entry_lt path i h := by cases h
  inode_lt file i h := by cases h
  number_lt file i h := by cases h
  lock_open i file h := absurd h List.not_mem_nil

/-- What is locked is in use. -/
theorem Locks.lt {v : Volume P β} {file : OpenFile} {i : ℕ} (h : v.Locks file i)
    (hvalid : v.Valid) : i < v.inodes :=
  hvalid.inode_lt file i (h.inode_eq hvalid)

theorem valid_openFile {v : Volume P β} (h : v.Valid) {process i : ℕ} (hi : i < v.inodes) :
    (v.openFile process i).Valid where
  entry_lt := h.entry_lt
  inode_lt file j hj := by
    obtain ⟨-, rfl⟩ | ⟨-, hopen⟩ := update_some_eq_some.1 hj
    · exact hi
    · exact h.inode_lt file j hopen
  number_lt file j hj := by
    obtain ⟨rfl, -⟩ | ⟨-, hopen⟩ := update_some_eq_some.1 hj
    · exact Nat.lt_succ_self _
    · exact Nat.lt_succ_of_lt (h.number_lt file j hopen)
  lock_open j file hfile := by
    have hopen : v.inode file = some j := h.lock_open j file hfile
    refine update_some_eq_some.2 (.inr ⟨?_, hopen⟩)
    rintro rfl
    exact absurd (h.number_lt _ j hopen) (Nat.lt_irrefl _)

theorem valid_setLock {v : Volume P β} (h : v.Valid) {i : ℕ} {lock : FileLock}
    (hlock : ∀ file ∈ lock.files, v.inode file = some i) : (v.setLock i lock).Valid where
  entry_lt := h.entry_lt
  inode_lt := h.inode_lt
  number_lt := h.number_lt
  lock_open j file hfile := by
    by_cases hj : j = i
    · subst hj
      simp only [setLock, Function.update_self] at hfile
      exact hlock file hfile
    · simp only [setLock, Function.update_of_ne hj] at hfile
      exact h.lock_open j file hfile

theorem valid_tryLock {v : Volume P β} (h : v.Valid) {file : OpenFile} {i : ℕ} {lock : FileLock}
    {isExclusive : Bool} (hfile : v.inode file = some i)
    (hlock : (if isExclusive then (v.lock i).tryExclusive file else (v.lock i).tryShared file) =
      some lock) : (v.setLock i lock).Valid := by
  refine valid_setLock h fun other hother => ?_
  cases isExclusive with
  | true =>
    obtain ⟨rfl, -⟩ := FileLock.tryExclusive_eq_some hlock
    rwa [List.mem_singleton.1 hother]
  | false =>
    obtain ⟨⟨files, rfl, hfiles⟩, -⟩ := FileLock.tryShared_eq_some hlock
    obtain rfl | hmem := List.mem_cons.1 hother
    · exact hfile
    · exact h.lock_open i other (hfiles other hmem)

theorem valid_keepLocks {v : Volume P β} (h : v.Valid) (kept : OpenFile → Bool) :
    (v.keepLocks kept).Valid where
  entry_lt := h.entry_lt
  inode_lt := h.inode_lt
  number_lt := h.number_lt
  lock_open i file hfile := h.lock_open i file (FileLock.mem_files_keep.1 hfile).1

theorem valid_unlock {v : Volume P β} (h : v.Valid) (file : OpenFile) : (v.unlock file).Valid :=
  valid_keepLocks h _

theorem valid_close {v : Volume P β} (h : v.Valid) (file : OpenFile) : (v.close file).Valid where
  entry_lt := h.entry_lt
  inode_lt other i hi := h.inode_lt other i (update_none_eq_some.1 hi).2
  number_lt other i hi := h.number_lt other i (update_none_eq_some.1 hi).2
  lock_open i other hmem := by
    obtain ⟨hholder, hkept⟩ := FileLock.mem_files_keep.1 hmem
    exact update_none_eq_some.2 ⟨of_decide_eq_true hkept, h.lock_open i other hholder⟩

theorem valid_exit {v : Volume P β} (h : v.Valid) (process : ℕ) : (v.exit process).Valid where
  entry_lt := h.entry_lt
  inode_lt file i hi := h.inode_lt file i (Option.ite_none_left_eq_some.1 hi).2
  number_lt file i hi := h.number_lt file i (Option.ite_none_left_eq_some.1 hi).2
  lock_open i file hmem := by
    obtain ⟨hholder, hkept⟩ := FileLock.mem_files_keep.1 hmem
    exact (if_neg (of_decide_eq_true hkept)).trans (h.lock_open i file hholder)

theorem valid_write {v : Volume P β} (h : v.Valid) (i : ℕ) (content : β) :
    (v.write i content).Valid := ⟨h.entry_lt, h.inode_lt, h.number_lt, h.lock_open⟩

section Entries

variable [DecidableEq P]

theorem valid_create {v : Volume P β} (h : v.Valid) (path : P) (blank : β) :
    (v.create path blank).1.Valid := by
  unfold create
  split
  · exact h
  · refine ⟨fun other i hi => ?_, fun file i hi => ?_, h.number_lt, h.lock_open⟩
    · obtain ⟨-, rfl⟩ | ⟨-, hentry⟩ := update_some_eq_some.1 hi
      · exact Nat.lt_succ_self _
      · exact Nat.lt_succ_of_lt (h.entry_lt other i hentry)
    · exact Nat.lt_succ_of_lt (h.inode_lt file i hi)

/-- The entry names the file that `create` returns. -/
theorem create_entry (v : Volume P β) (path : P) (blank : β) :
    (v.create path blank).1.entry path = some (v.create path blank).2 := by
  unfold create
  split
  next h => exact h
  next => exact Function.update_self ..

theorem create_opened (v : Volume P β) (path : P) (blank : β) :
    (v.create path blank).1.opened = v.opened := by
  unfold create
  split
  · rfl
  · rfl

theorem create_lt {v : Volume P β} (h : v.Valid) (path : P) (blank : β) :
    (v.create path blank).2 < (v.create path blank).1.inodes :=
  (valid_create h path blank).entry_lt path _ (create_entry v path blank)

theorem valid_remove {v : Volume P β} (h : v.Valid) (path : P) : (v.remove path).Valid where
  entry_lt other i hi := h.entry_lt other i (update_none_eq_some.1 hi).2
  inode_lt := h.inode_lt
  number_lt := h.number_lt
  lock_open := h.lock_open

theorem valid_replace {v : Volume P β} (h : v.Valid) (path : P) (content : β) :
    (v.replace path content).Valid := valid_create (valid_remove h path) path content

end Entries

/-! ## What an operation leaves -/

/-- From `v` to `v'`, these open files stay, with their locks, what they have locked is not written,
and the entries that are kept go on naming the same files. -/
structure Spares (kept : P → Prop) (mine : OpenFile → Prop) (v v' : Volume P β) : Prop where
  inode : ∀ file, mine file → v'.inode file = v.inode file
  locks : ∀ file i, mine file → (v'.Locks file i ↔ v.Locks file i)
  content : ∀ file i, mine file → v.Locks file i → v'.content i = v.content i
  entry : ∀ path i, kept path → v.entry path = some i → v'.entry path = some i

variable {kept : P → Prop} {mine : OpenFile → Prop} {v v' v'' : Volume P β}

theorem Spares.refl (v : Volume P β) : Spares kept mine v v :=
  ⟨fun _ _ => rfl, fun _ _ _ => Iff.rfl, fun _ _ _ _ => rfl, fun _ _ _ h => h⟩

theorem Spares.trans (h : Spares kept mine v v') (h' : Spares kept mine v' v'') :
    Spares kept mine v v'' where
  inode file hfile := (h'.inode file hfile).trans (h.inode file hfile)
  locks file i hfile := (h'.locks file i hfile).trans (h.locks file i hfile)
  content file i hfile hlock :=
    (h'.content file i hfile ((h.locks file i hfile).2 hlock)).trans (h.content file i hfile hlock)
  entry path i hkept hentry := h'.entry path i hkept (h.entry path i hkept hentry)

/-- Fewer files are spared too. -/
theorem Spares.mono {mine' : OpenFile → Prop} (h : Spares kept mine v v')
    (himp : ∀ file, mine' file → mine file) : Spares kept mine' v v' where
  inode file hfile := h.inode file (himp file hfile)
  locks file i hfile := h.locks file i (himp file hfile)
  content file i hfile := h.content file i (himp file hfile)
  entry := h.entry

theorem spares_openFile {process : ℕ} (hnew : ¬ mine ⟨process, v.opened⟩) (i : ℕ) :
    Spares kept mine v (v.openFile process i) where
  inode file hfile := Function.update_of_ne (by rintro rfl; exact hnew hfile) ..
  locks _ _ _ := Iff.rfl
  content _ _ _ _ := rfl
  entry _ _ _ h := h

/-- Locks are set that none of the files has before or after. -/
theorem spares_setLock {i : ℕ} {lock : FileLock} (hbefore : ∀ file, v.Locks file i → ¬ mine file)
    (hafter : ∀ file, lock = .exclusive file → ¬ mine file) :
    Spares kept mine v (v.setLock i lock) where
  inode _ _ := rfl
  locks file j hfile := by
    by_cases hj : j = i
    · subst hj
      constructor
      · intro hlock
        exact absurd hfile (hafter file ((Function.update_self ..).symm.trans hlock))
      · intro hlock
        exact absurd hfile (hbefore file hlock)
    · exact iff_of_eq (congrArg (· = FileLock.exclusive file) (Function.update_of_ne hj ..))
  content _ _ _ _ := rfl
  entry _ _ _ h := h

/-- An open file asks for a lock. -/
theorem spares_tryLock {file : OpenFile} {i : ℕ} {lock : FileLock} {isExclusive : Bool}
    (hlock : (if isExclusive then (v.lock i).tryExclusive file else (v.lock i).tryShared file) =
      some lock) (hfile : ¬ mine file) : Spares kept mine v (v.setLock i lock) := by
  cases isExclusive with
  | true =>
    obtain ⟨rfl, holders⟩ := FileLock.tryExclusive_eq_some hlock
    refine spares_setLock (fun other hother => ?_) fun other hother => ?_
    · rwa [holders other (FileLock.mem_files_exclusive hother)]
    · rwa [← FileLock.exclusive.inj hother]
  | false =>
    obtain ⟨⟨files, rfl, -⟩, holders⟩ := FileLock.tryShared_eq_some hlock
    refine spares_setLock (fun other hother => ?_) fun other hother => by cases hother
    rwa [holders other hother]

theorem spares_keepLocks {keeping : OpenFile → Bool}
    (hkeeping : ∀ file, mine file → keeping file = true) :
    Spares kept mine v (v.keepLocks keeping) where
  inode _ _ := rfl
  locks file i hfile := by
    rw [Locks, Locks, keepLocks, FileLock.keep_eq_exclusive]
    exact and_iff_left (hkeeping file hfile)
  content _ _ _ _ := rfl
  entry _ _ _ h := h

theorem spares_unlock {file : OpenFile} (hfile : ¬ mine file) : Spares kept mine v (v.unlock file) :=
  spares_keepLocks fun other hother => decide_eq_true (by rintro rfl; exact hfile hother)

theorem spares_close {file : OpenFile} (hfile : ¬ mine file) :
    Spares kept mine v (v.close file) where
  inode other hother := Function.update_of_ne (by rintro rfl; exact hfile hother) ..
  locks := (spares_unlock hfile : Spares kept mine v (v.unlock file)).locks
  content _ _ _ _ := rfl
  entry _ _ _ h := h

theorem spares_exit {process : ℕ} (hprocess : ∀ file, mine file → file.process ≠ process) :
    Spares kept mine v (v.exit process) where
  inode file hfile := if_neg (hprocess file hfile)
  locks := (spares_keepLocks fun file hfile => decide_eq_true (hprocess file hfile) :
    Spares kept mine v (v.keepLocks (·.process ≠ process))).locks
  content _ _ _ _ := rfl
  entry _ _ _ h := h

/-- An open file writes what it has locked itself. -/
theorem spares_write {file : OpenFile} {i : ℕ} (hlock : v.Locks file i) (hfile : ¬ mine file)
    (content : β) : Spares kept mine v (v.write i content) where
  inode _ _ := rfl
  locks _ _ _ := Iff.rfl
  content other j hother hother' := by
    refine Function.update_of_ne ?_ ..
    rintro rfl
    obtain rfl := hlock.unique hother'
    exact hfile hother
  entry _ _ _ h := h

section Entries

variable [DecidableEq P]

theorem spares_create (hv : v.Valid) (path : P) (blank : β) :
    Spares kept mine v (v.create path blank).1 := by
  unfold create
  split
  next => exact .refl v
  next hnone =>
    refine ⟨fun _ _ => rfl, fun _ _ _ => Iff.rfl, fun file i _ hlock => ?_, fun other i _ hentry => ?_⟩
    · -- what is locked is not the new file
      exact Function.update_of_ne (hlock.lt hv).ne ..
    · refine update_some_eq_some.2 (.inr ⟨?_, hentry⟩)
      rintro rfl
      rw [hnone] at hentry
      cases hentry

theorem spares_remove {path : P} (hpath : ¬ kept path) : Spares kept mine v (v.remove path) where
  inode _ _ := rfl
  locks _ _ _ := Iff.rfl
  content _ _ _ _ := rfl
  entry other i hother hentry :=
    update_none_eq_some.2 ⟨by rintro rfl; exact hpath hother, hentry⟩

theorem spares_replace (hv : v.Valid) {path : P} (hpath : ¬ kept path) (content : β) :
    Spares kept mine v (v.replace path content) :=
  (spares_remove hpath).trans (spares_create (valid_remove hv path) path content)

/-- The content of a file that there was. -/
theorem content_create {i : ℕ} (path : P) (blank : β) :
    (v.create path blank).1.content i = v.content i ∨
      (v.create path blank).1.content i = blank := by
  unfold create
  split
  · exact .inl rfl
  · by_cases hi : i = v.inodes
    · subst hi
      exact .inr (Function.update_self ..)
    · exact .inl (Function.update_of_ne hi ..)

end Entries

theorem content_write (v : Volume P β) (i j : ℕ) (content : β) :
    (v.write i content).content j = v.content j ∨
      j = i ∧ (v.write i content).content j = content := by
  by_cases hj : j = i
  · subst hj
    exact .inr ⟨rfl, Function.update_self ..⟩
  · exact .inl (Function.update_of_ne hj ..)

end Volume
