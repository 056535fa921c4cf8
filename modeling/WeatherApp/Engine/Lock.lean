import WeatherApp.Host.Call

/-!
# The locks of the engine

`engine/src/lock.rs`: a lock is an open file with an exclusive lock, which the lock path still names
after it was locked. The lock of an engine has the engine's metadata as its text.

The text of the metadata is a parameter: the pieces that `serde_json` writes, and what it reads.

## Main definitions

* `LockMetadataJson`, `lockText`: the text of the metadata.
* `fileMatchesPath`: the check that the path names the open file.
* `LockGuard.acquire`: the acquisition, with its attempts.
-/

namespace WeatherApp

/-- The JSON of `EngineLockMetadata`. -/
class LockMetadataJson where
  /-- `serde_json::to_writer`: the texts that it writes one after the other. -/
  pieces : EngineLockMetadata → List String
  /-- `serde_json::from_slice`, when it succeeds. -/
  read : String → Option EngineLockMetadata

/-- The text of a lock file. -/
def lockText [LockMetadataJson] (metadata : EngineLockMetadata) : String :=
  (LockMetadataJson.pieces metadata ++ ["\n"]).foldl (· ++ ·) ""

namespace Host

/-- `ENGINE_LOCK_RETRIES`. -/
def engineLockRetries : ℕ := 8

/-- `file_matches_path`. -/
def fileMatchesPath (file : OpenFile) (path : String) : HostM Bool := do
  orContext s!"failed to clone open lock file {path}" (perform (.tryClone file))
  let fileHandle : ℕ ← orContext s!"failed to identify open lock file {path}"
    (perform (.identify file))
  let pathHandle : Except IoError ℕ ← invoke (.identifyPath path)
  match pathHandle with
  | .ok pathHandle => return fileHandle = pathHandle
  | .error err =>
    if err.kind = .notFound then return false
    else throw s!"failed to identify lock path {path}: {err.text}"

namespace LockGuard

/-- `drop`. -/
def drop (guard : LockGuard) : HostProgram Unit := do
  perform (.giveUp guard)
  perform (.unlock guard.file)
  perform (.close guard.file)

/-- A guard that is dropped before it is returned. -/
def dropFile (file : OpenFile) : HostProgram Unit := do
  perform (.unlock file)
  perform (.close file)

/-- Write texts one after the other. -/
def writePieces (context : String) (file : OpenFile) : List String → HostM Unit
  | [] => return ⟨⟩
  | piece :: rest => do
    orContext context (perform (.write file piece))
    writePieces context file rest

variable [LockMetadataJson]

/-- `write_metadata`. -/
def writeMetadata (file : OpenFile) (path : String) (metadata : EngineLockMetadata) :
    HostM Unit := do
  orContext s!"failed to seek lock file {path}" (perform (.seekStart file))
  orContext s!"failed to truncate lock file {path}" (perform (.truncate file))
  writePieces s!"failed to initialize lock file {path}" file (LockMetadataJson.pieces metadata)
  orContext s!"failed to finalize lock file {path}" (perform (.write file "\n"))
  orContext s!"failed to sync lock file {path}" (perform (.syncData file))

/-- The rest of an attempt with the lock: the path must still name the file, also after the
metadata was written. -/
def settle (path : String) (metadata : Option EngineLockMetadata) (file : OpenFile)
    (again : Option (HostM LockGuard)) : HostM LockGuard := do
  let matched ← onError (perform (.close file)) (fileMatchesPath file path)
  if ¬ matched then
    let _ ← invoke (.unlock file)
    retryOr again (perform (.close file)) s!"lock path {path} changed while acquiring the lock"
  else
    match metadata with
    | none =>
      let _ ← invoke (.hold ⟨path, none, file⟩)
      return ⟨path, none, file⟩
    | some metadata =>
      let matched ← onError (dropFile file) do
        writeMetadata file path metadata
        fileMatchesPath file path
      if ¬ matched then
        ExceptT.lift (dropFile file)
        retryOr again (pure ⟨⟩) s!"lock path {path} changed while initializing the lock"
      else
        let _ ← invoke (.hold ⟨path, some metadata, file⟩)
        return ⟨path, some metadata, file⟩

/-- One attempt of `acquire`. -/
def attempt (path : String) (metadata : Option EngineLockMetadata)
    (again : Option (HostM LockGuard)) : HostM LockGuard := do
  let file : OpenFile ← orContext s!"failed to open lock file {path}"
    (perform (.openFile path true))
  let locked : Except IoError Unit ← invoke (.tryLock file true)
  match locked with
  | .ok _ => settle path metadata file again
  | .error err =>
    let again := if err.kind = .wouldBlock then again else none
    retryOr again (perform (.close file)) s!"failed to acquire lock {path}: {err.text}"

/-- `acquire`. -/
def acquire (path : String) (retries : ℕ) (metadata : Option EngineLockMetadata) :
    HostM LockGuard := do
  let created : Except IoError Unit ← invoke (.createParent path)
  match created with
  | .ok _ => attempts (attempt path metadata) retries
  | .error err => throw err.text

/-- `exclusive`. -/
def exclusive (path : String) : HostM LockGuard := acquire path 0 none

/-- `engine`. -/
def engine (path : String) (metadata : EngineLockMetadata) : HostM LockGuard :=
  acquire path engineLockRetries (some metadata)

end LockGuard

end Host

end WeatherApp
