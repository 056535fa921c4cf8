import WeatherApp.Foundation.KeyedMap
import WeatherApp.Schema.Resource
import WeatherApp.Schema.Station
import WeatherApp.Schema.Time

/-!
# Resources

The resource manager of the engine (`engine/src/resource_cache.rs`) and the replies to resource
requests (`engine/src/handlers/resource.rs`). A resource is registered under an identifier derived
from its URL, fetched in the background at its first request, and served in chunks from the cache.

Every operation holds the lock of the manager, so that it is one step. It reads the clock itself;
the readings are arguments here.

## Main definitions

* `ResourceState`: registrations, cache and fetches.
* `register`, `beginFetch`, `finishFetch`, `cacheResource`: the operations.
* `resourceChunk`, `handleGetResource`: the replies.
-/

namespace WeatherApp

/-- `ProviderResource`. -/
structure ProviderResource where
  contentType : String
  bytes : List UInt8
  deriving DecidableEq, Repr

/-- `ResourceFetchPlan`. -/
inductive ResourceFetchPlan where
  | ready (resource : ProviderResource)
  | start (sourceUrl : String)
  | pending
  | failed (message : String)
  | missing
  deriving DecidableEq, Repr

/-- The limits of a `ResourceManager`. -/
structure ResourceLimits where
  ttl : Duration
  maxBytes : ℕ
  maxRegistrations : ℕ

/-- `ResourceManager::default`. -/
def ResourceLimits.default : ResourceLimits :=
  ⟨.fromSecs (15 * 60), 32 * 1024 * 1024, 4096⟩

/-- `FAILED_FETCH_TTL`. -/
def failedFetchTtl : Duration := .fromSecs 5

/-- `ResourceFetchState`. -/
inductive ResourceFetchState where
  | pending
  | failed (message : String) (expiresAt : Instant)
  deriving DecidableEq, Repr

/-- `Registration`. -/
structure Registration where
  sourceUrl : String
  lastUsed : ℕ
  deriving DecidableEq, Repr

/-- `CacheEntry`. -/
structure CacheEntry where
  resource : ProviderResource
  expiresAt : Instant
  lastUsed : ℕ
  deriving DecidableEq, Repr

/-- The length of a cached resource. -/
def CacheEntry.byteLength (entry : CacheEntry) : ℕ := entry.resource.bytes.length

/-- `ResourceState`. -/
structure ResourceState where
  registrations : KeyedMap String Registration
  cache : KeyedMap String CacheEntry
  fetches : KeyedMap String ResourceFetchState
  cacheBytes : ℕ
  sequence : ℕ
  deriving DecidableEq

/-- `usize::saturating_add`. -/
def saturatingAdd (a b : ℕ) : ℕ := min (a + b) usizeMax

/-- The entry used least recently. -/
def oldestEntry {α : Type} (lastUsed : α → ℕ) (entries : List (String × α)) : Option String :=
  (entries.argmin fun entry => lastUsed entry.2).map Prod.fst

namespace ResourceState

/-- `ResourceState::default`. -/
def empty : ResourceState := ⟨.empty, .empty, .empty, 0, 0⟩

/-- `next_sequence`. -/
def nextSequence (s : ResourceState) : ResourceState :=
  { s with sequence := (s.sequence + 1) % 2 ^ 64 }

/-- `remove_cache_entry`. -/
def removeCacheEntry (s : ResourceState) (resourceId : String) : ResourceState :=
  match s.cache.get resourceId with
  | some entry =>
    { s with
      cache := s.cache.remove resourceId
      cacheBytes := s.cacheBytes - entry.byteLength }
  | none => s

/-- Write the registration of an identifier. -/
def setRegistration (s : ResourceState) (resourceId : String) (registration : Registration) :
    ResourceState := { s with registrations := s.registrations.set resourceId registration }

/-! ## Registration -/

/-- The registration that is evicted first: the one used least recently of those without a
pending fetch. -/
def oldestIdle (s : ResourceState) : Option String :=
  oldestEntry (·.lastUsed)
    (s.registrations.rows.filter fun entry => s.fetches.get entry.1 ≠ some .pending)

/-- Drop a registration with everything that belongs to it. -/
def evict (s : ResourceState) (resourceId : String) : ResourceState :=
  { s with
    registrations := s.registrations.remove resourceId
    fetches := s.fetches.remove resourceId }.removeCacheEntry resourceId

/-- The loop of `register` that makes room for a registration, and whether it did. It ends within
as many iterations as there are registrations. -/
def evictRegistrations (maxRegistrations : ℕ) : ℕ → ResourceState → Bool × ResourceState
  | 0, s => (true, s)
  | n + 1, s =>
    if s.registrations.size ≥ maxRegistrations then
      match s.oldestIdle with
      | none => (false, s)
      | some oldest => evictRegistrations maxRegistrations n (s.evict oldest)
    else (true, s)

/-- The identifier under which a URL is registered. -/
def resourceIdOf [Sha256] (sourceUrl : String) : String :=
  "resource-" ++ unifiedStationUuid sourceUrl

/-- `register`. -/
def register [Sha256] (limits : ResourceLimits) (s : ResourceState) (sourceUrl : String) :
    Option String × ResourceState :=
  let sourceUrl := trim sourceUrl
  if sourceUrl = "" ∨ limits.maxRegistrations = 0 then (none, s)
  else
    let resourceId := resourceIdOf sourceUrl
    let s := s.nextSequence
    match s.registrations.get resourceId with
    | some registration =>
      if registration.sourceUrl = sourceUrl then
        (some resourceId, s.setRegistration resourceId { registration with lastUsed := s.sequence })
      else (none, s)
    | none =>
      match evictRegistrations limits.maxRegistrations s.registrations.size s with
      | (false, s) => (none, s)
      | (true, s') =>
        (some resourceId, s'.setRegistration resourceId ⟨sourceUrl, s.sequence⟩)

/-! ## Fetches -/

/-- Drop the cached resource of an identifier when it has expired. -/
def dropExpired (s : ResourceState) (resourceId : String) (now : Instant) : ResourceState :=
  if (s.cache.get resourceId).any (·.expiresAt ≤ now) then s.removeCacheEntry resourceId else s

/-- The failure of a fetch is over. -/
def ResourceFetchState.expired (now : Instant) : ResourceFetchState → Bool
  | .failed _ expiresAt => expiresAt ≤ now
  | .pending => false

/-- Drop the failure of an identifier's fetch when it is over. -/
def dropFailure (s : ResourceState) (resourceId : String) (now : Instant) : ResourceState :=
  if (s.fetches.get resourceId).any (ResourceFetchState.expired now) then
    { s with fetches := s.fetches.remove resourceId }
  else s

/-- The end of `begin_fetch`, when nothing is cached. -/
def planFetch (s : ResourceState) (resourceId sourceUrl : String) (now : Instant) :
    ResourceFetchPlan × ResourceState :=
  let s := s.dropFailure resourceId now
  match s.fetches.get resourceId with
  | some .pending => (.pending, s)
  | some (.failed message _) => (.failed message, s)
  | none => (.start sourceUrl, { s with fetches := s.fetches.set resourceId .pending })

/-- `begin_fetch`. -/
def beginFetch (s : ResourceState) (resourceId : String) (now : Instant) :
    ResourceFetchPlan × ResourceState :=
  let s := s.nextSequence
  match s.registrations.get resourceId with
  | none => (.missing, s)
  | some registration =>
    let s := (s.setRegistration resourceId
      { registration with lastUsed := s.sequence }).dropExpired resourceId now
    match s.cache.get resourceId with
    | some entry =>
      (.ready entry.resource,
        { s with cache := s.cache.set resourceId { entry with lastUsed := s.sequence } })
    | none => s.planFetch resourceId registration.sourceUrl now

/-- `finish_fetch`. It panics, and writes nothing, when the expiry of the failure is not
representable. -/
def finishFetch (s : ResourceState) (resourceId : String) (error : Option String)
    (now : Instant) : ResourceState :=
  if (s.registrations.get resourceId).isNone then
    { s with fetches := s.fetches.remove resourceId }
  else
    match error with
    | some message =>
      match now.checkedAdd failedFetchTtl with
      | some expiresAt =>
        { s with fetches := s.fetches.set resourceId (.failed message expiresAt) }
      | none => s
    | none => { s with fetches := s.fetches.remove resourceId }

/-! ## The cache -/

/-- `purge_expired`. -/
def purgeExpired (s : ResourceState) (now : Instant) : ResourceState :=
  ((s.cache.rows.filter fun entry => entry.2.expiresAt ≤ now).map Prod.fst).foldl
    removeCacheEntry s

/-- The loop of `cache` that makes room for a resource. It ends within as many iterations as there
are cached resources. -/
def makeRoom (maxBytes resourceBytes : ℕ) : ℕ → ResourceState → ResourceState
  | 0, s => s
  | n + 1, s =>
    if saturatingAdd s.cacheBytes resourceBytes > maxBytes then
      match oldestEntry (·.lastUsed) s.cache.rows with
      | none => s
      | some oldest => makeRoom maxBytes resourceBytes n (s.removeCacheEntry oldest)
    else s

/-- The state of `cache` when there is room for the resource. -/
def clearedFor (limits : ResourceLimits) (s : ResourceState) (resourceId : String)
    (resource : ProviderResource) (purgedAt : Instant) : ResourceState :=
  let s := (s.purgeExpired purgedAt).removeCacheEntry resourceId
  (makeRoom limits.maxBytes resource.bytes.length s.cache.size s).nextSequence

/-- `cache`. The clock is read when expired resources are purged and when the resource is
stored. The result is `none` when it panics, because the expiry of the resource is not
representable; the bytes are counted by then, and the lock is taken again all the same. -/
def cacheResource (limits : ResourceLimits) (s : ResourceState) (resourceId : String)
    (resource : ProviderResource) (purgedAt storedAt : Instant) :
    Option (Except String Unit) × ResourceState :=
  let resourceBytes := resource.bytes.length
  if resourceBytes > limits.maxBytes then
    let maxBytes := limits.maxBytes
    (some (.error s!"resource `{resourceId}` is {resourceBytes} bytes, exceeding the {maxBytes} byte cache limit"), s)
  else if (s.registrations.get resourceId).isNone then
    (some (.error s!"resource `{resourceId}` is not registered"), s)
  else
    let s := s.clearedFor limits resourceId resource purgedAt
    let s := { s with cacheBytes := saturatingAdd s.cacheBytes resourceBytes }
    match storedAt.checkedAdd limits.ttl with
    | some expiresAt =>
      (some (.ok ⟨⟩),
        { s with cache := s.cache.set resourceId ⟨resource, expiresAt, s.sequence⟩ })
    | none => (none, s)

end ResourceState

/-! ## Replies -/

/-- `DEFAULT_RESOURCE_CHUNK_BYTES`. -/
def defaultResourceChunkBytes : ℕ := 256 * 1024

/-- `MAX_RESOURCE_CHUNK_BYTES`. -/
def maxResourceChunkBytes : ℕ := 512 * 1024

/-- `ASYNC_RESOURCE_RETRY_AFTER_MS`. -/
def asyncResourceRetryAfterMs : ℕ := 75

/-- `pending_resource_response`. -/
def pendingResourceResponse (request : GetResourceRequest) (retryAfterMs : ℕ) :
    GetResourceResponse where
  resourceId := request.resourceId
  contentType := ""
  data := []
  totalSize := 0
  nextOffset := request.offset
  complete := false
  cacheHit := false
  transferState := ResourceTransferState.pending.toWire
  retryAfterMs := retryAfterMs

/-- `resource_chunk`. Lengths and offsets are `u64`, as on a 64-bit target `usize` is. -/
def resourceChunk (request : GetResourceRequest) (contentType : String) (bytes : List UInt8)
    (maxBytes : ℕ) : Except String GetResourceResponse :=
  let totalSize := bytes.length
  if request.offset > totalSize then
    let offset := request.offset
    .error s!"resource offset {offset} exceeds total size {totalSize}"
  else
    let start := request.offset
    let stop := min (saturatingAdd start maxBytes) bytes.length
    .ok {
      resourceId := request.resourceId
      contentType := contentType
      data := (bytes.take stop).drop start
      totalSize := totalSize
      nextOffset := stop
      complete := stop = bytes.length
      cacheHit := false
      transferState := ResourceTransferState.ready.toWire
      retryAfterMs := 0 }

/-- The code of an error reply, as far as resource requests use it. -/
inductive ResourceErrorCode where
  | badRequest
  | resource
  deriving DecidableEq, Repr

/-- `handle_get_resource`, after the request is decoded: the reply, the manager's state, and the URL
of a fetch to start. -/
def handleGetResource (s : ResourceState) (request : GetResourceRequest) (now : Instant) :
    Except (ResourceErrorCode × String) GetResourceResponse × ResourceState × Option String :=
  if isBlank request.resourceId then
    (.error (.badRequest, "resource_id must not be empty"), s, none)
  else
    let maxBytes := if request.maxBytes = 0 then defaultResourceChunkBytes else request.maxBytes
    if maxBytes > maxResourceChunkBytes then
      (.error (.badRequest,
        s!"resource max_bytes {maxBytes} exceeds maximum {maxResourceChunkBytes}"), s, none)
    else
      match s.beginFetch request.resourceId now with
      | (.ready resource, s) =>
        match resourceChunk request resource.contentType resource.bytes maxBytes with
        | .ok response => (.ok { response with cacheHit := true }, s, none)
        | .error message => (.error (.badRequest, message), s, none)
      | (.start sourceUrl, s) =>
        (.ok (pendingResourceResponse request asyncResourceRetryAfterMs), s, some sourceUrl)
      | (.pending, s) =>
        (.ok (pendingResourceResponse request asyncResourceRetryAfterMs), s, none)
      | (.failed message, s) => (.error (.resource, message), s, none)
      | (.missing, s) =>
        let resourceId := request.resourceId
        (.error (.resource, s!"resource `{resourceId}` is not registered"), s, none)

end WeatherApp
