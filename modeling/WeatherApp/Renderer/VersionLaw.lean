import WeatherApp.Engine.ResourceLaw
import WeatherApp.Renderer.TransferLaw

/-!
# The version a client receives

While a client receives a resource chunk by chunk, the engine may drop it, fetch it again, and
get other bytes from upstream. Each chunk is cut from what is cached at the time; the assembler
compares the total size and the content type of the chunks. So what it puts together is one
version of the resource as long as no chunk is cut from a version of the same size and type that
does not begin with the bytes received before it; and two versions of the same size and type can be
mixed.

## Main definitions

* `TransferState`, `transferSystem`: one client, the resource manager and its fetches, and
  everything else that uses the manager.
* `ContinuesReceived`: the condition on the requests of the client.

## Main results

* `transfer_oneVersion`: under the condition the client receives one version.
* `transfer_torn`: without it the client can receive a mixture of two.
-/

namespace WeatherApp

open ResourceState

/-! ## The system -/

/-- Where a fetch of `spawn_resource_fetch` is. -/
inductive FetchPhase where
  /-- The provider is asked for the resource. -/
  | upstream
  /-- The provider has returned the resource, which is to be cached. -/
  | fetched (resource : ProviderResource)
  /-- The manager is to be told that the fetch has ended. -/
  | ended (error : Option String)
  deriving DecidableEq

/-- A fetch of `spawn_resource_fetch`. Its singleflight is left out: a resource has one fetch at a
time, so that each fetch asks the provider itself. -/
structure FetchTask where
  resourceId : String
  sourceUrl : String
  phase : FetchPhase
  deriving DecidableEq

/-- A client that receives a resource, and the engine it receives it from. -/
structure TransferState where
  manager : ResourceState
  tasks : List FetchTask
  /-- Every resource that an upstream fetch has returned, with its identifier. -/
  versions : List (String × ProviderResource)
  client : ResourceAssembler
  /-- The reply on its way to the client. -/
  reply : Option (Except (ResourceErrorCode × String) GetResourceResponse)
  failed : Bool

/-- A step of the client, of a fetch, or of another user of the manager. -/
inductive TransferLabel where
  /-- The engine handles the client's next request. -/
  | request (now : Instant)
  /-- The client receives the reply. -/
  | deliver
  /-- The client gives up. -/
  | giveUp
  /-- The engine handles a request of another client. -/
  | otherRequest (request : GetResourceRequest) (now : Instant)
  /-- The engine registers a resource. -/
  | register (sourceUrl : String)
  /-- The provider returns to the fetch at an index. -/
  | upstream (index : ℕ) (result : Except String ProviderResource)
  /-- The fetch at an index caches its resource. -/
  | store (index : ℕ) (purgedAt storedAt : Instant)
  /-- The fetch at an index ends. -/
  | finish (index : ℕ) (now : Instant)
  deriving DecidableEq

namespace TransferState

/-- Handle a request, and start the fetch it asks for. -/
def handle (s : TransferState) (request : GetResourceRequest) (now : Instant) :
    Except (ResourceErrorCode × String) GetResourceResponse × TransferState :=
  match handleGetResource s.manager request now with
  | (reply, manager, sourceUrl) =>
    (reply, { s with
      manager
      tasks := s.tasks ++ sourceUrl.toList.map fun url => ⟨request.resourceId, url, .upstream⟩ })

/-- Hand a reply to the assembler. -/
def receiveReply (s : TransferState) :
    Except (ResourceErrorCode × String) GetResourceResponse → TransferState
  | .error _ => { s with reply := none, failed := true }
  | .ok response =>
    match s.client.push response with
    | .ok (_, client) => { s with reply := none, client }
    | .error _ => { s with reply := none, failed := true }

/-- Move a fetch to its next phase. -/
def setPhase (s : TransferState) (index : ℕ) (task : FetchTask) (phase : FetchPhase) :
    TransferState := { s with tasks := s.tasks.set index { task with phase } }

/-- A fetch caches its resource. It dies when `cache` panics. -/
def storeResource (limits : ResourceLimits) (s : TransferState) (index : ℕ) (task : FetchTask)
    (resource : ProviderResource) (purgedAt storedAt : Instant) : TransferState :=
  match s.manager.cacheResource limits task.resourceId resource purgedAt storedAt with
  | (some (.ok _), manager) => { s.setPhase index task (.ended none) with manager }
  | (some (.error message), manager) =>
    { s.setPhase index task (.ended (some message)) with manager }
  | (none, manager) => { s with manager, tasks := s.tasks.eraseIdx index }

/-- One step. The chunks the client asks for are of at most `chunkBytes` bytes. -/
def step [Sha256] (limits : ResourceLimits) (chunkBytes : ℕ) (s : TransferState) :
    TransferLabel → Option TransferState
  | .request now =>
    if s.failed ∨ s.client.complete ∨ s.reply.isSome then none
    else
      match s.handle (s.client.nextRequest chunkBytes) now with
      | (reply, s) => some { s with reply := some reply }
  | .deliver => s.reply.map s.receiveReply
  | .giveUp => some { s with failed := true, reply := none }
  | .otherRequest request now => some (s.handle request now).2
  | .register sourceUrl => some { s with manager := (s.manager.register limits sourceUrl).2 }
  | .upstream index result =>
    match s.tasks[index]? with
    | some ⟨resourceId, sourceUrl, .upstream⟩ =>
      match result with
      | .ok resource =>
        some { s.setPhase index ⟨resourceId, sourceUrl, .upstream⟩ (.fetched resource) with
          versions := s.versions ++ [(resourceId, resource)] }
      | .error message =>
        some (s.setPhase index ⟨resourceId, sourceUrl, .upstream⟩ (.ended (some message)))
    | _ => none
  | .store index purgedAt storedAt =>
    match s.tasks[index]? with
    | some ⟨resourceId, sourceUrl, .fetched resource⟩ =>
      some (s.storeResource limits index ⟨resourceId, sourceUrl, .fetched resource⟩ resource
        purgedAt storedAt)
    | _ => none
  | .finish index now =>
    match s.tasks[index]? with
    | some ⟨resourceId, _, .ended error⟩ =>
      some { s with
        manager := s.manager.finishFetch resourceId error now
        tasks := s.tasks.eraseIdx index }
    | _ => none

end TransferState

/-- A client that has received nothing of a resource, and an engine that has just started. -/
def TransferState.start (resourceId : String) : TransferState :=
  ⟨.empty, [], [], .new resourceId, none, false⟩

/-- The client and the engine, under any interleaving. -/
def transferSystem [Sha256] (limits : ResourceLimits) (chunkBytes : ℕ) :
    LabelledSystem TransferState TransferLabel where
  init s := ∃ resourceId, s = .start resourceId
  step s l s' := s.step limits chunkBytes l = some s'

/-- A version begins with the bytes received so far, or its size or its type differs from those of
the chunks received so far. -/
def Continues (a : ResourceAssembler) (resource : ProviderResource) : Prop :=
  a.bytes <+: resource.bytes ∨
    (∃ size ∈ a.totalSize, size ≠ resource.bytes.length) ∨
    ∃ contentType ∈ a.contentType, contentType ≠ resource.contentType

/-- A request of the client finds, if anything, a version that continues what it has received. -/
def ContinuesReceived (s : TransferState) : TransferLabel → Prop
  | .request now => ∀ entry, s.manager.cache.get s.client.resourceId = some entry →
    now < entry.expiresAt → Continues s.client entry.resource
  | _ => True

/-! ## What the engine replies -/

/-- A reply holds the chunk of a resource at an offset. -/
structure ChunkOf (resource : ProviderResource) (offset : ℕ) (response : GetResourceResponse) :
    Prop where
  ready : response.transferState = ResourceTransferState.ready.toWire
  totalSize : response.totalSize = resource.bytes.length
  contentType : response.contentType = resource.contentType
  /-- The last chunk holds all bytes from the offset on. -/
  last : response.complete = true → response.data = resource.bytes.drop offset

theorem chunkOf_resourceChunk {request : GetResourceRequest} {resource : ProviderResource}
    {maxBytes : ℕ} {response : GetResourceResponse}
    (h : resourceChunk request resource.contentType resource.bytes maxBytes = .ok response) :
    ChunkOf resource request.offset { response with cacheHit := true } := by
  simp only [resourceChunk] at h
  split_ifs at h
  cases h
  refine ⟨rfl, rfl, rfl, fun hcomplete => ?_⟩
  have hstop := of_decide_eq_true hcomplete
  simp only [hstop, List.take_length]

/-- What a request for a resource does: it may ask the manager for it, and is answered that it is
pending, or with a chunk of the resource that is ready. -/
theorem handleGetResource_cases {s manager : ResourceState} {request : GetResourceRequest}
    {now : Instant} {reply : Except (ResourceErrorCode × String) GetResourceResponse}
    {sourceUrl : Option String}
    (h : handleGetResource s request now = (reply, manager, sourceUrl)) :
    (manager = s ∨ manager = (s.beginFetch request.resourceId now).2) ∧
      ∀ response, reply = .ok response →
        response.transferState = ResourceTransferState.pending.toWire ∨
          ∃ resource, (s.beginFetch request.resourceId now).1 = .ready resource ∧
            ChunkOf resource request.offset response := by
  simp only [handleGetResource] at h
  generalize (if request.maxBytes = 0 then defaultResourceChunkBytes else request.maxBytes) =
    maxBytes at h
  split at h
  · cases h
    exact ⟨.inl rfl, fun _ h => nomatch h⟩
  · split at h
    · cases h
      exact ⟨.inl rfl, fun _ h => nomatch h⟩
    · generalize s.beginFetch request.resourceId now = result at h ⊢
      obtain ⟨plan, s'⟩ := result
      cases plan with
      | ready resource =>
        dsimp only at h
        cases hchunk : resourceChunk request resource.contentType resource.bytes maxBytes with
        | error message =>
          rw [hchunk] at h
          cases h
          exact ⟨.inr rfl, fun _ h => nomatch h⟩
        | ok response =>
          rw [hchunk] at h
          cases h
          refine ⟨.inr rfl, fun _ h => ?_⟩
          cases h
          exact .inr ⟨resource, rfl, chunkOf_resourceChunk hchunk⟩
      | start sourceUrl =>
        cases h
        refine ⟨.inr rfl, fun _ h => ?_⟩
        cases h
        exact .inl rfl
      | pending =>
        cases h
        refine ⟨.inr rfl, fun _ h => ?_⟩
        cases h
        exact .inl rfl
      | failed message =>
        cases h
        exact ⟨.inr rfl, fun _ h => nomatch h⟩
      | missing =>
        cases h
        exact ⟨.inr rfl, fun _ h => nomatch h⟩

/-! ## One version -/

/-- The last chunk of a version, if it is accepted and continues the bytes received before it,
completes the version. -/
theorem finish_accept {a a' : ResourceAssembler} {response : GetResourceResponse}
    {progress : ResourceProgress} {resource : ProviderResource}
    (hpush : a.pushReady response = .ok (progress, a')) (hchunk : ChunkOf resource a.offset response)
    (hcontinues : Continues a resource) {bytes : List UInt8} (hfinish : a'.finish = .ok bytes) :
    bytes = resource.bytes := by
  obtain ⟨hheader, -, -, rfl⟩ := ResourceAssembler.pushReady_eq_ok_iff.1 hpush
  obtain ⟨-, hsize, htype⟩ := ResourceAssembler.checkHeader_eq_ok_iff.1 hheader
  rw [hchunk.totalSize] at hsize
  rw [hchunk.contentType] at htype
  have hprefix : a.bytes <+: resource.bytes := by
    rcases hcontinues with hprefix | ⟨size, hmem, hne⟩ | ⟨contentType, hmem, hne⟩
    · exact hprefix
    · exact absurd (hsize size hmem) hne
    · exact absurd (htype contentType hmem) hne
  rw [ResourceAssembler.finish] at hfinish
  split_ifs at hfinish with hincomplete
  rw [Bool.not_eq_true', Bool.not_eq_false] at hincomplete
  cases hfinish
  rw [ResourceAssembler.accept, hchunk.last hincomplete, List.prefix_iff_eq_take.1 hprefix]
  exact List.take_append_drop _ _

/-- Everything cached, fetched or received is a version of its resource. -/
structure VersionInv (s : TransferState) : Prop where
  cached : ∀ resourceId resource, s.manager.Caches resourceId resource →
    (resourceId, resource) ∈ s.versions
  fetched : ∀ task ∈ s.tasks, ∀ resource, task.phase = .fetched resource →
    (task.resourceId, resource) ∈ s.versions
  received : ∀ bytes, s.client.finish = .ok bytes →
    ∃ resource, (s.client.resourceId, resource) ∈ s.versions ∧ bytes = resource.bytes
  replied : ∀ response, s.reply = some (.ok response) →
    s.client.complete = false ∧
      (response.transferState = ResourceTransferState.pending.toWire ∨
        ∃ resource, (s.client.resourceId, resource) ∈ s.versions ∧
          ChunkOf resource s.client.offset response ∧ Continues s.client resource)

section Step

variable [Sha256] {s s' : TransferState}

/-- A request of any client keeps the invariant. -/
theorem VersionInv.handle (hinv : VersionInv s) {request : GetResourceRequest} {now : Instant}
    {reply : Except (ResourceErrorCode × String) GetResourceResponse}
    (h : s.handle request now = (reply, s')) :
    VersionInv s' ∧ s'.client = s.client ∧ s'.versions = s.versions := by
  rw [TransferState.handle] at h
  generalize hresult : handleGetResource s.manager request now = result at h
  obtain ⟨reply', manager, sourceUrl⟩ := result
  cases h
  refine ⟨⟨fun resourceId resource hcached => hinv.cached resourceId resource ?_,
    fun task htask resource hphase => ?_, hinv.received, hinv.replied⟩, rfl, rfl⟩
  · rcases (handleGetResource_cases hresult).1 with rfl | rfl
    · exact hcached
    · exact hcached.of_beginFetch
  · rcases List.mem_append.1 htask with htask | htask
    · exact hinv.fetched task htask resource hphase
    · obtain ⟨url, -, rfl⟩ := List.mem_map.1 htask
      cases hphase

/-- What the client is answered continues what it has received, under the condition. -/
theorem VersionInv.request (hinv : VersionInv s) {chunkBytes : ℕ} {now : Instant}
    (hcontinues : ContinuesReceived s (.request now)) (hincomplete : s.client.complete = false)
    {reply : Except (ResourceErrorCode × String) GetResourceResponse}
    (h : s.handle (s.client.nextRequest chunkBytes) now = (reply, s')) :
    VersionInv { s' with reply := some reply } := by
  obtain ⟨hinv', hclient, hversions⟩ := hinv.handle h
  refine ⟨hinv'.cached, hinv'.fetched, hinv'.received, fun response hreply => ?_⟩
  cases hreply
  dsimp only
  rw [hclient, hversions]
  refine ⟨hincomplete, ?_⟩
  rw [TransferState.handle] at h
  generalize hresult : handleGetResource s.manager _ now = result at h
  obtain ⟨reply', manager, sourceUrl⟩ := result
  cases h
  rcases (handleGetResource_cases hresult).2 response rfl with hpending | ⟨resource, hready, hchunk⟩
  · exact .inl hpending
  · obtain ⟨entry, hget, hexpiry, rfl⟩ := beginFetch_ready hready
    exact .inr ⟨entry.resource, hinv.cached _ _ ⟨entry, hget, rfl⟩, hchunk,
      hcontinues entry hget hexpiry⟩

omit [Sha256] in
/-- The client receives a reply. -/
theorem VersionInv.receiveReply (hinv : VersionInv s)
    {reply : Except (ResourceErrorCode × String) GetResourceResponse} (h : s.reply = some reply) :
    VersionInv (s.receiveReply reply) := by
  cases reply with
  | error => exact ⟨hinv.cached, hinv.fetched, hinv.received, fun _ h => nomatch h⟩
  | ok response =>
    obtain ⟨hincomplete, hreplied⟩ := hinv.replied response h
    rw [TransferState.receiveReply]
    split
    next progress client hpush =>
      refine ⟨hinv.cached, hinv.fetched, fun bytes hfinish => ?_, fun _ h => nomatch h⟩
      dsimp only at hfinish ⊢
      rw [ResourceAssembler.resourceId_push hpush]
      rcases ResourceAssembler.push_cases hpush with ⟨-, rfl⟩ | ⟨hready, hpushed⟩
      · exact hinv.received bytes hfinish
      · rcases hreplied with hpending | ⟨resource, hversion, hchunk, hcontinues⟩
        · exact absurd (hready.symm.trans hpending) (by decide)
        · exact ⟨resource, hversion, finish_accept hpushed hchunk hcontinues hfinish⟩
    next => exact ⟨hinv.cached, hinv.fetched, hinv.received, fun _ h => nomatch h⟩

omit [Sha256] in
/-- A fetch moves on, and what it has fetched is a version. -/
theorem VersionInv.setPhase (hinv : VersionInv s) {index : ℕ} {task : FetchTask}
    {phase : FetchPhase}
    (hphase : ∀ resource, phase = .fetched resource → (task.resourceId, resource) ∈ s.versions) :
    VersionInv (s.setPhase index task phase) := by
  refine ⟨hinv.cached, fun other hother resource hfetched => ?_, hinv.received, hinv.replied⟩
  rcases List.mem_or_eq_of_mem_set hother with hother | rfl
  · exact hinv.fetched other hother resource hfetched
  · exact hphase resource hfetched

omit [Sha256] in
theorem VersionInv.addVersion (hinv : VersionInv s) (version : String × ProviderResource) :
    VersionInv { s with versions := s.versions ++ [version] } := by
  have hmem : ∀ other ∈ s.versions, other ∈ s.versions ++ [version] :=
    fun other => List.mem_append_left _
  refine ⟨fun resourceId resource hcached => hmem _ (hinv.cached resourceId resource hcached),
    fun task htask resource hphase => hmem _ (hinv.fetched task htask resource hphase),
    fun bytes hfinish => ?_, fun response hreply => ?_⟩
  · obtain ⟨resource, hversion, hbytes⟩ := hinv.received bytes hfinish
    exact ⟨resource, hmem _ hversion, hbytes⟩
  · obtain ⟨hincomplete, hpending | ⟨resource, hversion, hchunk⟩⟩ := hinv.replied response hreply
    · exact ⟨hincomplete, .inl hpending⟩
    · exact ⟨hincomplete, .inr ⟨resource, hmem _ hversion, hchunk⟩⟩

omit [Sha256] in
/-- The manager changes, and caches versions only; fetches may end. -/
theorem VersionInv.setManager (hinv : VersionInv s) {manager : ResourceState}
    {tasks : List FetchTask}
    (hcached : ∀ resourceId resource, manager.Caches resourceId resource →
      s.manager.Caches resourceId resource ∨ (resourceId, resource) ∈ s.versions)
    (htasks : ∀ task ∈ tasks, task ∈ s.tasks) :
    VersionInv { s with manager, tasks } where
  cached resourceId resource h := (hcached resourceId resource h).elim
    (hinv.cached resourceId resource) id
  fetched task htask := hinv.fetched task (htasks task htask)
  received := hinv.received
  replied := hinv.replied

/-- A fetch caches its resource. -/
theorem VersionInv.storeResource (hinv : VersionInv s) {limits : ResourceLimits} {index : ℕ}
    {task : FetchTask} {resource : ProviderResource} {purgedAt storedAt : Instant}
    (hversion : (task.resourceId, resource) ∈ s.versions) :
    VersionInv (s.storeResource limits index task resource purgedAt storedAt) := by
  have hstored : ∀ resourceId other,
      (s.manager.cacheResource limits task.resourceId resource purgedAt storedAt).2.Caches
        resourceId other →
      s.manager.Caches resourceId other ∨ (resourceId, other) ∈ s.versions := by
    intro resourceId other hcached
    rcases hcached.of_cacheResource with hcached | ⟨rfl, rfl⟩
    · exact .inl hcached
    · exact .inr hversion
  have hended : ∀ error other, FetchPhase.ended error = .fetched other →
      (task.resourceId, other) ∈ s.versions := fun _ _ h => nomatch h
  unfold TransferState.storeResource
  split
  next manager hresult =>
    rw [hresult] at hstored
    exact (hinv.setPhase (hended none)).setManager hstored fun _ h => h
  next message manager hresult =>
    rw [hresult] at hstored
    exact (hinv.setPhase (hended (some message))).setManager hstored fun _ h => h
  next manager hresult =>
    rw [hresult] at hstored
    exact hinv.setManager hstored fun _ => List.mem_of_mem_eraseIdx

theorem versionInv_step {limits : ResourceLimits} {chunkBytes : ℕ} {l : TransferLabel}
    (hinv : VersionInv s) (h : s.step limits chunkBytes l = some s')
    (hcontinues : ContinuesReceived s l) : VersionInv s' := by
  cases l with
  | request now =>
    simp only [TransferState.step] at h
    split_ifs at h with hbusy
    simp only [not_or, Bool.not_eq_true] at hbusy
    generalize hresult : s.handle (s.client.nextRequest chunkBytes) now = result at h
    obtain ⟨reply, handled⟩ := result
    cases h
    exact hinv.request hcontinues hbusy.2.1 hresult
  | deliver =>
    obtain ⟨reply, hreply, rfl⟩ := Option.map_eq_some_iff.1 h
    exact hinv.receiveReply hreply
  | giveUp =>
    cases h
    exact ⟨hinv.cached, hinv.fetched, hinv.received, fun _ h => nomatch h⟩
  | otherRequest request now =>
    simp only [TransferState.step] at h
    generalize hresult : s.handle request now = result at h
    obtain ⟨reply, handled⟩ := result
    cases h
    exact (hinv.handle hresult).1
  | register sourceUrl =>
    cases h
    exact hinv.setManager (fun _ _ hcached => .inl (.of_moves (moves_register limits _ _) hcached))
      fun _ h => h
  | upstream index result =>
    simp only [TransferState.step] at h
    split at h
    next resourceId sourceUrl _ =>
      cases result with
      | ok resource =>
        cases h
        refine (hinv.addVersion (resourceId, resource)).setPhase fun other hother => ?_
        cases hother
        exact List.mem_append_right _ (List.mem_singleton_self _)
      | error message =>
        cases h
        exact hinv.setPhase fun _ h => nomatch h
    next => cases h
  | store index purgedAt storedAt =>
    simp only [TransferState.step] at h
    split at h
    next resourceId sourceUrl resource htask =>
      cases h
      exact hinv.storeResource (hinv.fetched _ (List.mem_of_getElem? htask) resource rfl)
    next => cases h
  | finish index now =>
    simp only [TransferState.step] at h
    split at h
    next =>
      cases h
      exact hinv.setManager (fun _ _ hcached => .inl hcached.of_finishFetch)
        fun _ => List.mem_of_mem_eraseIdx
    next => cases h

/-- In every run in which each request of the client finds, if anything, a version that continues
what it has received, what the client puts together is one version of the resource. -/
theorem transfer_oneVersion {limits : ResourceLimits} {chunkBytes : ℕ}
    (h : ((transferSystem limits chunkBytes).restrict ContinuesReceived).Reachable s)
    {bytes : List UInt8} (hfinish : s.client.finish = .ok bytes) :
    ∃ resource, (s.client.resourceId, resource) ∈ s.versions ∧ bytes = resource.bytes := by
  have hinit : ∀ s, ((transferSystem limits chunkBytes).restrict ContinuesReceived).init s →
      VersionInv s := by
    rintro s ⟨resourceId, rfl⟩
    refine ⟨?_, fun _ h => (nomatch h), fun _ h => (nomatch h), fun _ h => (nomatch h)⟩
    rintro resourceId resource ⟨entry, hget, -⟩
    cases hget
  have hinv : VersionInv s :=
    h.invariant hinit fun _ _ _ hinv hstep => versionInv_step hinv hstep.1 hstep.2
  exact hinv.received bytes hfinish

end Step

/-- The condition can be computed. -/
def continuesReceived (s : TransferState) : TransferLabel → Bool
  | .request now =>
    match s.manager.cache.get s.client.resourceId with
    | some entry => entry.expiresAt ≤ now || s.client.bytes.isPrefixOf entry.resource.bytes
    | none => true
  | _ => true

theorem continuesReceived_sound (s : TransferState) (l : TransferLabel)
    (h : continuesReceived s l = true) : ContinuesReceived s l := by
  cases l with
  | request now =>
    intro entry hget hexpiry
    rw [continuesReceived, hget] at h
    dsimp only at h
    rw [Bool.or_eq_true, decide_eq_true_eq, List.isPrefixOf_iff_prefix] at h
    exact .inl (h.resolve_left (not_le.2 hexpiry))
  | _ => trivial

/-- A resource of three bytes, received in two chunks. -/
theorem transfer_oneVersion_sampleRun :
    ∃ s, ((@transferSystem sampleUrlSha256 .default 2).restrict ContinuesReceived).Reachable s ∧
      s.client.finish = .ok [1, 2, 3] ∧
      ∃ resource, (s.client.resourceId, resource) ∈ s.versions ∧ [1, 2, 3] = resource.bytes := by
  have hrun : ((LabelledSystem.perform (@TransferState.step sampleUrlSha256 .default 2)
      continuesReceived (.start sampleIdA)
      [.register "https://provider.example/a.png", .request 0, .deliver,
        .upstream 0 (.ok ⟨"image/png", [1, 2, 3]⟩), .store 0 1 1, .finish 0 1, .request 2, .deliver,
        .request 3, .deliver]).map fun s => s.client.finish.toOption) = some (some [1, 2, 3]) := by
    decide +kernel
  obtain ⟨s, hperform, hend⟩ := Option.map_eq_some_iff.1 hrun
  have hstart : ((@transferSystem sampleUrlSha256 .default 2).restrict
      ContinuesReceived).Reachable (.start sampleIdA) := ⟨[], .start ⟨sampleIdA, rfl⟩⟩
  have hreachable := LabelledSystem.reachable_of_perform (fun _ _ _ h => h)
    continuesReceived_sound hstart hperform
  have hfinish : s.client.finish = .ok [1, 2, 3] := by
    cases hresult : s.client.finish with
    | error message =>
      rw [hresult] at hend
      cases hend
    | ok bytes =>
      rw [hresult] at hend
      cases hend
      rfl
  exact ⟨s, hreachable, hfinish, @transfer_oneVersion sampleUrlSha256 _ _ _ hreachable _ hfinish⟩

/-! ## A mixture of two versions -/

/-- What the manager holds of a registered resource: the cached resource with its expiry, and its
fetch. -/
structure Holds (s : ResourceState) (resourceId : String)
    (entry : Option (ProviderResource × Instant)) (fetch : Option ResourceFetchState) : Prop where
  registered : (s.registrations.get resourceId).isSome
  cached : (s.cache.get resourceId).map (fun entry => (entry.resource, entry.expiresAt)) = entry
  fetch : s.fetches.get resourceId = fetch

namespace Holds

variable {s : ResourceState} {resourceId : String} {now : Instant}
  {entry : Option (ProviderResource × Instant)} {fetch : Option ResourceFetchState}

/-- A request for a resource that is not cached, or has expired, starts a fetch. -/
theorem start (h : Holds s resourceId entry none) (hentry : ∀ e ∈ entry, e.2 ≤ now) :
    ∃ sourceUrl, (s.beginFetch resourceId now).1 = .start sourceUrl ∧
      Holds (s.beginFetch resourceId now).2 resourceId none (some .pending) := by
  obtain ⟨registration, hget⟩ := Option.isSome_iff_exists.1 h.registered
  set touched := s.nextSequence.setRegistration resourceId
    { registration with lastUsed := s.nextSequence.sequence } with htouched
  have hcache : (touched.dropExpired resourceId now).cache.get resourceId = none := by
    rw [dropExpired]
    split_ifs with hexpired
    · rw [get_cache_removeCacheEntry, if_pos rfl]
    · cases hcached : s.cache.get resourceId with
      | none => exact hcached
      | some e =>
        have he := h.cached
        rw [hcached] at he
        have htouchedCache : touched.cache.get resourceId = some e := hcached
        rw [htouchedCache, Option.any_some, decide_eq_true_eq] at hexpired
        exact absurd (hentry _ he.symm) hexpired
  have hfetches : (touched.dropExpired resourceId now).fetches = s.fetches := by
    rw [dropExpired]
    split_ifs
    · rw [fetches_removeCacheEntry]
      rfl
    · rfl
  have hregistered : ((touched.dropExpired resourceId now).registrations.get resourceId).isSome := by
    rw [registrations_dropExpired]
    exact KeyedMap.isSome_get_set.2 (.inl rfl)
  have hidle : (touched.dropExpired resourceId now).dropFailure resourceId now =
      touched.dropExpired resourceId now := by
    rw [dropFailure, hfetches, h.fetch, Option.any_none, if_neg Bool.false_ne_true]
  have hbegin : s.beginFetch resourceId now = (.start registration.sourceUrl,
      { touched.dropExpired resourceId now with
        fetches := s.fetches.set resourceId .pending }) := by
    have hsequence : s.nextSequence.registrations.get resourceId = some registration := hget
    simp only [beginFetch, hsequence, ← htouched, hcache, planFetch, hidle, hfetches, h.fetch]
  rw [hbegin]
  refine ⟨registration.sourceUrl, rfl, hregistered, ?_, KeyedMap.get_set_self _ _ _⟩
  rw [hcache]
  rfl

/-- A request for a cached resource is answered with it. -/
theorem ready {resource : ProviderResource} {expiresAt : Instant}
    (h : Holds s resourceId (some (resource, expiresAt)) fetch) (hnow : now < expiresAt) :
    (s.beginFetch resourceId now).1 = .ready resource ∧
      Holds (s.beginFetch resourceId now).2 resourceId (some (resource, expiresAt)) fetch := by
  obtain ⟨registration, hget⟩ := Option.isSome_iff_exists.1 h.registered
  obtain ⟨e, hcached, he⟩ := Option.map_eq_some_iff.1 h.cached
  cases he
  set touched := s.nextSequence.setRegistration resourceId
    { registration with lastUsed := s.nextSequence.sequence } with htouched
  have htouchedCache : touched.cache.get resourceId = some e := hcached
  have hkept : touched.dropExpired resourceId now = touched := by
    rw [dropExpired, htouchedCache, Option.any_some, if_neg]
    rw [decide_eq_true_eq]
    exact not_le.2 hnow
  have hbegin : s.beginFetch resourceId now = (.ready e.resource,
      { touched with
        cache := touched.cache.set resourceId { e with lastUsed := touched.sequence } }) := by
    have hsequence : s.nextSequence.registrations.get resourceId = some registration := hget
    simp only [beginFetch, hsequence, ← htouched, hkept, htouchedCache]
  rw [hbegin]
  refine ⟨rfl, KeyedMap.isSome_get_set.2 (.inl rfl), ?_, h.fetch⟩
  rw [KeyedMap.get_set_self]
  rfl

/-- A resource within the limit is cached. -/
theorem store (h : Holds s resourceId entry fetch) {limits : ResourceLimits}
    {resource : ProviderResource} (hsize : resource.bytes.length ≤ limits.maxBytes)
    {expiresAt : Instant} (hexpiry : now.checkedAdd limits.ttl = some expiresAt) :
    (s.cacheResource limits resourceId resource now now).1 = some (.ok ⟨⟩) ∧
      Holds (s.cacheResource limits resourceId resource now now).2 resourceId
        (some (resource, expiresAt)) fetch := by
  have hstored : s.cacheResource limits resourceId resource now now = (some (.ok ⟨⟩),
      { (s.clearedFor limits resourceId resource now).counted resource with
        cache := (s.clearedFor limits resourceId resource now).cache.set resourceId
          ⟨resource, expiresAt, (s.clearedFor limits resourceId resource now).sequence⟩ }) := by
    simp only [cacheResource, not_lt.2 hsize, if_false,
      Option.isNone_eq_false_iff.2 h.registered, Bool.false_eq_true, hexpiry]
    rfl
  rw [hstored]
  refine ⟨rfl, ?_, ?_, ?_⟩
  · exact (congrArg (fun registrations => (registrations.get resourceId).isSome)
      (registrations_clearedFor limits s resourceId resource now)).trans h.registered
  · rw [KeyedMap.get_set_self]
    rfl
  · exact (congrArg (·.get resourceId) (fetches_clearedFor limits s resourceId resource now)).trans
      h.fetch

/-- A fetch that ends without an error leaves the resource to be fetched again. -/
theorem finish (h : Holds s resourceId entry fetch) :
    Holds (s.finishFetch resourceId none now) resourceId entry none := by
  have hfinished : s.finishFetch resourceId none now =
      { s with fetches := s.fetches.remove resourceId } := by
    rw [finishFetch, if_neg]
    rw [Bool.not_eq_true, Option.isNone_eq_false_iff]
    exact h.registered
  rw [hfinished]
  refine ⟨h.registered, h.cached, ?_⟩
  rw [KeyedMap.get_remove, if_pos rfl]

end Holds

section Mixture

variable [Sha256] {limits : ResourceLimits} {chunkBytes : ℕ} {manager : ResourceState}
  {a : ResourceAssembler} {versions : List (String × ProviderResource)}
  {entry : Option (ProviderResource × Instant)} {resource : ProviderResource} {now : Instant}

omit [Sha256] in
theorem handleGetResource_start (request : GetResourceRequest) {sourceUrl : String}
    (hid : isBlank request.resourceId = false) (hpos : 0 < request.maxBytes)
    (hmax : request.maxBytes ≤ maxResourceChunkBytes)
    (hstart : (manager.beginFetch request.resourceId now).1 = .start sourceUrl) :
    handleGetResource manager request now =
      (.ok (pendingResourceResponse request asyncResourceRetryAfterMs),
        (manager.beginFetch request.resourceId now).2, some sourceUrl) := by
  simp only [handleGetResource, hid, Bool.false_eq_true, if_false, if_neg hpos.ne', not_lt.2 hmax]
  generalize manager.beginFetch request.resourceId now = result at hstart ⊢
  obtain ⟨plan, manager'⟩ := result
  cases hstart
  rfl

omit [Sha256] in
theorem handleGetResource_ready (request : GetResourceRequest) {response : GetResourceResponse}
    (hid : isBlank request.resourceId = false) (hpos : 0 < request.maxBytes)
    (hmax : request.maxBytes ≤ maxResourceChunkBytes)
    (hready : (manager.beginFetch request.resourceId now).1 = .ready resource)
    (hserve : serveResource resource .ready request = .ok response) :
    handleGetResource manager request now =
      (.ok response, (manager.beginFetch request.resourceId now).2, none) := by
  simp only [handleGetResource, hid, Bool.false_eq_true, if_false, if_neg hpos.ne', not_lt.2 hmax]
  generalize manager.beginFetch request.resourceId now = result at hready ⊢
  obtain ⟨plan, manager'⟩ := result
  cases hready
  rw [serveResource] at hserve
  cases hchunk : resourceChunk request resource.contentType resource.bytes request.maxBytes with
  | error message =>
    rw [hchunk] at hserve
    cases hserve
  | ok response =>
    rw [hchunk] at hserve
    cases hserve
    simp only [hchunk]

/-- The client asks, and is answered. -/
theorem reachable_request {tasks : List FetchTask} {response : GetResourceResponse}
    {manager' : ResourceState} {sourceUrl : Option String} {progress : ResourceProgress}
    {a' : ResourceAssembler}
    (hs : (transferSystem limits chunkBytes).Reachable ⟨manager, tasks, versions, a, none, false⟩)
    (hincomplete : a.complete = false)
    (hhandled : handleGetResource manager (a.nextRequest chunkBytes) now =
      (.ok response, manager', sourceUrl))
    (hpush : a.push response = .ok (progress, a')) :
    (transferSystem limits chunkBytes).Reachable
      ⟨manager', tasks ++ sourceUrl.toList.map fun url => ⟨a.resourceId, url, .upstream⟩, versions,
        a', none, false⟩ := by
  have hrequested : TransferState.step limits chunkBytes
      ⟨manager, tasks, versions, a, none, false⟩ (.request now) =
        some ⟨manager', tasks ++ sourceUrl.toList.map fun url => ⟨a.resourceId, url, .upstream⟩,
          versions, a, some (.ok response), false⟩ := by
    simp only [TransferState.step, TransferState.handle, hhandled, hincomplete, Option.isSome_none,
      Bool.false_eq_true, or_self, if_false]
    rfl
  refine (hs.step hrequested).step (l := .deliver) ?_
  change some (TransferState.receiveReply _ _) = some _
  simp only [TransferState.receiveReply, hpush]

/-- A fetch runs to its end. -/
theorem reachable_fetched {resourceId sourceUrl : String} {manager' : ResourceState}
    (hs : (transferSystem limits chunkBytes).Reachable
      ⟨manager, [⟨resourceId, sourceUrl, .upstream⟩], versions, a, none, false⟩)
    (hstored : manager.cacheResource limits resourceId resource now now =
      (some (.ok ⟨⟩), manager')) :
    (transferSystem limits chunkBytes).Reachable
      ⟨manager'.finishFetch resourceId none now, [], versions ++ [(resourceId, resource)], a, none,
        false⟩ := by
  have hfetched : TransferState.step limits chunkBytes
      ⟨manager, [⟨resourceId, sourceUrl, .upstream⟩], versions, a, none, false⟩
      (.upstream 0 (.ok resource)) =
        some ⟨manager, [⟨resourceId, sourceUrl, .fetched resource⟩],
          versions ++ [(resourceId, resource)], a, none, false⟩ := rfl
  have hcached : TransferState.step limits chunkBytes
      ⟨manager, [⟨resourceId, sourceUrl, .fetched resource⟩], versions ++ [(resourceId, resource)],
        a, none, false⟩ (.store 0 now now) =
        some ⟨manager', [⟨resourceId, sourceUrl, .ended none⟩], versions ++ [(resourceId, resource)],
          a, none, false⟩ := by
    simp only [TransferState.step, List.getElem?_cons_zero, TransferState.storeResource, hstored]
    rfl
  have hended : TransferState.step limits chunkBytes
      ⟨manager', [⟨resourceId, sourceUrl, .ended none⟩], versions ++ [(resourceId, resource)], a,
        none, false⟩ (.finish 0 now) =
        some ⟨manager'.finishFetch resourceId none now, [], versions ++ [(resourceId, resource)], a,
          none, false⟩ := rfl
  exact ((hs.step hfetched).step hcached).step hended

/-- The resource the client asks for is fetched, when it is not cached or has expired. -/
theorem reachable_refetch
    (hs : (transferSystem limits chunkBytes).Reachable ⟨manager, [], versions, a, none, false⟩)
    (hid : isBlank a.resourceId = false) (hpos : 0 < chunkBytes)
    (hmax : chunkBytes ≤ maxResourceChunkBytes) (hincomplete : a.complete = false)
    (hholds : Holds manager a.resourceId entry none) (hentry : ∀ e ∈ entry, e.2 ≤ now)
    (hsize : resource.bytes.length ≤ limits.maxBytes) {expiresAt : Instant}
    (hexpiry : now.checkedAdd limits.ttl = some expiresAt) :
    ∃ manager', Holds manager' a.resourceId (some (resource, expiresAt)) none ∧
      (transferSystem limits chunkBytes).Reachable
        ⟨manager', [], versions ++ [(a.resourceId, resource)], a, none, false⟩ := by
  obtain ⟨sourceUrl, hstart, hpending⟩ := hholds.start hentry
  obtain ⟨hstored, hcached⟩ := hpending.store hsize hexpiry
  have hpush : ∃ delay, a.push (pendingResourceResponse (a.nextRequest chunkBytes)
      asyncResourceRetryAfterMs) = .ok (.pending delay, a) :=
    ResourceAssembler.push_of_pending hincomplete rfl rfl ⟨rfl, rfl⟩ rfl
  obtain ⟨delay, hpush⟩ := hpush
  have hasked := reachable_request hs hincomplete
    (handleGetResource_start (a.nextRequest chunkBytes) hid hpos hmax hstart) hpush
  exact ⟨_, hcached.finish, reachable_fetched hasked (Prod.ext hstored rfl)⟩

/-- The client is served a chunk of the cached resource. -/
theorem reachable_chunk {expiresAt : Instant} {response : GetResourceResponse}
    {progress : ResourceProgress} {a' : ResourceAssembler}
    (hs : (transferSystem limits chunkBytes).Reachable ⟨manager, [], versions, a, none, false⟩)
    (hid : isBlank a.resourceId = false) (hpos : 0 < chunkBytes)
    (hmax : chunkBytes ≤ maxResourceChunkBytes) (hincomplete : a.complete = false)
    (hholds : Holds manager a.resourceId (some (resource, expiresAt)) none)
    (hnow : now < expiresAt)
    (hserve : serveResource resource .ready (a.nextRequest chunkBytes) = .ok response)
    (hpush : a.push response = .ok (progress, a')) :
    ∃ manager', Holds manager' a.resourceId (some (resource, expiresAt)) none ∧
      (transferSystem limits chunkBytes).Reachable ⟨manager', [], versions, a', none, false⟩ := by
  obtain ⟨hready, hheld⟩ := hholds.ready hnow
  exact ⟨_, hheld, reachable_request hs hincomplete
    (handleGetResource_ready (a.nextRequest chunkBytes) hid hpos hmax hready hserve) hpush⟩

/-- Two versions of the same size and type, of two chunks each, can be mixed: the first chunk is cut
from one of them and, when it has expired, the second chunk from the other. -/
theorem reachable_mixture {resourceId : String} {v₁ v₂ : ProviderResource}
    (hs : (transferSystem limits chunkBytes).Reachable
      ⟨manager, [], [], .new resourceId, none, false⟩)
    (hid : isBlank resourceId = false) (hpos : 0 < chunkBytes)
    (hmax : chunkBytes ≤ maxResourceChunkBytes) (hholds : Holds manager resourceId none none)
    (htype : v₁.contentType = v₂.contentType) (hsize : v₁.bytes.length = v₂.bytes.length)
    (hmore : chunkBytes < v₁.bytes.length) (hlast : v₁.bytes.length ≤ 2 * chunkBytes)
    (hlimit : v₁.bytes.length ≤ min maxResourceBytes limits.maxBytes) (httl : 0 < limits.ttl)
    (hfirst : Instant.checkedAdd 0 limits.ttl = some limits.ttl)
    (hsecond : Instant.checkedAdd limits.ttl limits.ttl = some (limits.ttl + limits.ttl)) :
    ∃ manager' a', (transferSystem limits chunkBytes).Reachable
      ⟨manager', [], [(resourceId, v₁), (resourceId, v₂)], a', none, false⟩ ∧
        a'.resourceId = resourceId ∧
        a'.finish = .ok (v₁.bytes.take chunkBytes ++ v₂.bytes.drop chunkBytes) := by
  obtain ⟨hreceivable, hcacheable⟩ := le_min_iff.1 hlimit
  set mixed : ProviderResource :=
    ⟨v₁.contentType, v₁.bytes.take chunkBytes ++ v₂.bytes.drop chunkBytes⟩ with hmixed
  have hlength : mixed.bytes.length = v₁.bytes.length := by
    rw [hmixed, List.length_append, List.length_take, List.length_drop]
    omega
  have hmixedType : mixed.contentType = v₁.contentType := rfl
  -- the client cannot tell the two chunks from those of the mixture
  have hchunk₁ : nextChunk v₁ resourceId chunkBytes 0 = nextChunk mixed resourceId chunkBytes 0 := by
    have hdata : (v₁.bytes.drop (0 * chunkBytes)).take chunkBytes =
        (mixed.bytes.drop (0 * chunkBytes)).take chunkBytes := by
      rw [zero_mul, List.drop_zero, List.drop_zero, hmixed, List.take_left']
      rw [List.length_take, min_eq_left hmore.le]
    simp only [nextChunk, hdata, hlength, hmixedType]
  have hchunk₂ : nextChunk v₂ resourceId chunkBytes 1 = nextChunk mixed resourceId chunkBytes 1 := by
    have hdata : mixed.bytes.drop (1 * chunkBytes) = v₂.bytes.drop (1 * chunkBytes) := by
      rw [one_mul, hmixed, List.drop_left']
      rw [List.length_take, min_eq_left hmore.le]
    simp only [nextChunk, hdata, hlength, hsize, hmixedType, htype]
  have hnew := transferring_new mixed resourceId chunkBytes
  have hreceived := hnew.accept (by rw [zero_add, one_mul, hlength]; exact hmore)
  have hdone := hreceived.accept_last (by rw [hlength]; exact hlast)
  have hserve₁ : serveResource v₁ .ready
      ((ResourceAssembler.new resourceId).nextRequest chunkBytes) =
      .ok (nextChunk mixed resourceId chunkBytes 0) := by
    have hinside : 0 * chunkBytes ≤ v₁.bytes.length := by
      rw [zero_mul]
      exact Nat.zero_le _
    rw [hnew.nextRequest, serveResource_ready hinside hmax hreceivable, hchunk₁]
  have hserve₂ : serveResource v₂ .ready (((ResourceAssembler.new resourceId).accept
      (nextChunk mixed resourceId chunkBytes 0)).nextRequest chunkBytes) =
      .ok (nextChunk mixed resourceId chunkBytes 1) := by
    have hinside : 1 * chunkBytes ≤ v₂.bytes.length := by
      rw [one_mul, ← hsize]
      exact hmore.le
    rw [hreceived.nextRequest, serveResource_ready hinside hmax (hsize ▸ hreceivable), hchunk₂]
  -- the first version is fetched, and its first chunk served
  obtain ⟨manager₁, hholds₁, hs₁⟩ := reachable_refetch hs hid hpos hmax rfl hholds
    (fun _ h => by cases h) hcacheable hfirst
  obtain ⟨manager₂, hholds₂, hs₂⟩ := reachable_chunk hs₁ hid hpos hmax rfl hholds₁ httl hserve₁
    (hnew.push_ready hpos (hlength.trans_le hreceivable))
  -- it expires, the second version is fetched, and its second chunk served
  obtain ⟨manager₃, hholds₃, hs₃⟩ := reachable_refetch hs₂ hid hpos hmax hreceived.incomplete
    hholds₂ (fun e he => by cases he; exact le_rfl) (hsize ▸ hcacheable) hsecond
  obtain ⟨manager₄, -, hs₄⟩ := reachable_chunk hs₃ hid hpos hmax hreceived.incomplete hholds₃
    (Nat.lt_add_of_pos_right httl) hserve₂
    (hreceived.push_ready hpos (hlength.trans_le hreceivable))
  exact ⟨manager₄, _, hs₄, hreceived.resourceId, hdone.finish⟩

end Mixture

/-- A resource of one chunk and one byte, all of whose bytes are the same. -/
def uniformResource (byte : UInt8) : ProviderResource :=
  ⟨"image/png", .replicate (resourceChunkBytes + 1) byte⟩

theorem length_uniformResource (byte : UInt8) :
    (uniformResource byte).bytes.length = resourceChunkBytes + 1 := List.length_replicate

/-- A manager at which one URL is registered. -/
def sampleRegisteredA : ResourceState :=
  (@register sampleUrlSha256 .default .empty "https://provider.example/a.png").2

theorem sampleRegisteredA_holds : Holds sampleRegisteredA sampleIdA none none := by
  have hheld : (sampleRegisteredA.registrations.get sampleIdA).isSome ∧
      sampleRegisteredA.cache.get sampleIdA = none ∧
      sampleRegisteredA.fetches.get sampleIdA = none := by
    decide +kernel
  refine ⟨hheld.1, ?_, hheld.2.2⟩
  rw [hheld.2.1]
  rfl

/-- A resource that changes from one uniform content to another between the two chunks of a
transfer. -/
theorem transfer_torn :
    ¬ ∀ s, (@transferSystem sampleUrlSha256 .default resourceChunkBytes).Reachable s →
      ∀ bytes, s.client.finish = .ok bytes →
        ∃ resource, (s.client.resourceId, resource) ∈ s.versions ∧ bytes = resource.bytes := by
  intro hclaim
  have hstart : (@transferSystem sampleUrlSha256 .default resourceChunkBytes).Reachable
      (.start sampleIdA) := ⟨[], .start ⟨sampleIdA, rfl⟩⟩
  have hregister : @TransferState.step sampleUrlSha256 .default resourceChunkBytes
      (.start sampleIdA) (.register "https://provider.example/a.png") =
        some ⟨sampleRegisteredA, [], [], .new sampleIdA, none, false⟩ := rfl
  have hlength := length_uniformResource
  obtain ⟨manager, a, hs, hid, hfinish⟩ := @reachable_mixture sampleUrlSha256 _ _ _ sampleIdA
    (uniformResource 0) (uniformResource 1) (hstart.step hregister) (by decide +kernel) (by decide)
    (by decide) sampleRegisteredA_holds rfl (by rw [hlength, hlength])
    (by rw [hlength]; decide) (by rw [hlength]; decide) (by rw [hlength]; decide)
    (by decide +kernel) (by decide +kernel) (by decide +kernel)
  obtain ⟨resource, hversion, hbytes⟩ := hclaim _ hs _ hfinish
  have hzero : (0 : UInt8) ∈ resource.bytes := by
    rw [← hbytes, uniformResource, List.take_replicate]
    exact List.mem_append_left _ (List.mem_replicate.2 ⟨by decide, rfl⟩)
  have hone : (1 : UInt8) ∈ resource.bytes := by
    rw [← hbytes, uniformResource, uniformResource, List.drop_replicate]
    exact List.mem_append_right _ (List.mem_replicate.2 ⟨by decide, rfl⟩)
  have hresource : resource = uniformResource 0 ∨ resource = uniformResource 1 := by
    simpa [hid] using hversion
  rcases hresource with rfl | rfl
  · exact absurd (List.eq_of_mem_replicate hone) (by decide)
  · exact absurd (List.eq_of_mem_replicate hzero) (by decide)

end WeatherApp
