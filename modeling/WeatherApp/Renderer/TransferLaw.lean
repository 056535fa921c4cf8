import WeatherApp.Engine.Resource
import WeatherApp.Renderer.ResourceAssembler

/-!
# The chunked transfer of a resource

The engine cuts a resource into chunks by offset and limit, and the client puts them together again.
As long as the engine serves the same resource, the client receives it in the least number of chunks.

## Main definitions

* `chunkCount`: the number of chunks of a resource.
* `Transferring`: the state of the client after a number of chunks.

## Main results

* `transfer_roundTrip`: the transfer ends with the resource, after `chunkCount` ready replies.
-/

namespace WeatherApp

/-- A reply of the engine to the next request: the resource is still fetched, or a chunk of it. -/
inductive TransferReply where
  | pending (retryAfterMs : ℕ)
  | ready
  deriving DecidableEq, Repr

/-- The reply of the engine that serves one resource: `handle_get_resource` from the answer of
`begin_fetch` on. -/
def serveResource (resource : ProviderResource) :
    TransferReply → GetResourceRequest → Except String GetResourceResponse
  | .pending retryAfterMs, request => .ok (pendingResourceResponse request retryAfterMs)
  | .ready, request =>
    (resourceChunk request resource.contentType resource.bytes request.maxBytes).map
      fun response => { response with cacheHit := true }

/-- The number of ready replies of a schedule. -/
def readyCount (replies : List TransferReply) : ℕ := replies.count .ready

/-- The number of chunks of `size` bytes, at most `limit` each: `max(1, ceil(size / limit))`. -/
def chunkCount (size limit : ℕ) : ℕ := max 1 ((size + limit - 1) / limit)

theorem lt_chunkCount_iff {size limit k : ℕ} (hlimit : 0 < limit) :
    k + 1 < chunkCount size limit ↔ (k + 1) * limit < size := by
  have hsucc : (k + 1 + 1) * limit = (k + 1) * limit + limit := Nat.succ_mul _ _
  have hquotient : k + 1 < (size + limit - 1) / limit ↔ (k + 1) * limit < size := by
    rw [← Nat.add_one_le_iff, Nat.le_div_iff_mul_le hlimit, hsucc]
    omega
  rw [chunkCount, lt_max_iff, hquotient, or_iff_right (by omega)]

/-- The client has received `k` chunks of a resource, and there are more. -/
structure Transferring (resource : ProviderResource) (resourceId : String) (limit k : ℕ)
    (a : ResourceAssembler) : Prop where
  resourceId : a.resourceId = resourceId
  incomplete : a.complete = false
  bytes : a.bytes = resource.bytes.take (k * limit)
  inside : k * limit ≤ resource.bytes.length
  totalSize : ∀ size ∈ a.totalSize, size = resource.bytes.length
  contentType : ∀ contentType ∈ a.contentType, contentType = resource.contentType

/-- The client has received a resource. -/
structure Transferred (resource : ProviderResource) (a : ResourceAssembler) : Prop where
  complete : a.complete = true
  contentType : a.contentType = some resource.contentType
  finish : a.finish = .ok resource.bytes

section Transfer

variable {resource : ProviderResource} {resourceId : String} {limit k : ℕ} {a : ResourceAssembler}

theorem transferring_new (resource : ProviderResource) (resourceId : String) (limit : ℕ) :
    Transferring resource resourceId limit 0 (.new resourceId) where
  resourceId := rfl
  incomplete := rfl
  bytes := by rw [zero_mul, List.take_zero, ResourceAssembler.new]
  inside := by
    rw [zero_mul]
    exact Nat.zero_le _
  totalSize _ h := nomatch h
  contentType _ h := nomatch h

theorem Transferring.offset (h : Transferring resource resourceId limit k a) :
    a.offset = k * limit := by
  rw [ResourceAssembler.offset, h.bytes, List.length_take, min_eq_left h.inside]

/-- A pending reply changes nothing. -/
theorem Transferring.push_pending (h : Transferring resource resourceId limit k a)
    (retryAfterMs : ℕ) :
    ∃ delay, a.push (pendingResourceResponse (a.nextRequest limit) retryAfterMs) =
      .ok (.pending delay, a) :=
  ResourceAssembler.push_of_pending h.incomplete rfl rfl ⟨rfl, rfl⟩ rfl

/-- The chunk the engine cuts for the next request. -/
def nextChunk (resource : ProviderResource) (resourceId : String) (limit k : ℕ) :
    GetResourceResponse where
  resourceId := resourceId
  contentType := resource.contentType
  data := (resource.bytes.drop (k * limit)).take limit
  totalSize := resource.bytes.length
  nextOffset := min ((k + 1) * limit) resource.bytes.length
  complete := resource.bytes.length ≤ (k + 1) * limit
  cacheHit := true
  transferState := ResourceTransferState.ready.toWire
  retryAfterMs := 0

theorem serveResource_ready {resource : ProviderResource} {resourceId : String} {limit k : ℕ}
    (hinside : k * limit ≤ resource.bytes.length) (hmax : limit ≤ maxResourceChunkBytes)
    (hsize : resource.bytes.length ≤ maxResourceBytes) :
    serveResource resource .ready ⟨resourceId, k * limit, limit⟩ =
      .ok (nextChunk resource resourceId limit k) := by
  have hnext : (k + 1) * limit = k * limit + limit := Nat.succ_mul _ _
  have hsaturates : saturatingAdd (k * limit) limit = (k + 1) * limit := by
    rw [hnext]
    refine min_eq_left ?_
    have hbound : maxResourceBytes + maxResourceChunkBytes ≤ usizeMax := by decide
    omega
  have hstop : min ((k + 1) * limit) resource.bytes.length = resource.bytes.length ↔
      resource.bytes.length ≤ (k + 1) * limit := min_eq_right_iff
  have hdata : (resource.bytes.take (min ((k + 1) * limit) resource.bytes.length)).drop
      (k * limit) = (resource.bytes.drop (k * limit)).take limit := by
    rw [← List.take_eq_take_min, List.drop_take, hnext, Nat.add_sub_cancel_left]
  simp only [serveResource, resourceChunk, not_lt.2 hinside, if_false, hsaturates, hdata, hstop,
    Except.map, nextChunk]

theorem Transferring.nextRequest (h : Transferring resource resourceId limit k a) :
    a.nextRequest limit = ⟨resourceId, k * limit, limit⟩ := by
  rw [ResourceAssembler.nextRequest, h.offset, h.resourceId]

theorem Transferring.serve_ready (h : Transferring resource resourceId limit k a)
    (hmax : limit ≤ maxResourceChunkBytes) (hsize : resource.bytes.length ≤ maxResourceBytes) :
    serveResource resource .ready (a.nextRequest limit) =
      .ok (nextChunk resource resourceId limit k) := by
  rw [h.nextRequest]
  exact serveResource_ready h.inside hmax hsize

/-- The next chunk is accepted. It is the last one when it reaches the end. -/
theorem Transferring.push_ready (h : Transferring resource resourceId limit k a)
    (hlimit : 0 < limit) (hsize : resource.bytes.length ≤ maxResourceBytes) :
    a.push (nextChunk resource resourceId limit k) =
      .ok (if resource.bytes.length ≤ (k + 1) * limit then .complete else .incomplete,
        a.accept (nextChunk resource resourceId limit k)) := by
  have hinside := h.inside
  have hnext : (k + 1) * limit = k * limit + limit := Nat.succ_mul _ _
  have hlength : (nextChunk resource resourceId limit k).data.length =
      min limit (resource.bytes.length - k * limit) := by
    rw [nextChunk, List.length_take, List.length_drop]
  have hreached : a.offset + (nextChunk resource resourceId limit k).data.length =
      min ((k + 1) * limit) resource.bytes.length := by
    rw [hlength, h.offset, hnext]
    omega
  rw [ResourceAssembler.push_of_ready h.incomplete h.resourceId.symm rfl,
    ResourceAssembler.pushReady_eq_ok_iff, ResourceAssembler.checkHeader_eq_ok_iff,
    ResourceAssembler.checkChunk_eq_ok_iff, hreached]
  refine ⟨⟨hsize, h.totalSize, h.contentType⟩, ⟨?_, rfl, min_le_right _ _, ?_, ?_⟩, ?_, rfl⟩
  · have hbound : maxResourceBytes ≤ u64Max := by decide
    exact (min_le_right _ _).trans (hsize.trans hbound)
  · intro hincomplete hempty
    have hmore : ¬ resource.bytes.length ≤ (k + 1) * limit := of_decide_eq_false hincomplete
    rw [hempty, List.length_nil] at hlength
    omega
  · exact decide_eq_decide.2 min_eq_right_iff.symm
  · simp only [nextChunk, decide_eq_true_eq]

theorem Transferring.accept (h : Transferring resource resourceId limit k a)
    (hmore : (k + 1) * limit < resource.bytes.length) :
    Transferring resource resourceId limit (k + 1)
      (a.accept (nextChunk resource resourceId limit k)) where
  resourceId := h.resourceId
  incomplete := decide_eq_false (not_le.2 hmore)
  bytes := by
    rw [ResourceAssembler.accept, h.bytes, nextChunk, Nat.succ_mul, List.take_add]
  inside := hmore.le
  totalSize _ hmem := (Option.mem_some_iff.1 hmem).symm
  contentType _ hmem := (Option.mem_some_iff.1 hmem).symm

theorem Transferring.accept_last (h : Transferring resource resourceId limit k a)
    (hlast : resource.bytes.length ≤ (k + 1) * limit) :
    Transferred resource (a.accept (nextChunk resource resourceId limit k)) := by
  have hbytes : (a.accept (nextChunk resource resourceId limit k)).bytes = resource.bytes := by
    rw [ResourceAssembler.accept, h.bytes, nextChunk, ← List.take_add, ← Nat.succ_mul]
    exact List.take_of_length_le hlast
  have hcomplete : (a.accept (nextChunk resource resourceId limit k)).complete = true :=
    decide_eq_true hlast
  have htotal : (a.accept (nextChunk resource resourceId limit k)).totalSize =
      some resource.bytes.length := rfl
  refine ⟨hcomplete, rfl, ?_⟩
  rw [ResourceAssembler.finish, hcomplete, htotal, hbytes]
  simp

/-- Fewer ready replies than chunks leave the client with as many chunks. -/
theorem Transferring.receive (h : Transferring resource resourceId limit k a)
    (hlimit : 0 < limit) (hmax : limit ≤ maxResourceChunkBytes)
    (hsize : resource.bytes.length ≤ maxResourceBytes) (replies : List TransferReply)
    (hfew : k + readyCount replies < chunkCount resource.bytes.length limit)
    (rest : List TransferReply) :
    ∃ a', Transferring resource resourceId limit (k + readyCount replies) a' ∧
      ResourceAssembler.receive (serveResource resource) limit (replies ++ rest) a =
        ResourceAssembler.receive (serveResource resource) limit rest a' := by
  induction replies generalizing k a with
  | nil => exact ⟨a, h, rfl⟩
  | cons reply replies ih =>
    cases reply with
    | pending retryAfterMs =>
      obtain ⟨delay, hpush⟩ := h.push_pending retryAfterMs
      have hcount : readyCount (.pending retryAfterMs :: replies) = readyCount replies :=
        List.count_cons_of_ne (by simp)
      rw [hcount] at hfew ⊢
      obtain ⟨a', htransferring, hreceive⟩ := ih h hfew
      refine ⟨a', htransferring, ?_⟩
      rw [← hreceive, List.cons_append, ResourceAssembler.receive_cons rfl hpush, if_neg nofun]
    | ready =>
      have hcount : readyCount (.ready :: replies) = readyCount replies + 1 :=
        List.count_cons_self
      rw [hcount] at hfew ⊢
      have hmore : (k + 1) * limit < resource.bytes.length :=
        (lt_chunkCount_iff hlimit).1 (by omega)
      obtain ⟨a', htransferring, hreceive⟩ := ih (h.accept hmore) (by omega)
      refine ⟨a', by rwa [← add_assoc, add_right_comm], ?_⟩
      have hpush := h.push_ready hlimit hsize
      rw [if_neg (not_le.2 hmore)] at hpush
      rw [← hreceive, List.cons_append,
        ResourceAssembler.receive_cons (h.serve_ready hmax hsize) hpush, if_neg nofun]

/-- Against the engine that serves one resource, the client receives it with its content type:
however many pending replies are interleaved, no reply is rejected and the transfer ends with the
ready reply number `chunkCount`. -/
theorem transfer_roundTrip (resource : ProviderResource) (resourceId : String) {limit : ℕ}
    (hlimit : 0 < limit) (hmax : limit ≤ maxResourceChunkBytes)
    (hsize : resource.bytes.length ≤ maxResourceBytes) (replies rest : List TransferReply) :
    (readyCount replies < chunkCount resource.bytes.length limit →
      ∃ a, ResourceAssembler.receive (serveResource resource) limit replies (.new resourceId) =
        .ok (a, []) ∧ a.complete = false) ∧
      (readyCount replies + 1 = chunkCount resource.bytes.length limit →
        ∃ a, ResourceAssembler.receive (serveResource resource) limit
          (replies ++ .ready :: rest) (.new resourceId) = .ok (a, rest) ∧
            Transferred resource a) := by
  have hnew := transferring_new resource resourceId limit
  constructor
  · intro hfew
    obtain ⟨a, htransferring, hreceive⟩ :=
      hnew.receive hlimit hmax hsize replies (by omega) []
    rw [List.append_nil] at hreceive
    exact ⟨a, hreceive, htransferring.incomplete⟩
  · intro hcount
    obtain ⟨a, htransferring, hreceive⟩ :=
      hnew.receive hlimit hmax hsize replies (by omega) (.ready :: rest)
    have hlast : resource.bytes.length ≤ (readyCount replies + 1) * limit :=
      not_lt.1 fun h => absurd ((lt_chunkCount_iff hlimit).2 h) (by omega)
    rw [zero_add] at htransferring
    have hpush := htransferring.push_ready hlimit hsize
    rw [if_pos hlast] at hpush
    refine ⟨_, ?_, htransferring.accept_last hlast⟩
    rw [hreceive, ResourceAssembler.receive_cons (htransferring.serve_ready hmax hsize) hpush,
      if_pos rfl]

/-- A resource of five bytes in chunks of two, with a pending reply before the second. -/
theorem transfer_roundTrip_sample :
    ∃ a, ResourceAssembler.receive (serveResource ⟨"image/png", [1, 2, 3, 4, 5]⟩) 2
      ([.ready, .pending 75, .ready] ++ .ready :: []) (.new "resource") = .ok (a, []) ∧
        Transferred ⟨"image/png", [1, 2, 3, 4, 5]⟩ a :=
  (@transfer_roundTrip ⟨"image/png", [1, 2, 3, 4, 5]⟩ "resource" 2 (by decide) (by decide)
    (by decide) [.ready, .pending 75, .ready] []).2 (by decide)

end Transfer

end WeatherApp
