import WeatherApp.Schema.Resource
import WeatherApp.Schema.Time

/-!
# Receiving a resource

`get_resource_bytes` of the desktop client (`gui/src-tauri/src/lib.rs`) asks for a resource chunk by
chunk and hands each reply to a `ResourceAssembler`, until the resource is complete. The assembler
checks that the replies fit together.

The loop also gives up after a minute and waits between requests for a pending resource; the
model leaves time out.

## Main definitions

* `ResourceAssembler.push`, `ResourceAssembler.finish`: the assembler.
* `ResourceAssembler.receive`: the loop.
-/

namespace WeatherApp

/-- `RESOURCE_CHUNK_BYTES`. -/
def resourceChunkBytes : ℕ := 512 * 1024

/-- `MAX_RESOURCE_BYTES`. -/
def maxResourceBytes : ℕ := 8 * 1024 * 1024

/-- `DEFAULT_RESOURCE_RETRY_MS`. -/
def defaultResourceRetryMs : ℕ := 75

/-- `MIN_RESOURCE_RETRY_MS`. -/
def minResourceRetryMs : ℕ := 10

/-- `MAX_RESOURCE_RETRY_MS`. -/
def maxResourceRetryMs : ℕ := 1000

/-- `Duration::from_millis`. -/
def Duration.fromMillis (millis : ℕ) : Duration := millis * 1000000

/-- `ResourceProgress`. -/
inductive ResourceProgress where
  | pending (delay : Duration)
  | incomplete
  | complete
  deriving DecidableEq, Repr

/-- `ResourceAssembler`. -/
structure ResourceAssembler where
  resourceId : String
  totalSize : Option ℕ
  contentType : Option String
  bytes : List UInt8
  complete : Bool
  deriving DecidableEq, Repr

/-- The `Debug` text of a transfer state. -/
def ResourceTransferState.debug : ResourceTransferState → String
  | unspecified => "Unspecified"
  | ready => "Ready"
  | pending => "Pending"

namespace ResourceAssembler

/-- `ResourceAssembler::new`. -/
def new (resourceId : String) : ResourceAssembler := ⟨resourceId, none, none, [], false⟩

/-- `offset`. -/
def offset (a : ResourceAssembler) : ℕ := a.bytes.length

/-- `push` of a pending reply. -/
def pushPending (a : ResourceAssembler) (response : GetResourceResponse) :
    Except String ResourceProgress :=
  if response.complete ∨ response.data ≠ [] then
    .error "等待中的资源响应不能包含已完成数据"
  else if response.nextOffset ≠ a.offset then
    .error "等待中的资源响应改变了分块偏移"
  else
    let retryAfterMs :=
      if response.retryAfterMs = 0 then defaultResourceRetryMs
      else max minResourceRetryMs (min response.retryAfterMs maxResourceRetryMs)
    .ok (.pending (.fromMillis retryAfterMs))

/-- The reply has the total size and the content type of the replies before it. -/
def checkHeader (a : ResourceAssembler) (response : GetResourceResponse) : Except String Unit :=
  if response.totalSize > maxResourceBytes then
    let totalSize := response.totalSize
    .error s!"资源大小 {totalSize} 字节超过 {maxResourceBytes} 字节上限"
  else if a.totalSize.any (· ≠ response.totalSize) then
    .error "资源响应总长度在分块间发生变化"
  else if a.totalSize.isNone ∧ response.totalSize > usizeMax then
    .error "资源总长度无法装入内存"
  else if a.contentType.any (· ≠ response.contentType) then
    .error "资源 MIME 类型在分块间发生变化"
  else .ok ⟨⟩

/-- The data of the reply continue the bytes received before it. -/
def checkChunk (a : ResourceAssembler) (response : GetResourceResponse) : Except String Unit :=
  let expectedNext := a.offset + response.data.length
  if response.data.length > u64Max then .error "资源分块长度无法表示"
  else if expectedNext > u64Max then .error "资源分块偏移溢出"
  else if response.nextOffset ≠ expectedNext then
    let nextOffset := response.nextOffset
    .error s!"资源分块偏移不连续：期望 {expectedNext}，收到 {nextOffset}"
  else if expectedNext > response.totalSize then .error "资源分块超过声明的总长度"
  else if !response.complete ∧ response.data = [] then .error "资源分块未推进偏移"
  else if response.complete ≠ decide (expectedNext = response.totalSize) then
    .error "资源完成标记与总长度不一致"
  else .ok ⟨⟩

/-- What a ready reply adds to the assembler. -/
def accept (a : ResourceAssembler) (response : GetResourceResponse) : ResourceAssembler :=
  { a with
    totalSize := response.totalSize
    contentType := response.contentType
    bytes := a.bytes ++ response.data
    complete := response.complete }

/-- `push` of a ready reply. -/
def pushReady (a : ResourceAssembler) (response : GetResourceResponse) :
    Except String (ResourceProgress × ResourceAssembler) := do
  a.checkHeader response
  a.checkChunk response
  let progress := if response.complete then ResourceProgress.complete else .incomplete
  pure (progress, a.accept response)

/-- `push`. An assembler that has rejected a reply is not used again. -/
def push (a : ResourceAssembler) (response : GetResourceResponse) :
    Except String (ResourceProgress × ResourceAssembler) :=
  if a.complete then .error "资源已完整接收，不能继续追加分块"
  else if response.resourceId ≠ a.resourceId then .error "资源响应 ID 与请求不一致"
  else
    match ResourceTransferState.fromWire response.transferState with
    | none =>
      let transferState := response.transferState
      .error s!"未知资源传输状态 {transferState}"
    | some .pending => (a.pushPending response).map fun progress => (progress, a)
    | some .ready => a.pushReady response
    | some .unspecified =>
      let transferState := ResourceTransferState.unspecified.debug
      .error s!"资源传输尚未就绪：{transferState}"

/-- `finish`. -/
def finish (a : ResourceAssembler) : Except String (List UInt8) :=
  if !a.complete then .error "资源响应未完整接收"
  else if a.totalSize ≠ some a.bytes.length then .error "资源实际长度与声明长度不一致"
  else .ok a.bytes

/-- The next request of the loop. -/
def nextRequest (a : ResourceAssembler) (maxBytes : ℕ) : GetResourceRequest :=
  ⟨a.resourceId, a.offset, maxBytes⟩

/-- The loop of `get_resource_bytes`, against a server that gives the next reply of a schedule to
each request. It ends with the resource, and leaves the rest of the schedule. -/
def receive {ρ : Type} (serve : ρ → GetResourceRequest → Except String GetResourceResponse)
    (maxBytes : ℕ) : List ρ → ResourceAssembler → Except String (ResourceAssembler × List ρ)
  | [], a => .ok (a, [])
  | reply :: replies, a => do
    let response ← serve reply (a.nextRequest maxBytes)
    match ← a.push response with
    | (.complete, a) => pure (a, replies)
    | (_, a) => receive serve maxBytes replies a

/-! ### What the assembler accepts -/

theorem checkHeader_eq_ok_iff {a : ResourceAssembler} {response : GetResourceResponse} :
    a.checkHeader response = .ok ⟨⟩ ↔
      response.totalSize ≤ maxResourceBytes ∧
        (∀ size ∈ a.totalSize, size = response.totalSize) ∧
        ∀ contentType ∈ a.contentType, contentType = response.contentType := by
  simp only [checkHeader]
  split_ifs with hlarge hsize hcapacity htype
  · exact iff_of_false (fun h => nomatch h) fun h => absurd h.1 (not_le.2 hlarge)
  · refine iff_of_false (fun h => nomatch h) fun h => ?_
    obtain ⟨size, hmem, hne⟩ := Option.any_eq_true _ _ |>.1 hsize
    exact of_decide_eq_true hne (h.2.1 size hmem)
  · have hmemory : maxResourceBytes ≤ usizeMax := by decide
    exact absurd hcapacity.2 (not_lt.2 ((not_lt.1 hlarge).trans hmemory))
  · refine iff_of_false (fun h => nomatch h) fun h => ?_
    obtain ⟨contentType, hmem, hne⟩ := Option.any_eq_true _ _ |>.1 htype
    exact of_decide_eq_true hne (h.2.2 contentType hmem)
  · refine iff_of_true rfl ⟨not_lt.1 hlarge, fun size hmem => ?_, fun contentType hmem => ?_⟩
    · by_contra hne
      exact hsize (Option.any_eq_true _ _ |>.2 ⟨size, hmem, decide_eq_true hne⟩)
    · by_contra hne
      exact htype (Option.any_eq_true _ _ |>.2 ⟨contentType, hmem, decide_eq_true hne⟩)

theorem checkChunk_eq_ok_iff {a : ResourceAssembler} {response : GetResourceResponse} :
    a.checkChunk response = .ok ⟨⟩ ↔
      a.offset + response.data.length ≤ u64Max ∧
        response.nextOffset = a.offset + response.data.length ∧
        a.offset + response.data.length ≤ response.totalSize ∧
        (response.complete = false → response.data ≠ []) ∧
        response.complete = decide (a.offset + response.data.length = response.totalSize) := by
  simp only [checkChunk]
  split_ifs with hlength hoverflow hnext htotal hstalled hcomplete
  · exact iff_of_false (fun h => nomatch h) fun h => by omega
  · exact iff_of_false (fun h => nomatch h) fun h => by omega
  · exact iff_of_false (fun h => nomatch h) fun h => hnext h.2.1
  · exact iff_of_false (fun h => nomatch h) fun h => by omega
  · rw [Bool.not_eq_true'] at hstalled
    exact iff_of_false (fun h => nomatch h) fun h => h.2.2.2.1 hstalled.1 hstalled.2
  · exact iff_of_false (fun h => nomatch h) fun h => hcomplete h.2.2.2.2
  · refine iff_of_true rfl ⟨not_lt.1 hoverflow, not_not.1 hnext, not_lt.1 htotal, ?_,
      not_not.1 hcomplete⟩
    intro hincomplete hempty
    exact hstalled ⟨by rw [hincomplete, Bool.not_false], hempty⟩

theorem pushReady_eq_ok_iff {a a' : ResourceAssembler} {response : GetResourceResponse}
    {progress : ResourceProgress} :
    a.pushReady response = .ok (progress, a') ↔
      a.checkHeader response = .ok ⟨⟩ ∧ a.checkChunk response = .ok ⟨⟩ ∧
        progress = (if response.complete then .complete else .incomplete) ∧
        a' = a.accept response := by
  rw [pushReady]
  cases a.checkHeader response with
  | error => exact iff_of_false (fun h => nomatch h) fun h => nomatch h.1
  | ok =>
    cases a.checkChunk response with
    | error => exact iff_of_false (fun h => nomatch h) fun h => nomatch h.2.1
    | ok =>
      constructor
      · rintro ⟨⟩
        exact ⟨rfl, rfl, rfl, rfl⟩
      · rintro ⟨-, -, rfl, rfl⟩
        rfl

/-- A ready reply to the assembler's request goes to `pushReady`. -/
theorem push_of_ready {a : ResourceAssembler} {response : GetResourceResponse}
    (hincomplete : a.complete = false) (hid : response.resourceId = a.resourceId)
    (hstate : response.transferState = ResourceTransferState.ready.toWire) :
    a.push response = a.pushReady response := by
  rw [push, hincomplete, if_neg Bool.false_ne_true, if_neg (not_not.2 hid), hstate,
    ResourceTransferState.fromWire_toWire]

/-- A pending reply to the assembler's request leaves it as it is. -/
theorem push_of_pending {a : ResourceAssembler} {response : GetResourceResponse}
    (hincomplete : a.complete = false) (hid : response.resourceId = a.resourceId)
    (hstate : response.transferState = ResourceTransferState.pending.toWire)
    (hdata : response.complete = false ∧ response.data = [])
    (hoffset : response.nextOffset = a.offset) :
    ∃ delay, a.push response = .ok (.pending delay, a) := by
  have hnodata : ¬ (response.complete = true ∨ response.data ≠ []) := by simp [hdata]
  rw [push, hincomplete, if_neg Bool.false_ne_true, if_neg (not_not.2 hid), hstate,
    ResourceTransferState.fromWire_toWire]
  simp only [pushPending, if_neg hnodata, if_neg (not_not.2 hoffset)]
  exact ⟨_, rfl⟩

/-- A reply that is accepted is a pending one, which changes nothing, or a ready one. -/
theorem push_cases {a a' : ResourceAssembler} {response : GetResourceResponse}
    {progress : ResourceProgress} (h : a.push response = .ok (progress, a')) :
    response.transferState = ResourceTransferState.pending.toWire ∧ a' = a ∨
      response.transferState = ResourceTransferState.ready.toWire ∧
        a.pushReady response = .ok (progress, a') := by
  unfold push at h
  split_ifs at h
  split at h
  next => cases h
  next hstate =>
    have hwire := ResourceTransferState.toWire_of_fromWire hstate
    cases hpending : a.pushPending response with
    | error => rw [hpending] at h; cases h
    | ok => rw [hpending] at h; cases h; exact .inl ⟨hwire, rfl⟩
  next hstate => exact .inr ⟨ResourceTransferState.toWire_of_fromWire hstate, h⟩
  next => cases h

theorem resourceId_push {a a' : ResourceAssembler} {response : GetResourceResponse}
    {progress : ResourceProgress} (h : a.push response = .ok (progress, a')) :
    a'.resourceId = a.resourceId := by
  rcases push_cases h with ⟨-, rfl⟩ | ⟨-, hready⟩
  · rfl
  · obtain ⟨-, -, -, rfl⟩ := pushReady_eq_ok_iff.1 hready
    rfl

/-- One iteration of the loop whose reply is accepted. -/
theorem receive_cons {ρ : Type} {serve : ρ → GetResourceRequest → Except String GetResourceResponse}
    {maxBytes : ℕ} {reply : ρ} {replies : List ρ} {a a' : ResourceAssembler}
    {response : GetResourceResponse} {progress : ResourceProgress}
    (hserve : serve reply (a.nextRequest maxBytes) = .ok response)
    (hpush : a.push response = .ok (progress, a')) :
    receive serve maxBytes (reply :: replies) a =
      if progress = .complete then .ok (a', replies) else receive serve maxBytes replies a' := by
  rw [receive, hserve]
  simp only [bind, Except.bind, hpush]
  cases progress <;> rfl

end ResourceAssembler

end WeatherApp
