import WeatherApp.Foundation.Run
import WeatherApp.Renderer.ResourceAssembler

/-!
# An assembler and any peer

`ResourceAssembler::push` writes the total size and the content type of the first ready reply before
it looks at the chunk, so that a rejected reply can leave them behind. Whatever a peer sends, the
assembled bytes are the accepted chunks and stay within the declared total.

## Main definitions

* `ResourceAssembler.pushInPlace`: `push`, with the assembler it leaves when it rejects a reply.
* `Reception`, `receptionSystem`: an assembler under any sequence of replies.
* `AssemblerInv`: the invariant.

## Main results

* `push_eq_pushInPlace`: both forms of `push` give the same answers.
* `assembler_safe`: what holds after every sequence of replies.
-/

namespace WeatherApp

namespace ResourceAssembler

/-! ## The assembler in place -/

/-- The checks of `push` on the total size. The first reply that passes them declares it. -/
def declareTotal (a : ResourceAssembler) (response : GetResourceResponse) :
    Except String Unit × ResourceAssembler :=
  if response.totalSize > maxResourceBytes then
    let totalSize := response.totalSize
    (.error s!"资源大小 {totalSize} 字节超过 {maxResourceBytes} 字节上限", a)
  else
    match a.totalSize with
    | some totalSize =>
      if response.totalSize ≠ totalSize then (.error "资源响应总长度在分块间发生变化", a)
      else (.ok ⟨⟩, a)
    | none =>
      if response.totalSize > usizeMax then (.error "资源总长度无法装入内存", a)
      else (.ok ⟨⟩, { a with totalSize := some response.totalSize })

/-- The check of `push` on the content type. -/
def declareContentType (a : ResourceAssembler) (response : GetResourceResponse) :
    Except String Unit × ResourceAssembler :=
  match a.contentType with
  | some contentType =>
    if response.contentType ≠ contentType then (.error "资源 MIME 类型在分块间发生变化", a)
    else (.ok ⟨⟩, a)
  | none => (.ok ⟨⟩, { a with contentType := some response.contentType })

/-- The end of `push`: the chunk is appended. -/
def append (a : ResourceAssembler) (response : GetResourceResponse) : ResourceAssembler :=
  { a with bytes := a.bytes ++ response.data, complete := response.complete }

/-- `push` of a ready reply, in place. -/
def pushReadyInPlace (a : ResourceAssembler) (response : GetResourceResponse) :
    Except String ResourceProgress × ResourceAssembler :=
  match a.declareTotal response with
  | (.error e, a) => (.error e, a)
  | (.ok _, a) =>
    match a.declareContentType response with
    | (.error e, a) => (.error e, a)
    | (.ok _, a) =>
      match a.checkChunk response with
      | .error e => (.error e, a)
      | .ok _ => (.ok (if response.complete then .complete else .incomplete), a.append response)

/-- `push`, in place. -/
def pushInPlace (a : ResourceAssembler) (response : GetResourceResponse) :
    Except String ResourceProgress × ResourceAssembler :=
  if a.complete then (.error "资源已完整接收，不能继续追加分块", a)
  else if response.resourceId ≠ a.resourceId then (.error "资源响应 ID 与请求不一致", a)
  else
    match ResourceTransferState.fromWire response.transferState with
    | none =>
      let transferState := response.transferState
      (.error s!"未知资源传输状态 {transferState}", a)
    | some .pending => (a.pushPending response, a)
    | some .ready => a.pushReadyInPlace response
    | some .unspecified =>
      let transferState := ResourceTransferState.unspecified.debug
      (.error s!"资源传输尚未就绪：{transferState}", a)

/-- The answer of `push` from the one in place. -/
def answerOf : Except String ResourceProgress × ResourceAssembler →
    Except String (ResourceProgress × ResourceAssembler)
  | (.ok progress, a) => .ok (progress, a)
  | (.error e, _) => .error e

variable {a a' : ResourceAssembler} {response : GetResourceResponse}

/-! ## What `push` leaves -/

/-- The total size is checked before it is declared. -/
theorem declareTotal_eq_ok (h : a.declareTotal response = (.ok ⟨⟩, a')) :
    response.totalSize ≤ maxResourceBytes ∧ (∀ size ∈ a.totalSize, size = response.totalSize) ∧
      a' = { a with totalSize := some response.totalSize } := by
  obtain ⟨resourceId, totalSize, contentType, bytes, complete⟩ := a
  simp only [declareTotal] at h
  by_cases hlarge : response.totalSize > maxResourceBytes
  · rw [if_pos hlarge] at h
    cases h
  rw [if_neg hlarge] at h
  refine ⟨not_lt.1 hlarge, ?_⟩
  cases totalSize with
  | none =>
    split_ifs at h
    · cases h
    · cases h
      exact ⟨fun _ hsize => (nomatch hsize), rfl⟩
  | some size =>
    simp only at h
    split_ifs at h with hchanged
    · cases h
    · rw [not_not] at hchanged
      subst hchanged
      cases h
      exact ⟨fun other hother => (Option.mem_some_iff.1 hother).symm, rfl⟩

theorem declareTotal_eq_error {e : String} (h : a.declareTotal response = (.error e, a')) :
    a' = a := by
  unfold declareTotal at h
  by_cases hlarge : response.totalSize > maxResourceBytes
  · rw [if_pos hlarge] at h
    exact (Prod.ext_iff.1 h).2.symm
  rw [if_neg hlarge] at h
  split at h
  next =>
    split_ifs at h
    · exact (Prod.ext_iff.1 h).2.symm
    · cases h
  next =>
    by_cases hmemory : response.totalSize > usizeMax
    · rw [if_pos hmemory] at h
      exact (Prod.ext_iff.1 h).2.symm
    · rw [if_neg hmemory] at h
      cases h

theorem declareContentType_eq_ok (h : a.declareContentType response = (.ok ⟨⟩, a')) :
    (∀ contentType ∈ a.contentType, contentType = response.contentType) ∧
      a' = { a with contentType := some response.contentType } := by
  obtain ⟨resourceId, totalSize, contentType, bytes, complete⟩ := a
  simp only [declareContentType] at h
  cases contentType with
  | none =>
    cases h
    exact ⟨fun _ hother => (nomatch hother), rfl⟩
  | some contentType =>
    simp only at h
    split_ifs at h with hchanged
    · cases h
    · rw [not_not] at hchanged
      subst hchanged
      cases h
      exact ⟨fun other hother => (Option.mem_some_iff.1 hother).symm, rfl⟩

theorem declareContentType_eq_error {e : String}
    (h : a.declareContentType response = (.error e, a')) : a' = a := by
  unfold declareContentType at h
  split at h
  next =>
    split_ifs at h
    · exact (Prod.ext_iff.1 h).2.symm
    · cases h
  next => cases h

/-- The two declarations answer as the check of the header does. -/
theorem checkHeader_eq (a : ResourceAssembler) (response : GetResourceResponse) :
    a.checkHeader response =
      match a.declareTotal response with
      | (.error e, _) => .error e
      | (.ok _, a) => (a.declareContentType response).1 := by
  obtain ⟨resourceId, totalSize, contentType, bytes, complete⟩ := a
  simp only [checkHeader, declareTotal]
  by_cases hlarge : response.totalSize > maxResourceBytes
  · rw [if_pos hlarge, if_pos hlarge]
  rw [if_neg hlarge, if_neg hlarge]
  have htype : ∀ totalSize, (if contentType.any (· ≠ response.contentType) then
      Except.error "资源 MIME 类型在分块间发生变化" else .ok ⟨⟩) =
        ((⟨resourceId, totalSize, contentType, bytes, complete⟩ :
          ResourceAssembler).declareContentType response).1 := by
    intro totalSize
    cases contentType with
    | none => rfl
    | some contentType =>
      simp only [declareContentType, Option.any_some, decide_eq_true_eq, ne_comm]
      split_ifs <;> rfl
  cases totalSize with
  | none =>
    simp only [Option.any_none, Bool.false_eq_true, if_false, Option.isNone_none, true_and]
    by_cases hmemory : response.totalSize > usizeMax
    · rw [if_pos hmemory, if_pos hmemory]
    · rw [if_neg hmemory, if_neg hmemory]
      exact htype _
  | some size =>
    simp only [Option.any_some, decide_eq_true_eq, Option.isNone_some, Bool.false_eq_true,
      false_and, if_false, ne_comm]
    by_cases hchanged : size ≠ response.totalSize
    · rw [if_pos hchanged, if_pos hchanged]
    · rw [if_neg hchanged, if_neg hchanged]
      exact htype _

/-- A ready reply that is accepted passes the checks on its chunk and is appended under its
declarations. -/
theorem pushReadyInPlace_eq_ok {progress : ResourceProgress}
    (h : a.pushReadyInPlace response = (.ok progress, a')) :
    a.checkHeader response = .ok ⟨⟩ ∧ a.checkChunk response = .ok ⟨⟩ ∧
      progress = (if response.complete then .complete else .incomplete) ∧
      a' = a.accept response := by
  unfold pushReadyInPlace at h
  split at h
  next => cases h
  next a₁ htotal =>
    obtain ⟨hlarge, hsize, rfl⟩ := declareTotal_eq_ok htotal
    split at h
    next => cases h
    next a₂ htype =>
      obtain ⟨hcontentType, rfl⟩ := declareContentType_eq_ok htype
      split at h
      next => cases h
      next hchunk =>
        cases h
        exact ⟨checkHeader_eq_ok_iff.2 ⟨hlarge, hsize, hcontentType⟩, hchunk, rfl, rfl⟩

/-- A ready reply that is rejected leaves what was assembled, and a declared total only changes
from none to one within the limit. -/
theorem pushReadyInPlace_eq_error {e : String}
    (h : a.pushReadyInPlace response = (.error e, a')) :
    a'.bytes = a.bytes ∧ a'.complete = a.complete ∧
      (a'.totalSize = a.totalSize ∨
        a.totalSize = none ∧ ∃ total, a'.totalSize = some total ∧ total ≤ maxResourceBytes) := by
  unfold pushReadyInPlace at h
  split at h
  next a₁ htotal =>
    obtain ⟨-, rfl⟩ := Prod.ext_iff.1 h
    rw [declareTotal_eq_error htotal]
    exact ⟨rfl, rfl, .inl rfl⟩
  next a₁ htotal =>
    obtain ⟨hlarge, hsize, rfl⟩ := declareTotal_eq_ok htotal
    -- the declared total is the old one, if there was one
    have hdeclared : some response.totalSize = a.totalSize ∨
        a.totalSize = none ∧ ∃ total, some response.totalSize = some total ∧
          total ≤ maxResourceBytes := by
      cases hold : a.totalSize with
      | none => exact .inr ⟨rfl, _, rfl, hlarge⟩
      | some size => exact .inl (by rw [hsize size hold])
    split at h
    next a₂ htype =>
      obtain ⟨-, rfl⟩ := Prod.ext_iff.1 h
      rw [declareContentType_eq_error htype]
      exact ⟨rfl, rfl, hdeclared⟩
    next a₂ htype =>
      obtain ⟨-, rfl⟩ := declareContentType_eq_ok htype
      split at h
      next =>
        obtain ⟨-, rfl⟩ := Prod.ext_iff.1 h
        exact ⟨rfl, rfl, hdeclared⟩
      next => cases h

/-- `push` answers as it does in place. -/
theorem push_eq_pushInPlace (a : ResourceAssembler) (response : GetResourceResponse) :
    a.push response = answerOf (a.pushInPlace response) := by
  have hready : a.pushReady response = answerOf (a.pushReadyInPlace response) := by
    rw [pushReady, pushReadyInPlace, checkHeader_eq]
    generalize htotal : a.declareTotal response = total
    obtain ⟨_ | _, a₁⟩ := total
    · rfl
    have htotal := (declareTotal_eq_ok htotal).2.2
    dsimp only
    generalize htype : a₁.declareContentType response = type
    obtain ⟨_ | _, a₂⟩ := type
    · rfl
    -- the chunk is checked against the bytes, which the declarations leave
    have hcheck : a₂.checkChunk response = a.checkChunk response := by
      rw [(declareContentType_eq_ok htype).2, htotal]
      rfl
    have happend : a₂.append response = a.accept response := by
      rw [(declareContentType_eq_ok htype).2, htotal]
      rfl
    dsimp only
    rw [hcheck, happend]
    cases a.checkChunk response with
    | error => rfl
    | ok => rfl
  simp only [push, pushInPlace]
  split_ifs
  · rfl
  · rfl
  · generalize ResourceTransferState.fromWire response.transferState = transferState
    cases transferState with
    | none => rfl
    | some transferState =>
      cases transferState with
      | pending => cases a.pushPending response <;> rfl
      | ready => exact hready
      | unspecified => rfl

end ResourceAssembler

/-! ## Any sequence of replies -/

/-- An assembler, and the data of the replies it has accepted. -/
structure Reception where
  assembler : ResourceAssembler
  accepted : List (List UInt8)
  deriving DecidableEq, Repr

namespace Reception

open ResourceAssembler

/-- A reply arrives. -/
def push (s : Reception) (response : GetResourceResponse) : Reception :=
  let (answer, assembler) := s.assembler.pushInPlace response
  match answer with
  | .ok _ => ⟨assembler, s.accepted ++ [response.data]⟩
  | .error _ => ⟨assembler, s.accepted⟩

end Reception

/-- An assembler under any sequence of replies. -/
def receptionSystem (resourceId : String) : LabelledSystem Reception GetResourceResponse where
  init s := s = ⟨.new resourceId, []⟩
  step s response s' := s.push response = s'

/-- What holds of an assembler after any replies. -/
structure AssemblerInv (s : Reception) : Prop where
  bounded : ∀ total ∈ s.assembler.totalSize,
    s.assembler.bytes.length ≤ total ∧ total ≤ maxResourceBytes
  undeclared : s.assembler.totalSize = none → s.assembler.bytes = []
  complete : s.assembler.complete = true →
    s.assembler.totalSize = some s.assembler.bytes.length
  assembled : s.assembler.bytes = s.accepted.flatten

namespace ResourceAssembler

variable {a a' : ResourceAssembler} {response : GetResourceResponse}

/-- A reply that is accepted is a pending one without data, which changes nothing, or a ready one
that passes all checks. -/
theorem pushInPlace_eq_ok {progress : ResourceProgress}
    (h : a.pushInPlace response = (.ok progress, a')) :
    (response.data = [] ∧ a' = a ∧ progress ≠ .complete) ∨
      (a.checkHeader response = .ok ⟨⟩ ∧ a.checkChunk response = .ok ⟨⟩ ∧
        progress = (if response.complete then .complete else .incomplete) ∧
        a' = a.accept response) := by
  simp only [pushInPlace] at h
  split_ifs at h
  · cases h
  · cases h
  · split at h
    next => cases h
    next =>
      obtain ⟨hpending, rfl⟩ := Prod.ext_iff.1 h
      simp only [pushPending] at hpending
      by_cases hdata : response.complete = true ∨ response.data ≠ []
      · rw [if_pos hdata] at hpending
        cases hpending
      rw [if_neg hdata] at hpending
      rw [not_or, not_not] at hdata
      refine .inl ⟨hdata.2, rfl, ?_⟩
      rintro rfl
      split_ifs at hpending <;> cases hpending
    next => exact .inr (pushReadyInPlace_eq_ok h)
    next => cases h

/-- A reply that is rejected leaves what was assembled, and a declared total only changes from none
to one within the limit. -/
theorem pushInPlace_eq_error {e : String} (h : a.pushInPlace response = (.error e, a')) :
    a'.bytes = a.bytes ∧ a'.complete = a.complete ∧
      (a'.totalSize = a.totalSize ∨
        a.totalSize = none ∧ ∃ total, a'.totalSize = some total ∧ total ≤ maxResourceBytes) := by
  simp only [pushInPlace] at h
  split_ifs at h
  · obtain ⟨-, rfl⟩ := Prod.ext_iff.1 h
    exact ⟨rfl, rfl, .inl rfl⟩
  · obtain ⟨-, rfl⟩ := Prod.ext_iff.1 h
    exact ⟨rfl, rfl, .inl rfl⟩
  · split at h
    next =>
      obtain ⟨-, rfl⟩ := Prod.ext_iff.1 h
      exact ⟨rfl, rfl, .inl rfl⟩
    next =>
      obtain ⟨-, rfl⟩ := Prod.ext_iff.1 h
      exact ⟨rfl, rfl, .inl rfl⟩
    next => exact pushReadyInPlace_eq_error h
    next =>
      obtain ⟨-, rfl⟩ := Prod.ext_iff.1 h
      exact ⟨rfl, rfl, .inl rfl⟩

/-- A chunk that is accepted reaches at most the declared total, and completes exactly with it. -/
theorem length_accept (hheader : a.checkHeader response = .ok ⟨⟩)
    (hchunk : a.checkChunk response = .ok ⟨⟩) :
    (a.accept response).bytes.length ≤ response.totalSize ∧
      response.totalSize ≤ maxResourceBytes ∧
      (response.complete = true → (a.accept response).bytes.length = response.totalSize) := by
  obtain ⟨hlimit, -, -⟩ := checkHeader_eq_ok_iff.1 hheader
  obtain ⟨-, -, hinside, -, hcomplete⟩ := checkChunk_eq_ok_iff.1 hchunk
  have hlength : (a.accept response).bytes.length = a.offset + response.data.length :=
    List.length_append
  rw [hlength]
  refine ⟨hinside, hlimit, fun hdone => ?_⟩
  rw [hdone, eq_comm] at hcomplete
  exact of_decide_eq_true hcomplete

end ResourceAssembler

/-- Every reply keeps the invariant. -/
theorem AssemblerInv.push {s : Reception} (h : AssemblerInv s) (response : GetResourceResponse) :
    AssemblerInv (s.push response) := by
  unfold Reception.push
  generalize hpush : s.assembler.pushInPlace response = result
  obtain ⟨e | progress, a⟩ := result
  · obtain ⟨hbytes, hcomplete, htotal⟩ := ResourceAssembler.pushInPlace_eq_error hpush
    refine ⟨?_, ?_, ?_, hbytes.trans h.assembled⟩
    · intro total hmem
      show a.bytes.length ≤ total ∧ _
      rw [hbytes]
      rcases htotal with hsame | ⟨hnone, declared, hdeclared, hlimit⟩
      · exact h.bounded total (hsame ▸ hmem)
      · -- nothing is assembled before a total is declared
        rw [h.undeclared hnone]
        rw [hdeclared, Option.mem_some_iff] at hmem
        exact ⟨Nat.zero_le _, hmem ▸ hlimit⟩
    · intro hnone
      rcases htotal with hsame | ⟨-, declared, hdeclared, -⟩
      · exact hbytes.trans (h.undeclared (hsame.symm.trans hnone))
      · exact nomatch hdeclared.symm.trans hnone
    · intro hdone
      have hold := h.complete (hcomplete.symm.trans hdone)
      rcases htotal with hsame | ⟨hnone, -⟩
      · show a.totalSize = some a.bytes.length
        rw [hsame, hold, hbytes]
      · exact nomatch hold.symm.trans hnone
  · rcases ResourceAssembler.pushInPlace_eq_ok hpush with
      ⟨hdata, rfl, -⟩ | ⟨hheader, hchunk, -, rfl⟩
    · refine ⟨h.bounded, h.undeclared, h.complete, ?_⟩
      show s.assembler.bytes = (s.accepted ++ [response.data]).flatten
      rw [hdata, List.flatten_append, ← h.assembled]
      exact (List.append_nil _).symm
    · obtain ⟨hinside, hlimit, hreached⟩ := ResourceAssembler.length_accept hheader hchunk
      refine ⟨?_, nofun, ?_, ?_⟩
      · intro total hmem
        cases hmem
        exact ⟨hinside, hlimit⟩
      · intro hdone
        exact congrArg some (hreached hdone).symm
      · show s.assembler.bytes ++ response.data = (s.accepted ++ [response.data]).flatten
        rw [List.flatten_append, h.assembled, List.flatten_singleton]

theorem assemblerInv_reachable {resourceId : String} {s : Reception}
    (h : (receptionSystem resourceId).Reachable s) : AssemblerInv s := by
  refine h.invariant ?_ ?_
  · rintro s rfl
    exact ⟨nofun, fun _ => rfl, nofun, rfl⟩
  · rintro s response s' hinv rfl
    exact hinv.push response

/-- After any replies the assembled bytes are the accepted chunks in their order, within the
declared total and the limit of the client. A reply that is rejected leaves them, one that is
answered with completion reaches the total, and `finish` gives them out only then. -/
theorem assembler_safe {resourceId : String} {s : Reception}
    (h : (receptionSystem resourceId).Reachable s) :
    (∀ total ∈ s.assembler.totalSize,
      s.assembler.bytes.length ≤ total ∧ total ≤ maxResourceBytes) ∧
    (s.assembler.totalSize = none → s.assembler.bytes = []) ∧
    (∀ response e a, s.assembler.pushInPlace response = (.error e, a) →
      a.bytes = s.assembler.bytes) ∧
    (∀ response a, s.assembler.pushInPlace response = (.ok .complete, a) →
      a.totalSize = some a.bytes.length) ∧
    (s.assembler.complete = true → s.assembler.totalSize = some s.assembler.bytes.length) ∧
    ∀ bytes, s.assembler.finish = .ok bytes → bytes = s.accepted.flatten := by
  have hinv := assemblerInv_reachable h
  refine ⟨hinv.bounded, hinv.undeclared, ?_, ?_, hinv.complete, ?_⟩
  · intro response e a hpush
    exact (ResourceAssembler.pushInPlace_eq_error hpush).1
  · intro response a hpush
    rcases ResourceAssembler.pushInPlace_eq_ok hpush with
      ⟨-, -, hprogress⟩ | ⟨hheader, hchunk, hprogress, rfl⟩
    · exact absurd rfl hprogress
    · have hdone : response.complete = true := by
        by_contra hdone
        rw [if_neg hdone] at hprogress
        cases hprogress
      exact congrArg some ((ResourceAssembler.length_accept hheader hchunk).2.2 hdone).symm
  · intro bytes hfinish
    unfold ResourceAssembler.finish at hfinish
    split_ifs at hfinish
    cases hfinish
    exact hinv.assembled

/-- A chunk of a resource of three bytes. -/
def sampleChunk (nextOffset : ℕ) (complete : Bool) (data : List UInt8) : GetResourceResponse where
  resourceId := "resource"
  contentType := "image/png"
  data := data
  totalSize := 3
  nextOffset := nextOffset
  complete := complete
  cacheHit := true
  transferState := ResourceTransferState.ready.toWire
  retryAfterMs := 0

/-- The first reply has a wrong offset, and declares the total all the same. -/
def sampleReception : Reception :=
  [sampleChunk 7 false [1, 2], sampleChunk 2 false [1, 2], sampleChunk 3 true [3]].foldl
    Reception.push ⟨.new "resource", []⟩

theorem assembler_safe_sampleReception :
    sampleReception.assembler.finish = .ok [1, 2, 3] ∧
      [1, 2, 3] = sampleReception.accepted.flatten := by
  have hreachable : (receptionSystem "resource").Reachable sampleReception :=
    ⟨_, .step (.step (.step (.start rfl)
      (l := sampleChunk 7 false [1, 2]) rfl) (l := sampleChunk 2 false [1, 2]) rfl)
      (l := sampleChunk 3 true [3]) rfl⟩
  have hfinish : sampleReception.assembler.finish = .ok [1, 2, 3] := by decide +kernel
  exact ⟨hfinish, (assembler_safe hreachable).2.2.2.2.2 _ hfinish⟩

end WeatherApp
