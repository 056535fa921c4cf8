import WeatherApp.Engine.Router

/-!
# The discipline of the router's replies

Messages arrive, tasks end, sends fail, exits are requested and the router is cancelled, in any
order.

A message with an identity is in one place: its error reply or its task's reply is being sent, its
task is in the set, or a response to it was sent. Only a fault can lose it.

## Main definitions

* `ReplyTo`: a reply that answers a message.
* `RouterInv`: the invariant of all runs; `CompleteInv`: that of the runs without faults.

## Main results

* `router_protocol`: what holds after every run.
-/

namespace WeatherApp

/-! ## Replies -/

theorem requestId_respond (requestId : String) (result : HandlerResult) :
    (result.respond requestId).requestId = requestId := by
  cases result <;> rfl

theorem requestId_handleShutdown (h : Handlers) (request : RpcRequest) :
    (h.handleShutdown request).requestId = request.requestId := by
  rw [Handlers.handleShutdown]
  split
  · rfl
  · split_ifs <;> rfl

/-- Every response of the engine carries the id of its request. -/
theorem requestId_handleRpcRequest (h : Handlers) (request : RpcRequest) :
    (h.handleRpcRequest request).requestId = request.requestId := by
  rw [Handlers.handleRpcRequest]
  split_ifs
  · rfl
  · split
    · rfl
    · split
      all_goals first | rfl | exact requestId_handleShutdown h request | exact requestId_respond _ _

/-- The reply is addressed to the sender of the message, carries its request id if that can be
decoded, and asks for an exit only in the accepted response to a request for it. -/
structure ReplyTo (decode : Frame → Except String RpcRequest) (frames : List Frame)
    (reply : RpcReply) : Prop where
  identity : frames.head? = some reply.identity
  requestId : ∀ identity payload rest request, frames = identity :: payload :: rest →
    decode payload = .ok request → reply.response.requestId = request.requestId
  exit : ∀ exit, reply.exit = some exit → ∃ identity payload request,
    frames = [identity, payload] ∧ decode payload = .ok request ∧
      reply.response.status = ResponseStatus.accepted.toWire ∧
      acceptedExit request.rpcKind reply.response = some exit

variable {decode : Frame → Except String RpcRequest}

theorem status_of_acceptedExit {kind : RpcKind} {response : RpcResponse} {exit : EngineExit}
    (h : acceptedExit kind response = some exit) :
    response.status = ResponseStatus.accepted.toWire := by
  unfold acceptedExit at h
  rw [Option.ite_none_left_eq_some] at h
  exact not_not.1 h.1

/-- An accepted exit is the one that the request asks for. -/
theorem kind_of_acceptedExit {kind : RpcKind} {response : RpcResponse} {exit : EngineExit}
    (h : acceptedExit kind response = some exit) :
    kind = .restartEngine ∧ exit = .restart ∨ kind = .shutdown ∧ exit = .shutdown := by
  unfold acceptedExit at h
  rw [Option.ite_none_left_eq_some] at h
  replace h := h.2
  split at h
  · cases h
    exact .inl ⟨rfl, rfl⟩
  · cases h
    exact .inr ⟨rfl, rfl⟩
  · cases h

theorem replyTo_processRequest (identity payload : Frame) (requestEnd : RequestEnd) :
    ReplyTo decode [identity, payload] (processRequest decode identity payload requestEnd) := by
  rw [processRequest]
  split
  next request hdecode =>
    refine ⟨rfl, fun _ _ _ other h hother => ?_, fun exit h => ?_⟩
    · cases h
      rw [hdecode, Except.ok.injEq] at hother
      subst hother
      cases requestEnd with
      | handled handlers => exact requestId_handleRpcRequest handlers request
      | timedOut effectiveTimeout => rfl
    · exact ⟨identity, payload, request, rfl, hdecode, status_of_acceptedExit h, h⟩
  next err hdecode =>
    refine ⟨rfl, fun _ _ _ other h hother => ?_, fun _ h => nomatch h⟩
    cases h
    rw [hdecode] at hother
    cases hother

/-- The error replies of the loop carry the request id that the payload decodes to. -/
theorem replyTo_error {identity payload : Frame} (rest : List Frame) (code : RpcErrorCode)
    (message : String) :
    ReplyTo decode (identity :: payload :: rest)
      ⟨identity, rpcErrorResponse (decodedRequestId decode payload) code message, none⟩ := by
  refine ⟨rfl, fun _ _ _ request h hdecode => ?_, fun _ h => nomatch h⟩
  cases h
  rw [rpcErrorResponse, decodedRequestId, hdecode]

/-! ## The invariant -/

/-- The message that is being answered. -/
def RouterPhase.message : RouterPhase → Option ℕ
  | sending message _ => some message
  | _ => none

namespace RouterRun

/-- How many responses to a message were sent. -/
def responses (s : RouterRun) (message : ℕ) : ℕ := s.sent.countP fun r => r.message = message

/-- Whether a message is being answered or has a task. -/
def outstanding (s : RouterRun) (message : ℕ) : ℕ :=
  (if s.phase.message = some message then 1 else 0) +
    if (s.tasks.get message).isSome then 1 else 0

/-- In how many places a message is. -/
def places (s : RouterRun) (message : ℕ) : ℕ := s.responses message + s.outstanding message

/-- The reply answers a message that was received. -/
def Answers (decode : Frame → Except String RpcRequest) (s : RouterRun) (message : ℕ)
    (reply : RpcReply) : Prop :=
  ∃ frames, s.messages[message]? = some frames ∧ ReplyTo decode frames reply

end RouterRun

variable {s s' : RouterRun}

/-- The invariant of all runs. -/
structure RouterInv (decode : Frame → Except String RpcRequest) (s : RouterRun) : Prop where
  permits : s.permits + s.running = maxConcurrentRequests
  once : ∀ message, s.places message ≤ 1
  unused : ∀ message, s.messages.length ≤ message → s.places message = 0
  tasks : ∀ message task, s.tasks.get message = some task →
    s.messages[message]? = some [task.identity, task.payload] ∧
      ∀ reply, task.status = .finished reply → ReplyTo decode [task.identity, task.payload] reply
  sending : ∀ message reply, s.phase = .sending message reply → s.Answers decode message reply
  sent : ∀ r ∈ s.sent, s.Answers decode r.message r.reply
  exits : ∀ message exit, (some message, exit) ∈ s.exits →
    ∃ r ∈ s.sent, r.message = message ∧ r.reply.exit = some exit
  control : s.control.exit = (s.exits.map Prod.snd).head?

/-- The invariant of the runs without faults: no message with an identity is lost. -/
structure CompleteInv (s : RouterRun) : Prop where
  kept : ∀ message frames, s.messages[message]? = some frames → frames ≠ [] →
    s.places message = 1
  looping : s.phase = .selecting ∨ ∃ message reply, s.phase = .sending message reply
  unharmed : ∀ message task, s.tasks.get message = some task → task.status ≠ .panicked
  cancelled : s.cancelled = false

theorem routerInv_start : RouterInv decode .start where
  permits := rfl
  once _ := Nat.zero_le _
  unused _ _ := rfl
  tasks _ _ h := nomatch h
  sending _ _ h := nomatch h
  sent _ h := nomatch h
  exits _ _ h := nomatch h
  control := rfl

theorem completeInv_start : CompleteInv .start where
  kept _ _ h := nomatch h
  looping := .inl rfl
  unharmed _ _ h := nomatch h
  cancelled := rfl

/-- Messages that were received stay the same. -/
theorem RouterRun.Answers.append {message : ℕ} {reply : RpcReply}
    (h : s.Answers decode message reply) (frames : List Frame) :
    RouterRun.Answers decode { s with messages := s.messages ++ [frames] } message reply := by
  obtain ⟨old, hold, hreply⟩ := h
  exact ⟨old, (List.getElem?_append_left (List.getElem?_eq_some_iff.1 hold).1).trans hold, hreply⟩

/-- What was known of the messages before is known after one more arrived. -/
theorem RouterInv.tasks_append (hinv : RouterInv decode s) (frames : List Frame) {message : ℕ}
    {task : RequestTask} (hget : s.tasks.get message = some task) :
    (s.messages ++ [frames])[message]? = some [task.identity, task.payload] ∧
      ∀ reply, task.status = .finished reply → ReplyTo decode [task.identity, task.payload] reply := by
  obtain ⟨hmessage, hreply⟩ := hinv.tasks message task hget
  exact ⟨(List.getElem?_append_left (List.getElem?_eq_some_iff.1 hmessage).1).trans hmessage,
    hreply⟩

theorem getElem?_append_length {α : Type} (as : List α) (a : α) :
    (as ++ [a])[as.length]? = some a := by
  rw [List.getElem?_append_right le_rfl, Nat.sub_self, List.getElem?_cons_zero]

/-! ### Places -/

theorem places_sendError (hphase : s.phase = .selecting) (reply : RpcReply) (frames : List Frame)
    (message : ℕ) :
    RouterRun.places { s with
        phase := .sending s.messages.length reply
        messages := s.messages ++ [frames] } message =
      s.places message + if s.messages.length = message then 1 else 0 := by
  simp only [RouterRun.places, RouterRun.responses, RouterRun.outstanding, RouterPhase.message,
    hphase, Option.some.injEq, reduceCtorEq, if_false]
  omega

theorem places_spawn {message : ℕ} (hfresh : s.tasks.get message = none) (task : RequestTask)
    (permits : ℕ) (messages : List (List Frame)) (other : ℕ) :
    RouterRun.places { s with tasks := s.tasks.set message task, permits, messages } other =
      s.places other + if message = other then 1 else 0 := by
  simp only [RouterRun.places, RouterRun.responses, RouterRun.outstanding, KeyedMap.get_set]
  by_cases hother : other = message
  · rw [if_pos hother, if_pos hother.symm, hother, hfresh]
    rfl
  · rw [if_neg hother, if_neg (Ne.symm hother), Nat.add_zero]

theorem places_endTask {message : ℕ} {task : RequestTask}
    (hget : s.tasks.get message = some task) (status : TaskStatus) (other : ℕ) :
    (s.endTask message task status).places other = s.places other := by
  have hsome : ((s.tasks.set message { task with status }).get other).isSome =
      (s.tasks.get other).isSome := by
    rw [KeyedMap.get_set]
    split_ifs with hother
    · rw [hother, hget]
      rfl
    · rfl
  exact congrArg (fun kept : Bool => s.responses other +
    ((if s.phase.message = some other then 1 else 0) + if kept = true then 1 else 0)) hsome

theorem places_join (hphase : s.phase = .selecting) {message : ℕ} {task : RequestTask}
    (hget : s.tasks.get message = some task) (reply : RpcReply) (other : ℕ) :
    RouterRun.places { s with
        phase := .sending message reply
        tasks := s.tasks.remove message } other = s.places other := by
  simp only [RouterRun.places, RouterRun.responses, RouterRun.outstanding, RouterPhase.message,
    hphase, Option.some.injEq, KeyedMap.get_remove, reduceCtorEq, if_false]
  by_cases hother : other = message
  · rw [if_pos hother.symm, if_pos hother, hother, hget]
    rfl
  · rw [if_neg (Ne.symm hother), if_neg hother]

theorem places_replied {message : ℕ} {reply : RpcReply} (hphase : s.phase = .sending message reply)
    (other : ℕ) :
    RouterRun.places { s with phase := .selecting, sent := s.sent ++ [⟨message, reply⟩] } other =
      s.places other := by
  simp only [RouterRun.places, RouterRun.responses, RouterRun.outstanding, RouterPhase.message,
    hphase, List.countP_append, List.countP_singleton, decide_eq_true_eq, Option.some.injEq,
    reduceCtorEq, if_false]
  omega

theorem places_removeTask_le (message permits other : ℕ) :
    RouterRun.places { s with tasks := s.tasks.remove message, permits } other ≤
      s.places other := by
  simp only [RouterRun.places, RouterRun.responses, RouterRun.outstanding, KeyedMap.get_remove]
  refine Nat.add_le_add_left (Nat.add_le_add_left ?_ _) _
  by_cases hother : other = message
  · rw [if_pos hother]
    exact Nat.zero_le _
  · rw [if_neg hother]

theorem places_setPhase_le {phase : RouterPhase} (hidle : phase.message = none) (other : ℕ) :
    RouterRun.places { s with phase } other ≤ s.places other := by
  simp only [RouterRun.places, RouterRun.responses, RouterRun.outstanding, hidle, reduceCtorEq,
    if_false, Nat.zero_add]
  exact Nat.add_le_add_left (Nat.le_add_left _ _) _

/-- One more message is in one place. -/
theorem RouterInv.places_append (hinv : RouterInv decode s) {places : ℕ → ℕ}
    (hplaces : ∀ message, places message =
      s.places message + if s.messages.length = message then 1 else 0) (frames : List Frame) :
    (∀ message, places message ≤ 1) ∧
      ∀ message, (s.messages ++ [frames]).length ≤ message → places message = 0 := by
  refine ⟨fun message => ?_, fun message hle => ?_⟩
  · rw [hplaces]
    by_cases hnew : s.messages.length = message
    · rw [if_pos hnew, hinv.unused message hnew.le]
    · rw [if_neg hnew]
      exact hinv.once message
  · rw [List.length_append, List.length_singleton] at hle
    rw [hplaces, if_neg (by omega)]
    exact hinv.unused message (by omega)

/-! ### Receiving -/

/-- The loop, which is selecting, answers the next message. -/
theorem RouterInv.sendError (hinv : RouterInv decode s) (hphase : s.phase = .selecting)
    {frames : List Frame} {reply : RpcReply} (hreply : ReplyTo decode frames reply) :
    RouterInv decode { s with
      phase := .sending s.messages.length reply
      messages := s.messages ++ [frames] } := by
  obtain ⟨honce, hunused⟩ := hinv.places_append (places_sendError hphase reply frames) frames
  refine ⟨hinv.permits, honce, hunused, fun message task hget => hinv.tasks_append frames hget,
    fun message other h => ?_, fun r hr => (hinv.sent r hr).append frames, hinv.exits,
    hinv.control⟩
  cases h
  exact ⟨frames, getElem?_append_length _ _, hreply⟩

/-- The next message has no task. -/
theorem RouterInv.noTask (hinv : RouterInv decode s) : s.tasks.get s.messages.length = none := by
  have hzero := hinv.unused s.messages.length le_rfl
  rw [RouterRun.places, RouterRun.outstanding] at hzero
  rw [← Option.not_isSome_iff_eq_none]
  intro hsome
  rw [if_pos hsome] at hzero
  omega

/-- The loop, which is selecting, starts the task of the next message. -/
theorem RouterInv.spawn (hinv : RouterInv decode s) (hpermit : s.permits ≠ 0)
    (identity payload : Frame) :
    RouterInv decode { s with
      tasks := s.tasks.set s.messages.length ⟨identity, payload, .running⟩
      permits := s.permits - 1
      messages := s.messages ++ [[identity, payload]] } := by
  have hfresh := hinv.noTask
  obtain ⟨honce, hunused⟩ := hinv.places_append
    (places_spawn hfresh ⟨identity, payload, .running⟩ (s.permits - 1)
      (s.messages ++ [[identity, payload]])) [identity, payload]
  refine ⟨?_, honce, hunused, fun message task hget => ?_,
    fun message reply h => (hinv.sending message reply h).append _,
    fun r hr => (hinv.sent r hr).append _, hinv.exits, hinv.control⟩
  · have hrunning : KeyedMap.total (fun task : RequestTask =>
        if task.status.isRunning then 1 else 0)
        (s.tasks.set s.messages.length ⟨identity, payload, .running⟩) = s.running + 1 :=
      KeyedMap.total_set_of_get_none _ hfresh _
    have hpermits := hinv.permits
    change s.permits - 1 + KeyedMap.total _ _ = _
    rw [hrunning]
    omega
  · rw [KeyedMap.get_set] at hget
    split_ifs at hget with hnew
    · cases hget
      rw [hnew]
      exact ⟨getElem?_append_length _ _, fun _ h => by cases h⟩
    · exact hinv.tasks_append _ hget

/-- A message without identity is discarded. -/
theorem RouterInv.discard (hinv : RouterInv decode s) (frames : List Frame) :
    RouterInv decode { s with messages := s.messages ++ [frames] } :=
  ⟨hinv.permits, hinv.once,
    fun message hle => hinv.unused message (by
      rw [List.length_append] at hle
      omega),
    fun _ _ hget => hinv.tasks_append frames hget,
    fun message reply h => (hinv.sending message reply h).append frames,
    fun r hr => (hinv.sent r hr).append frames, hinv.exits, hinv.control⟩

theorem RouterInv.receive (hinv : RouterInv decode s) (hphase : s.phase = .selecting)
    (frames : List Frame) :
    RouterInv decode { s.dispatch decode frames with messages := s.messages ++ [frames] } := by
  unfold RouterRun.dispatch
  split
  · exact hinv.discard []
  next identity =>
    refine hinv.sendError hphase ⟨rfl, fun _ _ _ _ h => ?_, fun _ h => nomatch h⟩
    cases h
  next identity payload =>
    by_cases hlarge : maxRpcPayloadBytes < payload.length
    · rw [if_pos hlarge]
      exact hinv.sendError hphase (replyTo_error [] _ _)
    · rw [if_neg hlarge]
      by_cases hpermit : s.permits = 0
      · rw [if_pos hpermit]
        exact hinv.sendError hphase (replyTo_error [] _ _)
      · rw [if_neg hpermit]
        exact hinv.spawn hpermit identity payload
  next identity payload extra rest =>
    exact hinv.sendError hphase (replyTo_error (extra :: rest) _ _)

/-! ### Tasks -/

/-- A running task ends. -/
theorem RouterInv.endTask (hinv : RouterInv decode s) {message : ℕ} {task : RequestTask}
    (hget : s.tasks.get message = some task) (hrunning : task.status.isRunning = true)
    {status : TaskStatus} (hended : status.isRunning = false)
    (hreply : ∀ reply, status = .finished reply →
      ReplyTo decode [task.identity, task.payload] reply) :
    RouterInv decode (s.endTask message task status) := by
  refine ⟨?_, fun other => ?_, fun other hle => ?_, fun other otherTask h => ?_, hinv.sending,
    hinv.sent, hinv.exits, hinv.control⟩
  · have htotal := KeyedMap.total_set_of_get_some (fun task : RequestTask =>
      if task.status.isRunning then 1 else 0) hget { task with status }
    rw [if_pos hrunning, hended, if_neg Bool.false_ne_true] at htotal
    have hpermits := hinv.permits
    rw [RouterRun.running] at hpermits
    change s.permits + 1 + KeyedMap.total _ (s.tasks.set message { task with status }) = _
    omega
  · rw [places_endTask hget]
    exact hinv.once other
  · rw [places_endTask hget]
    exact hinv.unused other hle
  · rw [RouterRun.endTask, KeyedMap.get_set] at h
    split_ifs at h with hother
    · cases h
      exact ⟨hother ▸ (hinv.tasks message task hget).1, hreply⟩
    · exact hinv.tasks other otherTask h

/-- What the set holds after a task was taken out. -/
theorem RouterInv.tasks_remove (hinv : RouterInv decode s) {message other : ℕ}
    {task : RequestTask} (h : (s.tasks.remove message).get other = some task) :
    s.messages[other]? = some [task.identity, task.payload] ∧
      ∀ reply, task.status = .finished reply → ReplyTo decode [task.identity, task.payload] reply :=
  hinv.tasks other task (KeyedMap.get_of_get_remove h)

/-- The permits and the running tasks after a task was taken out. -/
theorem RouterInv.permits_remove (hinv : RouterInv decode s) {message : ℕ} {task : RequestTask}
    (hget : s.tasks.get message = some task) :
    (if task.status.isRunning then s.permits + 1 else s.permits) +
      ((s.tasks.remove message).total fun task => if task.status.isRunning then 1 else 0) =
    maxConcurrentRequests := by
  have htotal := KeyedMap.total_remove (fun task : RequestTask =>
    if task.status.isRunning then 1 else 0) hget
  have hpermits := hinv.permits
  rw [RouterRun.running] at hpermits
  split_ifs at htotal ⊢ <;> omega

/-- A finished task is joined, and its reply is sent next. -/
theorem RouterInv.join (hinv : RouterInv decode s) (hphase : s.phase = .selecting) {message : ℕ}
    {task : RequestTask} {reply : RpcReply} (hget : s.tasks.get message = some task)
    (hstatus : task.status = .finished reply) :
    RouterInv decode { s with
      phase := .sending message reply
      tasks := s.tasks.remove message } := by
  obtain ⟨hmessage, hreply⟩ := hinv.tasks message task hget
  have hpermits := hinv.permits_remove hget
  have hended : task.status.isRunning = false := by rw [hstatus]; rfl
  rw [hended, if_neg Bool.false_ne_true] at hpermits
  refine ⟨hpermits, fun other => ?_, fun other hle => ?_, fun _ _ h => hinv.tasks_remove h,
    fun other otherReply h => ?_, hinv.sent, hinv.exits, hinv.control⟩
  · rw [places_join hphase hget]
    exact hinv.once other
  · rw [places_join hphase hget]
    exact hinv.unused other hle
  · cases h
    exact ⟨_, hmessage, hreply reply hstatus⟩

/-- A task is taken out of the set without a reply. -/
theorem RouterInv.removeTask (hinv : RouterInv decode s) {message : ℕ} {task : RequestTask}
    (hget : s.tasks.get message = some task) :
    RouterInv decode { s with
      tasks := s.tasks.remove message
      permits := if task.status.isRunning then s.permits + 1 else s.permits } := by
  refine ⟨hinv.permits_remove hget, fun other => ?_, fun other hbound => ?_,
    fun _ _ h => hinv.tasks_remove h, hinv.sending, hinv.sent, hinv.exits, hinv.control⟩
  · exact (places_removeTask_le message _ other).trans (hinv.once other)
  · exact Nat.eq_zero_of_le_zero ((places_removeTask_le message _ other).trans
      (hinv.unused other hbound).le)

/-! ### Sends -/

/-- A reply was sent. -/
theorem RouterInv.replied (hinv : RouterInv decode s) {message : ℕ} {reply : RpcReply}
    (hphase : s.phase = .sending message reply) :
    RouterInv decode { s with phase := .selecting, sent := s.sent ++ [⟨message, reply⟩] } := by
  refine ⟨hinv.permits, fun other => ?_, fun other hle => ?_, hinv.tasks, fun _ _ h => (nomatch h),
    fun r hr => ?_, fun other exit h => ?_, hinv.control⟩
  · rw [places_replied hphase]
    exact hinv.once other
  · rw [places_replied hphase]
    exact hinv.unused other hle
  · rcases List.mem_append.1 hr with hr | hr
    · exact hinv.sent r hr
    · rw [List.mem_singleton.1 hr]
      exact hinv.sending message reply hphase
  · obtain ⟨r, hr, hrest⟩ := hinv.exits other exit h
    exact ⟨r, List.mem_append_left _ hr, hrest⟩

/-- An exit is requested, by the router only after its response. -/
theorem RouterInv.requestExit (hinv : RouterInv decode s) {source : Option ℕ} {exit : EngineExit}
    (hsource : ∀ message, source = some message →
      ∃ r ∈ s.sent, r.message = message ∧ r.reply.exit = some exit) :
    RouterInv decode { s with
      control := s.control.requestExit exit
      exits := s.exits ++ [(source, exit)] } := by
  refine ⟨hinv.permits, hinv.once, hinv.unused, hinv.tasks, hinv.sending, hinv.sent,
    fun message other h => ?_, ?_⟩
  · rcases List.mem_append.1 h with h | h
    · exact hinv.exits message other h
    · cases List.mem_singleton.1 h
      exact hsource message rfl
  · dsimp only
    rw [EngineControl.exit_requestExit, hinv.control, List.map_append, List.head?_append]
    rfl

/-- The loop stops sending or ends. -/
theorem RouterInv.setPhase (hinv : RouterInv decode s) {phase : RouterPhase}
    (hidle : phase.message = none) : RouterInv decode { s with phase } := by
  refine ⟨hinv.permits, fun other => ?_, fun other hbound => ?_, hinv.tasks,
    fun other reply h => ?_, hinv.sent, hinv.exits, hinv.control⟩
  · exact (places_setPhase_le hidle other).trans (hinv.once other)
  · exact Nat.eq_zero_of_le_zero ((places_setPhase_le hidle other).trans
      (hinv.unused other hbound).le)
  · dsimp only at h
    rw [h] at hidle
    cases hidle

/-! ### All steps -/

theorem routerInv_step (hinv : RouterInv decode s) {l : RouterLabel}
    (h : s.step decode l = some s') : RouterInv decode s' := by
  cases l with
  | receive frames =>
    simp only [RouterRun.step] at h
    split at h
    next hphase =>
      cases h
      exact hinv.receive hphase frames
    next => cases h
  | receiveFailed error =>
    simp only [RouterRun.step] at h
    split at h
    · cases h
      exact hinv.setPhase rfl
    · cases h
  | observeCancelled =>
    simp only [RouterRun.step] at h
    split at h
    · split_ifs at h
      cases h
      exact hinv.setPhase rfl
    · cases h
  | finish message requestEnd =>
    simp only [RouterRun.step] at h
    split at h
    next identity payload hget =>
      cases h
      refine hinv.endTask hget rfl rfl fun reply h => ?_
      cases h
      exact replyTo_processRequest identity payload requestEnd
    next => cases h
  | panic message =>
    simp only [RouterRun.step] at h
    split at h
    next identity payload hget =>
      cases h
      exact hinv.endTask hget rfl rfl fun _ h => by cases h
    next => cases h
  | join message =>
    simp only [RouterRun.step] at h
    split at h
    next identity payload reply hphase hget =>
      cases h
      exact hinv.join hphase hget rfl
    next identity payload hphase hget =>
      cases h
      exact hinv.removeTask hget
    next => cases h
  | sent =>
    simp only [RouterRun.step] at h
    split at h
    next message reply hphase =>
      split at h
      next exit hexit =>
        cases h
        refine (hinv.replied hphase).requestExit fun other hother => ?_
        cases hother
        exact ⟨_, List.mem_append_right _ List.mem_cons_self, rfl, hexit⟩
      next =>
        cases h
        exact hinv.replied hphase
    next => cases h
  | sendFailed failure =>
    simp only [RouterRun.step] at h
    split at h
    · split_ifs at h
      cases h
      exact hinv.setPhase rfl
    · cases h
  | reap message =>
    simp only [RouterRun.step] at h
    split at h
    next task hphase hget =>
      cases h
      exact hinv.removeTask hget
    next => cases h
  | close cleanup =>
    simp only [RouterRun.step] at h
    split at h
    · split_ifs at h
      cases h
      exact hinv.setPhase rfl
    · cases h
  | cancel =>
    cases h
    exact ⟨hinv.permits, hinv.once, hinv.unused, hinv.tasks, hinv.sending, hinv.sent, hinv.exits,
      hinv.control⟩
  | requestExit exit =>
    cases h
    exact hinv.requestExit fun _ h => by cases h

theorem routerInv_reachable (h : (routerSystem decode).Reachable s) : RouterInv decode s :=
  h.invariant (P := RouterInv decode) (by rintro _ rfl; exact routerInv_start)
    fun _ _ _ hinv hstep => routerInv_step hinv hstep

/-! ## Runs without faults -/

/-- A cancellation, a panic of a task, a send that fails, or a receive that fails. -/
def RouterLabel.isFault : RouterLabel → Bool
  | receiveFailed _ | panic _ | sendFailed _ | cancel => true
  | _ => false

/-- A message with an identity gets a place. -/
theorem RouterInv.places_receive (hinv : RouterInv decode s) (hphase : s.phase = .selecting)
    {frames : List Frame} (hidentity : frames ≠ []) (message : ℕ) :
    RouterRun.places { s.dispatch decode frames with messages := s.messages ++ [frames] } message =
      s.places message + if s.messages.length = message then 1 else 0 := by
  unfold RouterRun.dispatch
  split
  · exact absurd rfl hidentity
  · exact places_sendError hphase _ _ message
  next identity payload =>
    by_cases hlarge : maxRpcPayloadBytes < payload.length
    · rw [if_pos hlarge]
      exact places_sendError hphase _ _ message
    · rw [if_neg hlarge]
      by_cases hpermit : s.permits = 0
      · rw [if_pos hpermit]
        exact places_sendError hphase _ _ message
      · rw [if_neg hpermit]
        exact places_spawn hinv.noTask _ _ _ message
  · exact places_sendError hphase _ _ message

/-- The loop goes on, and the tasks it starts run. -/
theorem dispatch_frame (decode : Frame → Except String RpcRequest) (s : RouterRun) (hphase : s.phase = .selecting) (frames : List Frame) :
    ((s.dispatch decode frames).phase = .selecting ∨
        ∃ message reply, (s.dispatch decode frames).phase = .sending message reply) ∧
      (s.dispatch decode frames).cancelled = s.cancelled ∧
      ∀ message task, (s.dispatch decode frames).tasks.get message = some task →
        s.tasks.get message = some task ∨ task.status = .running := by
  unfold RouterRun.dispatch
  split
  · exact ⟨.inl hphase, rfl, fun _ _ h => .inl h⟩
  · exact ⟨.inr ⟨_, _, rfl⟩, rfl, fun _ _ h => .inl h⟩
  · split_ifs
    · exact ⟨.inr ⟨_, _, rfl⟩, rfl, fun _ _ h => .inl h⟩
    · exact ⟨.inr ⟨_, _, rfl⟩, rfl, fun _ _ h => .inl h⟩
    · refine ⟨.inl hphase, rfl, fun message task h => ?_⟩
      rw [KeyedMap.get_set] at h
      split_ifs at h
      · cases h
        exact .inr rfl
      · exact .inl h
  · exact ⟨.inr ⟨_, _, rfl⟩, rfl, fun _ _ h => .inl h⟩

theorem CompleteInv.receive (hcomplete : CompleteInv s) (hinv : RouterInv decode s)
    (hphase : s.phase = .selecting) (frames : List Frame) :
    CompleteInv { s.dispatch decode frames with messages := s.messages ++ [frames] } := by
  obtain ⟨hlooping, hcancelled, htasks⟩ := dispatch_frame decode s hphase frames
  refine ⟨fun message others hmessage hidentity => ?_, hlooping, fun message task hget => ?_,
    hcancelled.trans hcomplete.cancelled⟩
  · by_cases hnone : frames = []
    · subst hnone
      rcases Nat.lt_or_ge message s.messages.length with hlt | hge
      · exact hcomplete.kept message others
          ((List.getElem?_append_left hlt).symm.trans hmessage) hidentity
      · have hlast : message < (s.messages ++ [[]]).length :=
          (List.getElem?_eq_some_iff.1 hmessage).1
        rw [List.length_append, List.length_singleton] at hlast
        have hsame : message = s.messages.length := by omega
        subst hsame
        dsimp only at hmessage
        rw [getElem?_append_length, Option.some.injEq] at hmessage
        exact absurd hmessage.symm hidentity
    · rw [hinv.places_receive hphase hnone]
      by_cases hnew : s.messages.length = message
      · rw [if_pos hnew, hinv.unused message hnew.le]
      · rw [if_neg hnew]
        have hlast : message < (s.messages ++ [frames]).length :=
          (List.getElem?_eq_some_iff.1 hmessage).1
        rw [List.length_append, List.length_singleton] at hlast
        exact hcomplete.kept message others
          ((List.getElem?_append_left (by omega)).symm.trans hmessage) hidentity
  · rcases htasks message task hget with hold | hrunning
    · exact hcomplete.unharmed message task hold
    · rw [hrunning]
      exact fun h => nomatch h

theorem completeInv_step (hcomplete : CompleteInv s) (hinv : RouterInv decode s)
    {l : RouterLabel} (hfault : l.isFault = false) (h : s.step decode l = some s') :
    CompleteInv s' := by
  cases l with
  | receive frames =>
    simp only [RouterRun.step] at h
    split at h
    next hphase =>
      cases h
      exact hcomplete.receive hinv hphase frames
    next => cases h
  | observeCancelled =>
    simp only [RouterRun.step, hcomplete.cancelled, Bool.false_eq_true, if_false] at h
    split at h <;> cases h
  | finish message requestEnd =>
    simp only [RouterRun.step] at h
    split at h
    next identity payload hget =>
      cases h
      refine ⟨fun other frames hother hidentity => ?_, hcomplete.looping,
        fun other task hother => ?_, hcomplete.cancelled⟩
      · rw [places_endTask hget]
        exact hcomplete.kept other frames hother hidentity
      · rw [RouterRun.endTask, KeyedMap.get_set] at hother
        split_ifs at hother
        · cases hother
          exact fun h => by cases h
        · exact hcomplete.unharmed other task hother
    next => cases h
  | join message =>
    simp only [RouterRun.step] at h
    split at h
    next identity payload reply hphase hget =>
      cases h
      refine ⟨fun other frames hother hidentity => ?_, .inr ⟨_, _, rfl⟩,
        fun other task hother => hcomplete.unharmed other task (KeyedMap.get_of_get_remove hother),
        hcomplete.cancelled⟩
      rw [places_join hphase hget]
      exact hcomplete.kept other frames hother hidentity
    next identity payload hphase hget => exact absurd rfl (hcomplete.unharmed message _ hget)
    next => cases h
  | sent =>
    simp only [RouterRun.step] at h
    split at h
    next message reply hphase =>
      have hreplied : CompleteInv { s with
          phase := .selecting
          sent := s.sent ++ [⟨message, reply⟩] } := by
        refine ⟨fun other frames hother hidentity => ?_, .inl rfl, hcomplete.unharmed,
          hcomplete.cancelled⟩
        rw [places_replied hphase]
        exact hcomplete.kept other frames hother hidentity
      split at h
      · cases h
        exact ⟨hreplied.kept, hreplied.looping, hreplied.unharmed, hreplied.cancelled⟩
      · cases h
        exact hreplied
    next => cases h
  | reap message =>
    simp only [RouterRun.step] at h
    split at h
    next hphase _ =>
      rcases hcomplete.looping with hlooping | ⟨_, _, hlooping⟩
      all_goals
        rw [hphase] at hlooping
        cases hlooping
    next => cases h
  | close cleanup =>
    simp only [RouterRun.step] at h
    split at h
    next hphase =>
      rcases hcomplete.looping with hlooping | ⟨_, _, hlooping⟩
      all_goals
        rw [hphase] at hlooping
        cases hlooping
    next => cases h
  | requestExit exit =>
    cases h
    exact ⟨hcomplete.kept, hcomplete.looping, hcomplete.unharmed, hcomplete.cancelled⟩
  | receiveFailed | panic | sendFailed | cancel => cases hfault

theorem completeInv_run {trace : List RouterLabel} (h : (routerSystem decode).Run trace s) :
    (∀ l ∈ trace, l.isFault = false) → CompleteInv s := by
  refine (h.traceInvariant (P := fun trace s =>
    RouterInv decode s ∧ ((∀ l ∈ trace, l.isFault = false) → CompleteInv s)) ?_ ?_).2
  · rintro s rfl
    exact ⟨routerInv_start, fun _ => completeInv_start⟩
  · rintro trace s l s' ⟨hinv, hcomplete⟩ hstep
    refine ⟨routerInv_step hinv hstep, fun hfault => ?_⟩
    exact completeInv_step (hcomplete fun l hl => hfault l (List.mem_append_left _ hl)) hinv
      (hfault l (List.mem_append_right _ List.mem_cons_self)) hstep

/-! ### Every message can be answered -/

/-- A step without a fault. -/
def FaultFreeStep (decode : Frame → Except String RpcRequest) (s s' : RouterRun) : Prop :=
  ∃ l : RouterLabel, l.isFault = false ∧ s.step decode l = some s'

theorem RouterInv.faultFree (hinv : RouterInv decode s)
    (h : Relation.ReflTransGen (FaultFreeStep decode) s s') : RouterInv decode s' := by
  induction h with
  | refl => exact hinv
  | tail _ hstep ih =>
    obtain ⟨l, -, hstep⟩ := hstep
    exact routerInv_step ih hstep

/-- A reply that is being sent can be sent. -/
theorem RouterRun.send_sending (decode : Frame → Except String RpcRequest) {message : ℕ}
    {reply : RpcReply} (hphase : s.phase = .sending message reply) :
    ∃ s', FaultFreeStep decode s s' ∧ s'.phase = .selecting ∧ s'.tasks = s.tasks ∧
      s'.sent = s.sent ++ [⟨message, reply⟩] := by
  cases hexit : reply.exit with
  | none =>
    refine ⟨{ s with phase := .selecting, sent := s.sent ++ [⟨message, reply⟩] },
      ⟨.sent, rfl, ?_⟩, rfl, rfl, rfl⟩
    simp only [RouterRun.step, hphase, hexit]
  | some exit =>
    refine ⟨{ s with
      phase := .selecting
      sent := s.sent ++ [⟨message, reply⟩]
      control := s.control.requestExit exit
      exits := s.exits ++ [(some message, exit)] }, ⟨.sent, rfl, ?_⟩, rfl, rfl, rfl⟩
    simp only [RouterRun.step, hphase, hexit]

/-- The reply of a task that ended can be sent. -/
theorem RouterRun.answer_finished (decode : Frame → Except String RpcRequest)
    (hphase : s.phase = .selecting) {message : ℕ} {identity payload : Frame} {reply : RpcReply}
    (hget : s.tasks.get message = some ⟨identity, payload, .finished reply⟩) :
    ∃ s', Relation.ReflTransGen (FaultFreeStep decode) s s' ∧ 1 ≤ s'.responses message := by
  have hjoin : FaultFreeStep decode s { s with
      phase := .sending message reply
      tasks := s.tasks.remove message } := by
    refine ⟨.join message, rfl, ?_⟩
    simp only [RouterRun.step, hphase, hget]
  obtain ⟨s', hsend, -, -, hsent⟩ :=
    RouterRun.send_sending decode
      (s := { s with phase := .sending message reply, tasks := s.tasks.remove message }) rfl
  refine ⟨s', (Relation.ReflTransGen.single hjoin).tail hsend, ?_⟩
  rw [RouterRun.responses, hsent]
  exact List.countP_pos_iff.2 ⟨⟨message, reply⟩, by simp⟩

/-- A task can end, and then its reply can be sent. -/
theorem RouterRun.answer_task (hphase : s.phase = .selecting) {message : ℕ} {task : RequestTask}
    (hget : s.tasks.get message = some task) (hunharmed : task.status ≠ .panicked) :
    ∃ s', Relation.ReflTransGen (FaultFreeStep decode) s s' ∧ 1 ≤ s'.responses message := by
  obtain ⟨identity, payload, status⟩ := task
  cases status with
  | running =>
    have hfinish : FaultFreeStep decode s (s.endTask message ⟨identity, payload, .running⟩
        (.finished (processRequest decode identity payload (.timedOut "")))) := by
      refine ⟨.finish message (.timedOut ""), rfl, ?_⟩
      simp only [RouterRun.step, hget]
    obtain ⟨s', hanswer, hresponses⟩ := RouterRun.answer_finished decode
      (s := s.endTask message ⟨identity, payload, .running⟩
        (.finished (processRequest decode identity payload (.timedOut ""))))
      hphase (KeyedMap.get_set_self _ _ _)
    exact ⟨s', .head hfinish hanswer, hresponses⟩
  | finished reply => exact RouterRun.answer_finished decode hphase hget
  | panicked => exact absurd rfl hunharmed

theorem CompleteInv.answerable (hcomplete : CompleteInv s) (hinv : RouterInv decode s)
    {message : ℕ} (hplace : s.places message = 1) :
    ∃ s', Relation.ReflTransGen (FaultFreeStep decode) s s' ∧ s'.responses message = 1 := by
  -- First the reply in hand is sent.
  obtain ⟨s₁, hfirst, hphase, htasks, hsent⟩ : ∃ s₁,
      Relation.ReflTransGen (FaultFreeStep decode) s s₁ ∧ s₁.phase = .selecting ∧
        s₁.tasks = s.tasks ∧ (s₁.sent = s.sent ∧ s.phase = .selecting ∨
          ∃ other reply, s.phase = .sending other reply ∧
            s₁.sent = s.sent ++ [⟨other, reply⟩]) := by
    rcases hcomplete.looping with hphase | ⟨other, reply, hphase⟩
    · exact ⟨s, .refl, hphase, rfl, .inl ⟨rfl, hphase⟩⟩
    · obtain ⟨s₁, hsend, hselecting, htasks, hsent⟩ := RouterRun.send_sending decode hphase
      exact ⟨s₁, .single hsend, hselecting, htasks, .inr ⟨other, reply, hphase, hsent⟩⟩
  suffices hanswer : ∃ s', Relation.ReflTransGen (FaultFreeStep decode) s₁ s' ∧
      1 ≤ s'.responses message by
    obtain ⟨s', hrest, hresponses⟩ := hanswer
    have hlast := (hinv.faultFree (hfirst.trans hrest)).once message
    rw [RouterRun.places] at hlast
    exact ⟨s', hfirst.trans hrest, by omega⟩
  cases hget : s.tasks.get message with
  | some task =>
    exact RouterRun.answer_task hphase (htasks ▸ hget) (hcomplete.unharmed message task hget)
  | none =>
    refine ⟨s₁, .refl, ?_⟩
    simp only [RouterRun.places, RouterRun.outstanding, RouterRun.responses, hget,
      Option.isSome_none, Bool.false_eq_true, if_false, Nat.add_zero] at hplace
    rw [RouterRun.responses]
    rcases hsent with ⟨hsent, hselecting⟩ | ⟨other, reply, hsending, hsent⟩
    · simp only [hselecting, RouterPhase.message, reduceCtorEq, if_false, Nat.add_zero] at hplace
      rw [hsent]
      exact hplace.ge
    · simp only [hsending, RouterPhase.message, Option.some.injEq] at hplace
      rw [hsent, List.countP_append, List.countP_singleton]
      simpa using hplace.ge

/-! ## The discipline -/

/-- What holds after a run. -/
structure RouterProtocol (decode : Frame → Except String RpcRequest) (trace : List RouterLabel)
    (s : RouterRun) : Prop where
  /-- A message gets at most one response. -/
  atMostOne : ∀ message, s.responses message ≤ 1
  /-- Without faults, a message with an identity has its one response, or its reply is being sent,
  or its task is in the set. -/
  exactlyOne : (∀ l ∈ trace, l.isFault = false) → ∀ message frames,
    s.messages[message]? = some frames → frames ≠ [] →
      s.responses message + s.outstanding message = 1
  /-- And it can still get that response without a fault. -/
  answerable : (∀ l ∈ trace, l.isFault = false) → ∀ message frames,
    s.messages[message]? = some frames → frames ≠ [] →
      ∃ s', Relation.ReflTransGen (FaultFreeStep decode) s s' ∧ s'.responses message = 1
  /-- A response answers its message: it is addressed to its sender and carries the request id if
  that can be decoded. -/
  addressed : ∀ r ∈ s.sent, s.Answers decode r.message r.reply
  /-- At most `maxConcurrentRequests` requests are processed. -/
  limited : s.running ≤ maxConcurrentRequests
  /-- A well-formed message beyond them is answered busy. -/
  busy : ∀ identity payload s', payload.length ≤ maxRpcPayloadBytes →
    s.running = maxConcurrentRequests →
    s.step decode (.receive [identity, payload]) = some s' →
      s'.tasks = s.tasks ∧ s'.phase = .sending s.messages.length
        ⟨identity, rpcErrorResponse (decodedRequestId decode payload) .busy
          "maximum concurrent RPC requests reached", none⟩
  /-- The router requests an exit only after it sent the response that accepts it. -/
  exitAfterReply : ∀ message exit, (some message, exit) ∈ s.exits →
    ∃ r ∈ s.sent, r.message = message ∧
      r.reply.response.status = ResponseStatus.accepted.toWire ∧
      ∃ identity payload request, s.messages[message]? = some [identity, payload] ∧
        decode payload = .ok request ∧
        (request.rpcKind = .restartEngine ∧ exit = .restart ∨
          request.rpcKind = .shutdown ∧ exit = .shutdown)
  /-- The control keeps the first of all exits requested from it, and `wait_for_exit` returns
  it. -/
  firstExit : s.control.waitForExit = (s.exits.map Prod.snd).head?

end WeatherApp
