import WeatherApp.Engine.Lifecycle
import WeatherApp.Foundation.KeyedMap
import WeatherApp.Foundation.Run
import WeatherApp.Schema.Rpc

/-!
# The RPC router

`engine/src/server.rs` and `engine/src/handlers/envelope.rs`: one loop receives messages, starts a
task for each request, sends the replies of the tasks and asks for an engine exit after it has sent
the reply that accepts one. The decoder of requests, the signatures and the other request handlers
are parameters; a handler's response always carries the id of the request it was given.

## Main definitions

* `Handlers`, `handleRpcRequest`: the dispatch of a request.
* `processRequest`, `acceptedExit`: the task of a request.
* `RouterRun`, `routerSystem`: the loop with its tasks.
-/

namespace WeatherApp

/-- `MAX_RPC_PAYLOAD_BYTES`. -/
def maxRpcPayloadBytes : ℕ := 1024 * 1024

/-- `MAX_CONCURRENT_REQUESTS`. -/
def maxConcurrentRequests : ℕ := 64

/-- `SCHEMA_VERSION`. -/
def rpcSchemaVersion : String := "weather.schema.v1"

/-- The bytes of a frame. -/
abbrev Frame := List UInt8

/-! ## Responses -/

/-- `Engine::ok`. -/
def rpcOk (requestId : String) (payload : List UInt8) : RpcResponse :=
  ⟨requestId, ResponseStatus.ok.toWire, payload, none⟩

/-- `Engine::accepted`. -/
def rpcAccepted (requestId : String) (payload : List UInt8) : RpcResponse :=
  ⟨requestId, ResponseStatus.accepted.toWire, payload, none⟩

/-- `Engine::rpc_error_response`. -/
def rpcErrorResponse (requestId : String) (code : RpcErrorCode) (message : String) : RpcResponse :=
  ⟨requestId, ResponseStatus.error.toWire, [], some ⟨code.asStr, message⟩⟩

/-- What a request handler returns: the payload of an ok response, or an error. -/
inductive HandlerResult where
  | ok (payload : List UInt8)
  | error (code : RpcErrorCode) (message : String)

/-- The response that a handler builds for the request it was given. -/
def HandlerResult.respond (requestId : String) : HandlerResult → RpcResponse
  | ok payload => rpcOk requestId payload
  | error code message => rpcErrorResponse requestId code message

/-- The engine as `handle_rpc_request` uses it. -/
structure Handlers where
  /-- `resolve_hmac_key` and `verify_rpc_request_hmac`. -/
  verify : RpcRequest → Except String Unit
  /-- The encoded engine status. -/
  status : List UInt8
  /-- `ShutdownRequest::decode`, down to the owner token. -/
  decodeShutdown : List UInt8 → Except String (Option String)
  /-- The owner token of the launch. -/
  ownerToken : Option String
  /-- The handlers of the other kinds. -/
  handle : RpcKind → RpcRequest → HandlerResult

/-- `shutdown_owner_authorized`. -/
def shutdownOwnerAuthorized (actual requested : Option String) : Bool :=
  match requested with
  | none => true
  | some requested => actual = some requested

/-- `RpcKind::try_from(..).unwrap_or(Unspecified)`. -/
def RpcRequest.rpcKind (request : RpcRequest) : RpcKind :=
  (RpcKind.fromWire request.kind).getD .unspecified

namespace Handlers

/-- `handle_shutdown`. -/
def handleShutdown (h : Handlers) (request : RpcRequest) : RpcResponse :=
  match h.decodeShutdown request.payload with
  | .error err =>
    rpcErrorResponse request.requestId .badRequest s!"invalid shutdown payload: {err}"
  | .ok requested =>
    if shutdownOwnerAuthorized h.ownerToken requested then rpcAccepted request.requestId []
    else
      rpcErrorResponse request.requestId .ownerMismatch
        "engine ownership changed before conditional shutdown"

/-- `handle_rpc_request`. -/
def handleRpcRequest (h : Handlers) (request : RpcRequest) : RpcResponse :=
  if request.schemaVersion ≠ rpcSchemaVersion then
    rpcErrorResponse request.requestId .schemaVersion "unsupported schema version"
  else
    match h.verify request with
    | .error err => rpcErrorResponse request.requestId .auth err
    | .ok () =>
      match request.rpcKind with
      | .ping => rpcOk request.requestId []
      | .getEngineStatus => rpcOk request.requestId h.status
      | .restartEngine => rpcAccepted request.requestId []
      | .shutdown => h.handleShutdown request
      | .unspecified =>
        rpcErrorResponse request.requestId .badRequest "rpc kind is unspecified"
      | kind => (h.handle kind request).respond request.requestId

end Handlers

/-! ## The task of a request -/

/-- `accepted_exit`. -/
def acceptedExit (kind : RpcKind) (response : RpcResponse) : Option EngineExit :=
  if response.status ≠ ResponseStatus.accepted.toWire then none
  else
    match kind with
    | .restartEngine => some .restart
    | .shutdown => some .shutdown
    | _ => none

/-- `RpcReply`. -/
structure RpcReply where
  identity : Frame
  response : RpcResponse
  exit : Option EngineExit
  deriving DecidableEq, Repr

/-- How the handler of a request ends: with the engine as it was then, or by the timeout. -/
inductive RequestEnd where
  | handled (handlers : Handlers)
  | timedOut (effectiveTimeout : String)

/-- `process_request`. -/
def processRequest (decode : Frame → Except String RpcRequest) (identity payload : Frame)
    (requestEnd : RequestEnd) : RpcReply :=
  match decode payload with
  | .ok request =>
    let response :=
      match requestEnd with
      | .handled handlers => handlers.handleRpcRequest request
      | .timedOut effectiveTimeout =>
        rpcErrorResponse request.requestId .timeout
          s!"rpc request timed out after {effectiveTimeout}"
    ⟨identity, response, acceptedExit request.rpcKind response⟩
  | .error err =>
    ⟨identity, rpcErrorResponse "" .badRequest s!"invalid rpc request: {err}", none⟩

/-- `decoded_request_id`. -/
def decodedRequestId (decode : Frame → Except String RpcRequest) (payload : Frame) : String :=
  match decode payload with
  | .ok request => request.requestId
  | .error _ => ""

/-- `finish_with_cleanup`. -/
def finishWithCleanup (outcome cleanup : Except String Unit) (cleanupContext : String) :
    Except String Unit :=
  match outcome, cleanup with
  | .ok (), .ok () => .ok ()
  | .error error, .ok () => .error error
  | .ok (), .error error => .error s!"{cleanupContext}: {error}"
  | .error error, .error cleanupError => .error s!"{error}; {cleanupContext}: {cleanupError}"

/-! ## The loop -/

/-- Where the task of a request is. -/
inductive TaskStatus where
  /-- It runs and holds a permit. -/
  | running
  /-- It ended with a reply that is not joined. -/
  | finished (reply : RpcReply)
  | panicked
  deriving DecidableEq, Repr

/-- The task has not ended. -/
def TaskStatus.isRunning : TaskStatus → Bool
  | running => true
  | _ => false

/-- A member of the `requests` set. -/
structure RequestTask where
  identity : Frame
  payload : Frame
  status : TaskStatus
  deriving DecidableEq, Repr

/-- Where `run_router` is. -/
inductive RouterPhase where
  /-- In the `select!` of the loop. -/
  | selecting
  /-- In `send_back`, for the message with this number. -/
  | sending (message : ℕ) (reply : RpcReply)
  /-- After the loop: the tasks are aborted and joined. -/
  | draining (outcome : Except String Unit)
  | returned (outcome : Except String Unit)

/-- A response that was sent. -/
structure SentResponse where
  message : ℕ
  reply : RpcReply
  deriving DecidableEq, Repr

/-- The loop, its tasks and what it shares: the exit control and the cancellation. -/
structure RouterRun where
  phase : RouterPhase
  /-- The tasks, by the number of their message. -/
  tasks : KeyedMap ℕ RequestTask
  permits : ℕ
  control : EngineControl
  cancelled : Bool
  /-- The frames of the messages received, in order. -/
  messages : List (List Frame)
  /-- The responses sent, in order. -/
  sent : List SentResponse
  /-- The exits requested from the control, in order, with the message of those by the router. -/
  exits : List (Option ℕ × EngineExit)

/-- How a send ends without success. -/
inductive SendFailure where
  | cancelled
  | timedOut
  | failed
  deriving DecidableEq, Repr

/-- A step of the router, its tasks, or what it shares. -/
inductive RouterLabel where
  | receive (frames : List Frame)
  | receiveFailed (error : String)
  | observeCancelled
  /-- The task of a message ends. -/
  | finish (message : ℕ) (requestEnd : RequestEnd)
  | panic (message : ℕ)
  /-- The loop joins the task of a message. -/
  | join (message : ℕ)
  | sent
  | sendFailed (failure : SendFailure)
  /-- An aborted task is joined after the loop. -/
  | reap (message : ℕ)
  | close (cleanup : Except String Unit)
  /-- Somebody cancels the router. -/
  | cancel
  /-- Somebody else requests an exit. -/
  | requestExit (exit : EngineExit)

namespace RouterRun

/-- `run_router`, at its start. -/
def start : RouterRun :=
  ⟨.selecting, .empty, maxConcurrentRequests, .new, false, [], [], []⟩

/-- Send an error response to a message. -/
def sendError (s : RouterRun) (identity : Frame) (requestId : String) (code : RpcErrorCode)
    (message : String) : RouterRun :=
  { s with
    phase := .sending s.messages.length
      ⟨identity, rpcErrorResponse requestId code message, none⟩ }

/-- What the loop does with a received message. -/
def dispatch (decode : Frame → Except String RpcRequest) (s : RouterRun) : List Frame → RouterRun
  | [] => s
  | [identity] => s.sendError identity "" .badRequest "missing rpc frame"
  | [identity, payload] =>
    if maxRpcPayloadBytes < payload.length then
      s.sendError identity (decodedRequestId decode payload) .payloadTooLarge
        s!"rpc payload {payload.length} bytes exceeds maximum {maxRpcPayloadBytes}"
    else if s.permits = 0 then
      s.sendError identity (decodedRequestId decode payload) .busy
        "maximum concurrent RPC requests reached"
    else
      { s with
        tasks := s.tasks.set s.messages.length ⟨identity, payload, .running⟩
        permits := s.permits - 1 }
  | identity :: payload :: _ :: _ =>
    s.sendError identity (decodedRequestId decode payload) .badRequest
      "unexpected extra rpc frames"

/-- A task changes its status, and a task that ends drops its permit. -/
def endTask (s : RouterRun) (message : ℕ) (task : RequestTask) (status : TaskStatus) :
    RouterRun :=
  { s with
    tasks := s.tasks.set message { task with status }
    permits := s.permits + 1 }

/-- One step. -/
def step (decode : Frame → Except String RpcRequest) (s : RouterRun) :
    RouterLabel → Option RouterRun
  | .receive frames =>
    match s.phase with
    | .selecting => some { s.dispatch decode frames with messages := s.messages ++ [frames] }
    | _ => none
  | .receiveFailed error =>
    match s.phase with
    | .selecting =>
      some { s with phase := .draining (.error s!"ROUTER receive failed: {error}") }
    | _ => none
  | .observeCancelled =>
    match s.phase with
    | .selecting => if s.cancelled then some { s with phase := .draining (.ok ()) } else none
    | _ => none
  | .finish message requestEnd =>
    match s.tasks.get message with
    | some ⟨identity, payload, .running⟩ =>
      some (s.endTask message ⟨identity, payload, .running⟩
        (.finished (processRequest decode identity payload requestEnd)))
    | _ => none
  | .panic message =>
    match s.tasks.get message with
    | some ⟨identity, payload, .running⟩ =>
      some (s.endTask message ⟨identity, payload, .running⟩ .panicked)
    | _ => none
  | .join message =>
    match s.phase, s.tasks.get message with
    | .selecting, some ⟨_, _, .finished reply⟩ =>
      some { s with phase := .sending message reply, tasks := s.tasks.remove message }
    | .selecting, some ⟨_, _, .panicked⟩ => some { s with tasks := s.tasks.remove message }
    | _, _ => none
  | .sent =>
    match s.phase with
    | .sending message reply =>
      let s := { s with phase := .selecting, sent := s.sent ++ [⟨message, reply⟩] }
      match reply.exit with
      | some exit =>
        some { s with
          control := s.control.requestExit exit
          exits := s.exits ++ [(some message, exit)] }
      | none => some s
    | _ => none
  | .sendFailed failure =>
    match s.phase with
    | .sending _ _ =>
      if failure = .cancelled ∧ s.cancelled = false then none
      else some { s with phase := .selecting }
    | _ => none
  | .reap message =>
    match s.phase, s.tasks.get message with
    | .draining _, some task =>
      some { s with
        tasks := s.tasks.remove message
        permits := if task.status.isRunning then s.permits + 1 else s.permits }
    | _, _ => none
  | .close cleanup =>
    match s.phase with
    | .draining outcome =>
      if s.tasks.size = 0 then
        some { s with
          phase := .returned (finishWithCleanup outcome cleanup "ROUTER socket cleanup failed") }
      else none
    | _ => none
  | .cancel => some { s with cancelled := true }
  | .requestExit exit =>
    some { s with
      control := s.control.requestExit exit
      exits := s.exits ++ [(none, exit)] }

/-- The number of requests that are processed. -/
def running (s : RouterRun) : ℕ :=
  s.tasks.total fun task => if task.status.isRunning then 1 else 0

end RouterRun

/-- The router, under any order of its events. -/
def routerSystem (decode : Frame → Except String RpcRequest) :
    LabelledSystem RouterRun RouterLabel where
  init s := s = .start
  step s l s' := s.step decode l = some s'

end WeatherApp
