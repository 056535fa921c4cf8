import WeatherApp.Foundation.KeyedMap
import WeatherApp.Foundation.Run
import WeatherApp.Schema.Rpc

/-!
# Pending requests of a client

`weather-renderer/common/src/client/pending.rs`: the table of the requests that wait for a reply.
A registration puts the sending half of a channel under the request's id and gives the caller a
lease with the receiving half. A reply takes the entry of its id, the first terminal failure takes
all entries, and a dropped lease takes its own.

The table is behind a lock, but replies are sent after it is released. `PendingRun` therefore takes
one step for what a call does under the lock and one for each reply that it sends, so that other
calls can run in between. A registration is identified by its number, in the place of the address
of its marker, which its channel shares.

## Main definitions

* `PendingState`: the table, with `register`, `complete`, `failAll` and `removeIfMatches`.
* `PendingRun`: the table with the leases of its callers and their channels.
-/

namespace WeatherApp

/-- `ClientFailure`. -/
inductive ClientFailure where
  | closed
  | rpcSend (error : String)
  | rpcReceive (error : String)
  | eventReceive (error : String)
  | backgroundTask (error : String)
  deriving DecidableEq, Repr

/-- `PendingReply`. -/
abbrev PendingReply := Except ClientFailure RpcResponse

/-- `RegisterError`. -/
inductive RegisterError where
  | collision
  | terminal (failure : ClientFailure)
  deriving DecidableEq, Repr

/-- `PendingState`: the registration under each request id, and the first terminal failure. -/
structure PendingState where
  entries : KeyedMap String ℕ
  terminal : Option ClientFailure

namespace PendingState

/-- `PendingState::default`. -/
def default : PendingState := ⟨.empty, none⟩

/-- `register`, with the marker and the channel of `registration`. -/
def register (s : PendingState) (requestId : String) (registration : ℕ) :
    Except RegisterError PendingState :=
  match s.terminal with
  | some failure => .error (.terminal failure)
  | none =>
    match s.entries.get requestId with
    | some _ => .error .collision
    | none => .ok { s with entries := s.entries.set requestId registration }

/-- What `complete` does under the lock: take the entry of the response. -/
def complete (s : PendingState) (response : RpcResponse) : Option ℕ × PendingState :=
  (s.entries.get response.requestId,
    { s with entries := s.entries.remove response.requestId })

/-- What `fail_all` does under the lock: keep the first failure and take all entries. -/
def failAll (s : PendingState) (failure : ClientFailure) : Option (List ℕ) × PendingState :=
  if s.terminal.isSome then (none, s)
  else (some s.entries.values, ⟨.empty, some failure⟩)

/-- `remove_if_matches`. -/
def removeIfMatches (s : PendingState) (requestId : String) (registration : ℕ) : PendingState :=
  if s.entries.get requestId = some registration then
    { s with entries := s.entries.remove requestId }
  else s

end PendingState

/-- An outcome that `receive` returned to the holder of a lease. -/
structure PendingOutcome where
  registration : ℕ
  requestId : String
  reply : PendingReply

/-- The table, the leases of its callers and the channels. -/
structure PendingRun where
  registry : PendingState
  /-- The request id of each live lease. -/
  leases : KeyedMap ℕ String
  /-- The replies that running calls of `complete` and `fail_all` have still to send. -/
  sending : List (ℕ × PendingReply)
  /-- What was sent on each channel and is not received. -/
  channels : ℕ → List PendingReply
  /-- The outcomes received so far. -/
  received : List PendingOutcome
  /-- How many registrations there were. -/
  registrations : ℕ

/-- A step of a caller of the registry. -/
inductive PendingLabel where
  | register (requestId : String)
  | complete (response : RpcResponse)
  | failAll (failure : ClientFailure)
  /-- A call of `complete` or `fail_all` sends one of its replies. -/
  | send (registration : ℕ) (reply : PendingReply)
  /-- The holder of a lease receives an outcome. -/
  | receive (registration : ℕ)
  /-- A lease is dropped. -/
  | drop (registration : ℕ)

namespace PendingRun

/-- `PendingRegistry::new`, with no caller. -/
def new : PendingRun := ⟨.default, .empty, [], fun _ => [], [], 0⟩

/-- The sending half of a channel exists: in the table, or in a call that is about to send. -/
def senderAlive (s : PendingRun) (registration : ℕ) : Bool :=
  s.registry.entries.values.contains registration || s.sending.any fun p => p.1 = registration

/-- The outcome of a `receive` whose sender was dropped. -/
def droppedSender (s : PendingRun) : PendingReply :=
  .error (s.registry.terminal.getD (.backgroundTask "pending response sender was dropped"))

/-- One step. -/
def step (s : PendingRun) : PendingLabel → Option PendingRun
  | .register requestId =>
    match s.registry.register requestId s.registrations with
    | .ok registry =>
      some { s with
        registry
        leases := s.leases.set s.registrations requestId
        registrations := s.registrations + 1 }
    | .error _ => some s
  | .complete response =>
    some { s with
      registry := (s.registry.complete response).2
      sending := s.sending ++ (s.registry.complete response).1.toList.map fun registration =>
        (registration, .ok response) }
  | .failAll failure =>
    some { s with
      registry := (s.registry.failAll failure).2
      sending := s.sending ++ ((s.registry.failAll failure).1.getD []).map fun registration =>
        (registration, .error failure) }
  | .send registration reply =>
    if (registration, reply) ∈ s.sending then
      some { s with
        sending := s.sending.erase (registration, reply)
        -- sending to a dropped receiver fails
        channels :=
          if (s.leases.get registration).isSome then
            Function.update s.channels registration (s.channels registration ++ [reply])
          else s.channels }
    else none
  | .receive registration =>
    match s.leases.get registration, s.channels registration with
    | some requestId, reply :: rest =>
      some { s with
        channels := Function.update s.channels registration rest
        received := s.received ++ [⟨registration, requestId, reply⟩] }
    | some requestId, [] =>
      if s.senderAlive registration || s.received.any fun o => o.registration = registration then
        none
      else some { s with received := s.received ++ [⟨registration, requestId, s.droppedSender⟩] }
    | none, _ => none
  | .drop registration =>
    match s.leases.get registration with
    | some requestId =>
      some { s with
        registry := s.registry.removeIfMatches requestId registration
        leases := s.leases.remove registration }
    | none => none

end PendingRun

/-- The callers of a registry, under any interleaving. -/
def pendingSystem : LabelledSystem PendingRun PendingLabel where
  init s := s = .new
  step s l s' := s.step l = some s'

end WeatherApp
