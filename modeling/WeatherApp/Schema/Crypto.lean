import WeatherApp.Conf.Validate
import WeatherApp.Foundation.Framing
import WeatherApp.Schema.Rpc

/-!
# Signatures of envelopes

`weather-schema/src/crypto.rs`, which signs requests, responses and events with all the fields that
`weather-schema/weather/schema/v1/weather.proto` gives them. Integers are the bits of the fixed
width of their fields; HMAC-SHA256 is a parameter.

## Main definitions

* `RpcRequestEnvelope`, `RpcResponseEnvelope`, `EventEnvelope`: the envelopes.
* `RpcRequestEnvelope.macInput` and the like: the bytes that are signed.
* `rpcRequestHmac`, `verifyRpcRequestHmac` and the like: the signatures.
-/

namespace WeatherApp

open Framing

/-- `RpcRequest` with all of its fields. -/
structure RpcRequestEnvelope where
  schemaVersion : String
  requestId : String
  kind : BitVec 32
  timestampUnixMs : BitVec 64
  hmacSha256 : List UInt8
  payload : List UInt8
  deriving DecidableEq, Repr

/-- `RpcResponse` with all of its fields. -/
structure RpcResponseEnvelope where
  schemaVersion : String
  requestId : String
  status : BitVec 32
  timestampUnixMs : BitVec 64
  hmacSha256 : List UInt8
  payload : List UInt8
  error : Option EngineError
  deriving DecidableEq, Repr

/-- `EventEnvelope`. -/
structure EventEnvelope where
  schemaVersion : String
  eventId : String
  kind : BitVec 32
  timestampUnixMs : BitVec 64
  hmacSha256 : List UInt8
  payload : List UInt8
  deriving DecidableEq, Repr

/-- The request as the router reads it. -/
def RpcRequestEnvelope.request (env : RpcRequestEnvelope) : RpcRequest :=
  ⟨env.schemaVersion, env.requestId, env.kind.toInt, env.payload⟩

/-- HMAC-SHA256 of a message under a key of 32 bytes. -/
class HmacSha256 where
  digest : List UInt8 → List UInt8 → List UInt8

/-! ## Signed bytes -/

/-- The updates of `rpc_request_hmac`. -/
def RpcRequestEnvelope.macInput (env : RpcRequestEnvelope) : List UInt8 :=
  asBytes env.schemaVersion ++ asBytes env.requestId ++ leBytes 4 env.kind.toNat ++
    leBytes 8 env.timestampUnixMs.toNat ++ env.payload

/-- The updates of `rpc_response_hmac`. -/
def RpcResponseEnvelope.macInput (env : RpcResponseEnvelope) : List UInt8 :=
  let signed := asBytes env.schemaVersion ++ asBytes env.requestId ++ leBytes 4 env.status.toNat ++
    leBytes 8 env.timestampUnixMs.toNat ++ env.payload
  match env.error with
  | some error => signed ++ asBytes error.code ++ asBytes error.message
  | none => signed

/-- The updates of `event_hmac`. -/
def EventEnvelope.macInput (env : EventEnvelope) : List UInt8 :=
  asBytes env.schemaVersion ++ asBytes env.eventId ++ leBytes 4 env.kind.toNat ++
    leBytes 8 env.timestampUnixMs.toNat ++ env.payload

section Signatures

variable [HmacSha256]

/-- `rpc_request_hmac`. -/
def rpcRequestHmac (env : RpcRequestEnvelope) (key : List UInt8) : List UInt8 :=
  HmacSha256.digest key env.macInput

/-- `verify_rpc_request_hmac`. -/
def verifyRpcRequestHmac (env : RpcRequestEnvelope) (key : List UInt8) : Bool :=
  rpcRequestHmac env key = env.hmacSha256

/-- `rpc_response_hmac`. -/
def rpcResponseHmac (env : RpcResponseEnvelope) (key : List UInt8) : List UInt8 :=
  HmacSha256.digest key env.macInput

/-- `event_hmac`. -/
def eventHmac (env : EventEnvelope) (key : List UInt8) : List UInt8 :=
  HmacSha256.digest key env.macInput

/-- `verify_event_hmac`. -/
def verifyEventHmac (env : EventEnvelope) (key : List UInt8) : Bool :=
  eventHmac env key = env.hmacSha256

end Signatures

end WeatherApp
