import WeatherApp.Engine.Router
import WeatherApp.Schema.Crypto

/-!
# What a signature binds

The signatures of `weather-schema/src/crypto.rs` cover the fields of an envelope one after the
other. Nothing marks where the request id ends and where an error begins, so that most messages
share their signed bytes with others, and a signature of one is a signature of all of these.

## Main definitions

* `RpcRequestEnvelope.Bound` and the like: no other message has the same signed bytes.
* `MessagesBound`: no two messages have the same signed bytes.
* `OpensWithChar`: text can be split off.

## Main results

* `macInput_binds_iff`: which messages are bound.
* `macInput_collides`: messages with the same signed bytes.
* `rpcRequest_bound_of_length_eq`: requests with ids of one length are told apart.
* `verifyRpcRequestHmac_of_macInput_eq`: the engine accepts the signature of one for the other.
-/

namespace WeatherApp

open Framing

/-! ## Bound messages -/

namespace RpcRequestEnvelope

/-- The same request, down to its signature. -/
def SameContent (a b : RpcRequestEnvelope) : Prop :=
  b.requestId = a.requestId ∧ b.kind = a.kind ∧ b.timestampUnixMs = a.timestampUnixMs ∧
    b.payload = a.payload

/-- Another request of the accepted version with the same signed bytes has the same content. -/
def Bound (a : RpcRequestEnvelope) : Prop :=
  ∀ b : RpcRequestEnvelope, b.schemaVersion = rpcSchemaVersion → b.macInput = a.macInput →
    a.SameContent b

end RpcRequestEnvelope

namespace RpcResponseEnvelope

/-- The same response, down to its signature. -/
def SameContent (a b : RpcResponseEnvelope) : Prop :=
  b.requestId = a.requestId ∧ b.status = a.status ∧ b.timestampUnixMs = a.timestampUnixMs ∧
    b.payload = a.payload ∧ b.error = a.error

/-- Another response of the accepted version with the same signed bytes has the same content. -/
def Bound (a : RpcResponseEnvelope) : Prop :=
  ∀ b : RpcResponseEnvelope, b.schemaVersion = rpcSchemaVersion → b.macInput = a.macInput →
    a.SameContent b

end RpcResponseEnvelope

namespace EventEnvelope

/-- The same event, down to its signature. -/
def SameContent (a b : EventEnvelope) : Prop :=
  b.eventId = a.eventId ∧ b.kind = a.kind ∧ b.timestampUnixMs = a.timestampUnixMs ∧
    b.payload = a.payload

/-- Another event of the accepted version with the same signed bytes has the same content. -/
def Bound (a : EventEnvelope) : Prop :=
  ∀ b : EventEnvelope, b.schemaVersion = rpcSchemaVersion → b.macInput = a.macInput →
    a.SameContent b

end EventEnvelope

/-- No two messages of the accepted version share their signed bytes. -/
structure MessagesBound : Prop where
  requests : ∀ a : RpcRequestEnvelope, a.schemaVersion = rpcSchemaVersion → a.Bound
  responses : ∀ a : RpcResponseEnvelope, a.schemaVersion = rpcSchemaVersion → a.Bound
  events : ∀ a : EventEnvelope, a.schemaVersion = rpcSchemaVersion → a.Bound

/-! ## Fields after the id -/

/-- The signed bytes after the id of a request or an event. -/
def signedTail (kind : BitVec 32) (timestampUnixMs : BitVec 64) (payload : List UInt8) :
    List UInt8 :=
  leBytes 4 kind.toNat ++ leBytes 8 timestampUnixMs.toNat ++ payload

/-- The bytes begin with the encoding of a character of at most `room` bytes. -/
def OpensWithChar (bytes : List UInt8) (room : ℕ) : Prop :=
  ∃ c, String.utf8EncodeChar c <+: bytes ∧ (String.utf8EncodeChar c).length ≤ room

theorem length_signedTail (kind : BitVec 32) (timestampUnixMs : BitVec 64) (payload : List UInt8) :
    (signedTail kind timestampUnixMs payload).length = 12 + payload.length := by
  rw [signedTail, List.length_append, List.length_append, length_leBytes, length_leBytes]

theorem signedTail_inj {kind kind' : BitVec 32} {timestamp timestamp' : BitVec 64}
    {payload payload' : List UInt8}
    (h : signedTail kind timestamp payload = signedTail kind' timestamp' payload') :
    kind = kind' ∧ timestamp = timestamp' ∧ payload = payload' := by
  obtain ⟨hfixed, hpayload⟩ := List.append_inj h (by simp only [List.length_append, length_leBytes])
  obtain ⟨hkind, htimestamp⟩ := List.append_inj hfixed (by rw [length_leBytes, length_leBytes])
  refine ⟨?_, ?_, hpayload⟩
  · apply BitVec.eq_of_toNat_eq
    exact leBytes_inj kind.isLt kind'.isLt hkind
  · apply BitVec.eq_of_toNat_eq
    exact leBytes_inj timestamp.isLt timestamp'.isLt htimestamp

/-- Twelve bytes and a rest are always the fields of a message. -/
theorem exists_signedTail {bytes : List UInt8} (h : 12 ≤ bytes.length) :
    ∃ kind timestamp payload, signedTail kind timestamp payload = bytes := by
  have hkind : (bytes.take 4).length = 4 := by
    rw [List.length_take]
    omega
  have htimestamp : ((bytes.drop 4).take 8).length = 8 := by
    rw [List.length_take, List.length_drop]
    omega
  have hkindLt := leValue_lt (bytes.take 4)
  have htimestampLt := leValue_lt ((bytes.drop 4).take 8)
  have hkindBytes := leBytes_leValue (bytes.take 4)
  have htimestampBytes := leBytes_leValue ((bytes.drop 4).take 8)
  rw [hkind] at hkindLt hkindBytes
  rw [htimestamp] at htimestampLt htimestampBytes
  refine ⟨BitVec.ofNatLT _ hkindLt, BitVec.ofNatLT _ htimestampLt, bytes.drop 12, ?_⟩
  have hdrop : bytes.drop 12 = (bytes.drop 4).drop 8 := by rw [List.drop_drop]
  rw [signedTail, BitVec.toNat_ofNatLT, BitVec.toNat_ofNatLT, hkindBytes, htimestampBytes, hdrop,
    List.append_assoc, List.take_append_drop, List.take_append_drop]

theorem asBytes_empty : asBytes "" = [] := rfl

/-- Text begins with its first character. -/
theorem opensWithChar_iff {bytes : List UInt8} {room : ℕ} :
    OpensWithChar bytes room ↔ ∃ s, asBytes s <+: bytes ∧ (asBytes s).length ≤ room ∧ s ≠ "" := by
  constructor
  · rintro ⟨c, hprefix, hlength⟩
    have hchar : asBytes (String.singleton c) = String.utf8EncodeChar c := by
      rw [asBytes, String.toList_singleton, List.flatMap_singleton]
    refine ⟨String.singleton c, ?_, ?_, ?_⟩
    · rwa [hchar]
    · rwa [hchar]
    · exact String.singleton_ne_empty
  · rintro ⟨s, hprefix, hlength, hs⟩
    obtain ⟨c, rest, hchars⟩ : ∃ c rest, s.toList = c :: rest := by
      apply List.exists_cons_of_ne_nil
      intro hnil
      exact hs (String.toList_eq_nil_iff.1 hnil)
    have hbytes : asBytes s = String.utf8EncodeChar c ++ rest.flatMap String.utf8EncodeChar := by
      rw [asBytes, hchars, List.flatMap_cons]
    rw [hbytes] at hprefix hlength
    rw [List.length_append] at hlength
    refine ⟨c, (List.prefix_append _ _).trans hprefix, ?_⟩
    omega

/-- A request or an event is bound if and only if no bytes can move between its id and the fields
after it: there are none in its id, and none that are text and would leave twelve bytes behind. -/
theorem fields_bound_iff {id : String} {kind : BitVec 32} {timestamp : BitVec 64}
    {payload : List UInt8} :
    (∀ id' kind' timestamp' payload',
      asBytes id' ++ signedTail kind' timestamp' payload' =
        asBytes id ++ signedTail kind timestamp payload →
      id' = id ∧ kind' = kind ∧ timestamp' = timestamp ∧ payload' = payload) ↔
      id = "" ∧ ¬ OpensWithChar (signedTail kind timestamp payload) payload.length := by
  have htail : 12 ≤ (signedTail kind timestamp payload).length := by
    rw [length_signedTail]
    omega
  have hends := end_fixed_iff (a := id) asBytes_empty htail
  have hopens : ¬ OpensWithChar (signedTail kind timestamp payload) payload.length ↔
      ∀ s, asBytes s <+: signedTail kind timestamp payload →
        (asBytes s).length + 12 ≤ (signedTail kind timestamp payload).length → s = "" := by
    rw [opensWithChar_iff, length_signedTail]
    constructor
    · intro h s hprefix hlength
      by_contra hs
      exact h ⟨s, hprefix, by omega, hs⟩
    · rintro h ⟨s, hprefix, hlength, hs⟩
      exact hs (h s hprefix (by omega))
  rw [hopens, ← hends]
  constructor
  · intro h id' rest hrest heq
    obtain ⟨kind', timestamp', payload', rfl⟩ := exists_signedTail hrest
    exact (h id' kind' timestamp' payload' heq).1
  · intro h id' kind' timestamp' payload' heq
    obtain rfl : id' = id := by
      apply h id' _ _ heq
      rw [length_signedTail]
      omega
    exact ⟨rfl, signedTail_inj (List.append_cancel_left heq)⟩

/-! ## Requests, responses and events -/

theorem RpcRequestEnvelope.macInput_eq (env : RpcRequestEnvelope) :
    env.macInput = asBytes env.schemaVersion ++
      (asBytes env.requestId ++ signedTail env.kind env.timestampUnixMs env.payload) := by
  simp only [macInput, signedTail, List.append_assoc]

theorem EventEnvelope.macInput_eq (env : EventEnvelope) :
    env.macInput = asBytes env.schemaVersion ++
      (asBytes env.eventId ++ signedTail env.kind env.timestampUnixMs env.payload) := by
  simp only [macInput, signedTail, List.append_assoc]

theorem RpcRequestEnvelope.bound_iff {a : RpcRequestEnvelope}
    (ha : a.schemaVersion = rpcSchemaVersion) :
    a.Bound ↔ a.requestId = "" ∧
      ¬ OpensWithChar (signedTail a.kind a.timestampUnixMs a.payload) a.payload.length := by
  rw [← fields_bound_iff]
  constructor
  · intro h id kind timestamp payload heq
    apply h ⟨rpcSchemaVersion, id, kind, timestamp, [], payload⟩ rfl
    rw [macInput_eq, macInput_eq, ha, heq]
  · intro h b hb heq
    rw [macInput_eq, macInput_eq, ha, hb] at heq
    exact h _ _ _ _ (List.append_cancel_left heq)

theorem EventEnvelope.bound_iff {a : EventEnvelope} (ha : a.schemaVersion = rpcSchemaVersion) :
    a.Bound ↔ a.eventId = "" ∧
      ¬ OpensWithChar (signedTail a.kind a.timestampUnixMs a.payload) a.payload.length := by
  rw [← fields_bound_iff]
  constructor
  · intro h id kind timestamp payload heq
    apply h ⟨rpcSchemaVersion, id, kind, timestamp, [], payload⟩ rfl
    rw [macInput_eq, macInput_eq, ha, heq]
  · intro h b hb heq
    rw [macInput_eq, macInput_eq, ha, hb] at heq
    exact h _ _ _ _ (List.append_cancel_left heq)

/-- A response with another error but the same content otherwise. -/
def RpcResponseEnvelope.withError (env : RpcResponseEnvelope) (error : Option EngineError) :
    RpcResponseEnvelope :=
  { env with error }

/-- The bytes that an error adds to a signature. -/
def errorBytes : Option EngineError → List UInt8
  | some error => asBytes error.code ++ asBytes error.message
  | none => []

/-- Errors with the same bytes are signed alike. -/
theorem RpcResponseEnvelope.macInput_withError (env : RpcResponseEnvelope)
    {error : Option EngineError} (h : errorBytes error = errorBytes env.error) :
    (env.withError error).macInput = env.macInput := by
  have hsplit : ∀ env : RpcResponseEnvelope, env.macInput =
      (asBytes env.schemaVersion ++ asBytes env.requestId ++ leBytes 4 env.status.toNat ++
        leBytes 8 env.timestampUnixMs.toNat ++ env.payload) ++ errorBytes env.error := by
    intro env
    rcases herror : env.error with _ | error
    · simp only [macInput, herror, errorBytes, List.append_nil]
    · simp only [macInput, herror, errorBytes, List.append_assoc]
  rw [hsplit, hsplit env, ← h]
  rfl

/-- Every error shares its bytes with another: no error with an empty one, and the code of an error
with its message. -/
theorem exists_errorBytes_eq (error : Option EngineError) :
    ∃ error', errorBytes error' = errorBytes error ∧ error' ≠ error := by
  rcases error with _ | ⟨code, message⟩
  · refine ⟨some ⟨"", ""⟩, rfl, ?_⟩
    exact Option.some_ne_none _
  · by_cases hmessage : message = ""
    · by_cases hcode : code = ""
      · subst hmessage hcode
        exact ⟨none, rfl, (Option.some_ne_none _).symm⟩
      · -- The code becomes the message.
        refine ⟨some ⟨"", code⟩, ?_, ?_⟩
        · simp only [errorBytes, hmessage, asBytes_empty, List.append_nil, List.nil_append]
        · intro h
          injection h with h
          exact hcode (congrArg EngineError.code h).symm
    · -- The message joins the code.
      refine ⟨some ⟨code ++ message, ""⟩, ?_, ?_⟩
      · simp only [errorBytes, asBytes, String.toList_append, List.flatMap_append,
          String.toList_empty, List.flatMap_nil, List.append_nil]
      · intro h
        injection h with h
        exact hmessage (congrArg EngineError.message h).symm

/-- No response is bound: none says whether an error belongs to it. -/
theorem RpcResponseEnvelope.not_bound {a : RpcResponseEnvelope}
    (ha : a.schemaVersion = rpcSchemaVersion) : ¬ a.Bound := by
  intro h
  obtain ⟨error, hbytes, hne⟩ := exists_errorBytes_eq a.error
  obtain ⟨-, -, -, -, herror⟩ := h (a.withError error) ha (a.macInput_withError hbytes)
  exact hne herror

/-- A request or an event is bound if and only if its id is empty and the fields after it do not
open with text that the payload could make up for. No response is bound. -/
theorem macInput_binds_iff (request : RpcRequestEnvelope) (response : RpcResponseEnvelope)
    (event : EventEnvelope) (hrequest : request.schemaVersion = rpcSchemaVersion)
    (hresponse : response.schemaVersion = rpcSchemaVersion)
    (hevent : event.schemaVersion = rpcSchemaVersion) :
    (request.Bound ↔ request.requestId = "" ∧ ¬ OpensWithChar
      (signedTail request.kind request.timestampUnixMs request.payload) request.payload.length) ∧
    ¬ response.Bound ∧
    (event.Bound ↔ event.eventId = "" ∧ ¬ OpensWithChar
      (signedTail event.kind event.timestampUnixMs event.payload) event.payload.length) :=
  ⟨RpcRequestEnvelope.bound_iff hrequest, RpcResponseEnvelope.not_bound hresponse,
    EventEnvelope.bound_iff hevent⟩

/-- A ping without id and payload. -/
def samplePing : RpcRequestEnvelope := ⟨rpcSchemaVersion, "", 1, 42, [], []⟩

/-- The response to a ping. -/
def samplePong : RpcResponseEnvelope := ⟨rpcSchemaVersion, "", 1, 42, [], [], none⟩

/-- An event with an id. -/
def sampleEvent : EventEnvelope := ⟨rpcSchemaVersion, "e", 1, 42, [], [9, 8]⟩

theorem macInput_binds_sample :
    samplePing.Bound ∧ ¬ samplePong.Bound ∧ ¬ sampleEvent.Bound := by
  obtain ⟨hping, hpong, hevent⟩ := macInput_binds_iff samplePing samplePong sampleEvent rfl rfl rfl
  refine ⟨hping.2 ⟨rfl, ?_⟩, hpong, fun hbound => ?_⟩
  · rintro ⟨c, -, hlength⟩
    exact String.utf8EncodeChar_ne_nil (List.length_eq_zero_iff.1 (Nat.le_zero.1 hlength))
  · exact absurd (hevent.1 hbound).1 (by decide)

/-- The last byte of an id moves into the kind, and each byte after it by one place. -/
theorem macInput_collides : ¬ MessagesBound := by
  intro h
  have hsame := h.requests ⟨rpcSchemaVersion, "r", 1, 42, [], [1, 2, 3]⟩ rfl
    ⟨rpcSchemaVersion, "", 0x172, 0x2A00, [], [0, 1, 2, 3]⟩ rfl (by decide)
  exact absurd hsame.1 (by decide)

/-! ## Signatures -/

theorem asBytes_injective : Function.Injective asBytes := by
  intro s t h
  apply String.toByteArray_inj.1
  rw [← String.utf8Encode_toList, ← String.utf8Encode_toList]
  exact congrArg List.toByteArray h

/-- Requests with ids of one length, such as those of the clients, are told apart. -/
theorem rpcRequest_bound_of_length_eq {a b : RpcRequestEnvelope}
    (hversion : b.schemaVersion = a.schemaVersion)
    (hlength : (asBytes b.requestId).length = (asBytes a.requestId).length)
    (h : b.macInput = a.macInput) : a.SameContent b := by
  rw [RpcRequestEnvelope.macInput_eq, RpcRequestEnvelope.macInput_eq, hversion] at h
  obtain ⟨hid, htail⟩ := List.append_inj (List.append_cancel_left h) hlength
  exact ⟨asBytes_injective hid, signedTail_inj htail⟩

/-- A signature of a request verifies for every other with the same signed bytes. -/
theorem verifyRpcRequestHmac_of_macInput_eq [HmacSha256] {a b : RpcRequestEnvelope}
    {key : List UInt8} (h : b.macInput = a.macInput) (hsignature : b.hmacSha256 = a.hmacSha256) :
    verifyRpcRequestHmac b key = verifyRpcRequestHmac a key := by
  have hdigest : rpcRequestHmac b key = rpcRequestHmac a key := by
    rw [rpcRequestHmac, rpcRequestHmac, h]
  unfold verifyRpcRequestHmac
  rw [hdigest, hsignature]

end WeatherApp
