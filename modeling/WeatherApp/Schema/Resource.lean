import WeatherApp.Schema.Text

/-!
# Resource messages

The messages of a chunked resource transfer (`weather.proto`), as the engine sends them and the
clients receive them.
-/

namespace WeatherApp

/-- The greatest `u64`. -/
def u64Max : ℕ := 2 ^ 64 - 1

/-- The greatest `usize` of a 64-bit target. -/
def usizeMax : ℕ := 2 ^ 64 - 1

/-- `ResourceTransferState`. -/
inductive ResourceTransferState where
  | unspecified
  | ready
  | pending
  deriving DecidableEq, Repr

/-- The number of a transfer state on the wire. -/
def ResourceTransferState.toWire : ResourceTransferState → ℤ
  | unspecified => 0
  | ready => 1
  | pending => 2

/-- `ResourceTransferState::try_from`. -/
def ResourceTransferState.fromWire (value : ℤ) : Option ResourceTransferState :=
  if value = 0 then some .unspecified
  else if value = 1 then some .ready
  else if value = 2 then some .pending
  else none

@[simp]
theorem ResourceTransferState.fromWire_toWire (state : ResourceTransferState) :
    fromWire state.toWire = some state := by
  cases state <;> rfl

theorem ResourceTransferState.toWire_of_fromWire {value : ℤ} {state : ResourceTransferState}
    (h : fromWire value = some state) : value = state.toWire := by
  unfold fromWire at h
  split_ifs at h with h0 h1 h2 <;> cases h
  · exact h0
  · exact h1
  · exact h2

/-- `GetResourceRequest`. -/
structure GetResourceRequest where
  resourceId : String
  offset : ℕ
  maxBytes : ℕ
  deriving DecidableEq, Repr

/-- `GetResourceResponse`. The transfer state is any number a peer may send. -/
structure GetResourceResponse where
  resourceId : String
  contentType : String
  data : List UInt8
  totalSize : ℕ
  nextOffset : ℕ
  complete : Bool
  cacheHit : Bool
  transferState : ℤ
  retryAfterMs : ℕ
  deriving DecidableEq, Repr

end WeatherApp
