import WeatherApp.Schema.Number

/-!
# Values of a response

JSON documents, and what `mapper/value.rs` reads from them: sections, entries, texts and numbers,
with a warning for what is there but cannot be used.

A map is the list of its entries. `serde_json` keeps one entry of a key; the list may hold more, of
which the first is read.

## Main definitions

* `Number`, `Json`: documents.
* `Mapping`: what is mapped, with the warnings of the `MappingContext`.
* `isMissingValue`: the value is absent, or stands for one that is.
* `fixed`, `tryAliases`, `sequence`, `sectionObject`, `decodeSection`: the readers.
-/

namespace WeatherApp.Nmc

open DecimalFloat

/-! ## Documents -/

/-- The texts of finite doubles, as `serde_json` prints them. -/
class FloatFormat where
  formatFinite : F64 → String

/-- A text for each finite double, to run the model on. -/
@[reducible]
def sampleFloats : FloatFormat := ⟨doubleText⟩

/-- `serde_json::Number`. -/
inductive Number where
  | posInt (value : UInt64)
  | negInt (value : ℤ) (inRange : -2 ^ 63 ≤ value ∧ value < 0)
  | float (value : F64) (finite : value.isFinite = true)
  deriving DecidableEq

/-- `n as f64` of a number that is not negative. -/
def f64OfNat (n : ℕ) : F64 := UInt64.ofNat (roundFraction n 1)

/-- `Number::as_f64`. -/
def Number.asF64 : Number → F64
  | .posInt value => f64OfNat value.toNat
  | .negInt value _ => UInt64.ofNat (signBit + roundFraction value.natAbs 1)
  | .float value _ => value

/-- `Number::as_u64`. -/
def Number.asU64 : Number → Option ℕ
  | .posInt value => some value.toNat
  | _ => none

/-- `Number::to_string`. -/
def Number.toText [FloatFormat] : Number → String
  | .posInt value => toString value.toNat
  | .negInt value _ => toString value
  | .float value _ => FloatFormat.formatFinite value

/-- `serde_json::Value`. -/
inductive Json where
  | null
  | bool (value : Bool)
  | number (value : Number)
  | string (value : String)
  | array (values : List Json)
  | object (map : List (String × Json))

/-- `serde_json::Map`. -/
abbrev JsonMap := List (String × Json)

/-- `Map::get`. -/
def JsonMap.get (map : JsonMap) (key : String) : Option Json := map.lookup key

/-- An optional field of a section: `null` is decoded like an absent one. -/
def JsonMap.field (map : JsonMap) (key : String) : Option Json :=
  match map.get key with
  | some .null => none
  | value => value

/-! ## Warnings -/

/-- A computation with the warnings of the `MappingContext`. -/
abbrev Mapping (α : Type) := StateM (List String) α

/-- `warn`. -/
def warn (warning : String) : Mapping Unit := modify (· ++ [warning])

/-- `warning_count`. -/
def warningCount : Mapping ℕ := List.length <$> get

/-- The base of the links, with `Url::join` as the text of the link. -/
structure BaseUrl where
  join : String → Option String

/-- The links of a site, which start at its root. -/
def sampleBase : BaseUrl := ⟨fun reference => some ("https://www.nmc.cn" ++ reference)⟩

/-! ## Missing values -/

/-- `is_sentinel_number`: 9999. -/
def isSentinelNumber (value : Option F64) : Bool := value = some 0x40C3878000000000

/-- `is_sentinel_string`. -/
def isSentinelString (value : String) : Bool :=
  value.isEmpty || decide (value ∈ ["-", "--", "—"]) || isSentinelNumber (parseDouble value)

mutual

/-- `is_missing_value`. -/
def isMissingValue : Json → Bool
  | .null => true
  | .string value => isSentinelString (trim value)
  | .number value => isSentinelNumber (some value.asF64)
  | .object map => map.isEmpty || allValuesMissing map
  | .array values => values.isEmpty || allMissing values
  | .bool _ => false
termination_by structural value => value

/-- `values.iter().all(is_missing_value)`. -/
def allMissing : List Json → Bool
  | [] => true
  | value :: values => isMissingValue value && allMissing values
termination_by structural values => values

/-- `map.values().all(is_missing_value)`. -/
def allValuesMissing : List (String × Json) → Bool
  | [] => true
  | (_, value) :: map => isMissingValue value && allValuesMissing map
termination_by structural map => map

end

/-- `has_non_missing_values`. -/
def hasNonMissingValues (map : JsonMap) : Bool := map.any fun entry => !isMissingValue entry.2

/-! ## Candidates -/

/-- What a value is for a field. -/
inductive Candidate (α : Type) where
  | missing
  | invalid
  | value (value : α)
  deriving DecidableEq, Repr

/-- `string_candidate`. -/
def stringCandidate [FloatFormat] (value : Json) : Candidate String :=
  if isMissingValue value then .missing
  else
    match value with
    | .string value => .value (trim value)
    | .number value => .value value.toText
    | _ => .invalid

/-- `resource_reference_candidate`. -/
def resourceReferenceCandidate (value : Json) : Candidate String :=
  if isMissingValue value then .missing
  else
    match value with
    | .string value => .value (trim value)
    | _ => .invalid

/-- `f64_candidate`. -/
def f64Candidate (value : Json) : Candidate F64 :=
  if isMissingValue value then .missing
  else
    let parsed :=
      match value with
      | .number value => some value.asF64
      | .string value => parseDouble (trim value)
      | _ => none
    match parsed with
    | some value => if value.isFinite then .value value else .invalid
    | none => .invalid

/-- `u32_candidate`. -/
def u32Candidate (value : Json) : Candidate ℕ :=
  if isMissingValue value then .missing
  else
    let parsed :=
      match value with
      | .number value => value.asU64.filter (· < 2 ^ 32)
      | .string value => parseU32 (trim value)
      | _ => none
    match parsed with
    | some value => .value value
    | none => .invalid

/-- The value of a candidate, if it has one. -/
def Candidate.usable {α : Type} : Candidate α → Option α
  | .value a => some a
  | _ => none

/-! ## Fields -/

section Fields

variable {α : Type}

/-- `fixed`. -/
def fixed (value : Option Json) (path expected : String) (convert : Json → Candidate α) :
    Mapping (Option α) :=
  match value.map convert with
  | none | some .missing => return none
  | some (.value value) => return some value
  | some .invalid => do
    warn s!"{path}: expected {expected}; field ignored"
    return none

/-- The loop over the aliases: the value of the first that has one, and whether there was one that
is invalid. -/
def tryAliases (map : JsonMap) (convert : Json → Candidate α) :
    List String → Bool → Option α × Bool
  | [], sawInvalid => (none, sawInvalid)
  | name :: aliases, sawInvalid =>
    match map.get name with
    | none => tryAliases map convert aliases sawInvalid
    | some value =>
      match convert value with
      | .missing => tryAliases map convert aliases sawInvalid
      | .invalid => tryAliases map convert aliases true
      | .value value => (some value, sawInvalid)

/-- The value of the first alias that has one, with a warning if none has but some are invalid. -/
def lookupAliases (map : JsonMap) (aliases : List String) (convert : Json → Candidate α)
    (warning : String) : Mapping (Option α) :=
  match tryAliases map convert aliases false with
  | (some value, _) => return some value
  | (none, true) => do
    warn warning
    return none
  | (none, false) => return none

/-- `alias`. -/
def aliasValue (map : JsonMap) (aliases : List String) (path expected : String)
    (convert : Json → Candidate α) : Mapping (Option α) :=
  lookupAliases map aliases convert s!"{path}: no alias contained a usable {expected}; field ignored"

/-- `fixed_string`. -/
def fixedString [FloatFormat] (value : Option Json) (path : String) : Mapping (Option String) :=
  fixed value path "string" stringCandidate

/-- `fixed_f64`. -/
def fixedF64 (value : Option Json) (path : String) : Mapping (Option F64) :=
  fixed value path "number" f64Candidate

/-- `alias_string`. -/
def aliasString [FloatFormat] (map : JsonMap) (aliases : List String) (path : String) :
    Mapping (Option String) :=
  aliasValue map aliases path "string" stringCandidate

/-- `alias_f64`. -/
def aliasF64 (map : JsonMap) (aliases : List String) (path : String) : Mapping (Option F64) :=
  aliasValue map aliases path "number" f64Candidate

/-- `alias_u32`. -/
def aliasU32 (map : JsonMap) (aliases : List String) (path : String) : Mapping (Option ℕ) :=
  aliasValue map aliases path "non-negative integer" u32Candidate

/-- `join_resource_url`. -/
def joinResourceUrl (base : BaseUrl) (reference path : String) : Mapping (Option String) :=
  match base.join reference with
  | some url => return some url
  | none => do
    warn s!"{path}: invalid resource URL; field ignored"
    return none

/-- `resource_url`. -/
def resourceUrl (base : BaseUrl) (value : Option Json) (path : String) :
    Mapping (Option String) := do
  let reference ← fixed value path "resource URL string" resourceReferenceCandidate
  match reference with
  | none => return none
  | some reference => joinResourceUrl base reference path

/-- A reference that is joined with the base. -/
def joinedCandidate (base : BaseUrl) (value : Json) : Candidate String :=
  match resourceReferenceCandidate value with
  | .missing => .missing
  | .invalid => .invalid
  | .value reference =>
    match base.join reference with
    | some url => .value url
    | none => .invalid

/-- `alias_resource_url`. -/
def aliasResourceUrl (base : BaseUrl) (map : JsonMap) (aliases : List String) (path : String) :
    Mapping (Option String) :=
  lookupAliases map aliases (joinedCandidate base)
    s!"{path}: no alias contained a usable resource URL; field ignored"

end Fields

/-! ## Sections and entries -/

/-- The object in a section that is not missing, with a warning if it is something else. -/
def objectOf (value : Option Json) (warning : String) : Mapping (Option JsonMap) :=
  match value with
  | none => return none
  | some value =>
    if isMissingValue value then return none
    else
      match value with
      | .object map => return some map
      | _ => do
        warn warning
        return none

/-- `decode_section`. All fields of the sections are optional values, so that every object can be
decoded. -/
def decodeSection {α : Type} (decode : JsonMap → α) (value : Option Json) (path : String) :
    Mapping (Option α) :=
  Option.map decode <$> objectOf value s!"{path}: malformed object; ignored"

/-- `section_object`. -/
def sectionObject (value : Option Json) (path : String) : Mapping (Option JsonMap) :=
  objectOf value s!"{path}: expected object; ignored"

/-- The values of an array that are not missing, with their indices. -/
def presentEntries (values : List Json) : List (ℕ × Json) :=
  (values.zipIdx.map Prod.swap).filter fun entry => !isMissingValue entry.2

/-- `sequence_candidate`. -/
def sequenceCandidate (value : Json) (path : String) : Mapping (List (ℕ × Json)) :=
  if isMissingValue value then return []
  else
    match value with
    | .array values => return presentEntries values
    | .object map => return [(0, .object map)]
    | _ => do
      warn s!"{path}: expected array or object; ignored"
      return []

/-- `sequence`. -/
def sequence (value : Option Json) (path : String) : Mapping (List (ℕ × Json)) :=
  match value with
  | none => return []
  | some value => sequenceCandidate value path

/-- The entries of an array or an object. -/
def entriesCandidate (value : Json) : Candidate (List (ℕ × Json)) :=
  if isMissingValue value then .missing
  else
    match value with
    | .array values => .value (presentEntries values)
    | .object map => .value [(0, .object map)]
    | _ => .invalid

/-- `alias_sequence`. -/
def aliasSequence (map : JsonMap) (aliases : List String) (path : String) :
    Mapping (List (ℕ × Json)) :=
  (Option.getD · []) <$> lookupAliases map aliases entriesCandidate
    s!"{path}: no alias contained an array or object; ignored"

end WeatherApp.Nmc
