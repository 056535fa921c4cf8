import WeatherApp.Schema.Text

/-!
# Station names and identities

Station paths (`weather-schema/src/station.rs`) and the unified station UUID
(`weather-schema/src/uuid.rs`). SHA-256 comes from a third-party crate and is a parameter.
-/

namespace WeatherApp

/-- Public identity of a station. -/
structure StationRef where
  province : String
  city : String
  name : String
  unifiedUuid : String
  deriving DecidableEq, Repr

/-- Canonicalize a station path while preserving its components. -/
def normalizeStationName (name : String) : String :=
  "-".intercalate (((splitOnChar name '-').map trim).filter (· ≠ ""))

/-- The components of a normalized path: trimmed, not empty and without hyphens. -/
theorem mem_stationParts {name part : String}
    (h : part ∈ ((splitOnChar name '-').map trim).filter (· ≠ "")) :
    trim part = part ∧ part ≠ "" ∧ '-' ∉ part.toList := by
  rw [List.mem_filter, List.mem_map, decide_eq_true_iff] at h
  obtain ⟨⟨piece, hpiece, rfl⟩, hne⟩ := h
  refine ⟨trim_trim piece, hne, fun hmem => ?_⟩
  exact separator_notMem_of_mem_splitOnChar hpiece (mem_toList_of_mem_trim hmem)

/-- Normalizing is idempotent. -/
@[simp]
theorem normalizeStationName_idem (name : String) :
    normalizeStationName (normalizeStationName name) = normalizeStationName name := by
  have hparts := fun part => @mem_stationParts name part
  unfold normalizeStationName
  generalize ((splitOnChar name '-').map trim).filter (· ≠ "") = parts at hparts
  by_cases hne : parts = []
  · subst hne
    decide
  · have hsplit : splitOnChar ("-".intercalate parts) '-' = parts :=
      splitOnChar_intercalate hne fun part hpart => (hparts part hpart).2.2
    have htrimmed : parts.map trim = parts := by
      rw [List.map_congr_left fun part hpart => (hparts part hpart).1, List.map_id']
    rw [hsplit, htrimmed, List.filter_eq_self.2]
    intro part hpart
    exact decide_eq_true (hparts part hpart).2.1

example : normalizeStationName " 北京 -  - 朝阳 " = "北京-朝阳" := by decide

/-- The two-level parent of an exact three-level station path. -/
def parentStationName (name : String) : Option String :=
  let parts := splitOnChar (normalizeStationName name) '-'
  if parts.length = 3 then some ("-".intercalate (parts.take 2)) else none

example : parentStationName " 海南 - 海南省 - 三亚 " = some "海南-海南省" := by decide

/-- Remove one supported administrative suffix, without trimming the input. -/
def shortRegionName (value : String) : String :=
  (stripSuffix value "市" <|> stripSuffix value "省" <|> stripSuffix value "自治区" <|>
    stripSuffix value "特别行政区").getD value

/-- A region is its short name and an administrative suffix, if it has one. -/
theorem toList_shortRegionName (value : String) :
    ∃ suffix ∈ ["市", "省", "自治区", "特别行政区", ""],
      value.toList = (shortRegionName value).toList ++ suffix.toList := by
  unfold shortRegionName
  cases hcity : stripSuffix value "市" with
  | some kept => exact ⟨"市", by simp, toList_of_stripSuffix hcity⟩
  | none =>
    cases hprovince : stripSuffix value "省" with
    | some kept => exact ⟨"省", by simp, toList_of_stripSuffix hprovince⟩
    | none =>
      cases hautonomous : stripSuffix value "自治区" with
      | some kept => exact ⟨"自治区", by simp, toList_of_stripSuffix hautonomous⟩
      | none =>
        cases hspecial : stripSuffix value "特别行政区" with
        | some kept => exact ⟨"特别行政区", by simp, toList_of_stripSuffix hspecial⟩
        | none => exact ⟨"", by simp, by simp⟩

/-- The stable public station path. -/
def canonicalStationName (province city : String) : String :=
  let region := shortRegionName province
  let cityLevel := province
  let core := shortRegionName cityLevel
  if city = core ∨ city = province then s!"{region}-{cityLevel}"
  else s!"{region}-{cityLevel}-{city}"

example : canonicalStationName "北京市" "北京" = "北京-北京市" := by decide

example : canonicalStationName "北京市" "朝阳" = "北京-北京市-朝阳" := by decide

/-- The SHA-256 digest of the `sha2` crate. -/
class Sha256 where
  digest : List UInt8 → Vector UInt8 32

/-- The digest of the seed and the name of `sampleStation`, to run the model on. -/
@[reducible]
def sampleSha256 : Sha256 where
  digest _ := #v[2, 171, 74, 137, 41, 169, 236, 255, 110, 125, 208, 46, 217, 64, 168, 145, 80, 24,
    31, 147, 137, 81, 250, 50, 40, 239, 39, 93, 115, 19, 109, 189]

/-- Seed that isolates the namespace of station UUIDs. -/
def unifiedUuidSeed : String := "weather.app/unified-station/v1"

/-- One byte as two lowercase hexadecimal digits, `{byte:02x}`. -/
def hexByte (byte : UInt8) : String :=
  String.ofList [Nat.digitChar (byte.toNat / 16), Nat.digitChar (byte.toNat % 16)]

/-- The 8-4-4-4-12 form of sixteen bytes. -/
def formatUuid (bytes : List UInt8) : String :=
  String.join (bytes.zipIdx.map fun (byte, i) =>
    if i = 4 ∨ i = 6 ∨ i = 8 ∨ i = 10 then "-" ++ hexByte byte else hexByte byte)

/-- The unified UUID of a canonical station name: the first sixteen digest bytes with the
version and variant bits set. -/
def unifiedStationUuid [Sha256] (canonicalName : String) : String :=
  let digest := (Sha256.digest (asBytes unifiedUuidSeed ++ [0x00] ++ asBytes canonicalName)).toList
  let bytes := digest.take 16
  let bytes := bytes.modify 6 fun byte => (byte &&& 0x0F) ||| 0x50
  let bytes := bytes.modify 8 fun byte => (byte &&& 0x3F) ||| 0x80
  formatUuid bytes

/-- The station of the city itself in Beijing. -/
def sampleStation : StationRef :=
  ⟨"北京市", "北京", "北京-北京市", "02ab4a89-29a9-5cff-ae7d-d02ed940a891"⟩

example : @unifiedStationUuid sampleSha256 sampleStation.name = sampleStation.unifiedUuid := by
  decide

end WeatherApp
