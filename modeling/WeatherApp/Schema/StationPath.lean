import WeatherApp.Schema.Station

/-!
# Station paths

What a station name stands for: a list of components. The functions on names, which split and join
texts, are those on paths.

## Main definitions

* `IsComponent`: a text that can stand between the hyphens of a name.
* `StationPath`, `StationPath.ofName`, `StationPath.name`: paths and their texts.
* `StationPath.parent`: the path of a two-level parent.

## Main results

* `StationPath.ofName_name`: a path is read back from its text.
* `parentStationName_eq`: `parentStationName` is `StationPath.parent`.
-/

namespace WeatherApp

/-- A component of a station path: trimmed, not empty and without hyphens. -/
structure IsComponent (value : String) : Prop where
  trimmed : trim value = value
  nonempty : value ≠ ""
  plain : '-' ∉ value.toList

/-- A station path. -/
@[ext]
structure StationPath where
  components : List String
  clean : ∀ component ∈ components, IsComponent component
  deriving DecidableEq

namespace StationPath

/-- The path that a text stands for: its pieces, trimmed, without the empty ones. -/
def ofName (name : String) : StationPath where
  components := ((splitOnChar name '-').map trim).filter (· ≠ "")
  clean _ h :=
    have hpart := mem_stationParts h
    ⟨hpart.1, hpart.2.1, hpart.2.2⟩

/-- The text of a path. -/
def name (path : StationPath) : String := "-".intercalate path.components

/-- Normalizing a name is reading its path. -/
theorem name_ofName (name : String) : (ofName name).name = normalizeStationName name := rfl

/-- The pieces of the text of a path are its components. -/
theorem splitOnChar_name {path : StationPath} (h : path.components ≠ []) :
    splitOnChar path.name '-' = path.components :=
  splitOnChar_intercalate h fun component hcomponent => (path.clean component hcomponent).plain

/-- A path is read back from its text. -/
@[simp]
theorem ofName_name (path : StationPath) : ofName path.name = path := by
  ext1
  by_cases h : path.components = []
  · -- the text of the empty path is one empty piece
    have hname : path.name = "" := by rw [name, h]; rfl
    rw [hname, h]
    decide
  · have htrimmed : path.components.map trim = path.components := by
      rw [List.map_congr_left fun component hcomponent => (path.clean component hcomponent).trimmed,
        List.map_id']
    change ((splitOnChar path.name '-').map trim).filter (· ≠ "") = path.components
    rw [splitOnChar_name h, htrimmed, List.filter_eq_self]
    intro component hcomponent
    exact decide_eq_true (path.clean component hcomponent).nonempty

/-- The parent of a path of three components: its first two. -/
def parent (path : StationPath) : Option StationPath :=
  if path.components.length = 3 then
    some ⟨path.components.take 2, fun component h => path.clean component (List.mem_of_mem_take h)⟩
  else none

theorem length_of_parent {path parent : StationPath} (h : path.parent = some parent) :
    parent.components.length = 2 := by
  unfold StationPath.parent at h
  split_ifs at h with hlength
  rw [← Option.some.inj h, List.length_take, hlength]
  rfl

/-- A parent has no parent. -/
theorem parent_of_parent {path parent : StationPath} (h : path.parent = some parent) :
    parent.parent = none := by
  have hlength := length_of_parent h
  rw [StationPath.parent, if_neg (by omega)]

end StationPath

/-- The parent of a name is the parent of its path. -/
theorem parentStationName_eq (name : String) :
    parentStationName name = (StationPath.ofName name).parent.map StationPath.name := by
  rw [parentStationName, ← StationPath.name_ofName, StationPath.parent]
  by_cases h : (StationPath.ofName name).components = []
  · have hpieces : (splitOnChar (StationPath.ofName name).name '-').length ≠ 3 := by
      rw [StationPath.name, h]
      decide
    have hlength : (StationPath.ofName name).components.length ≠ 3 := by
      rw [h]
      decide
    rw [if_neg hpieces, if_neg hlength]
    rfl
  · rw [StationPath.splitOnChar_name h]
    split_ifs <;> rfl

/-- The parent of the text of a path. -/
theorem parentStationName_name (path : StationPath) :
    parentStationName path.name = path.parent.map StationPath.name := by
  rw [parentStationName_eq, StationPath.ofName_name]

/-- The name of a parent has no parent. -/
theorem parentStationName_of_parent {name parentName : String}
    (h : parentStationName name = some parentName) : parentStationName parentName = none := by
  rw [parentStationName_eq] at h
  obtain ⟨parent, hparent, rfl⟩ := Option.map_eq_some_iff.1 h
  rw [parentStationName_name, StationPath.parent_of_parent hparent]
  rfl

end WeatherApp
