import WeatherApp.Conf.Load
import WeatherApp.Foundation.SortedMap

/-!
# The manifest of components

`manifest/src/lib.rs`: the components of an installation are recorded in a file next to the
configuration, so that they can be removed later. The text of documents is a parameter, as it is for
the configuration.

## Main definitions

* `ComponentEntry`, `Entries`: an entry, and the set of entries in its order.
* `ManifestDocument.codec`: the derived codec of the document.
* `loadEntriesUnlocked`, `manifestContent`: reading the file, and what is written to it.

## Main results

* `loadEntries_manifestContent`: what is written is read back.
-/

namespace WeatherApp

namespace Manifest

open Serde

/-! ## Entries -/

/-- `ComponentKind`. -/
inductive ComponentKind where
  | bin
  | config
  | db
  | lock
  deriving DecidableEq, Repr

/-- A path: text, or bytes that are no text, with the text that stands for them in messages. -/
inductive OsPath where
  | utf8 (text : String)
  | other (bytes : List UInt8) (lossy : String)
  deriving DecidableEq, Repr

/-- `Path::display`. -/
def OsPath.display : OsPath → String
  | .utf8 text => text
  | .other _ lossy => lossy

/-- `Path::is_absolute`: the path starts at the root. -/
def OsPath.isAbsolute : OsPath → Bool
  | .utf8 text => text.toList.head? = some '/'
  | .other bytes _ => bytes.head? = some 0x2F

/-- `ComponentEntry`. Only text is accepted as a path. -/
structure ComponentEntry where
  kind : ComponentKind
  path : String
  deriving DecidableEq, Repr

/-- `component_path_string`. -/
def componentPathString : OsPath → Except String String
  | .utf8 text => .ok text
  | .other _ _ => .error "component path must be valid UTF-8"

/-- `component_entry`. -/
def componentEntry (kind : ComponentKind) (path : OsPath) : Except String ComponentEntry :=
  if ¬ path.isAbsolute then .error s!"component path must be absolute: {path.display}"
  else do
    let text ← componentPathString path
    return ⟨kind, text⟩

/-! ## The order of entries -/

/-- A component of a path: its place in the order of `Component`, and its name. -/
abbrev PathComponent := ℕ ×ₗ String

/-- `Path::components`: the root, and the names between the slashes. Empty names are dropped, and
dots except for the first one of a relative path. -/
def pathComponents (path : String) : List PathComponent :=
  let names := splitOnChar path '/'
  let root : List PathComponent := if path.toList.head? = some '/' then [toLex (1, "")] else []
  let current : List PathComponent := if names.head? = some "." then [toLex (2, "")] else []
  root ++ current ++ (names.filter fun name => name ≠ "" ∧ name ≠ ".").map fun name =>
    if name = ".." then toLex (3, "") else toLex (4, name)

/-- The place of a kind in the derived order. -/
def ComponentKind.rank : ComponentKind → ℕ
  | .bin => 0
  | .config => 1
  | .db => 2
  | .lock => 3

/-- What the derived order of entries compares, and equality too. -/
abbrev EntryKey := ℕ ×ₗ List PathComponent

/-- The key of an entry. -/
def ComponentEntry.key (entry : ComponentEntry) : EntryKey :=
  toLex (entry.kind.rank, pathComponents entry.path)

example : (⟨.db, "/data//weather.db"⟩ : ComponentEntry).key =
    (⟨.db, "/data/./weather.db"⟩ : ComponentEntry).key := by decide

/-- `BTreeSet<ComponentEntry>`. -/
abbrev Entries := SortedMap EntryKey ComponentEntry

/-- `BTreeSet::insert`: the set, and whether the entry was new. -/
def Entries.insertEntry (entries : Entries) (entry : ComponentEntry) : Entries × Bool :=
  (SortedMap.insertNew entries entry.key entry, entry.key ∉ entries.entries.map (·.1))

/-! ## The document -/

/-- `StoredComponentEntry`. -/
structure StoredComponentEntry where
  kind : ComponentKind
  path : String
  deriving DecidableEq, Repr

/-- `ManifestDocument`. -/
structure ManifestDocument where
  version : ℕ
  components : List StoredComponentEntry
  deriving DecidableEq, Repr

/-- The names of the kinds. -/
def ComponentKind.name : ComponentKind → String
  | .bin => "bin"
  | .config => "config"
  | .db => "db"
  | .lock => "lock"

/-- The derived codec of `ComponentKind`. -/
def ComponentKind.codec : Codec ComponentKind where
  read
    | .string "bin" => .ok .bin
    | .string "config" => .ok .config
    | .string "db" => .ok .db
    | .string "lock" => .ok .lock
    | .string value => .error s!"unknown variant `{value}`"
    | _ => .error "invalid type, expected a string"
  write kind := .ok (.string kind.name)
  read_write := by
    intro kind v h
    obtain rfl := Except.ok.inj h
    cases kind <;> rfl

/-- The derived codec of `StoredComponentEntry`. -/
def StoredComponentEntry.codec : Codec StoredComponentEntry :=
  Fields.codec
    (.cons (.required "kind" ComponentKind.codec) (.cons (.required "path" Serde.string) .nil
      (by decide)) (by decide))
    (fun entry => (entry.kind, entry.path, ())) (fun (kind, path, _) => ⟨kind, path⟩) fun _ => rfl

/-- The derived codec of `ManifestDocument`. -/
def ManifestDocument.codec : Codec ManifestDocument :=
  Fields.codec
    (.cons (.required "version" u32)
      (.cons (.required "components" StoredComponentEntry.codec.list) .nil
        (by decide)) (by decide))
    (fun document => (document.version, document.components, ()))
    (fun (version, components, _) => ⟨version, components⟩) fun _ => rfl

/-- The text of documents: `toml::from_str`, and `toml::to_string_pretty`. A manifest that has been
written is read back. -/
class ManifestFormat where
  fromStr : String → Except String (List (String × Toml))
  toStringPretty : ManifestDocument → Except String String
  fromStr_toStringPretty : ∀ {document text}, toStringPretty document = .ok text →
    ∃ entries, fromStr text = .ok entries ∧
      ManifestDocument.codec.read (.table entries) = .ok document

/-- `COMPONENT_MANIFEST_VERSION`. -/
def componentManifestVersion : ℕ := 1

/-- The entries of a set stand under their keys and have absolute paths. -/
def WellFormed (entries : Entries) : Prop :=
  ∀ entry ∈ entries.entries, entry.1 = entry.2.key ∧ (OsPath.utf8 entry.2.path).isAbsolute = true

theorem wellFormed_empty : WellFormed (SortedMap.empty : Entries) :=
  fun _ hentry => absurd hentry List.not_mem_nil

/-- What is accepted has an absolute path. -/
theorem componentEntry_eq_ok {kind : ComponentKind} {path : OsPath} {entry : ComponentEntry}
    (h : componentEntry kind path = .ok entry) :
    path = .utf8 entry.path ∧ entry.kind = kind ∧ (OsPath.utf8 entry.path).isAbsolute = true := by
  simp only [componentEntry] at h
  split_ifs at h with habsolute
  cases path with
  | other bytes lossy => cases h
  | utf8 text =>
    obtain rfl := Except.ok.inj h
    exact ⟨rfl, rfl, by simpa using habsolute⟩

theorem WellFormed.insertEntry {entries : Entries} (h : WellFormed entries) {entry : ComponentEntry}
    (hentry : (OsPath.utf8 entry.path).isAbsolute = true) :
    WellFormed (Entries.insertEntry entries entry).1 := by
  intro other hother
  rcases SortedMap.mem_entries_insertNew.1 hother with hother | ⟨rfl, -⟩
  · exact h other hother
  · exact ⟨rfl, hentry⟩

section Files

variable [ManifestFormat]

/-- The entries of a document of this version. -/
def ManifestDocument.entries (document : ManifestDocument) : Except String Entries :=
  if document.version ≠ componentManifestVersion then
    .error (s!"component manifest version {document.version} is unsupported; " ++
      s!"this build supports {componentManifestVersion}")
  else do
    let entries ← document.components.mapM fun entry => componentEntry entry.kind (.utf8 entry.path)
    return SortedMap.collect (entries.map fun entry => (entry.key, entry))

/-- `toml::from_str`, for documents. -/
def readDocument (content : String) : Except String ManifestDocument := do
  let fields ← ManifestFormat.fromStr content
  ManifestDocument.codec.read (.table fields)

/-- `load_entries_unlocked`, on the outcome of reading the file. -/
def loadEntriesUnlocked (path : String) (file : Except String String) : Except String Entries := do
  let content ← withContext s!"read component manifest {path}" file
  let document ← withContext s!"parse component manifest {path}" (readDocument content)
  document.entries

/-- The document that `write_entries_unlocked` writes. -/
def Entries.document (entries : Entries) : ManifestDocument :=
  ⟨componentManifestVersion, entries.values.map fun entry => ⟨entry.kind, entry.path⟩⟩

/-- The content that `write_entries_unlocked` writes. -/
def manifestContent (entries : Entries) : Except String String :=
  withContext "serialize component manifest as TOML"
    (ManifestFormat.toStringPretty entries.document)

omit [ManifestFormat] in
theorem ok_of_withContext {α : Type} {context : String} {x : Except String α} {a : α}
    (h : withContext context x = .ok a) : x = .ok a := by
  cases x with
  | error err => cases h
  | ok b => exact h

omit [ManifestFormat] in
/-- The entries of the document of a set are the set. -/
theorem entries_document {entries : Entries} (h : WellFormed entries) :
    entries.document.entries = .ok entries := by
  have haccepted : ∀ values : List ComponentEntry,
      (∀ entry ∈ values, (OsPath.utf8 entry.path).isAbsolute = true) →
        (values.map fun entry => (⟨entry.kind, entry.path⟩ : StoredComponentEntry)).mapM
          (fun entry => componentEntry entry.kind (.utf8 entry.path)) = .ok values := by
    intro values hvalues
    induction values with
    | nil => rfl
    | cons entry values ih =>
      have hfirst : componentEntry entry.kind (.utf8 entry.path) = .ok entry := by
        rw [componentEntry, if_neg (not_not.2 (hvalues entry List.mem_cons_self))]
        rfl
      rw [List.map_cons, List.mapM_cons, hfirst,
        ih fun other hother => hvalues other (List.mem_cons_of_mem _ hother)]
      rfl
  have hentries := haccepted entries.values fun entry hentry => by
    obtain ⟨pair, hpair, rfl⟩ := List.mem_map.1 hentry
    exact (h pair hpair).2
  have hcollect : entries.values.map (fun entry => (entry.key, entry)) = entries.entries := by
    rw [SortedMap.values, List.map_map]
    refine (List.map_congr_left fun entry hentry => ?_).trans (List.map_id _)
    rw [Function.comp_apply, ← (h entry hentry).1]
    rfl
  have hversion : ¬ entries.document.version ≠ componentManifestVersion := not_not.2 rfl
  rw [ManifestDocument.entries, if_neg hversion]
  apply bind_eq_ok.2
  refine ⟨entries.values, hentries, ?_⟩
  rw [hcollect, SortedMap.collect_entries]
  rfl

/-- What is written is read back. -/
theorem loadEntries_manifestContent {entries : Entries} (h : WellFormed entries) {content : String}
    (hcontent : manifestContent entries = .ok content) (path : String) :
    loadEntriesUnlocked path (.ok content) = .ok entries := by
  obtain ⟨fields, hfields, hread⟩ :=
    ManifestFormat.fromStr_toStringPretty (ok_of_withContext hcontent)
  have hdocument : readDocument content = .ok entries.document :=
    bind_eq_ok.2 ⟨fields, hfields, hread⟩
  apply bind_eq_ok.2
  refine ⟨content, rfl, ?_⟩
  rw [hdocument]
  exact bind_eq_ok.2 ⟨entries.document, rfl, entries_document h⟩

end Files

end Manifest

end WeatherApp
