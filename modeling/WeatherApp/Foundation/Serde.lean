import Mathlib.Algebra.Group.Nat.Defs
import Mathlib.Data.List.Basic
import Mathlib.Tactic.Common

/-!
# Records as TOML

The values of TOML documents, and how records are read from them and written to them: a record is
a table with one entry for each of its fields, or an array with the values of the fields in their
order. A field is required, has a default, or is left out where it has no value.

## Main definitions

* `Toml`: the values of documents.
* `Codec`: a reader and a writer, such that what is written is read back.
* `Field`, `Fields`: the fields of a record, and `Fields.codec`, its codec.
-/

namespace Serde

/-- `x >>= f` succeeds if and only if both do. -/
theorem bind_eq_ok {ε α β : Type} {x : Except ε α} {f : α → Except ε β} {b : β} :
    x >>= f = .ok b ↔ ∃ a, x = .ok a ∧ f a = .ok b := by
  cases x with
  | error e => simp [bind, Except.bind]
  | ok a => simp [bind, Except.bind]

/-- A value of a document. A date and time is its text. The keys of a table are distinct. -/
inductive Toml where
  | string (value : String)
  | integer (value : Int64)
  | float (text : String)
  | boolean (value : Bool)
  | datetime (text : String)
  | array (items : List Toml)
  | table (entries : List (String × Toml))

/-- The entries with another value for a key. -/
def insertEntry (entries : List (String × Toml)) (key : String) (value : Toml) :
    List (String × Toml) :=
  (key, value) :: entries.filter (·.1 ≠ key)

theorem lookup_insertEntry_self {entries : List (String × Toml)} {key : String} {value : Toml} :
    (insertEntry entries key value).lookup key = some value :=
  List.lookup_cons_self

theorem lookup_filter_of_ne {key other : String} (h : other ≠ key) (entries : List (String × Toml)) :
    (entries.filter (·.1 ≠ key)).lookup other = entries.lookup other := by
  induction entries with
  | nil => rfl
  | cons entry entries ih =>
    rw [List.filter_cons, List.lookup_cons]
    by_cases hentry : entry.1 = key
    · -- An entry of the key is dropped, which no other key finds.
      have hother : (other == entry.1) = false := beq_eq_false_iff_ne.2 (hentry ▸ h)
      rw [if_neg (by simpa using hentry), hother, ih]
    · rw [if_pos (by simpa using hentry), List.lookup_cons, ih]

theorem lookup_insertEntry_of_ne {entries : List (String × Toml)} {key other : String}
    {value : Toml} (h : other ≠ key) :
    (insertEntry entries key value).lookup other = entries.lookup other := by
  have hkey : (other == key) = false := beq_eq_false_iff_ne.2 h
  rw [insertEntry, List.lookup_cons, hkey]
  exact lookup_filter_of_ne h entries

/-- A reader and a writer of some type. -/
structure Codec (α : Type) where
  read : Toml → Except String α
  write : α → Except String Toml
  /-- What is written is read back. -/
  read_write : ∀ {a v}, write a = .ok v → read v = .ok a

/-! ## Scalars and lists -/

/-- Text. A date and time is read as its text. -/
def string : Codec String where
  read
    | .string value => .ok value
    | .datetime text => .ok text
    | _ => .error "invalid type, expected a string"
  write value := .ok (.string value)
  read_write h := by
    obtain rfl := Except.ok.inj h
    rfl

/-- Truth values. -/
def bool : Codec Bool where
  read
    | .boolean value => .ok value
    | _ => .error "invalid type, expected a boolean"
  write value := .ok (.boolean value)
  read_write h := by
    obtain rfl := Except.ok.inj h
    rfl

/-- Natural numbers up to a bound, among the 64-bit integers of documents. -/
def natUpTo (bound : ℕ) (hbound : bound < 2 ^ 63) : Codec ℕ where
  read
    | .integer value =>
      if 0 ≤ value.toInt ∧ value.toInt ≤ bound then .ok value.toInt.toNat
      else .error "invalid value, the integer is out of range"
    | _ => .error "invalid type, expected an integer"
  write value :=
    if value ≤ bound then .ok (.integer (Int64.ofNat value))
    else .error "the integer is too large"
  read_write := by
    intro value v h
    split_ifs at h with hle
    obtain rfl := Except.ok.inj h
    have hvalue : (Int64.ofNat value).toInt = value := by
      apply Int64.toInt_ofNat_of_lt
      omega
    have hrange : (0 : Int) ≤ value ∧ (value : Int) ≤ bound := by omega
    simp only [hvalue, if_pos hrange, Int.toNat_natCast]

theorem natUpTo_read {bound : ℕ} {hbound : bound < 2 ^ 63} {v : Toml} {n : ℕ}
    (h : (natUpTo bound hbound).read v = .ok n) :
    ∃ i, v = .integer i ∧ 0 ≤ i.toInt ∧ i.toInt ≤ bound ∧ n = i.toInt.toNat := by
  cases v with
  | integer i =>
    simp only [natUpTo] at h
    split_ifs at h with hrange
    exact ⟨i, rfl, hrange.1, hrange.2, (Except.ok.inj h).symm⟩
  | string | float | boolean | datetime | array | table => exact nomatch h

/-- `u32`. -/
def u32 : Codec ℕ := natUpTo (2 ^ 32 - 1) (by decide)

/-- `u64`, of which documents hold the smaller half. -/
def u64 : Codec ℕ := natUpTo (2 ^ 63 - 1) (by decide)

theorem mapM_read_write {α : Type} (c : Codec α) {items : List α} :
    ∀ {values}, items.mapM c.write = .ok values → values.mapM c.read = .ok items := by
  induction items with
  | nil =>
    intro values h
    obtain rfl := Except.ok.inj h
    rfl
  | cons item items ih =>
    intro values h
    rw [List.mapM_cons] at h
    obtain ⟨v, hv, h⟩ := bind_eq_ok.1 h
    obtain ⟨vs, hvs, h⟩ := bind_eq_ok.1 h
    obtain rfl := Except.ok.inj h
    rw [List.mapM_cons, c.read_write hv, ih hvs]
    rfl

/-- Lists are arrays. -/
def Codec.list {α : Type} (c : Codec α) : Codec (List α) where
  read
    | .array items => items.mapM c.read
    | _ => .error "invalid type, expected a sequence"
  write items := items.mapM c.write >>= fun values => .ok (.array values)
  read_write := by
    intro items v h
    obtain ⟨values, hvalues, h⟩ := bind_eq_ok.1 h
    obtain rfl := Except.ok.inj h
    exact mapM_read_write c hvalues

/-! ## Fields -/

/-- A field of a record. -/
structure Field (α : Type) where
  name : String
  /-- The value of the field from that of its entry. -/
  read : Option Toml → Except String α
  /-- The entry of the field, unless it is left out. -/
  write : α → Except String (Option Toml)
  read_write : ∀ {a v}, write a = .ok v → read v = .ok a

namespace Field

variable {α : Type}

/-- A field that must be there. -/
def required (name : String) (c : Codec α) : Field α where
  name
  read
    | some v => c.read v
    | none => .error s!"missing field {name}"
  write a := c.write a >>= fun v => .ok (some v)
  read_write := by
    intro a v h
    obtain ⟨v, hv, h⟩ := bind_eq_ok.1 h
    obtain rfl := Except.ok.inj h
    exact c.read_write hv

theorem required_read {name : String} {c : Codec α} {value : Option Toml} {a : α}
    (h : (required name c).read value = .ok a) : ∃ v, value = some v ∧ c.read v = .ok a := by
  rcases value with _ | v
  · exact nomatch h
  · exact ⟨v, rfl, h⟩

/-- A field with a default, which is always written. -/
def defaulted (name : String) (c : Codec α) (default : α) : Field α where
  name
  read
    | some v => c.read v
    | none => .ok default
  write a := c.write a >>= fun v => .ok (some v)
  read_write := by
    intro a v h
    obtain ⟨v, hv, h⟩ := bind_eq_ok.1 h
    obtain rfl := Except.ok.inj h
    exact c.read_write hv

/-- A field with a default, which is left out when it has its default. -/
def skipped [DecidableEq α] (name : String) (c : Codec α) (default : α) : Field α where
  name
  read
    | some v => c.read v
    | none => .ok default
  write a := if a = default then .ok none else c.write a >>= fun v => .ok (some v)
  read_write := by
    intro a v h
    split_ifs at h with hdefault
    · obtain rfl := Except.ok.inj h
      rw [hdefault]
    · obtain ⟨v, hv, h⟩ := bind_eq_ok.1 h
      obtain rfl := Except.ok.inj h
      exact c.read_write hv

/-- A field that may have no value, and is left out then. -/
def optional (name : String) (c : Codec α) : Field (Option α) where
  name
  read
    | some v => c.read v >>= fun a => .ok (some a)
    | none => .ok none
  write
    | some a => c.write a >>= fun v => .ok (some v)
    | none => .ok none
  read_write := by
    intro a v h
    rcases a with _ | a
    · obtain rfl := Except.ok.inj h
      rfl
    · obtain ⟨v, hv, h⟩ := bind_eq_ok.1 h
      obtain rfl := Except.ok.inj h
      show c.read v >>= _ = _
      rw [c.read_write hv]
      rfl

end Field

/-! ## Records -/

/-- What the fields of a record are read from: the entries of a table that has no others, or the
items of an array that has no more. -/
def recordFields (names : List String) : Toml → Except String (String → Option Toml)
  | .table entries =>
    if ∀ entry ∈ entries, entry.1 ∈ names then .ok fun name => entries.lookup name
    else .error "unknown field"
  | .array items =>
    if items.length ≤ names.length then .ok fun name => items[names.idxOf name]?
    else .error "invalid length, expected fewer elements in array"
  | _ => .error "invalid type, expected a record"

theorem recordFields_table {names : List String} {entries : List (String × Toml)}
    {field : String → Option Toml} (h : recordFields names (.table entries) = .ok field) :
    field = fun name => entries.lookup name := by
  simp only [recordFields] at h
  split_ifs at h
  exact (Except.ok.inj h).symm

/-- The fields of a record, in their order. -/
structure Fields (α : Type) where
  names : List String
  read : (String → Option Toml) → Except String α
  write : α → Except String (List (String × Toml))
  /-- Only the fields are written. -/
  names_write : ∀ {a entries}, write a = .ok entries → ∀ entry ∈ entries, entry.1 ∈ names
  /-- What is written is read back from where the fields are. -/
  read_write : ∀ {a entries} {field : String → Option Toml}, write a = .ok entries →
    (∀ name ∈ names, field name = entries.lookup name) → read field = .ok a

namespace Fields

variable {α β : Type}

/-- No fields. -/
def nil : Fields Unit where
  names := []
  read _ := .ok ()
  write _ := .ok []
  names_write h := by
    obtain rfl := Except.ok.inj h
    exact fun _ hentry => absurd hentry List.not_mem_nil
  read_write _ _ := rfl

/-- The entries of a record with the entry of one more field. -/
def consEntry (name : String) (value : Option Toml) (entries : List (String × Toml)) :
    List (String × Toml) :=
  match value with
  | some v => (name, v) :: entries
  | none => entries

theorem lookup_consEntry_self {name : String} {value : Option Toml}
    {entries : List (String × Toml)} (h : ∀ entry ∈ entries, entry.1 ≠ name) :
    (consEntry name value entries).lookup name = value := by
  rcases value with _ | v
  · apply List.lookup_eq_none_iff.2
    intro entry hentry
    exact bne_iff_ne.2 (h entry hentry).symm
  · exact List.lookup_cons_self

theorem lookup_consEntry_of_ne {name other : String} {value : Option Toml}
    {entries : List (String × Toml)} (h : other ≠ name) :
    (consEntry name value entries).lookup other = entries.lookup other := by
  rcases value with _ | v
  · rfl
  · have hkey : (other == name) = false := beq_eq_false_iff_ne.2 h
    rw [consEntry, List.lookup_cons, hkey]

/-- One more field before the others. -/
def cons (f : Field α) (fs : Fields β) (hname : f.name ∉ fs.names) : Fields (α × β) where
  names := f.name :: fs.names
  read field := do
    let a ← f.read (field f.name)
    let b ← fs.read field
    .ok (a, b)
  write ab := do
    let value ← f.write ab.1
    let entries ← fs.write ab.2
    .ok (consEntry f.name value entries)
  names_write := by
    intro ab entries h
    obtain ⟨value, -, h⟩ := bind_eq_ok.1 h
    obtain ⟨rest, hrest, h⟩ := bind_eq_ok.1 h
    obtain rfl := Except.ok.inj h
    have hnames := fs.names_write hrest
    rcases value with _ | v
    · exact fun entry hentry => List.mem_cons_of_mem _ (hnames entry hentry)
    · rintro entry (_ | ⟨_, hentry⟩)
      · exact List.mem_cons_self
      · exact List.mem_cons_of_mem _ (hnames entry hentry)
  read_write := by
    rintro ⟨a, b⟩ entries field h hfield
    obtain ⟨value, hvalue, h⟩ := bind_eq_ok.1 h
    obtain ⟨rest, hrest, h⟩ := bind_eq_ok.1 h
    obtain rfl := Except.ok.inj h
    have hfresh : ∀ entry ∈ rest, entry.1 ≠ f.name := by
      intro entry hentry heq
      exact hname (heq ▸ fs.names_write hrest entry hentry)
    have hhead : field f.name = value := by
      rw [hfield f.name List.mem_cons_self, lookup_consEntry_self hfresh]
    have htail : ∀ name ∈ fs.names, field name = rest.lookup name := by
      intro name hmem
      rw [hfield name (List.mem_cons_of_mem _ hmem), lookup_consEntry_of_ne]
      rintro rfl
      exact hname hmem
    apply bind_eq_ok.2
    refine ⟨a, by rw [hhead, f.read_write hvalue], ?_⟩
    apply bind_eq_ok.2
    exact ⟨b, fs.read_write hrest htail, rfl⟩

/-- After another value has been written for the first field, that value is read and the others
as they were. -/
theorem read_insertEntry {c : Codec α} {name : String} {fs : Fields β} {hname : name ∉ fs.names}
    {a a' : α} {b : β} {entries : List (String × Toml)} {v : Toml}
    (hentries : (cons (.required name c) fs hname).write (a, b) = .ok entries)
    (hv : c.write a' = .ok v) :
    (∀ entry ∈ insertEntry entries name v, entry.1 ∈ name :: fs.names) ∧
      (cons (.required name c) fs hname).read (fun other => (insertEntry entries name v).lookup other) =
        .ok (a', b) := by
  have hnames := (cons (.required name c) fs hname).names_write hentries
  obtain ⟨value, hvalue, h⟩ := bind_eq_ok.1 hentries
  obtain ⟨rest, hrest, h⟩ := bind_eq_ok.1 h
  obtain rfl := Except.ok.inj h
  constructor
  · rintro entry (_ | ⟨_, hentry⟩)
    · exact List.mem_cons_self
    · exact hnames entry (List.mem_of_mem_filter hentry)
  · -- It is what would be written for the record with the other value.
    have hwritten : (cons (.required name c) fs hname).write (a', b) =
        .ok (consEntry name (some v) rest) := by
      apply bind_eq_ok.2
      refine ⟨some v, ?_, bind_eq_ok.2 ⟨rest, hrest, rfl⟩⟩
      exact bind_eq_ok.2 ⟨v, hv, rfl⟩
    apply (cons (.required name c) fs hname).read_write hwritten
    intro other hother
    by_cases heq : other = name
    · subst heq
      rw [lookup_insertEntry_self]
      exact List.lookup_cons_self.symm
    · rw [lookup_insertEntry_of_ne heq, lookup_consEntry_of_ne heq]
      exact lookup_consEntry_of_ne heq

/-- The codec of a record with these fields. -/
def codec (fs : Fields β) (toFields : α → β) (ofFields : β → α)
    (hof : ∀ a, ofFields (toFields a) = a) : Codec α where
  read v := do
    let field ← recordFields fs.names v
    let b ← fs.read field
    .ok (ofFields b)
  write a := do
    let entries ← fs.write (toFields a)
    .ok (.table entries)
  read_write := by
    intro a v h
    obtain ⟨entries, hentries, h⟩ := bind_eq_ok.1 h
    obtain rfl := Except.ok.inj h
    have hrecord : recordFields fs.names (.table entries) = .ok fun name => entries.lookup name :=
      if_pos (fs.names_write hentries)
    apply bind_eq_ok.2
    refine ⟨_, hrecord, ?_⟩
    apply bind_eq_ok.2
    exact ⟨toFields a, fs.read_write hentries fun _ _ => rfl, by rw [hof]⟩

end Fields

end Serde
