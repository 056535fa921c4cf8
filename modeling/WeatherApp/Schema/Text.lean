import Mathlib.Data.List.DropRight
import Mathlib.Data.Prod.Lex
import Mathlib.Data.String.Basic
import Mathlib.Tactic

/-!
# Text functions

The functions of Rust's `str` that the modelled code calls, on Lean strings.
-/

namespace WeatherApp

/-- `char::is_whitespace`: the Unicode property `White_Space`. -/
def isWhitespace (c : Char) : Bool :=
  let n := c.toNat
  (0x09 ≤ n && n ≤ 0x0d) || n = 0x20 || n = 0x85 || n = 0xa0 || n = 0x1680 ||
    (0x2000 ≤ n && n ≤ 0x200a) || n = 0x2028 || n = 0x2029 || n = 0x202f || n = 0x205f ||
    n = 0x3000

/-- `str::trim`: drop the white space at both ends. -/
def trim (value : String) : String :=
  String.ofList
    ((value.toList.dropWhile isWhitespace).reverse.dropWhile isWhitespace).reverse

theorem trim_eq (value : String) :
    trim value = String.ofList ((value.toList.dropWhile isWhitespace).rdropWhile isWhitespace) :=
  rfl

/-- Trimming keeps only characters of the text. -/
theorem mem_toList_of_mem_trim {value : String} {c : Char} (h : c ∈ (trim value).toList) :
    c ∈ value.toList := by
  rw [trim_eq, String.toList_ofList] at h
  exact (List.dropWhile_suffix isWhitespace).subset
    ((List.rdropWhile_prefix isWhitespace _).subset h)

/-- What is left after dropping at both ends starts with a kept element, if anything is left. -/
theorem dropWhile_rdropWhile_dropWhile {α : Type} (p : α → Bool) (xs : List α) :
    ((xs.dropWhile p).rdropWhile p).dropWhile p = (xs.dropWhile p).rdropWhile p := by
  rw [List.dropWhile_eq_self_iff]
  intro hlength
  have hstarts := List.rdropWhile_prefix p (xs.dropWhile p)
  have hkept := List.dropWhile_eq_self_iff.1 (List.dropWhile_idempotent p xs)
  rw [hstarts.getElem hlength]
  exact hkept (hlength.trans_le hstarts.length_le)

/-- Trimming is idempotent. -/
@[simp]
theorem trim_trim (value : String) : trim (trim value) = trim value := by
  rw [trim_eq (trim value), trim_eq value, String.toList_ofList, dropWhile_rdropWhile_dropWhile,
    List.rdropWhile_idempotent]

/-- A text without white space is trimmed already. -/
theorem trim_eq_self {value : String} (h : ∀ c ∈ value.toList, isWhitespace c = false) :
    trim value = value := by
  have hdrop : ∀ chars : List Char, (∀ c ∈ chars, isWhitespace c = false) →
      chars.dropWhile isWhitespace = chars := fun chars hchars => by
    apply List.dropWhile_eq_self_iff.2
    intro hlength
    simp [hchars _ (List.getElem_mem hlength)]
  rw [trim, hdrop _ h, hdrop _ fun c hc => h c (List.mem_reverse.1 hc), List.reverse_reverse,
    String.ofList_toList]

/-- `value.trim().is_empty()`. -/
def isBlank (value : String) : Bool := trim value = ""

/-- `str::strip_suffix`. -/
def stripSuffix (value suffix : String) : Option String :=
  let kept := value.toList.length - suffix.toList.length
  if value.toList.drop kept = suffix.toList then some (String.ofList (value.toList.take kept))
  else none

theorem toList_of_stripSuffix {value suffix kept : String}
    (h : stripSuffix value suffix = some kept) : value.toList = kept.toList ++ suffix.toList := by
  simp only [stripSuffix] at h
  split_ifs at h with hsuffix
  calc value.toList
      = value.toList.take (value.toList.length - suffix.toList.length) ++
          value.toList.drop (value.toList.length - suffix.toList.length) :=
        (List.take_append_drop _ _).symm
    _ = kept.toList ++ suffix.toList := by
        rw [hsuffix, ← Option.some.inj h, String.toList_ofList]

theorem stripSuffix_append (kept suffix : String) :
    stripSuffix (kept ++ suffix) suffix = some kept := by
  simp [stripSuffix, String.toList_append]

/-- `str::strip_prefix`. -/
def stripPrefix (start value : String) : Option String :=
  (value.toList.dropPrefix? start.toList).map String.ofList

/-- `value.split(separator)`: the pieces between the separators, empty ones included. -/
def splitOnChar (value : String) (separator : Char) : List String :=
  (value.toList.splitOn separator).map String.ofList

/-- A piece of a split list contains no separator. -/
theorem notMem_of_mem_splitOn {α : Type} [BEq α] [LawfulBEq α] {x : α} {xs piece : List α}
    (h : piece ∈ xs.splitOn x) : x ∉ piece := by
  induction xs generalizing piece with
  | nil =>
    rw [List.splitOn_nil, List.mem_singleton] at h
    simp [h]
  | cons y xs ih =>
    rw [List.splitOn_cons_eq_if_modifyHead] at h
    split at h
    next =>
      rcases List.mem_cons.1 h with rfl | hrest
      · exact List.not_mem_nil
      · exact ih hrest
    next hother =>
      obtain ⟨head, rest, hpieces⟩ := List.exists_cons_of_ne_nil (List.splitOn_ne_nil x xs)
      rw [hpieces] at h ih
      rcases List.mem_cons.1 h with rfl | hrest
      · rw [List.mem_cons, not_or]
        exact ⟨fun heq => hother (by simp [heq]), ih List.mem_cons_self⟩
      · exact ih (List.mem_cons_of_mem _ hrest)

/-- A piece of a text contains no separator. -/
theorem separator_notMem_of_mem_splitOnChar {value piece : String} {separator : Char}
    (h : piece ∈ splitOnChar value separator) : separator ∉ piece.toList := by
  obtain ⟨cs, hcs, rfl⟩ := List.mem_map.1 h
  rw [String.toList_ofList]
  exact notMem_of_mem_splitOn hcs

/-- Splitting undoes joining with the separator. -/
theorem splitOnChar_intercalate {pieces : List String} {separator : Char} (hne : pieces ≠ [])
    (h : ∀ piece ∈ pieces, separator ∉ piece.toList) :
    splitOnChar (separator.toString.intercalate pieces) separator = pieces := by
  rw [splitOnChar, String.toList_intercalate, Char.toString, String.toList_singleton,
    List.splitOn_intercalate separator ?_ (by simpa using hne), List.map_map]
  · exact List.map_id'' (fun piece => by simp) pieces
  · intro cs hcs
    obtain ⟨piece, hpiece, rfl⟩ := List.mem_map.1 hcs
    exact h piece hpiece

/-- `str::as_bytes`: the UTF-8 encoding. -/
def asBytes (value : String) : List UInt8 := value.toList.flatMap String.utf8EncodeChar

/-- `value.starts_with(start)`. -/
def startsWith (value start : String) : Bool := start.toList.isPrefixOf value.toList

/-- `value.contains(part)` for a string `part`. -/
def contains (value part : String) : Bool :=
  value.toList.tails.any fun tail => part.toList.isPrefixOf tail

/-- The Unicode tables of Rust's standard library. -/
class UnicodeTables where
  /-- `char::is_alphanumeric`. -/
  isAlphanumeric : Char → Bool
  /-- `char::to_lowercase`. -/
  toLowercase : Char → List Char

/-- The tables for ASCII and the common Chinese characters, to run the model on. -/
@[reducible]
def sampleUnicode : UnicodeTables where
  isAlphanumeric c := c.isAlphanum || (0x4e00 ≤ c.toNat && c.toNat ≤ 0x9fff)
  toLowercase c := [c.toLower]

end WeatherApp
