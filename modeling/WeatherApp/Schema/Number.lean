import WeatherApp.Foundation.DecimalFloat
import WeatherApp.Schema.IsoDate

/-!
# Numbers in texts

The integers that `str::parse` reads, and how they compare with the doubles that it reads.

## Main definitions

* `parseU32`, `parseI32`

## Main results

* `parseDouble_of_parseU32`: an integer is also read as a double.
* `trim_eq_self_of_parseDouble`: a text that is read as a double has no white space.
-/

namespace WeatherApp

open DecimalFloat

/-! ## Integers -/

/-- The number that some decimal digits stand for, if it is at most `most`. -/
def parseDigits (most : ℕ) (digits : List Char) : Option ℕ :=
  if digits ≠ [] ∧ digits.all Char.isDigit ∧ Nat.ofDigitChars 10 digits 0 ≤ most then
    some (Nat.ofDigitChars 10 digits 0)
  else none

/-- `value.parse::<u32>()`: digits after at most one sign. -/
def parseU32 (value : String) : Option ℕ :=
  match value.toList with
  | '+' :: digits => parseDigits (2 ^ 32 - 1) digits
  | digits => parseDigits (2 ^ 32 - 1) digits

/-- `value.parse::<i32>()`. -/
def parseI32 (value : String) : Option ℤ :=
  match value.toList with
  | '+' :: digits => (parseDigits (2 ^ 31 - 1) digits).map (↑·)
  | '-' :: digits => (parseDigits (2 ^ 31) digits).map (-↑·)
  | digits => (parseDigits (2 ^ 31 - 1) digits).map (↑·)

/-- A number is read from its digits. -/
theorem parseDigits_of_allDigits {most : ℕ} {digits : List Char} (hdigits : AllDigits digits)
    (hne : digits ≠ []) (hfits : Nat.ofDigitChars 10 digits 0 ≤ most) :
    parseDigits most digits = some (Nat.ofDigitChars 10 digits 0) :=
  if_pos ⟨hne, List.all_eq_true.2 hdigits, hfits⟩

theorem parseU32_of_allDigits {value : String} (hdigits : AllDigits value.toList)
    (hne : value.toList ≠ []) (hfits : Nat.ofDigitChars 10 value.toList 0 < 2 ^ 32) :
    parseU32 value = some (Nat.ofDigitChars 10 value.toList 0) := by
  have hparsed : parseDigits (2 ^ 32 - 1) value.toList =
      some (Nat.ofDigitChars 10 value.toList 0) :=
    parseDigits_of_allDigits hdigits hne (by omega)
  unfold parseU32
  split
  next digits hlist =>
    -- a digit is no sign
    exact absurd (hdigits '+' (hlist ▸ List.mem_cons_self)) (by decide)
  next => exact hparsed

theorem parseI32_of_allDigits {value : String} (hdigits : AllDigits value.toList)
    (hne : value.toList ≠ []) (hfits : Nat.ofDigitChars 10 value.toList 0 < 2 ^ 31) :
    parseI32 value = some (Nat.ofDigitChars 10 value.toList 0 : ℤ) := by
  have hparsed : parseDigits (2 ^ 31 - 1) value.toList =
      some (Nat.ofDigitChars 10 value.toList 0) :=
    parseDigits_of_allDigits hdigits hne (by omega)
  unfold parseI32
  split
  next digits hlist => exact absurd (hdigits '+' (hlist ▸ List.mem_cons_self)) (by decide)
  next digits hlist => exact absurd (hdigits '-' (hlist ▸ List.mem_cons_self)) (by decide)
  next =>
    rw [hparsed]
    rfl

/-! ## Doubles -/

/-- A number that is read as an integer is read as the double next to it. -/
theorem parseDouble_of_parseU32 {text : String} {n : ℕ} (h : parseU32 text = some n) :
    parseDouble text = some (UInt64.ofNat (roundFraction n 1)) := by
  have hdigits : ∀ digits, parseDigits (2 ^ 32 - 1) digits = some n →
      (∀ c ∈ digits, c.isDigit = true) ∧ digits ≠ [] ∧ Nat.ofDigitChars 10 digits 0 = n := by
    intro digits hparse
    unfold parseDigits at hparse
    split_ifs at hparse with hchecks
    exact ⟨List.all_eq_true.1 hchecks.2.1, hchecks.1, Option.some.inj hparse⟩
  unfold parseU32 at h
  split at h
  next digits hlist =>
    obtain ⟨hall, hne, rfl⟩ := hdigits digits h
    exact parseDouble_digits (.inr hlist) hall hne
  next =>
    obtain ⟨hall, hne, rfl⟩ := hdigits _ h
    exact parseDouble_digits (.inl rfl) hall hne

/-- White space is not part of a number. -/
theorem isWhitespace_of_isNumberChar {c : Char} (h : IsNumberChar c) : isWhitespace c = false := by
  rcases h with halphanum | rfl | rfl | rfl
  · have hrange := isAlphanum_iff.1 halphanum
    simp only [isWhitespace, Bool.or_eq_false_iff, Bool.and_eq_false_iff, decide_eq_false_iff_not]
    omega
  · decide
  · decide
  · decide

theorem trim_eq_self_of_parseDouble {text : String} {value : F64}
    (h : parseDouble text = some value) : trim text = text :=
  trim_eq_self fun c hc => isWhitespace_of_isNumberChar (isNumberChar_of_parseDouble h c hc)

end WeatherApp
