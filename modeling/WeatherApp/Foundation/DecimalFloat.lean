import Mathlib.Data.List.TakeWhile
import Mathlib.Data.String.Basic
import Mathlib.Tactic

/-!
# Decimal texts of doubles

Reading a `double` from a decimal text: the grammar of the text, and the rounding of the number to
the nearest double. A double is its bit pattern.

## Main definitions

* `roundFraction`: the double next to a fraction.
* `readDecimal`, `parseDouble`: the number in a text, and the double next to it.
* `doubleText`: a text for each finite double.

## Main results

* `roundFraction_units`: a double is rounded to itself.
* `isNumberChar_of_parseDouble`: the characters of a text that is read.
* `parseDouble_digits`, `parseDouble_doubleText`: what is read from digits and from `doubleText`.
-/

namespace DecimalFloat

/-! ## Rounding -/

/-- The bits of positive infinity, above which there are only numbers that are none. -/
def infinityBits : ℕ := 2047 * 2 ^ 52

/-- The bits of a quiet `NaN`. -/
def nanBits : ℕ := infinityBits + 2 ^ 51

/-- The bit of the sign. -/
def signBit : ℕ := 2 ^ 63

/-- A quotient, rounded to the nearest number, and to the even one of two. -/
def roundHalfEven (n d : ℕ) : ℕ :=
  let remainder := n % d
  if 2 * remainder < d then n / d
  else if d < 2 * remainder then n / d + 1
  else n / d + n / d % 2

/-- The bits of the double next to a fraction that is not negative. It is counted in units of the
least positive double, `2 ^ 1074` of which are one, and rounded to 53 binary digits. -/
def roundFraction (num den : ℕ) : ℕ :=
  let units := num * 2 ^ 1074
  let scale := Nat.log2 (units / den) - 52
  -- a mantissa that is rounded up to a power of two carries into the exponent
  min (scale * 2 ^ 52 + roundHalfEven units (den * 2 ^ scale)) infinityBits

/-- A whole quotient is not rounded. -/
theorem roundHalfEven_mul {m d : ℕ} (hd : 0 < d) : roundHalfEven (m * d) d = m := by
  simp [roundHalfEven, Nat.mul_mod_left, Nat.mul_div_cancel m hd, hd]

/-- The scale of a number of at most 53 binary digits. -/
theorem log2_mul_two_pow {m scale : ℕ} (hm : m < 2 ^ 53) (hscale : scale = 0 ∨ 2 ^ 52 ≤ m) :
    Nat.log2 (m * 2 ^ scale) - 52 = scale := by
  rcases hscale with rfl | hnormal
  · rw [pow_zero, mul_one]
    rcases Nat.eq_zero_or_pos m with rfl | hpos
    · rfl
    · have hlog : Nat.log2 m < 53 := (Nat.log2_lt hpos.ne').2 hm
      omega
  · have hne : m * 2 ^ scale ≠ 0 := by positivity
    have hlog : Nat.log2 (m * 2 ^ scale) = 52 + scale := by
      rw [Nat.log2_eq_iff hne]
      constructor
      · rw [pow_add]
        exact Nat.mul_le_mul_right _ hnormal
      · rw [show 52 + scale + 1 = 53 + scale by omega, pow_add]
        exact Nat.mul_lt_mul_of_pos_right hm (by positivity)
    omega

/-- A fraction that is a double is rounded to it. -/
theorem roundFraction_units {m scale num den : ℕ} (hden : 0 < den) (hm : m < 2 ^ 53)
    (hscale : scale = 0 ∨ 2 ^ 52 ≤ m) (hfits : scale * 2 ^ 52 + m ≤ infinityBits)
    (hunits : num * 2 ^ 1074 = m * 2 ^ scale * den) :
    roundFraction num den = scale * 2 ^ 52 + m := by
  have hround : roundHalfEven (m * 2 ^ scale * den) (den * 2 ^ scale) = m := by
    rw [mul_assoc, mul_comm (2 ^ scale) den]
    exact roundHalfEven_mul (by positivity)
  rw [roundFraction, hunits, Nat.mul_div_cancel _ hden, log2_mul_two_pow hm hscale, hround]
  exact min_eq_left hfits

/-! ## Reading -/

/-- A number in decimal notation. -/
structure Decimal where
  mantissa : ℕ
  exponent : ℤ
  deriving DecidableEq, Repr

/-- The bits of the double next to a decimal number. -/
def Decimal.bits (decimal : Decimal) : ℕ :=
  roundFraction (decimal.mantissa * 10 ^ decimal.exponent.toNat) (10 ^ (-decimal.exponent).toNat)

/-- A number of one or more digits. -/
def readDigits (digits : List Char) : Option ℕ :=
  if digits ≠ [] ∧ digits.all Char.isDigit then some (Nat.ofDigitChars 10 digits 0) else none

/-- Digits after at most one sign. -/
def readInteger : List Char → Option ℤ
  | '-' :: digits => (readDigits digits).map fun n : ℕ => -(n : ℤ)
  | '+' :: digits => (readDigits digits).map fun n : ℕ => (n : ℤ)
  | digits => (readDigits digits).map fun n : ℕ => (n : ℤ)

/-- What follows the mantissa: nothing, or an exponent. -/
def readExponent : List Char → Option ℤ
  | [] => some 0
  | c :: rest => if c = 'e' ∨ c = 'E' then readInteger rest else none

/-- The digits after the point, and what follows them. -/
def splitFraction : List Char → List Char × List Char
  | '.' :: rest => rest.span Char.isDigit
  | rest => ([], rest)

/-- Digits with at most one point among them, and an exponent. -/
def readDecimal (chars : List Char) : Option Decimal :=
  let (whole, rest) := chars.span Char.isDigit
  let (fraction, rest) := splitFraction rest
  if whole = [] ∧ fraction = [] then none
  else (readExponent rest).map fun exponent =>
    ⟨Nat.ofDigitChars 10 (whole ++ fraction) 0, exponent - fraction.length⟩

/-- The bits of a number without its sign. -/
def readMagnitude (chars : List Char) : Option ℕ :=
  let lower := chars.map Char.toLower
  if lower = ['i', 'n', 'f'] ∨ lower = ['i', 'n', 'f', 'i', 'n', 'i', 't', 'y'] then
    some infinityBits
  else if lower = ['n', 'a', 'n'] then some nanBits
  else (readDecimal chars).map Decimal.bits

/-- The bits of the double in a text. -/
def readBits (text : String) : Option ℕ :=
  match text.toList with
  | '-' :: rest => (readMagnitude rest).map (signBit + ·)
  | '+' :: rest => readMagnitude rest
  | rest => readMagnitude rest

/-- The double in a text. -/
def parseDouble (text : String) : Option UInt64 := (readBits text).map UInt64.ofNat

/-! ## The characters of a number -/

/-- A letter, a digit, a sign or a point. -/
def IsNumberChar (c : Char) : Prop := c.isAlphanum = true ∨ c = '+' ∨ c = '-' ∨ c = '.'

theorem isUpper_iff {c : Char} : c.isUpper = true ↔ 65 ≤ c.toNat ∧ c.toNat ≤ 90 :=
  decide_eq_true_iff

theorem isLower_iff {c : Char} : c.isLower = true ↔ 97 ≤ c.toNat ∧ c.toNat ≤ 122 :=
  Bool.and_eq_true_iff.trans (and_congr decide_eq_true_iff decide_eq_true_iff)

theorem isDigit_iff {c : Char} : c.isDigit = true ↔ 48 ≤ c.toNat ∧ c.toNat ≤ 57 :=
  Bool.and_eq_true_iff.trans (and_congr decide_eq_true_iff decide_eq_true_iff)

theorem isAlpha_iff {c : Char} : c.isAlpha = true ↔
    (65 ≤ c.toNat ∧ c.toNat ≤ 90) ∨ (97 ≤ c.toNat ∧ c.toNat ≤ 122) :=
  Bool.or_eq_true_iff.trans (or_congr isUpper_iff isLower_iff)

theorem isAlphanum_iff {c : Char} : c.isAlphanum = true ↔
    ((65 ≤ c.toNat ∧ c.toNat ≤ 90) ∨ (97 ≤ c.toNat ∧ c.toNat ≤ 122)) ∨
      (48 ≤ c.toNat ∧ c.toNat ≤ 57) :=
  Bool.or_eq_true_iff.trans (or_congr isAlpha_iff isDigit_iff)

theorem isNumberChar_of_isDigit {c : Char} (h : c.isDigit = true) : IsNumberChar c :=
  .inl (isAlphanum_iff.2 (.inr (isDigit_iff.1 h)))

/-- Only letters become letters. -/
theorem isNumberChar_of_toLower {c : Char} (h : c.toLower.isAlpha = true) : IsNumberChar c := by
  refine .inl (isAlphanum_iff.2 (.inl ?_))
  by_cases hupper : c.isUpper = true
  · exact .inl (isUpper_iff.1 hupper)
  · have hsame : c.toLower = c := by
      unfold Char.toLower
      split_ifs with hrange
      · exact absurd (isUpper_iff.2 hrange) hupper
      · rfl
    rw [hsame] at h
    exact isAlpha_iff.1 h

theorem isNumberChar_of_readDigits {digits : List Char} {n : ℕ} (h : readDigits digits = some n) :
    ∀ c ∈ digits, IsNumberChar c := by
  unfold readDigits at h
  split_ifs at h with hdigits
  exact fun c hc => isNumberChar_of_isDigit (List.all_eq_true.1 hdigits.2 c hc)

theorem isNumberChar_of_readInteger {chars : List Char} {n : ℤ} (h : readInteger chars = some n) :
    ∀ c ∈ chars, IsNumberChar c := by
  intro c hc
  unfold readInteger at h
  split at h
  next digits =>
    obtain ⟨n, hn, -⟩ := Option.map_eq_some_iff.1 h
    rcases List.mem_cons.1 hc with rfl | hdigit
    · exact .inr (.inr (.inl rfl))
    · exact isNumberChar_of_readDigits hn c hdigit
  next digits =>
    obtain ⟨n, hn, -⟩ := Option.map_eq_some_iff.1 h
    rcases List.mem_cons.1 hc with rfl | hdigit
    · exact .inr (.inl rfl)
    · exact isNumberChar_of_readDigits hn c hdigit
  next digits _ _ =>
    obtain ⟨n, hn, -⟩ := Option.map_eq_some_iff.1 h
    exact isNumberChar_of_readDigits hn c hc

theorem isNumberChar_of_readExponent {chars : List Char} {exponent : ℤ}
    (h : readExponent chars = some exponent) : ∀ c ∈ chars, IsNumberChar c := by
  cases chars with
  | nil => exact fun c hc => absurd hc List.not_mem_nil
  | cons first rest =>
    rw [readExponent] at h
    split_ifs at h with hletter
    intro c hc
    rcases List.mem_cons.1 hc with rfl | hrest
    · rcases hletter with rfl | rfl <;> exact .inl (by decide)
    · exact isNumberChar_of_readInteger h c hrest

/-- The characters before an exponent are digits and a point. -/
theorem isNumberChar_of_splitFraction {chars : List Char}
    (h : ∀ c ∈ (splitFraction chars).2, IsNumberChar c) : ∀ c ∈ chars, IsNumberChar c := by
  intro c hc
  unfold splitFraction at h
  split at h
  next rest =>
    rcases List.mem_cons.1 hc with rfl | hrest
    · exact .inr (.inr (.inr rfl))
    · rw [List.span_eq_takeWhile_dropWhile] at h
      rw [← List.takeWhile_append_dropWhile (p := Char.isDigit) (l := rest)] at hrest
      rcases List.mem_append.1 hrest with hdigit | hafter
      · exact isNumberChar_of_isDigit (List.mem_takeWhile_imp hdigit)
      · exact h c hafter
  next => exact h c hc

theorem isNumberChar_of_readDecimal {chars : List Char} {decimal : Decimal}
    (h : readDecimal chars = some decimal) : ∀ c ∈ chars, IsNumberChar c := by
  rw [readDecimal, List.span_eq_takeWhile_dropWhile] at h
  dsimp only at h
  split_ifs at h
  obtain ⟨exponent, hexponent, -⟩ := Option.map_eq_some_iff.1 h
  have hafter := isNumberChar_of_splitFraction (isNumberChar_of_readExponent hexponent)
  intro c hc
  rw [← List.takeWhile_append_dropWhile (p := Char.isDigit) (l := chars)] at hc
  rcases List.mem_append.1 hc with hdigit | hrest
  · exact isNumberChar_of_isDigit (List.mem_takeWhile_imp hdigit)
  · exact hafter c hrest

theorem isNumberChar_of_readMagnitude {chars : List Char} {bits : ℕ}
    (h : readMagnitude chars = some bits) : ∀ c ∈ chars, IsNumberChar c := by
  have hword : ∀ word : List Char, word.all Char.isAlpha = true → chars.map Char.toLower = word →
      ∀ c ∈ chars, IsNumberChar c := by
    intro word hletters hlower c hc
    apply isNumberChar_of_toLower
    exact List.all_eq_true.1 hletters _ (hlower ▸ List.mem_map_of_mem hc)
  unfold readMagnitude at h
  dsimp only at h
  split_ifs at h with hinfinity hnan
  · rcases hinfinity with hshort | hlong
    · exact hword _ (by decide) hshort
    · exact hword _ (by decide) hlong
  · exact hword _ (by decide) hnan
  · obtain ⟨decimal, hdecimal, -⟩ := Option.map_eq_some_iff.1 h
    exact isNumberChar_of_readDecimal hdecimal

/-- The characters of a text that is read as a double. -/
theorem isNumberChar_of_parseDouble {text : String} {value : UInt64}
    (h : parseDouble text = some value) : ∀ c ∈ text.toList, IsNumberChar c := by
  obtain ⟨bits, hbits, -⟩ := Option.map_eq_some_iff.1 h
  unfold readBits at hbits
  intro c hc
  split at hbits
  next rest hlist =>
    obtain ⟨magnitude, hmagnitude, -⟩ := Option.map_eq_some_iff.1 hbits
    rw [hlist] at hc
    rcases List.mem_cons.1 hc with rfl | hrest
    · exact .inr (.inr (.inl rfl))
    · exact isNumberChar_of_readMagnitude hmagnitude c hrest
  next rest hlist =>
    rw [hlist] at hc
    rcases List.mem_cons.1 hc with rfl | hrest
    · exact .inr (.inl rfl)
    · exact isNumberChar_of_readMagnitude hbits c hrest
  next => exact isNumberChar_of_readMagnitude hbits c hc

/-! ## What is read from digits -/

/-- A digit is not a letter. -/
theorem isAlpha_toLower_of_isDigit {c : Char} (h : c.isDigit = true) :
    c.toLower.isAlpha = false := by
  have hdigit := isDigit_iff.1 h
  have hsame : c.toLower = c := by
    unfold Char.toLower
    split_ifs with hrange
    · have hupper : 65 ≤ c.toNat := hrange.1
      omega
    · rfl
  rw [hsame, Bool.eq_false_iff]
  intro hletter
  have hrange := isAlpha_iff.1 hletter
  omega

/-- What starts with a digit is not a word. -/
theorem readMagnitude_of_isDigit {c : Char} (h : c.isDigit = true) (rest : List Char) :
    readMagnitude (c :: rest) = (readDecimal (c :: rest)).map Decimal.bits := by
  have hword : ∀ first word, Char.isAlpha first = true →
      (c :: rest).map Char.toLower ≠ first :: word := by
    intro first word hfirst hlower
    rw [← (List.cons.inj hlower).1, isAlpha_toLower_of_isDigit h] at hfirst
    cases hfirst
  unfold readMagnitude
  dsimp only
  rw [if_neg (not_or.2 ⟨hword _ _ (by decide), hword _ _ (by decide)⟩),
    if_neg (hword _ _ (by decide))]

/-- Digits, and an exponent if there is more. -/
theorem readDecimal_digits {digits rest : List Char} (hdigits : ∀ c ∈ digits, c.isDigit = true)
    (hne : digits ≠ []) (hrest : ∀ c ∈ rest.head?, c.isDigit = false ∧ c ≠ '.') {exponent : ℤ}
    (hexponent : readExponent rest = some exponent) :
    readDecimal (digits ++ rest) = some ⟨Nat.ofDigitChars 10 digits 0, exponent⟩ := by
  have hspan : (digits ++ rest).span Char.isDigit = (digits, rest) := by
    rw [List.span_eq_takeWhile_dropWhile, List.takeWhile_append_of_pos hdigits,
      List.dropWhile_append_of_pos hdigits]
    cases rest with
    | nil => simp
    | cons c rest =>
      have hc := (hrest c rfl).1
      simp [hc]
  have hsplit : splitFraction rest = ([], rest) := by
    unfold splitFraction
    split
    next rest => exact absurd rfl (hrest '.' rfl).2
    next => rfl
  rw [readDecimal, hspan]
  dsimp only
  rw [hsplit]
  dsimp only
  rw [if_neg fun h => hne h.1, hexponent]
  simp

/-- The digits of a number. -/
theorem readMagnitude_digits {digits : List Char} (hdigits : ∀ c ∈ digits, c.isDigit = true)
    (hne : digits ≠ []) :
    readMagnitude digits = some (roundFraction (Nat.ofDigitChars 10 digits 0) 1) := by
  have hread : readDecimal (digits ++ []) = _ := readDecimal_digits hdigits hne (by simp) rfl
  rw [List.append_nil] at hread
  obtain ⟨c, rest, rfl⟩ := List.exists_cons_of_ne_nil hne
  rw [readMagnitude_of_isDigit (hdigits c List.mem_cons_self), hread]
  simp [Decimal.bits]

/-- The double next to a number of digits, after at most one plus sign. -/
theorem parseDouble_digits {text : String} {digits : List Char}
    (htext : text.toList = digits ∨ text.toList = '+' :: digits)
    (hdigits : ∀ c ∈ digits, c.isDigit = true) (hne : digits ≠ []) :
    parseDouble text =
      some (UInt64.ofNat (roundFraction (Nat.ofDigitChars 10 digits 0) 1)) := by
  have hbits : readBits text = readMagnitude digits := by
    unfold readBits
    rcases htext with hplain | hsign
    · rw [hplain]
      split
      next => exact absurd (hdigits '-' List.mem_cons_self) (by decide)
      next => exact absurd (hdigits '+' List.mem_cons_self) (by decide)
      next => rfl
    · rw [hsign]
      rfl
  rw [parseDouble, hbits, readMagnitude_digits hdigits hne]
  rfl

/-- The double next to a negative number of digits. -/
theorem parseDouble_negative {text : String} {digits : List Char}
    (htext : text.toList = '-' :: digits) (hdigits : ∀ c ∈ digits, c.isDigit = true)
    (hne : digits ≠ []) :
    parseDouble text =
      some (UInt64.ofNat (signBit + roundFraction (Nat.ofDigitChars 10 digits 0) 1)) := by
  have hbits : readBits text = (readMagnitude digits).map (signBit + ·) := by
    rw [readBits, htext]
    rfl
  rw [parseDouble, hbits, readMagnitude_digits hdigits hne]
  rfl

/-! ## A text for each double -/

/-- How many times a double is the least positive one, without its sign. -/
def doubleUnits (value : UInt64) : ℕ :=
  let exponent := value.toNat / 2 ^ 52 % 2 ^ 11
  let fraction := value.toNat % 2 ^ 52
  if exponent = 0 then fraction else (2 ^ 52 + fraction) * 2 ^ (exponent - 1)

/-- All decimal digits of a finite double. -/
def doubleText (value : UInt64) : String :=
  let magnitude := Nat.toDigits 10 (doubleUnits value * 5 ^ 1074) ++ ['e', '-', '1', '0', '7', '4']
  String.ofList (if signBit ≤ value.toNat then '-' :: magnitude else magnitude)

theorem ten_pow (n : ℕ) : 10 ^ n = 5 ^ n * 2 ^ n := by
  rw [← mul_pow, show 5 * 2 = 10 by rfl]

/-- A finite double without its sign is the one next to its value. -/
theorem roundFraction_doubleUnits {value : UInt64}
    (hfinite : value.toNat / 2 ^ 52 % 2 ^ 11 ≠ 2 ^ 11 - 1) :
    roundFraction (doubleUnits value * 5 ^ 1074) (10 ^ 1074) = value.toNat % 2 ^ 63 := by
  have hbits : value.toNat % 2 ^ 63 =
      value.toNat / 2 ^ 52 % 2 ^ 11 * 2 ^ 52 + value.toNat % 2 ^ 52 := by omega
  have hten := ten_pow 1074
  rw [hbits, doubleUnits]
  generalize hexponent : value.toNat / 2 ^ 52 % 2 ^ 11 = exponent at hfinite
  have hfraction : value.toNat % 2 ^ 52 < 2 ^ 52 := Nat.mod_lt _ (by positivity)
  generalize value.toNat % 2 ^ 52 = fraction at hfraction
  have hfield : exponent < 2 ^ 11 := hexponent ▸ Nat.mod_lt _ (by positivity)
  split_ifs with hzero
  · -- a number below the normal ones
    subst hzero
    rw [roundFraction_units (by positivity) (hfraction.trans (by norm_num)) (.inl rfl)]
    · rw [infinityBits]
      omega
    · rw [hten, pow_zero, mul_one, mul_assoc]
  · have hscale : exponent = exponent - 1 + 1 := by omega
    have hmantissa : 2 ^ 52 + fraction < 2 ^ 53 := by omega
    have hround : roundFraction ((2 ^ 52 + fraction) * 2 ^ (exponent - 1) * 5 ^ 1074)
        (10 ^ 1074) = (exponent - 1) * 2 ^ 52 + (2 ^ 52 + fraction) := by
      apply roundFraction_units (by positivity) hmantissa (.inr (Nat.le_add_right _ _))
      · rw [infinityBits]
        omega
      · rw [hten, mul_assoc]
    rw [hround]
    omega

/-- The text of a finite double is read as the double. -/
theorem parseDouble_doubleText {value : UInt64}
    (hfinite : value.toNat / 2 ^ 52 % 2 ^ 11 ≠ 2 ^ 11 - 1) :
    parseDouble (doubleText value) = some value := by
  have hdigits : ∀ c ∈ Nat.toDigits 10 (doubleUnits value * 5 ^ 1074), c.isDigit = true :=
    fun c hc => Nat.isDigit_of_mem_toDigits (by decide) (by decide) hc
  have hne : Nat.toDigits 10 (doubleUnits value * 5 ^ 1074) ≠ [] := Nat.toDigits_ne_nil
  have hmagnitude : readMagnitude (Nat.toDigits 10 (doubleUnits value * 5 ^ 1074) ++
      ['e', '-', '1', '0', '7', '4']) = some (value.toNat % 2 ^ 63) := by
    have hexponent : readExponent ['e', '-', '1', '0', '7', '4'] = some (-1074) := by decide
    have hread := readDecimal_digits hdigits hne (by simp) hexponent
    rw [Nat.ofDigitChars_ten_toDigits] at hread
    obtain ⟨c, rest, hcons⟩ := List.exists_cons_of_ne_nil hne
    rw [hcons] at hread ⊢
    rw [List.cons_append, readMagnitude_of_isDigit (hdigits c (hcons ▸ List.mem_cons_self)),
      ← List.cons_append, hread, Option.map_some, ← roundFraction_doubleUnits hfinite]
    show some (roundFraction (_ * 10 ^ 0) _) = _
    rw [pow_zero, mul_one]
    rfl
  have hsize := value.toNat_lt
  unfold parseDouble readBits doubleText
  dsimp only
  rw [String.toList_ofList]
  split_ifs with hsign
  · rw [signBit] at hsign
    show (Option.map _ (readMagnitude _)).map _ = _
    rw [hmagnitude]
    simp only [Option.map_some, signBit]
    rw [show 2 ^ 63 + value.toNat % 2 ^ 63 = value.toNat by omega, UInt64.ofNat_toNat]
  · obtain ⟨c, rest, hcons⟩ := List.exists_cons_of_ne_nil hne
    have hc := hdigits c (hcons ▸ List.mem_cons_self)
    rw [hcons, List.cons_append] at hmagnitude ⊢
    split
    next heq => exact absurd ((List.cons.inj heq).1 ▸ hc) (by decide)
    next heq => exact absurd ((List.cons.inj heq).1 ▸ hc) (by decide)
    next =>
      rw [hmagnitude]
      rw [signBit] at hsign
      rw [Option.map_some, show value.toNat % 2 ^ 63 = value.toNat by omega, UInt64.ofNat_toNat]

end DecimalFloat
