import Mathlib.Tactic

/-!
# Correlation ids

`weather-schema/src/correlation.rs`: ids from a random nonce of the process and a sequence number.
They name requests, events, engine instances and owners.

## Main definitions

* `CorrelationIdGenerator.next`: the next id, unless the sequence is exhausted.
* `correlationId`: the text of an id.

## Main results

* `correlationId_inj`: an id determines its scope, the nonce and the sequence number.
-/

namespace WeatherApp

/-- The hyphenated form of a UUID. -/
structure Uuid where
  text : List Char
  length_eq : text.length = 36
  deriving DecidableEq

/-- `CorrelationIdGenerator`. -/
structure CorrelationIdGenerator where
  nonce : Uuid
  nextSequence : ℕ
  deriving DecidableEq

/-- A number in so many lowercase hexadecimal digits. -/
def hexText : ℕ → ℕ → List Char
  | 0, _ => []
  | width + 1, n => hexText width (n / 16) ++ [Nat.digitChar (n % 16)]

/-- `{scope}-{nonce}-{sequence:016x}`. -/
def correlationId (scope : String) (nonce : Uuid) (sequence : ℕ) : String :=
  String.ofList (scope.toList ++ '-' :: nonce.text ++ '-' :: hexText 16 sequence)

/-- `CorrelationIdGenerator::next`. An exhausted sequence panics. -/
def CorrelationIdGenerator.next (generator : CorrelationIdGenerator) (scope : String) :
    Option (String × CorrelationIdGenerator) :=
  if generator.nextSequence + 1 < 2 ^ 64 then
    some (correlationId scope generator.nonce generator.nextSequence,
      { generator with nextSequence := generator.nextSequence + 1 })
  else none

@[simp] theorem length_hexText (width n : ℕ) : (hexText width n).length = width := by
  induction width generalizing n with
  | zero => rfl
  | succ width ih => simp [hexText, ih]

theorem digitChar_inj {m n : ℕ} (hm : m < 16) (hn : n < 16)
    (h : Nat.digitChar m = Nat.digitChar n) : m = n := by
  have hall : ∀ a < 16, ∀ b < 16, Nat.digitChar a = Nat.digitChar b → a = b := by decide
  exact hall m hm n hn h

/-- The digits determine a number that they have room for. -/
theorem hexText_inj {width m n : ℕ} (hm : m < 16 ^ width) (hn : n < 16 ^ width)
    (h : hexText width m = hexText width n) : m = n := by
  induction width generalizing m n with
  | zero =>
    rw [pow_zero, Nat.lt_one_iff] at hm hn
    rw [hm, hn]
  | succ width ih =>
    obtain ⟨hhigh, hlow⟩ := List.append_inj' h rfl
    have hdigit : m % 16 = n % 16 :=
      digitChar_inj (Nat.mod_lt _ (by decide)) (Nat.mod_lt _ (by decide)) (List.cons.inj hlow).1
    have hrest : m / 16 = n / 16 :=
      ih (Nat.div_lt_of_lt_mul (by rw [pow_succ'] at hm; exact hm))
        (Nat.div_lt_of_lt_mul (by rw [pow_succ'] at hn; exact hn)) hhigh
    rw [← Nat.div_add_mod m 16, ← Nat.div_add_mod n 16, hrest, hdigit]

/-- An id determines its scope, the nonce and the sequence number. -/
theorem correlationId_inj {scope scope' : String} {nonce nonce' : Uuid} {sequence sequence' : ℕ}
    (hsequence : sequence < 2 ^ 64) (hsequence' : sequence' < 2 ^ 64)
    (h : correlationId scope nonce sequence = correlationId scope' nonce' sequence') :
    scope = scope' ∧ nonce = nonce' ∧ sequence = sequence' := by
  have hchars := String.ofList_injective h
  -- the nonce and the number have fixed lengths, so that the text is split from its end
  obtain ⟨hfront, hnumber⟩ := List.append_inj' hchars (by simp)
  obtain ⟨hscope, hnonce⟩ := List.append_inj' hfront
    (by simp [nonce.length_eq, nonce'.length_eq])
  refine ⟨String.toList_injective hscope, ?_, ?_⟩
  · obtain ⟨text, hlength⟩ := nonce
    obtain ⟨text', hlength'⟩ := nonce'
    obtain rfl : text = text' := (List.cons.inj hnonce).2
    rfl
  · exact hexText_inj (by norm_num; exact hsequence) (by norm_num; exact hsequence')
      (List.cons.inj hnumber).2

end WeatherApp
