import Mathlib.Algebra.Group.Nat.Defs
import Mathlib.Data.List.Basic
import Mathlib.Data.Nat.Basic
import Mathlib.Tactic.Common

/-!
# Framing

Byte strings that are put together from a code of variable length, fields of fixed width and a
rest. Nothing marks where the code ends, so that another message may be read from the same bytes
with the end elsewhere.

## Main definitions

* `leBytes`, `leValue`: fields of fixed width, the least byte first.

## Main results

* `leBytes_leValue`, `leValue_leBytes`: every field of bytes is one of a number.
* `end_fixed_iff`: the messages whose bytes are read in no other way.
-/

namespace Framing

/-! ## Fields of fixed width -/

/-- The `width` least bytes of a number, the least first. -/
def leBytes : ℕ → ℕ → List UInt8
  | 0, _ => []
  | width + 1, n => UInt8.ofNat n :: leBytes width (n / 256)

/-- The number that bytes spell, the least first. -/
def leValue : List UInt8 → ℕ
  | [] => 0
  | byte :: bytes => byte.toNat + 256 * leValue bytes

@[simp]
theorem length_leBytes (width : ℕ) : ∀ n, (leBytes width n).length = width := by
  induction width with
  | zero => exact fun _ => rfl
  | succ width ih =>
    intro n
    rw [leBytes, List.length_cons, ih]

theorem leValue_lt (bytes : List UInt8) : leValue bytes < 256 ^ bytes.length := by
  induction bytes with
  | nil => exact Nat.one_pos
  | cons byte bytes ih =>
    have hbyte : byte.toNat < 256 := byte.toNat_lt
    rw [leValue, List.length_cons, Nat.pow_succ]
    omega

/-- Every bytes are the field of the number they spell. -/
theorem leBytes_leValue (bytes : List UInt8) : leBytes bytes.length (leValue bytes) = bytes := by
  induction bytes with
  | nil => rfl
  | cons byte bytes ih =>
    have hbyte : byte.toNat < 256 := byte.toNat_lt
    have hdiv : (byte.toNat + 256 * leValue bytes) / 256 = leValue bytes := by omega
    have hhead : UInt8.ofNat (byte.toNat + 256 * leValue bytes) = byte := by
      apply UInt8.toNat_inj.1
      rw [UInt8.toNat_ofNat']
      omega
    rw [List.length_cons, leValue, leBytes, hdiv, hhead, ih]

theorem leValue_leBytes (width : ℕ) : ∀ n, leValue (leBytes width n) = n % 256 ^ width := by
  induction width with
  | zero =>
    intro n
    rw [Nat.pow_zero, Nat.mod_one]
    rfl
  | succ width ih =>
    intro n
    show (UInt8.ofNat n).toNat + 256 * leValue (leBytes width (n / 256)) = n % 256 ^ (width + 1)
    have hhead : (UInt8.ofNat n).toNat = n % 256 := UInt8.toNat_ofNat'
    rw [ih, hhead, Nat.pow_succ', Nat.mod_mul]

/-- Numbers that fit a field are told apart by it. -/
theorem leBytes_inj {width n m : ℕ} (hn : n < 256 ^ width) (hm : m < 256 ^ width)
    (h : leBytes width n = leBytes width m) : n = m := by
  have hvalue := congrArg leValue h
  rwa [leValue_leBytes, leValue_leBytes, Nat.mod_eq_of_lt hn, Nat.mod_eq_of_lt hm] at hvalue

/-! ## Where a code ends -/

section Ends

variable {α β : Type} {code : α → List β}

/-- A message is a code and at least `width` items after it. It is the only one of its items if and
only if its code is empty and no other fits before the last `width` of them: a code that is not
empty can also be read as the beginning of what follows the empty one. -/
theorem end_fixed_iff {unit a : α} {tail : List β} {width : ℕ} (hunit : code unit = [])
    (htail : width ≤ tail.length) :
    (∀ b rest, width ≤ rest.length → code b ++ rest = code a ++ tail → b = a) ↔
      a = unit ∧ ∀ b, code b <+: tail → (code b).length + width ≤ tail.length → b = unit := by
  constructor
  · intro h
    obtain rfl : unit = a := by
      apply h unit (code a ++ tail)
      · rw [List.length_append]
        omega
      · rw [hunit, List.nil_append]
    refine ⟨rfl, ?_⟩
    rintro b ⟨rest, rfl⟩ hwidth
    rw [List.length_append] at hwidth
    apply h b rest
    · omega
    · rw [hunit, List.nil_append]
  · rintro ⟨rfl, h⟩ b rest hrest heq
    rw [hunit, List.nil_append] at heq
    apply h b ⟨rest, heq⟩
    rw [← heq, List.length_append]
    omega

end Ends

end Framing
