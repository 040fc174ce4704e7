import Mathlib.Data.List.Basic
import Mathlib.Data.List.Induction

/-!
Decimal numerals of natural numbers. A text of digits without a needless zero in
front is the numeral of exactly one number.
-/

set_option autoImplicit false

namespace Eligibility.Number

/-- Decimal digits, at least one, and no zero in front of others. -/
structure IsNumeral (cs : List Char) : Prop where
  ne_nil : cs ≠ []
  digits : ∀ c ∈ cs, c.isDigit = true
  unpadded : cs.head? = some '0' → cs = ['0']

theorem exists_digitChar {c : Char} (digit : c.isDigit = true) :
    ∃ d < 10, c = Nat.digitChar d := by
  obtain ⟨low, high⟩ := Char.isDigit_iff_toNat.mp digit
  have low : 48 ≤ c.toNat := low
  have high : c.toNat ≤ 57 := high
  refine ⟨c.toNat - 48, by omega, Char.toNat_inj.mp ?_⟩
  rw [Nat.toNat_digitChar_of_lt_ten (by omega)]
  omega

theorem head?_toDigits_ne_zero {n : Nat} (positive : 0 < n) :
    (Nat.toDigits 10 n).head? ≠ some '0' := by
  induction n using Nat.strongRecOn with
  | ind n ih =>
    by_cases small : n < 10
    · rw [Nat.toDigits_of_lt_base small]
      simpa using Nat.ne_of_gt positive
    · -- The digits of the tenth part stand in front.
      have tenth : 0 < n / 10 := Nat.div_pos (by omega) (by decide)
      rw [Nat.toDigits_of_base_le (by decide) (by omega),
        List.head?_append_of_ne_nil _ Nat.toDigits_ne_nil]
      exact ih (n / 10) (by omega) tenth

theorem isNumeral_toDigits (n : Nat) : IsNumeral (Nat.toDigits 10 n) where
  ne_nil := Nat.toDigits_ne_nil
  digits := fun _ => Nat.isDigit_of_mem_toDigits (by decide) (by decide)
  unpadded := by
    intro zero
    rcases Nat.eq_zero_or_pos n with rfl | positive
    · exact Nat.toDigits_zero 10
    · exact absurd zero (head?_toDigits_ne_zero positive)

theorem IsNumeral.exists_eq_toDigits {cs : List Char} (numeral : IsNumeral cs) :
    ∃ n, cs = Nat.toDigits 10 n := by
  induction cs using List.reverseRecOn with
  | nil => exact absurd rfl numeral.ne_nil
  | append_singleton front last ih =>
    obtain ⟨d, small, rfl⟩ := exists_digitChar (numeral.digits last List.mem_concat_self)
    rcases eq_or_ne front [] with rfl | more
    · exact ⟨d, (Nat.toDigits_of_lt_base small).symm⟩
    · have nonzero : front.head? ≠ some '0' := by
        intro zero
        have alone := numeral.unpadded (by rw [List.head?_append_of_ne_nil _ more, zero])
        exact more (by simpa using congrArg List.dropLast alone)
      obtain ⟨n, rfl⟩ := ih
        ⟨more, fun c member => numeral.digits c (List.mem_append_left _ member),
          fun zero => absurd zero nonzero⟩
      have positive : 0 < n := by
        rcases Nat.eq_zero_or_pos n with rfl | positive
        · exact absurd rfl nonzero
        · exact positive
      refine ⟨10 * n + d, ?_⟩
      rw [← Nat.toDigits_append_toDigits (by decide) positive small, Nat.toDigits_of_lt_base small]

theorem isNumeral_iff {cs : List Char} : IsNumeral cs ↔ ∃ n, cs = Nat.toDigits 10 n :=
  ⟨IsNumeral.exists_eq_toDigits, fun ⟨n, same⟩ => same ▸ isNumeral_toDigits n⟩

end Eligibility.Number
