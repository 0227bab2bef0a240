/-
  Wiring.Proofs.Json.Numeral

  What the digits of a written integer are read as. As long as an integer fits 64 bits no digit is
  dropped, so its value is the one that was written.
-/

import Wiring.Json.Draft
import Mathlib.Data.Nat.Basic

namespace Wiring.Json

namespace Numeral

/-! ## Digits -/

theorem le_ofDigitChars (digits : List Char) (number : Nat) :
    number ≤ Nat.ofDigitChars 10 digits number := by
  induction digits generalizing number with
  | nil => exact Nat.le_refl _
  | cons c rest ih =>
      rw [Nat.ofDigitChars_cons]
      have hrest := ih (10 * number + (c.toNat - '0'.toNat))
      omega

/-- Digits of a number that fits 64 bits are all taken. -/
theorem takeDigits_eq {digits : List Char} {number : Nat}
    (h : Nat.ofDigitChars 10 digits number < Nat.pow 2 64) :
    takeDigits number digits = (Nat.ofDigitChars 10 digits number, digits.length, 0) := by
  induction digits generalizing number with
  | nil => rfl
  | cons c rest ih =>
      rw [Nat.ofDigitChars_cons] at h ⊢
      have hnext : number * 10 + digitValue c = 10 * number + (c.toNat - '0'.toNat) := by
        rw [digitValue]
        omega
      have hfits : number * 10 + digitValue c < Nat.pow 2 64 := by
        rw [hnext]
        exact Nat.lt_of_le_of_lt (le_ofDigitChars rest _) h
      rw [takeDigits, if_pos hfits, hnext, ih h]
      rfl

/-! ## Integers -/

/-- The number that is written for an integer. -/
def ofInt (value : Int) : Numeral where
  negative := value < 0
  whole := Nat.toDigits 10 value.natAbs

/-- A written integer of 64 bits is read as itself. -/
theorem value_ofInt {value : Int} (hlow : -9223372036854775808 ≤ value)
    (hhigh : value < 18446744073709551616) : (ofInt value).value = .integer value := by
  have hdigits : Nat.ofDigitChars 10 (Nat.toDigits 10 value.natAbs) 0 = value.natAbs :=
    Nat.ofDigitChars_toDigits (by decide) (by decide)
  have hfits : Nat.ofDigitChars 10 (Nat.toDigits 10 value.natAbs) 0 < Nat.pow 2 64 := by
    rw [hdigits]
    simp only [Nat.pow_eq]
    omega
  -- All digits are taken and none is dropped, so the number is no floating-point one
  have htaken := takeDigits_eq hfits
  rw [hdigits] at htaken
  have hinteger : (ofInt value).value = ofInteger (decide (value < 0)) value.natAbs := by
    simp [Numeral.value, ofInt, htaken]
  rw [hinteger, ofInteger]
  by_cases hnegative : value < 0
  · -- The digits are those of the opposite
    have hmagnitude : 0 < value.natAbs ∧ value.natAbs ≤ Nat.pow 2 63 := by
      simp only [Nat.pow_eq]
      omega
    rw [decide_eq_true hnegative, if_neg (by decide), if_pos hmagnitude]
    congr 1
    omega
  · rw [decide_eq_false hnegative, if_pos (by decide)]
    congr 1
    omega

/-! ## The digits of a natural number -/

/-- The first digit of a positive number is not zero. -/
theorem exists_first_digit {n : Nat} (h : 0 < n) :
    ∃ k rest, 0 < k ∧ k < 10 ∧ Nat.toDigits 10 n = Nat.digitChar k :: rest := by
  induction n using Nat.strong_induction_on with
  | _ n ih =>
      by_cases hsmall : n < 10
      · exact ⟨n, [], h, hsmall, Nat.toDigits_of_lt_base hsmall⟩
      · have hbase : 10 ≤ n := by omega
        obtain ⟨k, rest, hpos, hless, hdigits⟩ := ih (n / 10) (by omega) (by omega)
        refine ⟨k, rest ++ [Nat.digitChar (n % 10)], hpos, hless, ?_⟩
        rw [Nat.toDigits_of_base_le (by decide) hbase, hdigits, List.cons_append]

end Numeral
end Wiring.Json
