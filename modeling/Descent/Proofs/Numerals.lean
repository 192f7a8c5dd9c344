import Descent.Text
import Mathlib.Data.List.Basic

/-!
# Numerals

What is written of a number in decimal: digits, of which the first one is a zero only if the number
is zero, and which are read back as the number.
-/

namespace Descent

namespace Text

theorem ofNat_ne_nil (number : Nat) : ofNat number ≠ [] := by
  simp [ofNat, Nat.toDigits_ne_nil]

theorem isDigit_of_mem_ofNat {number : Nat} {point : CodePoint} (member : point ∈ ofNat number) :
    point.isDigit := by
  obtain ⟨digit, digits, rfl⟩ := List.mem_map.mp member
  have isDigit := Nat.isDigit_of_mem_toDigits (by decide) (by decide) digits
  have bounds : 48 ≤ digit.toNat ∧ digit.toNat ≤ 57 := by
    simpa [Char.isDigit, UInt32.le_iff_toNat_le] using isDigit
  simp only [CodePoint.isDigit, CodePoint.isBetween, Bool.and_eq_true, decide_eq_true_eq]
  exact bounds

/-- The digits of a number are read back as the number. -/
theorem decimalValue_ofNat (number : Nat) : (ofNat number).decimalValue = number := by
  have value := Nat.ofDigitChars_toDigits (b := 10) (n := number) (by decide) (by decide)
  rw [Nat.ofDigitChars_eq_foldl] at value
  rw [decimalValue, ofNat, List.foldl_map]
  simpa only [CodePoint.ofChar, Nat.mul_comm] using value

/-- A positive number does not begin with a zero. -/
theorem head?_ofNat_ne {number : Nat} (positive : 0 < number) :
    (ofNat number).head? ≠ some (CodePoint.ofChar '0') := by
  induction number using Nat.strongRecOn with
  | ind number inductionHypothesis =>
      rw [ofNat, Nat.toDigits_eq_if (by decide)]
      split
      · next small =>
          intro same
          have number := congrArg Fin.val (Option.some.inj same)
          simp only [CodePoint.ofChar, Nat.toNat_digitChar_of_lt_ten small] at number
          have zero : '0'.toNat = 48 := rfl
          omega
      · next large =>
          have shorter := inductionHypothesis (number / 10) (by omega) (by omega)
          obtain ⟨first, others, digits⟩ := List.exists_cons_of_ne_nil (ofNat_ne_nil (number / 10))
          rw [digits] at shorter
          rw [List.map_append, ← ofNat, digits]
          exact shorter

end Text

end Descent
