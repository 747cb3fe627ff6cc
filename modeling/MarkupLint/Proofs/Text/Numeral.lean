import Mathlib.Data.List.Basic
import MarkupLint.Text.Numeral

namespace MarkupLint

/-!
# Reading numerals back

The decimal numeral of a number is a run of digits with the value of the number,
and it starts with a zero only if it is the numeral of zero.
-/

theorem digitValue?_digitCharacter
    {digit : Nat}
    (small : digit < 16) :
    digitValue? (digitCharacter digit) = some digit := by
  revert digit
  decide

theorem isDigit_digitCharacter
    {digit : Nat}
    (small : digit < 10) :
    (digitCharacter digit).isDigit = true := by
  revert digit
  decide

theorem numeralValue_append_digit
    (base : Nat)
    (digits : List Char)
    (digit : Char) :
    numeralValue base (digits ++ [digit]) =
      numeralValue base digits * base + (digitValue? digit).getD 0 := by
  simp only [numeralValue, List.foldl_append, List.foldl_cons, List.foldl_nil]

theorem numeralValue_numeral
    (number : Nat) :
    numeralValue 10 (numeral number) = number := by
  induction number using numeral.induct with
  | case1 number small =>
      have isSmall : number < 16 := by omega
      simp [numeral, small, numeralValue, digitValue?_digitCharacter isSmall]
  | case2 number large inductionHypothesis =>
      have isSmall : number % 10 < 16 := by omega
      rw [numeral, if_neg large, numeralValue_append_digit, inductionHypothesis,
        digitValue?_digitCharacter isSmall, Option.getD_some]
      omega

theorem isDigit_of_mem_numeral
    {number : Nat}
    {character : Char}
    (member : character ∈ numeral number) :
    character.isDigit = true := by
  induction number using numeral.induct with
  | case1 number small =>
      rw [numeral, if_pos small, List.mem_singleton] at member
      rw [member]
      exact isDigit_digitCharacter small
  | case2 number large inductionHypothesis =>
      rw [numeral, if_neg large, List.mem_append, List.mem_singleton] at member
      rcases member with inFront | rfl
      · exact inductionHypothesis inFront
      · exact isDigit_digitCharacter (by omega)

theorem numeral_ne_nil
    (number : Nat) :
    numeral number ≠ [] := by
  rw [numeral]
  split <;>
    simp

theorem exists_numeral_eq_cons
    (number : Nat) :
    ∃ first others, numeral number = first :: others ∧ first.isDigit = true := by
  cases shape : numeral number with
  | nil =>
      exact absurd shape (numeral_ne_nil number)
  | cons first others =>
      exact ⟨first, others, rfl, isDigit_of_mem_numeral (shape ▸ List.mem_cons_self)⟩

/-- The numeral of a positive number does not start with a zero. -/
theorem head?_numeral_ne_zero
    {number : Nat}
    (positive : 0 < number) :
    (numeral number).head? ≠ some '0' := by
  induction number using numeral.induct with
  | case1 number small =>
      rw [numeral, if_pos small]
      revert number
      decide
  | case2 number large inductionHypothesis =>
      rw [numeral, if_neg large, List.head?_append_of_ne_nil _ (numeral_ne_nil _)]
      exact inductionHypothesis (by omega)

/-- No numeral has a zero in front of further digits. -/
theorem numeral_has_no_leading_zero
    (number : Nat) :
    ¬ ((numeral number).head? = some '0' ∧ (numeral number).length ≠ 1) := by
  rintro ⟨startsWithZero, isLong⟩
  rcases Nat.eq_zero_or_pos number with rfl | positive
  · exact isLong (by simp [numeral])
  · exact head?_numeral_ne_zero positive startsWithZero

end MarkupLint
