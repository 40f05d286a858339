import Mathlib
import StalestFirst.Text.Blank
import StalestFirst.Text.Digits

namespace StalestFirst.Text

/-! ## Decimal digits -/

theorem isDigit_of_mem_decimal {number : Nat} {c : Char} (member : c ∈ decimal number) :
    isDigit c = true := by
  have digit := Nat.isDigit_of_mem_toDigits (by decide) (by decide) member
  simp only [Char.isDigit, Bool.and_eq_true, decide_eq_true_eq] at digit
  simp only [isDigit, Bool.and_eq_true, decide_eq_true_eq]
  exact digit

/-- The decimal digits of a number that is not zero start with one that is not. -/
theorem decimal_eq_cons {number : Nat} (positive : 0 < number) :
    ∃ first < 10, 0 < first ∧ ∃ others, decimal number = first.digitChar :: others := by
  induction number using Nat.strongRecOn with
  | ind number inductionHypothesis =>
      by_cases small : number < 10
      · exact ⟨number, small, positive, [], Nat.toDigits_of_lt_base small⟩
      · obtain ⟨first, digit, nonzero, others, split⟩ :=
          inductionHypothesis (number / 10) (by omega) (by omega)
        refine ⟨first, digit, nonzero, others ++ [(number % 10).digitChar], ?_⟩
        unfold decimal at split ⊢
        rw [Nat.toDigits_of_base_le (by decide) (by omega), split, List.cons_append]

theorem length_signedDecimal_le (value : Int64) :
    (signedDecimal value.toInt).length ≤ 20 := by
  have above := value.le_toInt
  have below := value.toInt_lt
  match shape : value.toInt with
  | .ofNat number =>
      have small : number < 10 ^ 19 := by
        have ofNat : Int.ofNat number = (number : Int) := rfl
        omega
      exact Nat.le_succ_of_le (Nat.toDigits_length 10 number 19 (by decide) small)
  | .negSucc number =>
      have small : number + 1 < 10 ^ 19 := by omega
      exact Nat.succ_le_succ (Nat.toDigits_length 10 (number + 1) 19 (by decide) small)

/-! ### Digits that are read back -/

theorem isDigit_digitChar {digit : Nat} (small : digit < 10) :
    isDigit digit.digitChar = true := by
  interval_cases digit
  all_goals rfl

theorem valueOfDigits_concat {digits : List Char} {digit : Nat} (small : digit < 10) :
    valueOfDigits (digits ++ [digit.digitChar]) = 10 * valueOfDigits digits + digit := by
  have value : digit.digitChar.toNat - '0'.toNat = digit := by
    interval_cases digit
    all_goals rfl
  rw [valueOfDigits, Nat.ofDigitChars_append, Nat.ofDigitChars_cons, Nat.ofDigitChars_nil,
    value, valueOfDigits]

theorem isDigit_of_mem_fixedWidth {width number : Nat} {c : Char}
    (member : c ∈ fixedWidth width number) : isDigit c = true := by
  induction width generalizing number with
  | zero =>
      cases member
  | succ width inductionHypothesis =>
      rcases List.mem_append.1 member with early | last
      · exact inductionHypothesis early
      · rw [List.mem_singleton.1 last]
        exact isDigit_digitChar (Nat.mod_lt _ (by decide))

/-- A number that is not too long for its width is read back. -/
theorem valueOfDigits_fixedWidth {width number : Nat} (fits : number < 10 ^ width) :
    valueOfDigits (fixedWidth width number) = number := by
  induction width generalizing number with
  | zero =>
      rw [Nat.pow_zero, Nat.lt_one_iff] at fits
      rw [fits]
      rfl
  | succ width inductionHypothesis =>
      have front : number / 10 < 10 ^ width := by
        rw [Nat.pow_succ] at fits
        omega
      rw [fixedWidth, valueOfDigits_concat (Nat.mod_lt _ (by decide)),
        inductionHypothesis front]
      omega

theorem isDigit_of_mem_padded {width number : Nat} {c : Char}
    (member : c ∈ padded width number) : isDigit c = true := by
  rcases List.mem_append.1 member with zeros | digits
  · rw [List.eq_of_mem_replicate zeros]
    rfl
  · exact isDigit_of_mem_decimal digits

theorem valueOfDigits_padded (width number : Nat) :
    valueOfDigits (padded width number) = number := by
  have digits := valueOfDigits_decimal number
  rw [valueOfDigits] at digits
  rw [valueOfDigits, padded, Nat.ofDigitChars_append, Nat.ofDigitChars_replicate_zero,
    Nat.mul_zero, digits]

theorem fixedWidth_ne_nil {width : Nat} (wide : 0 < width) (number : Nat) :
    fixedWidth width number ≠ [] := by
  have length := length_fixedWidth width number
  intro none
  rw [none, List.length_nil] at length
  omega

theorem padded_ne_nil {width : Nat} (wide : 0 < width) (number : Nat) :
    padded width number ≠ [] := by
  intro none
  have length : (padded width number).length =
      width - (decimal number).length + (decimal number).length := by
    rw [padded, List.length_append, List.length_replicate]
  rw [none, List.length_nil] at length
  omega

theorem isBlank_of_isDigit {c : Char} (digit : isDigit c = true) : isBlank c = false := by
  simp only [isDigit, Bool.and_eq_true, decide_eq_true_eq] at digit
  have first : 48 ≤ c.toNat := digit.1
  have last : c.toNat ≤ 57 := digit.2
  simp only [isBlank, Bool.or_eq_false_iff, Bool.and_eq_false_iff, decide_eq_false_iff_not,
    beq_eq_false_iff_ne]
  omega

/-- Digits are taken up to the first character that is none. -/
theorem takeWhile_isDigit {digits rest : List Char}
    (allDigits : ∀ c ∈ digits, isDigit c = true)
    (ended : ∀ c ∈ rest.head?, isDigit c = false) :
    (digits ++ rest).takeWhile isDigit = digits := by
  rw [List.takeWhile_append_of_pos allDigits]
  cases rest with
  | nil =>
      rw [List.takeWhile_nil, List.append_nil]
  | cons c others =>
      have notDigit : ¬isDigit c = true := by
        rw [Bool.not_eq_true]
        exact ended c rfl
      rw [List.takeWhile_cons_of_neg notDigit, List.append_nil]

end StalestFirst.Text
