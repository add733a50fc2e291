import Mathlib.Data.List.TakeWhile
import Mathlib.Data.Nat.Digits.Defs
import Mathlib.Tactic.IntervalCases
import WalkFilter.Json.Numeral

/-!
# Integers in decimal

An integer written in decimal is read back as itself, whatever stands behind it, unless that would
continue the numeral.
-/

namespace WalkFilter.Json

/-- The text does not start with a character that would continue a numeral. -/
def EndsNumeral (text : List Char) : Prop :=
  ∀ char ∈ text.head?, char.isDigit = false ∧ char ≠ '.' ∧ char ≠ 'e' ∧ char ≠ 'E'

/-- The integer has at most as many decimal digits as are read. -/
def HasFewDigits (value : Int) : Prop := (Nat.toDigits 10 value.natAbs).length ≤ Text.digitLimit

instance (value : Int) : Decidable (HasFewDigits value) :=
  inferInstanceAs (Decidable (_ ≤ _))

theorem toList_toString (value : Int) :
    (toString value).toList =
      (if value < 0 then ['-'] else []) ++ Nat.toDigits 10 value.natAbs := by
  cases value with
  | ofNat magnitude =>
      have nonnegative : ¬Int.ofNat magnitude < 0 := Int.not_lt.mpr (Int.natCast_nonneg magnitude)
      rw [if_neg nonnegative]
      exact String.toList_ofList
  | negSucc smaller =>
      rw [if_pos (Int.negSucc_lt_zero smaller)]
      change ("-" ++ (smaller + 1).repr).toList = _
      rw [String.toList_append]
      exact congrArg (['-'] ++ ·) String.toList_ofList

namespace Numeral

theorem head?_toDigits_append (number : Nat) (rest : List Char) :
    (Nat.toDigits 10 number ++ rest).head? = (Nat.toDigits 10 number).head? := by
  have nonempty : Nat.toDigits 10 number ≠ [] := Nat.toDigits_ne_nil
  obtain ⟨first, others, digits_eq⟩ := List.exists_cons_of_ne_nil nonempty
  rw [digits_eq]
  rfl

theorem isDigit_of_mem_toDigits {number : Nat} {char : Char}
    (member : char ∈ Nat.toDigits 10 number) : char.isDigit = true :=
  Nat.isDigit_of_mem_toDigits (by decide) (by decide) member

/-- Only zero is written with a zero in front. -/
theorem toDigits_eq_or_head_ne (number : Nat) :
    Nat.toDigits 10 number = ['0'] ∨ (Nat.toDigits 10 number).head? ≠ some '0' := by
  induction number using Nat.strong_induction_on with
  | _ number induction =>
      rw [Nat.toDigits_eq_if (by decide)]
      split
      · rename_i single
        interval_cases number <;> decide
      · rename_i several
        right
        have smaller : number / 10 < number := Nat.div_lt_self (by omega) (by decide)
        rcases induction (number / 10) smaller with zero | head_ne
        · have front_eq : number / 10 = 0 := by
            rw [← Nat.ofDigitChars_ten_toDigits (n := number / 10), zero]
            rfl
          omega
        · rwa [head?_toDigits_append]

theorem digits_append {front rest : List Char} (digits_only : ∀ char ∈ front, char.isDigit = true)
    (ends : EndsNumeral rest) : digits (front ++ rest) = front := by
  rw [digits, List.takeWhile_append_of_pos digits_only]
  cases rest with
  | nil => simp
  | cons next others => simp [(ends next rfl).1]

theorem wholePart_append (number : Nat) {rest : List Char} (ends : EndsNumeral rest) :
    wholePart (Nat.toDigits 10 number ++ rest) = Nat.toDigits 10 number := by
  rw [wholePart, head?_toDigits_append]
  rcases toDigits_eq_or_head_ne number with zero | head_ne
  · simp [zero]
  · rw [if_neg head_ne]
    exact digits_append (fun _ => isDigit_of_mem_toDigits) ends

theorem fractionPart_eq_nil {rest : List Char} (ends : EndsNumeral rest) :
    fractionPart rest = [] := by
  unfold fractionPart
  split
  · exact absurd rfl (ends '.' rfl).2.1
  · rfl

theorem exponentPart_eq_nil {rest : List Char} (ends : EndsNumeral rest) :
    exponentPart rest = [] := by
  cases rest with
  | nil => rfl
  | cons next others =>
      obtain ⟨-, -, not_lower, not_upper⟩ := ends next rfl
      simp [exponentPart, not_lower, not_upper]

/-- An integer in decimal is the longest numeral in front of a text that does not continue it. -/
theorem read?_toString (value : Int) {rest : List Char} (ends : EndsNumeral rest) :
    read? ((toString value).toList ++ rest) =
      some (⟨decide (value < 0), Nat.toDigits 10 value.natAbs, [], []⟩, rest) := by
  have whole := wholePart_append value.natAbs ends
  have fraction := fractionPart_eq_nil ends
  have exponent := exponentPart_eq_nil ends
  have nonempty : (Nat.toDigits 10 value.natAbs).isEmpty = false := by
    simp
  rw [toList_toString]
  by_cases negative : value < 0
  · simp [read?, negative, whole, fraction, exponent, nonempty]
  · have unsigned : (Nat.toDigits 10 value.natAbs).head? ≠ some '-' := by
      intro signed
      have minus_digit := isDigit_of_mem_toDigits (List.mem_of_head? signed)
      exact absurd minus_digit (by decide)
    simp [read?, negative, unsigned, whole, fraction, exponent, nonempty]

theorem ofDigits_toDigits (number : Nat) : ofDigits (Nat.toDigits 10 number) = number := by
  have step_eq : (fun (sofar : Nat) (digit : Char) => sofar * 10 + (digit.toNat - 0x30)) =
      fun sofar digit => 10 * sofar + (digit.toNat - '0'.toNat) := by
    funext sofar digit
    rw [Nat.mul_comm]
    rfl
  rw [ofDigits, step_eq]
  exact Nat.ofDigitChars_ten_toDigits

/-- An integer in decimal has itself as its value. -/
theorem value_toDigits {value : Int} (few : HasFewDigits value) :
    Numeral.value ⟨decide (value < 0), Nat.toDigits 10 value.natAbs, [], []⟩ =
      .ok (.integer value) := by
  have magnitude : (if value < 0 then -(value.natAbs : Int) else value.natAbs) = value := by
    split <;> omega
  have fits : (Nat.toDigits 10 value.natAbs).length ≤ Text.digitLimit := few
  simp only [Numeral.value, List.isEmpty_nil, and_self, if_true, fits, ofDigits_toDigits,
    decide_eq_true_eq, magnitude]

end Numeral

end WalkFilter.Json
