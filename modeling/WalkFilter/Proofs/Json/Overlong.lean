import Mathlib.Data.List.Infix
import WalkFilter.Proofs.Except
import WalkFilter.Proofs.Json.Layout

/-!
# Integers with too many digits

An integer of more digits than are read is no fault of the text, but reading it stops there all the
same. This file shows that it is the only way to that error, and where its digits stand.
-/

namespace WalkFilter.Json

/-! ## Strings, literals and numerals at the start of a text -/

theorem suffix_of_readUnits {text rest : List Char} {units : List CodePoint}
    (read : readUnits text = .ok (units, rest)) : rest <:+ text := by
  fun_induction readUnits text generalizing units with
  | case1 | case3 | case4 | case6 | case7 | case9 => cases read
  | case2 =>
      obtain ⟨-, rfl⟩ := Prod.mk.inj (Except.ok.inj read)
      exact List.suffix_cons ..
  | case5 first second third fourth next behind unit found not_quote induction =>
      obtain ⟨others, behind_read⟩ := prependUnit_eq_ok read
      exact (induction behind_read).trans ⟨['\\', 'u', first, second, third, fourth], rfl⟩
  | case8 letter behind not_unit value found not_quote induction =>
      obtain ⟨others, behind_read⟩ := prependUnit_eq_ok read
      exact (induction behind_read).trans ⟨['\\', letter], rfl⟩
  | case10 char behind not_quote not_backslash printed induction =>
      obtain ⟨others, behind_read⟩ := prependUnit_eq_ok read
      exact (induction behind_read).trans (List.suffix_cons ..)

theorem suffix_of_readString {text rest : List Char} {content : CodeText}
    (read : readString text = .ok (content, rest)) : rest <:+ text := by
  obtain ⟨⟨units, behind⟩, units_read, result_eq⟩ := map_eq_ok_iff.mp read
  obtain ⟨-, rfl⟩ := Prod.mk.inj result_eq
  exact suffix_of_readUnits units_read

/-- A string is not refused for digits. -/
theorem readUnits_ne_tooManyDigits (text : List Char) (count : Nat) :
    readUnits text ≠ .error (.tooManyDigits count) := by
  fun_induction readUnits text with
  | case1 | case2 | case3 | case4 | case6 | case7 | case9 => simp
  | case5 _ _ _ _ _ _ _ _ _ induction | case8 _ _ _ _ _ _ induction
  | case10 _ _ _ _ _ induction =>
      rw [prependUnit, ne_eq, map_eq_error_iff]
      exact induction

theorem readString_ne_tooManyDigits (text : List Char) (count : Nat) :
    readString text ≠ .error (.tooManyDigits count) := by
  rw [readString, ne_eq, map_eq_error_iff]
  exact readUnits_ne_tooManyDigits text count

theorem suffix_of_literal? {text rest : List Char} {value : Value}
    (read : literal? text = some (value, rest)) : rest <:+ text := by
  obtain ⟨literal, -, result_eq⟩ := Option.map_eq_some_iff.mp read
  obtain ⟨-, rfl⟩ := Prod.mk.inj result_eq
  exact List.drop_suffix ..

namespace Numeral

theorem isPrefix_digits (text : List Char) : digits text <+: text := List.takeWhile_prefix _

theorem isPrefix_wholePart (text : List Char) : wholePart text <+: text := by
  rw [wholePart]
  split
  · rename_i zero
    obtain ⟨rest, rfl⟩ := List.head?_eq_some_iff.mp zero
    exact ⟨rest, rfl⟩
  · exact isPrefix_digits text

theorem isPrefix_fractionPart (text : List Char) : fractionPart text <+: text := by
  rw [fractionPart.eq_def]
  split
  · rename_i rest
    split
    · exact List.nil_prefix
    · exact (List.prefix_cons_inj '.').mpr (isPrefix_digits rest)
  · exact List.nil_prefix

theorem isPrefix_exponentSign (text : List Char) : exponentSign text <+: text := by
  rw [exponentSign.eq_def]
  split
  · exact List.prefix_append ['+'] _
  · exact List.prefix_append ['-'] _
  · exact List.nil_prefix

theorem isPrefix_exponentPart (text : List Char) : exponentPart text <+: text := by
  cases text with
  | nil => exact List.nil_prefix
  | cons letter rest =>
      simp only [exponentPart]
      split
      · have power := (List.prefix_append_right_inj (exponentSign rest)).mpr
          (isPrefix_digits (rest.drop (exponentSign rest).length))
        rw [List.prefix_iff_eq_append.mp (isPrefix_exponentSign rest)] at power
        exact (List.prefix_cons_inj letter).mpr power
      · exact List.nil_prefix

/-- A numeral is read off the front of a text, its whole part from behind the sign. -/
theorem text_append_of_read? {text rest : List Char} {numeral : Numeral}
    (read : read? text = some (numeral, rest)) :
    numeral.text ++ rest = text ∧ ∃ unsigned, numeral.whole = wholePart unsigned := by
  unfold read? at read
  extract_lets negative unsigned whole afterWhole fraction afterFraction exponent at read
  split at read
  · cases read
  · obtain ⟨rfl, rfl⟩ := Prod.mk.inj (Option.some.inj read)
    refine ⟨?_, unsigned, rfl⟩
    have signed : (if decide negative = true then ['-'] else []) ++ unsigned = text := by
      simp only [unsigned, decide_eq_true_eq]
      by_cases minus : negative
      · obtain ⟨others, rfl⟩ := List.head?_eq_some_iff.mp minus
        rw [if_pos minus, if_pos minus]
        rfl
      · rw [if_neg minus, if_neg minus]
        rfl
    have whole_eq : whole ++ afterWhole = unsigned :=
      List.prefix_iff_eq_append.mp (isPrefix_wholePart unsigned)
    have fraction_eq : fraction ++ afterFraction = afterWhole :=
      List.prefix_iff_eq_append.mp (isPrefix_fractionPart afterWhole)
    have exponent_eq : exponent ++ afterFraction.drop exponent.length = afterFraction :=
      List.prefix_iff_eq_append.mp (isPrefix_exponentPart afterFraction)
    simp only [Numeral.text, List.append_assoc]
    rw [exponent_eq, fraction_eq, whole_eq, signed]

theorem isDigit_of_mem_wholePart {text : List Char} {char : Char}
    (member : char ∈ wholePart text) : char.isDigit = true := by
  rw [wholePart] at member
  split at member
  · obtain rfl := List.mem_singleton.mp member
    decide
  · exact List.mem_takeWhile_imp member

end Numeral

/-- Digits in the text that are too many for an integer. -/
structure Overlong (text digits : List Char) : Prop where
  /-- The digits stand in the text, one behind the other. -/
  inside : digits <:+: text
  /-- They are digits. -/
  isDigit : ∀ char ∈ digits, char.isDigit = true
  /-- They are too many. -/
  many : Text.digitLimit < digits.length

theorem Overlong.mono {text whole digits : List Char} (overlong : Overlong text digits)
    (inside : text <:+: whole) : Overlong whole digits :=
  ⟨overlong.inside.trans inside, overlong.isDigit, overlong.many⟩

/-- A number is refused for the digits of its whole part. -/
theorem Numeral.exists_overlong {text rest : List Char} {numeral : Numeral} {fault : Fault}
    (read : read? text = some (numeral, rest)) (refused : numeral.value = .error fault) :
    ∃ digits, Overlong text digits ∧ fault = .tooManyDigits digits.length := by
  obtain ⟨text_eq, unsigned, whole_eq⟩ := text_append_of_read? read
  have inside : numeral.whole <:+: text := by
    refine ⟨if numeral.negative then ['-'] else [],
      numeral.fraction ++ numeral.exponent ++ rest, ?_⟩
    rw [← text_eq, Numeral.text]
    simp only [List.append_assoc]
  rw [Numeral.value] at refused
  split at refused
  · split at refused
    · cases refused
    · rename_i many
      obtain rfl := Except.error.inj refused
      have longer : Text.digitLimit < numeral.whole.length := Nat.not_le.mp many
      refine ⟨numeral.whole, ⟨inside, fun char member => ?_, longer⟩, rfl⟩
      exact isDigit_of_mem_wholePart (whole_eq ▸ member)
  · cases refused

/-! ## Tokens with a fault -/

/-- Every integer in the text has at most as many digits as are read: one with more is a token of
its own kind. -/
def IntegersFit (text : List Char) : Prop :=
  ∀ count, Token.badNumber (.tooManyDigits count) ∉ tokens text

/-- The fault of a token. -/
def Token.fault? : Token → Option Fault
  | .badString fault | .badNumber fault => some fault
  | _ => none

/-- The token stands for the fault at the start of a text. -/
inductive Token.FaultyAt : List Char → Token → Prop where
  | string {text : List Char} {fault : Fault} (read : readString text = .error fault) :
    FaultyAt ('"' :: text) (.badString fault)
  | number {text rest : List Char} {numeral : Numeral} {fault : Fault}
    (read : Numeral.read? text = some (numeral, rest)) (refused : numeral.value = .error fault) :
    FaultyAt text (.badNumber fault)

theorem fault?_of_punctuation? {char : Char} {mark : Token}
    (stands : punctuation? char = some mark) : mark.fault? = none := by
  unfold punctuation? at stands
  split at stands
  all_goals cases stands
  all_goals rfl

theorem exists_faultyAt_of_mem_tokens {text : List Char} {token : Token} {fault : Fault}
    (member : token ∈ tokens text) (faulty : token.fault? = some fault) :
    ∃ after, after <:+ text ∧ token.FaultyAt after := by
  -- a first token without a fault leaves the faulty one to the rest of the text
  have behind {first : Token} {others : List Token} (no_fault : first.fault? = none)
      (member : token ∈ first :: others) : token ∈ others := by
    rcases List.mem_cons.mp member with rfl | member
    · rw [no_fault] at faulty
      cases faulty
    · exact member
  fun_induction tokens text with
  | case1 => cases member
  | case2 char rest gap induction =>
      obtain ⟨after, suffix, at_after⟩ := induction member
      exact ⟨after, suffix.trans (List.suffix_cons ..), at_after⟩
  | case3 char rest no_gap mark stands induction =>
      have in_rest := behind (fault?_of_punctuation? stands) member
      obtain ⟨after, suffix, at_after⟩ := induction in_rest
      exact ⟨after, suffix.trans (List.suffix_cons ..), at_after⟩
  | case4 rest content next read no_gap no_mark induction =>
      obtain ⟨after, suffix, at_after⟩ := induction (behind rfl member)
      have next_suffix := (suffix_of_readString read).trans (List.suffix_cons '"' rest)
      exact ⟨after, suffix.trans next_suffix, at_after⟩
  | case5 rest found read no_gap no_mark =>
      obtain rfl := List.mem_singleton.mp member
      exact ⟨_, List.suffix_rfl, .string read⟩
  | case6 char rest no_gap no_quote value next read no_mark induction =>
      obtain ⟨after, suffix, at_after⟩ := induction (behind rfl member)
      exact ⟨after, suffix.trans (suffix_of_literal? read), at_after⟩
  | case7 char rest no_gap no_quote no_literal numeral next read value value_eq no_mark induction =>
      obtain ⟨after, suffix, at_after⟩ := induction (behind rfl member)
      exact ⟨after, suffix.trans ⟨_, (Numeral.text_append_of_read? read).1⟩, at_after⟩
  | case8 char rest no_gap no_quote no_literal numeral next read found refused no_mark =>
      obtain rfl := List.mem_singleton.mp member
      exact ⟨_, List.suffix_rfl, .number read refused⟩
  | case9 =>
      obtain rfl := List.mem_singleton.mp member
      cases faulty

/-- Only a number is refused for its digits, and they stand in the text. -/
theorem exists_overlong_of_mem_tokens {text : List Char} {token : Token} {count : Nat}
    (member : token ∈ tokens text) (faulty : token.fault? = some (.tooManyDigits count)) :
    token = .badNumber (.tooManyDigits count) ∧
      ∃ digits, Overlong text digits ∧ count = digits.length := by
  obtain ⟨after, suffix, at_after⟩ := exists_faultyAt_of_mem_tokens member faulty
  cases at_after with
  | string read =>
      obtain rfl := Option.some.inj faulty
      exact absurd read (readString_ne_tooManyDigits _ count)
  | number read refused =>
      obtain rfl := Option.some.inj faulty
      obtain ⟨digits, overlong, fault_eq⟩ := Numeral.exists_overlong read refused
      obtain rfl := Fault.tooManyDigits.inj fault_eq
      exact ⟨rfl, digits, overlong.mono suffix.isInfix, rfl⟩

/-! ## Documents that are refused for digits -/

namespace Reader

theorem fault?_of_beginValue {frames : List Frame} {token : Token} {count : Nat}
    (refused : beginValue frames token = .error (.tooManyDigits count)) :
    token.fault? = some (.tooManyDigits count) := by
  cases token <;> simp_all [beginValue, Token.fault?]

theorem fault?_of_beginKey {frames : List Frame} {earlier : List (CodeText × Value)} {token : Token}
    {count : Nat} (refused : beginKey frames earlier token = .error (.tooManyDigits count)) :
    token.fault? = some (.tooManyDigits count) := by
  cases token <;> simp_all [beginKey, Token.fault?]

theorem continueAfter_ne_tooManyDigits (value : Value) (frames : List Frame) (token : Token)
    (count : Nat) : continueAfter value frames token ≠ .error (.tooManyDigits count) := by
  fun_cases continueAfter value frames token <;> simp

/-- A step that refuses a token for digits repeats the fault of the token. -/
theorem fault?_of_step {reader : Reader} {token : Token} {count : Nat}
    (refused : reader.step token = .error (.tooManyDigits count)) :
    token.fault? = some (.tooManyDigits count) := by
  unfold step at refused
  split at refused
  · exact fault?_of_beginValue refused
  · cases refused
  · exact fault?_of_beginValue refused
  · cases refused
  · exact fault?_of_beginKey refused
  · exact fault?_of_beginKey refused
  · cases refused
  · cases refused
  · exact absurd refused (continueAfter_ne_tooManyDigits _ _ _ count)

theorem finish_ne_tooManyDigits (reader : Reader) (count : Nat) :
    reader.finish ≠ .error (.tooManyDigits count) := by
  fun_cases finish reader <;> simp

theorem exists_token_of_run {reader : Reader} {tokens : List Token} {count : Nat}
    (refused : reader.run tokens = .error (.tooManyDigits count)) :
    ∃ token ∈ tokens, token.fault? = some (.tooManyDigits count) := by
  induction tokens generalizing reader with
  | nil => exact absurd refused (finish_ne_tooManyDigits reader count)
  | cons token rest induction =>
      rw [run] at refused
      split at refused
      · obtain ⟨found, member, faulty⟩ := induction refused
        exact ⟨found, List.mem_cons_of_mem token member, faulty⟩
      · rename_i fault step_eq
        obtain rfl := Except.error.inj refused
        exact ⟨token, List.mem_cons_self, fault?_of_step step_eq⟩

end Reader

/-- A document that is refused for digits holds them, in a number that is a token of the text. -/
theorem exists_overlong_of_parse {text : List Char} {count : Nat}
    (refused : parse text = .error (.tooManyDigits count)) :
    Token.badNumber (.tooManyDigits count) ∈ tokens text ∧
      ∃ digits, Overlong text digits ∧ count = digits.length := by
  rw [parse] at refused
  split at refused
  · cases refused
  · obtain ⟨token, member, faulty⟩ := Reader.exists_token_of_run refused
    obtain ⟨rfl, overlong⟩ := exists_overlong_of_mem_tokens member faulty
    exact ⟨member, overlong⟩

theorem IntegersFit.parse_ne {text : List Char} (fit : IntegersFit text) (count : Nat) :
    parse text ≠ .error (.tooManyDigits count) :=
  fun refused => fit count (exists_overlong_of_parse refused).1

/-- Digits that are too many need room. -/
theorem integersFit_of_length_le {text : List Char} (short : text.length ≤ Text.digitLimit) :
    IntegersFit text := by
  intro count member
  obtain ⟨-, digits, overlong, -⟩ := exists_overlong_of_mem_tokens member rfl
  exact absurd overlong.many (Nat.not_lt.mpr (overlong.inside.length_le.trans short))

/-! ## An array of one integer -/

/-- Digits are the longest numeral in front of a text that does not continue it. -/
theorem Numeral.read?_of_digits {digit : Char} {others rest : List Char}
    (is_digit : ∀ char ∈ digit :: others, char.isDigit = true) (no_zero : digit ≠ '0')
    (ends : EndsNumeral rest) :
    read? (digit :: others ++ rest) = some (⟨false, digit :: others, [], []⟩, rest) := by
  have unsigned : digit ≠ '-' := by
    rintro rfl
    exact absurd (is_digit '-' List.mem_cons_self) (by decide)
  have whole : wholePart (digit :: others ++ rest) = digit :: others := by
    rw [wholePart, List.cons_append, List.head?_cons, if_neg (by simpa using no_zero)]
    exact digits_append is_digit ends
  rw [List.cons_append] at whole ⊢
  simp [read?, unsigned, whole, fractionPart_eq_nil ends, exponentPart_eq_nil ends]

/-- An array of one integer with too many digits is refused for them. -/
theorem parse_of_overlong {digit : Char} {others : List Char}
    (is_digit : ∀ char ∈ digit :: others, char.isDigit = true) (no_zero : digit ≠ '0')
    (many : Text.digitLimit < (digit :: others).length) :
    parse ('[' :: (digit :: others ++ [']'])) =
      .error (.tooManyDigits (digit :: others).length) := by
  have first_digit := is_digit digit List.mem_cons_self
  obtain ⟨no_gap, no_mark, no_quote⟩ := starts_bare (.inr first_digit)
  have ends : EndsNumeral [']'] := by simp [EndsNumeral]
  have read := Numeral.read?_of_digits is_digit no_zero ends
  have no_literal : literal? ([] ++ digit :: (others ++ [']'])) = none :=
    literal?_eq_none (.inl rfl) first_digit
  have refused : Numeral.value ⟨false, digit :: others, [], []⟩ =
      .error (.tooManyDigits (digit :: others).length) := by
    simp only [Numeral.value, List.isEmpty_nil, and_self, if_true, Nat.not_le.mpr many, if_false]
  have tokens_eq : tokens (digit :: others ++ [']']) =
      [.badNumber (.tooManyDigits (digit :: others).length)] := by
    rw [List.nil_append] at no_literal
    rw [List.cons_append] at read ⊢
    rw [tokens_bare no_gap no_mark no_quote, no_literal, read]
    simp only [refused]
  rw [parse, if_neg (by simp), tokens_mark rfl, tokens_eq]
  rfl

end WalkFilter.Json
