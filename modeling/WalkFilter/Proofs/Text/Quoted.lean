import Mathlib.Algebra.Order.Ring.Nat
import Mathlib.Data.List.Basic
import WalkFilter.Text.Quoted

/-!
# Quoted texts are unambiguous

A quoted text tells which text it stands for and where it ends, whatever follows it. So a message
that quotes a text says which text it is about.
-/

namespace WalkFilter.Text

/-! ## Hexadecimal numbers -/

theorem hexDigit_inj {left right : Nat} (left_lt : left < 16) (right_lt : right < 16)
    (same : hexDigit left = hexDigit right) : left = right :=
  (by decide : ∀ left < 16, ∀ right < 16, hexDigit left = hexDigit right → left = right)
    left left_lt right right_lt same

/-- Numbers of a given width are told apart by their digits, whatever follows them. -/
theorem hex_append_inj {width left right : Nat} {rest other : List Char}
    (left_lt : left < 16 ^ width) (right_lt : right < 16 ^ width)
    (same : hex width left ++ rest = hex width right ++ other) : left = right ∧ rest = other := by
  induction width generalizing left right rest other with
  | zero =>
      rw [Nat.pow_zero, Nat.lt_one_iff] at left_lt right_lt
      exact ⟨left_lt.trans right_lt.symm, same⟩
  | succ width induction =>
      rw [Nat.pow_succ'] at left_lt right_lt
      rw [hex, hex, List.append_assoc, List.append_assoc] at same
      obtain ⟨front_eq, behind⟩ := induction (Nat.div_lt_of_lt_mul left_lt)
        (Nat.div_lt_of_lt_mul right_lt) same
      obtain ⟨digit_eq, rest_eq⟩ := List.cons.inj behind
      have last_eq := hexDigit_inj (Nat.mod_lt left (by decide)) (Nat.mod_lt right (by decide))
        digit_eq
      exact ⟨by omega, rest_eq⟩

/-! ## Characters -/

/-- The characters with an escape of their own, and what stands for them behind a backslash. -/
def shortEscapes : List (Char × Char) :=
  [('\'', '\''), ('"', '"'), ('\\', '\\'), ('\t', 't'), ('\n', 'n'), ('\r', 'r')]

/-- The letters that start a code point behind a backslash, with the number of its digits. -/
def codeLetters : List (Char × Nat) := [('x', 2), ('u', 4), ('U', 8)]

/-- The text stands for the character between the given quotes. -/
inductive QuotedAs (quote char : Char) : List Char → Prop where
  | itself (not_quote : char ≠ quote) (not_backslash : char ≠ '\\') : QuotedAs quote char [char]
  | short {mark : Char} (stands : (char, mark) ∈ shortEscapes) : QuotedAs quote char ['\\', mark]
  | code {letter : Char} {width : Nat} (starts : (letter, width) ∈ codeLetters)
    (fits : char.toNat < 16 ^ width) : QuotedAs quote char ('\\' :: letter :: hex width char.toNat)

variable {quote : Char}

theorem quotedAs_quoteChar (is_quote : quote = '\'' ∨ quote = '"') (char : Char) :
    QuotedAs quote char (quoteChar quote char) := by
  have valid : char.toNat < 16 ^ 8 := char.val.toNat_lt
  simp only [quoteChar]
  split_ifs with special tab lineFeed carriageReturn unprinted short medium
  · refine .short ?_
    rcases special with rfl | rfl
    · rcases is_quote with rfl | rfl <;> decide
    · decide
  · exact tab ▸ .short (by decide)
  · exact lineFeed ▸ .short (by decide)
  · exact carriageReturn ▸ .short (by decide)
  · exact .code (by decide) short
  · exact .code (by decide) medium
  · exact .code (by decide) valid
  · exact .itself (not_or.mp special).1 (not_or.mp special).2

/-- A text between quotes does not begin with the quote. -/
theorem QuotedAs.ne_quote {char : Char} {text rest other : List Char}
    (is_quote : quote = '\'' ∨ quote = '"') (stands : QuotedAs quote char text) :
    text ++ rest ≠ quote :: other := by
  have not_backslash : quote ≠ '\\' := by rcases is_quote with rfl | rfl <;> decide
  intro same
  cases stands with
  | itself not_quote => exact not_quote (List.cons.inj same).1
  | short | code => exact not_backslash (List.cons.inj same).1.symm

/-- A character can be told from the text that stands for it, whatever follows. -/
theorem QuotedAs.append_inj {left right : Char} {left_text right_text rest other : List Char}
    (first : QuotedAs quote left left_text) (second : QuotedAs quote right right_text)
    (same : left_text ++ rest = right_text ++ other) : left = right ∧ rest = other := by
  have short_inj : ∀ escape ∈ shortEscapes, ∀ choice ∈ shortEscapes,
      escape.2 = choice.2 → escape.1 = choice.1 := by decide
  have short_ne_code : ∀ escape ∈ shortEscapes, ∀ code ∈ codeLetters, escape.2 ≠ code.1 := by decide
  have code_inj : ∀ code ∈ codeLetters, ∀ choice ∈ codeLetters,
      code.1 = choice.1 → code.2 = choice.2 := by decide
  cases first with
  | itself _ not_backslash =>
      cases second with
      | itself => exact List.cons.inj same
      | short | code => exact absurd (List.cons.inj same).1 not_backslash
  | short stands =>
      cases second with
      | itself _ not_backslash => exact absurd (List.cons.inj same).1.symm not_backslash
      | short choice =>
          obtain ⟨mark_eq, rest_eq⟩ := List.cons.inj (List.cons.inj same).2
          exact ⟨short_inj _ stands _ choice mark_eq, rest_eq⟩
      | code starts =>
          exact absurd (List.cons.inj (List.cons.inj same).2).1 (short_ne_code _ stands _ starts)
  | code starts fits =>
      cases second with
      | itself _ not_backslash => exact absurd (List.cons.inj same).1.symm not_backslash
      | short stands =>
          exact absurd (List.cons.inj (List.cons.inj same).2).1.symm
            (short_ne_code _ stands _ starts)
      | code choice choice_fits =>
          obtain ⟨letter_eq, digits_eq⟩ := List.cons.inj (List.cons.inj same).2
          obtain rfl := code_inj _ starts _ choice letter_eq
          obtain ⟨number_eq, rest_eq⟩ := hex_append_inj fits choice_fits digits_eq
          exact ⟨Char.toNat_inj.mp number_eq, rest_eq⟩

/-! ## Texts -/

theorem flatMap_quoteChar_append_inj (is_quote : quote = '\'' ∨ quote = '"')
    {left right rest other : List Char}
    (same : left.flatMap (quoteChar quote) ++ quote :: rest =
      right.flatMap (quoteChar quote) ++ quote :: other) : left = right ∧ rest = other := by
  induction left generalizing right with
  | nil =>
      cases right with
      | nil => exact ⟨rfl, (List.cons.inj same).2⟩
      | cons char chars =>
          rw [List.flatMap_cons, List.append_assoc] at same
          exact absurd same.symm ((quotedAs_quoteChar is_quote char).ne_quote is_quote)
  | cons first chars induction =>
      rw [List.flatMap_cons, List.append_assoc] at same
      cases right with
      | nil => exact absurd same ((quotedAs_quoteChar is_quote first).ne_quote is_quote)
      | cons char others =>
          rw [List.flatMap_cons, List.append_assoc] at same
          obtain ⟨rfl, behind⟩ := (quotedAs_quoteChar is_quote first).append_inj
            (quotedAs_quoteChar is_quote char) same
          obtain ⟨rfl, rest_eq⟩ := induction behind
          exact ⟨rfl, rest_eq⟩

theorem chooseQuote_cases (text : List Char) : chooseQuote text = '\'' ∨ chooseQuote text = '"' := by
  rw [chooseQuote]
  split
  · exact .inr rfl
  · exact .inl rfl

/-- A text can be told from its quoted form, whatever follows it. -/
theorem quoted_append_inj {left right rest other : String}
    (same : quoted left ++ rest = quoted right ++ other) : left = right ∧ rest = other := by
  have chars_eq := congrArg String.toList same
  simp only [quoted, String.toList_append, String.toList_ofList, List.append_assoc,
    List.cons_append] at chars_eq
  obtain ⟨quote_eq, behind⟩ := List.cons.inj chars_eq
  rw [← quote_eq] at behind
  obtain ⟨text_eq, rest_eq⟩ := flatMap_quoteChar_append_inj (chooseQuote_cases _) behind
  exact ⟨String.toList_inj.mp text_eq, String.toList_inj.mp rest_eq⟩

/-! ## Plain texts -/

/-- The character stands for itself between single quotes. -/
def NeedsNoEscape (char : Char) : Prop :=
  (0x20 ≤ char.toNat ∧ char.toNat < 0x7F) ∧ char ≠ '\'' ∧ char ≠ '\\'

instance (char : Char) : Decidable (NeedsNoEscape char) := inferInstanceAs (Decidable (_ ∧ _))

theorem not_mem_unprintable {char : Char} (printed : 0x20 ≤ char.toNat ∧ char.toNat < 0x7F) :
    char ∉ unprintable := by
  have apart : ∀ range ∈ unprintable.ranges, range.2 < 0x20 ∨ 0x7F ≤ range.1 := by decide +kernel
  intro member
  obtain ⟨range, listed, inside⟩ := List.any_eq_true.mp member
  rw [Bool.and_eq_true, decide_eq_true_eq, decide_eq_true_eq] at inside
  have outside := apart range listed
  omega

theorem quoteChar_of_needsNoEscape {char : Char} (plain : NeedsNoEscape char) :
    quoteChar '\'' char = [char] := by
  obtain ⟨printed, not_quote, not_backslash⟩ := plain
  have not_control {control : Char} (low : control.toNat < 0x20) : char ≠ control := by
    rintro rfl
    omega
  simp only [quoteChar]
  rw [if_neg (not_or.mpr ⟨not_quote, not_backslash⟩), if_neg (not_control (by decide)),
    if_neg (not_control (by decide)), if_neg (not_control (by decide)),
    if_neg (not_mem_unprintable printed)]

/-- A text that needs no escape is only put between quotes. -/
theorem quoted_of_needsNoEscape {text : String}
    (plain : ∀ char ∈ text.toList, NeedsNoEscape char) : quoted text = "'" ++ text ++ "'" := by
  have no_quote : '\'' ∉ text.toList := fun member => (plain _ member).2.1 rfl
  have quote_eq : chooseQuote text.toList = '\'' := if_neg fun both => no_quote both.1
  have chars_eq : text.toList.flatMap (quoteChar '\'') = text.toList := by
    rw [List.flatMap_congr fun char member => quoteChar_of_needsNoEscape (plain char member),
      List.flatMap_singleton']
  rw [← String.toList_inj]
  simp [quoted, quote_eq, chars_eq]

end WalkFilter.Text
