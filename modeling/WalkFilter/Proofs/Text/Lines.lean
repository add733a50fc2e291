import Mathlib.Tactic.Common
import WalkFilter.Text.Lines

/-!
# Lines that end with a break

A text without breaks is cut off at the break behind it, and newlines are only changed where a
carriage return stands. A file with a single line is read as this line, whatever ends it.
-/

namespace WalkFilter.Text

/-- Unifying newlines leaves a text alone up to its first carriage return. -/
theorem unifyNewlines_append {front : List Char} (no_return : '\r' ∉ front) (rest : List Char) :
    unifyNewlines (front ++ rest) = front ++ unifyNewlines rest := by
  induction front with
  | nil => rfl
  | cons char others induction =>
      simp only [List.mem_cons, not_or] at no_return
      obtain ⟨different, others_without⟩ := no_return
      rw [List.cons_append, unifyNewlines.eq_3 _ _ fun _ same _ => different same.symm,
        induction others_without, if_neg (Ne.symm different), List.cons_append]

theorem unifyNewlines_eq_self {text : List Char} (no_return : '\r' ∉ text) :
    unifyNewlines text = text := by
  simpa [unifyNewlines] using unifyNewlines_append no_return []

theorem lines_cons {char : Char} (different : char ≠ '\r') (rest : List Char) :
    lines (char :: rest) =
      if char ∈ lineBreak then [] :: lines rest else extendFirst char (lines rest) :=
  lines.eq_3 _ _ fun _ same _ => different same

/-- A text is cut at its first break. -/
theorem lines_append_cons {front : List Char} {separator : Char}
    (unbroken : ∀ char ∈ front, char ∉ lineBreak) (breaks : separator ∈ lineBreak)
    (different : separator ≠ '\r') (rest : List Char) :
    lines (front ++ separator :: rest) = front :: lines rest := by
  induction front with
  | nil => rw [List.nil_append, lines_cons different, if_pos breaks]
  | cons first others induction =>
      obtain ⟨first_unbroken, others_unbroken⟩ := List.forall_mem_cons.mp unbroken
      have first_different : first ≠ '\r' := by
        rintro rfl
        exact first_unbroken (by decide)
      rw [List.cons_append, lines_cons first_different, if_neg first_unbroken,
        induction others_unbroken, extendFirst]

/-- Texts that end with a line feed each, in front of a further text. -/
def terminated (texts : List (List Char)) : List Char := texts.flatMap (· ++ ['\n'])

/-- Each text without breaks that ends with a line feed is a line. -/
theorem lines_terminated_append {texts : List (List Char)}
    (unbroken : ∀ text ∈ texts, ∀ char ∈ text, char ∉ lineBreak) (rest : List Char) :
    lines (terminated texts ++ rest) = texts ++ lines rest := by
  induction texts with
  | nil => rfl
  | cons first others induction =>
      obtain ⟨first_unbroken, others_unbroken⟩ := List.forall_mem_cons.mp unbroken
      have feed : lines (first ++ '\n' :: (terminated others ++ rest)) =
          first :: lines (terminated others ++ rest) :=
        lines_append_cons first_unbroken (by decide) (by decide) _
      rw [List.cons_append, ← induction others_unbroken, ← feed]
      simp [terminated]

theorem lines_terminated {texts : List (List Char)}
    (unbroken : ∀ text ∈ texts, ∀ char ∈ text, char ∉ lineBreak) :
    lines (terminated texts) = texts := by
  simpa [lines] using lines_terminated_append unbroken []

/-! ## A single line -/

theorem lines_eq_singleton {line : List Char} (nonempty : line ≠ [])
    (unbroken : ∀ char ∈ line, char ∉ lineBreak) : lines line = [line] := by
  induction line with
  | nil => exact absurd rfl nonempty
  | cons first rest induction =>
      obtain ⟨first_unbroken, rest_unbroken⟩ := List.forall_mem_cons.mp unbroken
      have different : first ≠ '\r' := by
        rintro rfl
        exact first_unbroken (by decide)
      rw [lines_cons different, if_neg first_unbroken]
      cases rest with
      | nil => rfl
      | cons second others => rw [induction (by simp) rest_unbroken, extendFirst]

/-- The text may stand behind the last line of a file: nothing, or a line break of any kind. -/
inductive IsLineEnd : List Char → Prop where
  | none : IsLineEnd []
  | single {char : Char} (breaks : char ∈ lineBreak) : IsLineEnd [char]
  | double : IsLineEnd ['\r', '\n']

/-- However its only line ends, a file is read as this line. -/
theorem lines_unifyNewlines {line lineEnd : List Char} (ends : IsLineEnd lineEnd)
    (nonempty : line ≠ []) (unbroken : ∀ char ∈ line, char ∉ lineBreak) :
    lines (unifyNewlines (line ++ lineEnd)) = [line] := by
  have no_return : '\r' ∉ line := fun member => unbroken _ member (by decide)
  have feed : lines (line ++ ['\n']) = [line] :=
    lines_append_cons unbroken (by decide) (by decide) []
  rw [unifyNewlines_append no_return]
  cases ends with
  | none => simpa [unifyNewlines] using lines_eq_singleton nonempty unbroken
  | double => exact feed
  | @single char breaks =>
      by_cases returned : char = '\r'
      · subst returned
        exact feed
      · have kept : unifyNewlines [char] = [char] :=
          unifyNewlines_eq_self (by simpa using Ne.symm returned)
        rw [kept]
        exact lines_append_cons unbroken breaks returned []

end WalkFilter.Text
