import Mathlib.Data.List.DropRight
import Mathlib.Data.List.TakeWhile
import WalkFilter.Text.Blank

/-!
# Blank texts

Nothing is left of a text without the blanks around it exactly if it holds nothing but blanks. A
text that neither starts nor ends with a blank comes back whatever blanks are put around it, and
every text that is left is of this kind.
-/

namespace WalkFilter.Text

/-- All characters of the text are blank. -/
def AllBlank (text : List Char) : Prop := ∀ char ∈ text, blank.contains char = true

-- The instances are named, so that the characters of the text are tried and not all there are.
instance (text : List Char) : Decidable (AllBlank text) :=
  List.decidableBAll _ text

/-- The text neither starts nor ends with a blank. -/
structure Stripped (text : List Char) : Prop where
  /-- The first character is not blank. -/
  first : ∀ char ∈ text.head?, blank.contains char = false
  /-- The last character is not blank. -/
  last : ∀ char ∈ text.getLast?, blank.contains char = false

instance (text : List Char) : Decidable (Stripped text) :=
  match Option.decidableForallMem text.head?, Option.decidableForallMem text.getLast? with
  | isTrue first, isTrue last => isTrue ⟨first, last⟩
  | isFalse first, _ => isFalse fun stripped => first stripped.first
  | _, isFalse last => isFalse fun stripped => last stripped.last

theorem strip_eq_nil_iff {text : List Char} :
    strip text = [] ↔ ∀ char ∈ text, blank.contains char = true := by
  rw [strip, trim, trimStart, trimStart, List.reverse_eq_nil_iff, List.dropWhile_eq_nil_iff]
  simp only [List.mem_reverse]
  constructor
  · intro rest_blank char member
    rw [← List.takeWhile_append_dropWhile (p := blank.contains) (l := text)] at member
    rcases List.mem_append.mp member with front | rest
    · exact List.mem_takeWhile_imp front
    · exact rest_blank char rest
  · intro all_blank char member
    exact all_blank char ((List.dropWhile_suffix _).subset member)

theorem trimStart_blanks_append {blanks : List Char} (all_blank : AllBlank blanks)
    (text : List Char) : trimStart blank (blanks ++ text) = trimStart blank text :=
  List.dropWhile_append_of_pos all_blank

theorem trimStart_eq_self {text : List Char}
    (visible : ∀ char ∈ text.head?, blank.contains char = false) : trimStart blank text = text := by
  cases text with
  | nil => rfl
  | cons first rest => exact List.dropWhile_cons_of_neg (by simp [visible first rfl])

/-- The blanks around a text are removed, and nothing else. -/
theorem strip_padded {before text after : List Char} (before_blank : AllBlank before)
    (stripped : Stripped text) (after_blank : AllBlank after) :
    strip (before ++ text ++ after) = text := by
  cases text with
  | nil =>
      rw [strip_eq_nil_iff, List.append_nil]
      exact List.forall_mem_append.mpr ⟨before_blank, after_blank⟩
  | cons first rest =>
      have back_blank : AllBlank after.reverse := fun char member =>
        after_blank char (List.mem_reverse.mp member)
      have first_visible : ∀ char ∈ (first :: rest ++ after).head?, blank.contains char = false :=
        stripped.first
      have last_visible : ∀ char ∈ (first :: rest).reverse.head?, blank.contains char = false := by
        rw [List.head?_reverse]
        exact stripped.last
      rw [strip, trim, List.append_assoc, trimStart_blanks_append before_blank,
        trimStart_eq_self first_visible, List.reverse_append, trimStart_blanks_append back_blank,
        trimStart_eq_self last_visible, List.reverse_reverse]

/-- No blank is removed from a text that neither starts nor ends with one. -/
theorem strip_eq_self {first last : Char} (first_visible : blank.contains first = false)
    (last_visible : blank.contains last = false) (middle : List Char) :
    strip (first :: (middle ++ [last])) = first :: (middle ++ [last]) := by
  have stripped : Stripped (first :: (middle ++ [last])) := by
    refine ⟨fun char starts => ?_, fun char ends => ?_⟩
    · obtain rfl := Option.some.inj starts
      exact first_visible
    · rw [← List.cons_append, List.getLast?_concat] at ends
      obtain rfl := Option.some.inj ends
      exact last_visible
  have none_blank : AllBlank [] := List.forall_mem_nil _
  simpa only [List.nil_append, List.append_nil] using strip_padded none_blank stripped none_blank

/-- What is left of a text stands in it without a gap. -/
theorem strip_infix (text : List Char) : strip text <:+: text :=
  (List.rdropWhile_prefix blank.contains (trimStart blank text)).isInfix.trans
    (List.dropWhile_suffix _).isInfix

/-- Blanks are removed as far as there are any. -/
theorem stripped_strip (text : List Char) : Stripped (strip text) where
  first char starts := by
    have visible := List.head?_dropWhile_not blank.contains text
    obtain ⟨rest, front_eq⟩ : strip text <+: text.dropWhile blank.contains :=
      List.rdropWhile_prefix _ _
    have starts_front : (text.dropWhile blank.contains).head? = some char := by
      rw [← front_eq, List.head?_append, Option.mem_def.mp starts, Option.some_or]
    simpa only [starts_front] using visible
  last char ends := by
    have nonempty : strip text ≠ [] := by
      intro empty
      rw [empty] at ends
      cases ends
    rw [List.getLast?_eq_some_getLast nonempty] at ends
    obtain rfl := Option.some.inj ends
    exact Bool.eq_false_iff.mpr (List.rdropWhile_last_not _ _ nonempty)

end WalkFilter.Text
