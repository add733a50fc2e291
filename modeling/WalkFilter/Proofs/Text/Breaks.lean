import Mathlib.Algebra.Order.BigOperators.Group.List
import Mathlib.Algebra.Order.Ring.Nat
import WalkFilter.Proofs.Text.Lines

/-!
# Counting lines

A text that ends with a break has as many lines as it has breaks, so texts that are put one below
the other take a line each and one more for every break inside them.
-/

namespace WalkFilter.Text

/-- The number of line breaks in a text. A carriage return and the line feed after it are one. -/
def breaks : List Char → Nat
  | [] => 0
  | '\r' :: '\n' :: rest => 1 + breaks rest
  | char :: rest => (if char ∈ lineBreak then 1 else 0) + breaks rest

/-- The text has no line break in it. -/
def Unbroken (text : List Char) : Prop := ∀ char ∈ text, char ∉ lineBreak

theorem breaks_cons {char : Char} {rest : List Char}
    (apart : char = '\r' → rest.head? ≠ some '\n') :
    breaks (char :: rest) = (if char ∈ lineBreak then 1 else 0) + breaks rest := by
  refine breaks.eq_3 _ _ fun others returned same => apart returned ?_
  obtain rfl : rest = '\n' :: others := same
  rfl

theorem breaks_cons_of_not_mem {char : Char} (unbroken : char ∉ lineBreak) (rest : List Char) :
    breaks (char :: rest) = breaks rest := by
  have different : char ≠ '\r' := by
    rintro rfl
    exact unbroken (by decide)
  rw [breaks_cons fun same => absurd same different, if_neg unbroken, Nat.zero_add]

theorem breaks_feed (rest : List Char) : breaks ('\n' :: rest) = 1 + breaks rest := by
  have feed : '\n' ∈ lineBreak := by decide
  rw [breaks_cons (by simp), if_pos feed]

/-- A carriage return in front of a line feed adds nothing to the break that it belongs to. -/
theorem breaks_cons_eq (char : Char) (rest : List Char) :
    breaks (char :: rest) =
      (if char ∈ lineBreak ∧ ¬(char = '\r' ∧ rest.head? = some '\n') then 1 else 0) +
        breaks rest := by
  by_cases pair : char = '\r' ∧ rest.head? = some '\n'
  · obtain ⟨rfl, fed⟩ := pair
    obtain ⟨others, rfl⟩ := List.head?_eq_some_iff.mp fed
    rw [if_neg (fun both => both.2 ⟨rfl, fed⟩), Nat.zero_add, breaks, breaks_feed]
  · have apart : char = '\r' → rest.head? ≠ some '\n' := fun returned fed => pair ⟨returned, fed⟩
    simp only [breaks_cons apart, pair, not_false_eq_true, and_true]

theorem breaks_eq_zero_iff {text : List Char} : breaks text = 0 ↔ Unbroken text := by
  fun_induction breaks text with
  | case1 => simp [Unbroken]
  | case2 rest induction =>
      have returned : '\r' ∈ lineBreak := by decide
      simp [Unbroken, returned]
  | case3 char rest not_pair induction =>
      simp [Unbroken, induction]

theorem sum_breaks_eq_zero_iff {texts : List (List Char)} :
    (texts.map breaks).sum = 0 ↔ ∀ text ∈ texts, Unbroken text := by
  simp only [List.sum_eq_zero_iff, List.forall_mem_map, breaks_eq_zero_iff]

/-- Breaks are counted part by part, unless a pair of carriage return and line feed is taken
apart. -/
theorem breaks_append {left right : List Char}
    (apart : left.getLast? = some '\r' → right.head? ≠ some '\n') :
    breaks (left ++ right) = breaks left + breaks right := by
  fun_induction breaks left with
  | case1 => simp
  | case2 rest induction =>
      rw [List.cons_append, List.cons_append, breaks, Nat.add_assoc, induction]
      intro returned
      exact apart (by simp [List.getLast?_cons, returned])
  | case3 char rest not_pair induction =>
      have rest_apart : rest.getLast? = some '\r' → right.head? ≠ some '\n' := fun returned =>
        apart (by simp [List.getLast?_cons, returned])
      rw [List.cons_append, breaks_cons, induction rest_apart, Nat.add_assoc]
      rintro rfl
      cases rest with
      | nil => exact apart rfl
      | cons second others =>
          intro same
          obtain rfl : second = '\n' := by simpa using same
          exact not_pair _ rfl rfl

theorem length_extendFirst (char : Char) (pieces : List (List Char)) :
    (extendFirst char pieces).length = max 1 pieces.length := by
  cases pieces with
  | nil => rfl
  | cons first rest => simp [extendFirst]

theorem lines_eq_nil_iff {text : List Char} : lines text = [] ↔ text = [] := by
  fun_cases lines text with
  | case1 => simp
  | case2 => simp
  | case3 => simp
  | case4 char rest => cases lines rest <;> simp [extendFirst]

/-- The number of lines without a break at their end: one, or none if the text ends with a break. -/
def unfinished (text : List Char) : Nat := if text.getLast?.any (· ∉ lineBreak) then 1 else 0

theorem unfinished_singleton (char : Char) :
    unfinished [char] = if char ∈ lineBreak then 0 else 1 := by
  by_cases breaks_line : char ∈ lineBreak <;> simp [unfinished, breaks_line]

theorem unfinished_cons_cons (first second : Char) (rest : List Char) :
    unfinished (first :: second :: rest) = unfinished (second :: rest) := by
  rw [unfinished, List.getLast?_cons_cons, unfinished]

/-- A text has a line for each of its breaks, and the one that is not finished. -/
theorem length_lines (text : List Char) : (lines text).length = breaks text + unfinished text := by
  fun_induction lines text with
  | case1 => rfl
  | case2 rest induction =>
      have same : unfinished ('\r' :: '\n' :: rest) = unfinished rest := by
        cases rest with
        | nil => rfl
        | cons char others => rw [unfinished_cons_cons, unfinished_cons_cons]
      rw [List.length_cons, induction, breaks, same]
      omega
  | case3 char rest not_pair breaks_line induction =>
      have same : unfinished (char :: rest) = unfinished rest := by
        cases rest with
        | nil => rw [unfinished_singleton, if_pos breaks_line, unfinished, if_neg (by simp)]
        | cons second others => exact unfinished_cons_cons char second others
      rw [List.length_cons, induction, breaks.eq_3 _ _ not_pair, if_pos breaks_line, same]
      omega
  | case4 char rest not_pair unbroken induction =>
      rw [length_extendFirst, breaks.eq_3 _ _ not_pair, if_neg unbroken, Nat.zero_add]
      cases rest with
      | nil => rw [unfinished_singleton, if_neg unbroken]; rfl
      | cons second others =>
          have some_line : 0 < (lines (second :: others)).length :=
            List.length_pos_iff.mpr (mt lines_eq_nil_iff.mp (List.cons_ne_nil second others))
          rw [unfinished_cons_cons, ← induction]
          omega

/-- Texts one below the other take a line each and one more for every break inside them. -/
theorem length_lines_terminated {texts : List (List Char)}
    (no_return : ∀ text ∈ texts, text.getLast? ≠ some '\r') :
    (lines (terminated texts)).length = texts.length + (texts.map breaks).sum := by
  have counted : breaks (terminated texts) = texts.length + (texts.map breaks).sum := by
    induction texts with
    | nil => rfl
    | cons first others induction =>
        obtain ⟨first_without, others_without⟩ := List.forall_mem_cons.mp no_return
        have apart : first.getLast? = some '\r' →
            ('\n' :: terminated others).head? ≠ some '\n' :=
          fun returned => absurd returned first_without
        have split : terminated (first :: others) = first ++ '\n' :: terminated others := by
          simp [terminated]
        rw [split, breaks_append apart, breaks_feed, induction others_without, List.length_cons,
          List.map_cons, List.sum_cons]
        omega
  have finished : unfinished (terminated texts) = 0 := by
    rcases List.eq_nil_or_concat texts with rfl | ⟨front, last, rfl⟩
    · rfl
    · have feed : '\n' ∈ lineBreak := by decide
      simp [terminated, unfinished, feed]
  rw [length_lines, counted, finished, Nat.add_zero]

end WalkFilter.Text
