import WalkFilter.Text.Split

/-!
# Splitting at a separator

The pieces of a text are those of the library's `List.splitOn`, so joining them with the separator
gives the text back.
-/

namespace WalkFilter.Text

theorem extendFirst_eq_modifyHead (char : Char) {pieces : List (List Char)}
    (nonempty : pieces ≠ []) : extendFirst char pieces = pieces.modifyHead (char :: ·) := by
  cases pieces with
  | nil => exact absurd rfl nonempty
  | cons first rest => rfl

theorem splitAt_eq_splitOn (separator : Char) (text : List Char) :
    splitAt separator text = text.splitOn separator := by
  induction text with
  | nil => rfl
  | cons char rest induction =>
      rw [splitAt, List.splitOn_cons_eq_if_modifyHead]
      by_cases same : char = separator
      · simp [same, induction]
      · rw [if_neg same, if_neg (by simpa using same), induction]
        exact extendFirst_eq_modifyHead char (List.splitOn_ne_nil separator rest)

/-- A separator between two texts does not come into any piece. -/
theorem splitOn_append_cons (separator : Char) (left right : List Char) :
    (left ++ separator :: right).splitOn separator =
      left.splitOn separator ++ right.splitOn separator :=
  List.splitOnP_append_cons left right (beq_self_eq_true separator)

theorem not_mem_of_mem_splitOn {separator : Char} {text piece : List Char}
    (member : piece ∈ text.splitOn separator) : separator ∉ piece := by
  induction text generalizing piece with
  | nil =>
      obtain rfl := List.mem_singleton.mp member
      exact List.not_mem_nil
  | cons char rest induction =>
      rw [List.splitOn_cons_eq_if_modifyHead] at member
      split at member
      · rcases List.mem_cons.mp member with rfl | member
        · exact List.not_mem_nil
        · exact induction member
      · rename_i other
        -- The character only goes in front of the first piece of the rest.
        cases pieces : rest.splitOn separator with
        | nil => exact absurd pieces (List.splitOn_ne_nil separator rest)
        | cons first others =>
            rw [pieces] at member induction
            rcases List.mem_cons.mp member with rfl | member
            · rw [List.mem_cons, not_or]
              exact ⟨fun same => other (by simp [same]), induction List.mem_cons_self⟩
            · exact induction (List.mem_cons_of_mem _ member)

theorem pieces_eq_splitOn (separator : Char) (text : String) :
    pieces separator text = (text.toList.splitOn separator).map String.ofList := by
  rw [pieces, splitAt_eq_splitOn]

end WalkFilter.Text
