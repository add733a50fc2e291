import WalkFilter.Proofs.Text.Lines

/-!
# Newline conventions

The lines of a file end in one of three ways, and the last line may lack its end. However they end,
the file is cut into the same lines: only an empty last line that lacks its end is not seen.
-/

namespace WalkFilter.Text

/-- A way to end the lines of a file. -/
inductive Newline where
  /-- A line feed. -/
  | lineFeed
  /-- A carriage return and a line feed. -/
  | both
  /-- A carriage return. -/
  | carriageReturn
deriving DecidableEq, Repr

namespace Newline

/-- The characters that end a line. -/
def text : Newline → List Char
  | lineFeed => ['\n']
  | both => ['\r', '\n']
  | carriageReturn => ['\r']

/-- Lines that all end. -/
def ended (newline : Newline) (texts : List (List Char)) : List Char :=
  texts.flatMap (· ++ newline.text)

/-- The text of a file with these lines; the last one ends as well if the file is closed. -/
def write (newline : Newline) (closed : Bool) (texts : List (List Char)) : List Char :=
  if closed then newline.ended texts else newline.text.intercalate texts

theorem intercalate_concat (newline : Newline) (texts : List (List Char)) (last : List Char) :
    newline.text.intercalate (texts ++ [last]) = newline.ended texts ++ last := by
  induction texts with
  | nil => simp [ended]
  | cons first others induction =>
      obtain ⟨second, rest, others_eq⟩ := List.exists_cons_of_ne_nil
        (List.append_ne_nil_of_right_ne_nil others (List.cons_ne_nil last []))
      rw [List.cons_append, others_eq, List.intercalate_cons_cons, ← others_eq, induction]
      simp [ended]

end Newline

/-- A newline is read as a line feed. After a lone carriage return no line feed may follow, which
would belong to it. -/
theorem unifyNewlines_newline {newline : Newline} {rest : List Char}
    (apart : newline = .carriageReturn → '\n' ∉ rest) :
    unifyNewlines (newline.text ++ rest) = '\n' :: unifyNewlines rest := by
  cases newline with
  | lineFeed => rfl
  | both => rfl
  | carriageReturn =>
      refine unifyNewlines.eq_3 _ _ fun others _ same => apart rfl ?_
      obtain rfl : rest = '\n' :: others := same
      exact List.mem_cons_self

section

variable {texts : List (List Char)} {last : List Char}

theorem feed_not_mem_ended (unbroken : ∀ text ∈ texts, ∀ char ∈ text, char ∉ lineBreak) :
    '\n' ∉ Newline.carriageReturn.ended texts := by
  intro member
  obtain ⟨text, inside, found⟩ := List.mem_flatMap.mp member
  rcases List.mem_append.mp found with in_text | in_newline
  · exact unbroken text inside _ in_text (by decide)
  · cases List.mem_singleton.mp in_newline

/-- With newlines unified, it makes no difference how lines end. -/
theorem unifyNewlines_ended (newline : Newline)
    (unbroken : ∀ text ∈ texts, ∀ char ∈ text, char ∉ lineBreak)
    (last_unbroken : ∀ char ∈ last, char ∉ lineBreak) :
    unifyNewlines (newline.ended texts ++ last) = terminated texts ++ last := by
  have no_return {text : List Char} (unbroken : ∀ char ∈ text, char ∉ lineBreak) :
      '\r' ∉ text := fun member => unbroken _ member (by decide)
  induction texts with
  | nil => exact unifyNewlines_eq_self (no_return last_unbroken)
  | cons first others induction =>
      obtain ⟨first_unbroken, others_unbroken⟩ := List.forall_mem_cons.mp unbroken
      have apart : newline = .carriageReturn → '\n' ∉ newline.ended others ++ last := by
        rintro rfl
        rw [List.mem_append, not_or]
        exact ⟨feed_not_mem_ended others_unbroken, fun member => last_unbroken _ member (by decide)⟩
      calc unifyNewlines (newline.ended (first :: others) ++ last)
          = unifyNewlines (first ++ (newline.text ++ (newline.ended others ++ last))) := by
            simp [Newline.ended]
        _ = first ++ '\n' :: (terminated others ++ last) := by
            rw [unifyNewlines_append (no_return first_unbroken), unifyNewlines_newline apart,
              induction others_unbroken]
        _ = terminated (first :: others) ++ last := by simp [terminated]

/-- A file has the lines that were written, however they end. If the last one is empty and does not
end, it is not seen. -/
theorem lines_write (newline : Newline) (closed : Bool)
    (unbroken : ∀ text ∈ texts, ∀ char ∈ text, char ∉ lineBreak) :
    lines (unifyNewlines (newline.write closed texts)) = texts ∨
      lines (unifyNewlines (newline.write closed texts)) ++ [[]] = texts := by
  cases closed with
  | true =>
      have unified := unifyNewlines_ended newline unbroken (List.forall_mem_nil _)
      rw [List.append_nil, List.append_nil] at unified
      rw [Newline.write, if_pos rfl, unified]
      exact .inl (lines_terminated unbroken)
  | false =>
      rw [Newline.write, if_neg Bool.false_ne_true]
      rcases List.eq_nil_or_concat texts with rfl | ⟨front, last, rfl⟩
      · exact .inl rfl
      · rw [List.concat_eq_append] at unbroken ⊢
        obtain ⟨front_unbroken, last_unbroken⟩ := List.forall_mem_append.mp unbroken
        have last_unbroken := List.forall_mem_singleton.mp last_unbroken
        rw [Newline.intercalate_concat, unifyNewlines_ended newline front_unbroken last_unbroken,
          lines_terminated_append front_unbroken]
        cases last with
        | nil => exact .inr (by rw [lines, List.append_nil])
        | cons first rest =>
            exact .inl (by rw [lines_eq_singleton (List.cons_ne_nil first rest) last_unbroken])

end

end WalkFilter.Text
