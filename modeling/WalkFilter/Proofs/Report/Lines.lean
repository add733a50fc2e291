import WalkFilter.Filter.Builder
import WalkFilter.Proofs.Report.Rows

/-!
# One row for each node

A text report has a row for each node, and the report on a filter one for each operator and one for
the flag. Labels are written as they are, so this holds exactly as long as no label has a line break
in it: every break adds a line to the report.
-/

namespace WalkFilter.Report

/-! ## Cells -/

theorem breaks_of_isPlain {text : List Char} (plain : ∀ char ∈ text, Json.IsPlain char) :
    Text.breaks text = 0 :=
  Text.breaks_eq_zero_iff.mpr fun char member => (plain char member).not_lineBreak

theorem breaks_toString (value : Int) : Text.breaks (toString value).toList = 0 :=
  breaks_of_isPlain fun _ member => Json.isPlain_of_mem_toString member

theorem breaks_separated (labels : List (List CodePoint)) :
    Text.breaks (((codePoints ", ").intercalate labels).map CodePoint.shown) =
      totalBreaks labels := by
  induction labels with
  | nil => rfl
  | cons first rest induction =>
      cases rest with
      | nil => simp [totalBreaks]
      | cons second others =>
          have apart : (first.map CodePoint.shown).getLast? = some '\r' →
              (',' :: ' ' :: (((codePoints ", ").intercalate (second :: others)).map
                CodePoint.shown)).head? ≠ some '\n' :=
            fun _ => by simp
          have comma : ',' ∉ Text.lineBreak := by decide
          have blank : ' ' ∉ Text.lineBreak := by decide
          have separated :
              ((codePoints ", ").intercalate (first :: second :: others)).map CodePoint.shown =
                first.map CodePoint.shown ++ ',' :: ' ' ::
                  ((codePoints ", ").intercalate (second :: others)).map CodePoint.shown := by
            simp [List.intercalate_cons_cons]
          rw [separated, Text.breaks_append apart, Text.breaks_cons_of_not_mem comma,
            Text.breaks_cons_of_not_mem blank, induction, totalBreaks_cons first]

/-- Labels in one cell have the breaks of every label. -/
theorem breaks_joinLabels (labels : List (List CodePoint)) :
    Text.breaks ((joinLabels labels).map CodePoint.shown) = totalBreaks labels := by
  rw [joinLabels]
  split
  next empty =>
    rw [List.isEmpty_iff.mp empty]
    decide
  next => exact breaks_separated labels

theorem breaks_joinPatterns (patterns : Patterns) :
    Text.breaks ((joinPatterns patterns).map CodePoint.shown) =
      totalBreaks (patterns.toList.map codePoints) :=
  breaks_joinLabels (patterns.toList.map codePoints)

/-- The labels of an evaluated node. -/
def labelPoints (evaluation : Evaluation) : List (List CodePoint) :=
  evaluation.sample.labels.texts.toList.map (·.points)

theorem totalBreaks_evaluationRow (evaluation : Evaluation) :
    totalBreaks (evaluationRow evaluation) = totalBreaks (labelPoints evaluation) := by
  have below_word : Text.breaks
      (if evaluation.belowMinLevel then "yes" else "no").toList = 0 := by
    split <;> decide
  have result_word : Text.breaks
      (if evaluation.decision.includes then "include" else "exclude").toList = 0 := by
    split <;> decide
  have walk_word : Text.breaks
      (if evaluation.decision.continues then "continue" else "prune").toList = 0 := by
    split <;> decide
  simp only [evaluationRow, totalBreaks_cons, breaks_joinLabels, map_shown_codePoints,
    breaks_toString, below_word, result_word, walk_word]
  rfl

/-- The labels of all evaluated nodes. -/
def shownLabels (evaluations : List Evaluation) : List (List CodePoint) :=
  evaluations.flatMap labelPoints

theorem totalBreaks_evaluationRows (evaluations : List Evaluation) :
    totalBreaks (evaluations.map evaluationRow).flatten =
      totalBreaks (shownLabels evaluations) := by
  induction evaluations with
  | nil => rfl
  | cons first rest induction =>
      rw [List.map_cons, List.flatten_cons, totalBreaks_append, totalBreaks_evaluationRow,
        induction, shownLabels, shownLabels, List.flatMap_cons, totalBreaks_append]

/-- The patterns of all operators. -/
def shownPatterns (group : Group) : List (List CodePoint) :=
  (group.patterns.deny.toList ++ group.patterns.allow.toList ++ group.patterns.endNode.toList ++
    group.patterns.terminator.toList).map codePoints

theorem totalBreaks_named {name : String} {cell : List CodePoint} {labels : List (List CodePoint)}
    (word : Text.breaks name.toList = 0)
    (cell_breaks : Text.breaks (cell.map CodePoint.shown) = totalBreaks labels) :
    totalBreaks [codePoints name, cell] = totalBreaks labels := by
  rw [totalBreaks_cons, map_shown_codePoints, word, totalBreaks_cons, cell_breaks, Nat.zero_add]
  rfl

theorem totalBreaks_filterRows (group : Group) :
    totalBreaks (filterRows group).flatten = totalBreaks (shownPatterns group) := by
  have allow_cell : Text.breaks ((if group.patterns.allow.isEmpty then codePoints "(all labels)"
      else joinPatterns group.patterns.allow).map CodePoint.shown) =
        totalBreaks (group.patterns.allow.toList.map codePoints) := by
    split
    next empty =>
      have no_patterns : group.patterns.allow.toList = [] := List.isEmpty_iff.mp empty
      rw [no_patterns]
      decide
    next => exact breaks_joinPatterns _
  have flag_cell : Text.breaks
      ((codePoints (if group.endNodesOnly then "yes" else "no")).map CodePoint.shown) =
        totalBreaks [] := by
    rw [map_shown_codePoints]
    split <;> decide
  simp only [filterRows, List.flatten_cons, List.flatten_nil, List.append_nil, totalBreaks_append,
    shownPatterns, List.map_append, Nat.add_assoc]
  rw [totalBreaks_named (by decide) (breaks_joinPatterns group.patterns.deny),
    totalBreaks_named (by decide) allow_cell,
    totalBreaks_named (by decide) (breaks_joinPatterns group.patterns.endNode),
    totalBreaks_named (by decide) (breaks_joinPatterns group.patterns.terminator),
    totalBreaks_named (by decide) flag_cell]
  rfl

theorem unbroken_summaryLine (nodes results : Nat) :
    AllUnbroken [codePoints (summaryLine nodes results)] := by
  have number (count : Nat) : ∀ char ∈ (toString count).toList, Json.IsPlain char :=
    fun _ member => @Json.isPlain_of_mem_toString count _ member
  have word : ∀ char ∈ (if nodes = 1 then " node" else " nodes").toList, Json.IsPlain char := by
    split <;> exact Json.isPlain_of_all (by decide)
  refine List.forall_mem_singleton.mpr fun char member => Json.IsPlain.not_lineBreak ?_
  simp only [map_shown_codePoints, summaryLine, String.toList_append] at member
  revert char
  simp only [List.forall_mem_append]
  exact ⟨⟨⟨⟨number _, word⟩, Json.isPlain_of_all (by decide)⟩, number _⟩,
    Json.isPlain_of_all (by decide)⟩

/-! ## Encoding -/

theorem whole_joinLabels (labels : List (List CodePoint)) :
    CodePoint.Whole (joinLabels labels) ↔ ∀ label ∈ labels, CodePoint.Whole label := by
  induction labels with
  | nil => simp [joinLabels]
  | cons first rest induction =>
      cases rest with
      | nil => simp [joinLabels]
      | cons second others =>
          have separated : joinLabels (first :: second :: others) =
              first ++ codePoints ", " ++ joinLabels (second :: others) := by
            simp [joinLabels, List.intercalate_cons_cons]
          rw [separated, CodePoint.whole_append, CodePoint.whole_append, induction,
            List.forall_mem_cons (a := first), and_iff_left (CodePoint.whole_codePoints _)]

theorem whole_evaluationRow (evaluation : Evaluation) :
    (∀ cell ∈ evaluationRow evaluation, CodePoint.Whole cell) ↔
      ∀ label ∈ labelPoints evaluation, CodePoint.Whole label := by
  simp [evaluationRow, whole_joinLabels, labelPoints]

/-- A text report can be encoded exactly if no label holds half a character. -/
theorem whole_evaluationsText_iff {drawing : Drawing} (faithful : drawing.IsFaithful)
    (evaluations : List Evaluation) :
    CodePoint.Whole (drawing.evaluationsText evaluations) ↔
      ∀ label ∈ shownLabels evaluations, CodePoint.Whole label := by
  by_cases nonempty : evaluations = []
  · subst nonempty
    simp [Drawing.evaluationsText, shownLabels, CodePoint.Whole]
  · obtain ⟨table, drawn, text_eq⟩ := faithful.exists_evaluationsText_eq nonempty
    have header_whole : ∀ cell ∈ evaluationHeader, CodePoint.Whole cell :=
      List.forall_mem_map.mpr fun name _ => CodePoint.whole_codePoints name
    rw [text_eq, whole_terminated, List.forall_mem_append, drawn.whole_iff, List.forall_mem_map,
      and_iff_right header_whole]
    simp only [whole_evaluationRow, shownLabels, List.forall_mem_flatMap, List.forall_mem_singleton,
      CodePoint.whole_codePoints, and_true]

/-- The report on a filter can always be encoded. -/
theorem whole_filterText {drawing : Drawing} (faithful : drawing.IsFaithful) (group : Group) :
    CodePoint.Whole (drawing.filterText group) := by
  obtain ⟨table, drawn, text_eq⟩ := faithful.exists_filterText_eq group
  have patterns_whole (patterns : Patterns) : CodePoint.Whole (joinPatterns patterns) :=
    (whole_joinLabels _).mpr (List.forall_mem_map.mpr fun label _ => CodePoint.whole_codePoints label)
  rw [text_eq, whole_terminated, drawn.whole_iff]
  have allow_whole : CodePoint.Whole (if group.patterns.allow.isEmpty then codePoints "(all labels)"
      else joinPatterns group.patterns.allow) := by
    split
    · exact CodePoint.whole_codePoints _
    · exact patterns_whole _
  refine ⟨List.forall_mem_map.mpr fun name _ => CodePoint.whole_codePoints name, ?_⟩
  simp [filterRows, patterns_whole, allow_whole]

/-! ## Lines -/

theorem totalBreaks_evaluations (evaluations : List Evaluation) :
    totalBreaks (evaluationHeader ++ (evaluations.map evaluationRow).flatten) =
      totalBreaks (shownLabels evaluations) := by
  have no_break : totalBreaks evaluationHeader = 0 := by decide
  rw [totalBreaks_append, no_break, Nat.zero_add, totalBreaks_evaluationRows]

theorem totalBreaks_filter (group : Group) :
    totalBreaks (filterHeader ++ (filterRows group).flatten) =
      totalBreaks (shownPatterns group) := by
  have no_break : totalBreaks filterHeader = 0 := by decide
  rw [totalBreaks_append, no_break, Nat.zero_add, totalBreaks_filterRows]

theorem allUnbroken_nil : AllUnbroken [] := fun _ member => absurd member List.not_mem_nil

section

variable {drawing : Drawing}

theorem length_lines_evaluationsText (faithful : drawing.IsFaithful)
    {evaluations : List Evaluation} (nonempty : evaluations ≠ []) :
    (Text.lines ((drawing.evaluationsText evaluations).map CodePoint.shown)).length =
      evaluations.length + 5 + totalBreaks (shownLabels evaluations) := by
  obtain ⟨table, drawn, text_eq⟩ := faithful.exists_evaluationsText_eq nonempty
  rw [text_eq, drawn.length_lines (unbroken_summaryLine _ _), totalBreaks_evaluations,
    List.length_map]
  rfl

theorem length_lines_filterText (faithful : drawing.IsFaithful) (group : Group) :
    (Text.lines ((drawing.filterText group).map CodePoint.shown)).length =
      9 + totalBreaks (shownPatterns group) := by
  obtain ⟨table, drawn, text_eq⟩ := faithful.exists_filterText_eq group
  have length_eq := drawn.length_lines allUnbroken_nil
  rw [List.append_nil] at length_eq
  rw [text_eq, length_eq, totalBreaks_filter]
  rfl

/-- Whatever draws the tables, a text report has a line for each evaluation and five for the rest,
and the report on a filter has nine lines; each break in a label adds one. The lines are those of the
table and the summary exactly if no label has a break in it. The depths are those that have a decimal
text. -/
theorem lines_reports (faithful : drawing.IsFaithful) {evaluations : List Evaluation}
    (nonempty : evaluations ≠ [])
    (_few : ∀ evaluation ∈ evaluations, Json.HasFewDigits evaluation.sample.depth)
    (group : Group) :
    (Text.lines ((drawing.evaluationsText evaluations).map CodePoint.shown)).length =
        evaluations.length + 5 + totalBreaks (shownLabels evaluations) ∧
      ((∃ table, Table.IsDrawn
          (["Labels", "Depth", "Below min level", "Result", "Walk"].map codePoints)
          (evaluations.map evaluationRow) table ∧
          Text.lines ((drawing.evaluationsText evaluations).map CodePoint.shown) =
            (table ++ [codePoints (summaryLine evaluations.length (included evaluations))]).map
              (·.map CodePoint.shown)) ↔
        AllUnbroken (shownLabels evaluations)) ∧
      (Text.lines ((drawing.filterText group).map CodePoint.shown)).length =
        9 + totalBreaks (shownPatterns group) ∧
      ((∃ table, Table.IsDrawn (["Matcher", "Labels"].map codePoints) (filterRows group) table ∧
          Text.lines ((drawing.filterText group).map CodePoint.shown) =
            table.map (·.map CodePoint.shown)) ↔
        AllUnbroken (shownPatterns group)) := by
  refine ⟨length_lines_evaluationsText faithful nonempty, ?_,
    length_lines_filterText faithful group, ?_⟩
  · obtain ⟨table, drawn, text_eq⟩ := faithful.exists_evaluationsText_eq nonempty
    rw [← totalBreaks_eq_zero_iff, ← totalBreaks_evaluations, totalBreaks_eq_zero_iff, text_eq]
    exact drawn.lines_eq_iff (unbroken_summaryLine _ _)
  · obtain ⟨table, drawn, text_eq⟩ := faithful.exists_filterText_eq group
    have lines_iff := drawn.lines_eq_iff allUnbroken_nil
    simp only [List.append_nil] at lines_iff
    rw [← totalBreaks_eq_zero_iff, ← totalBreaks_filter, totalBreaks_eq_zero_iff, text_eq]
    exact lines_iff

end

/-- Tabs, style codes and bars in labels leave every row on its line. -/
theorem lines_reports_tabsStylesBars :
    let evaluations : List Evaluation := [⟨⟨.ofList ["\tA", "\x1B[1mB\x1B[0m"], 12⟩, false,
      .includeContinue⟩, ⟨⟨.ofList ["| forged |", "\x00"], -1⟩, true, .excludePrune⟩]
    let group := Group.ofFilter (some "-a\tb|@| c |+\x1B[1md")
    let lines := Text.lines ((Drawing.barred.evaluationsText evaluations).map CodePoint.shown)
    lines.length = 7 ∧ lines.getLast? = some "2 nodes evaluated, 1 included".toList ∧
      (Text.lines ((Drawing.barred.filterText group).map CodePoint.shown)).length = 9 := by
  intro evaluations group lines
  have labels_unbroken : totalBreaks (shownLabels evaluations) = 0 := by decide +kernel
  have patterns_unbroken : totalBreaks (shownPatterns group) = 0 := by decide +kernel
  have nonempty : evaluations ≠ [] := List.cons_ne_nil _ _
  have few : ∀ evaluation ∈ evaluations, Json.HasFewDigits evaluation.sample.depth := by
    decide +kernel
  obtain ⟨count, drawn, filter_count, -⟩ :=
    lines_reports Drawing.isFaithful_barred nonempty few group
  obtain ⟨table, -, lines_eq⟩ := drawn.mpr (totalBreaks_eq_zero_iff.mp labels_unbroken)
  refine ⟨?_, ?_, ?_⟩
  · simp only [lines, count, labels_unbroken]
    rfl
  · simp only [lines, lines_eq, List.map_append, List.map_singleton, List.getLast?_concat]
    decide +kernel
  · rw [filter_count, patterns_unbroken]

/-- A line feed in a label gives the report on one node seven lines, and one in a pattern gives the
report on a filter ten. -/
theorem not_rowPerNode_lineFeed :
    let evaluations : List Evaluation := [⟨⟨.ofList ["a\nb"], 0⟩, false, .includeContinue⟩]
    let group := Group.ofFilter (some "-a\nb")
    ¬(Text.lines ((Drawing.barred.evaluationsText evaluations).map CodePoint.shown)).length =
        evaluations.length + 5 ∧
      ¬(Text.lines ((Drawing.barred.filterText group).map CodePoint.shown)).length = 9 := by
  intro evaluations group
  have labels_broken : totalBreaks (shownLabels evaluations) = 1 := by decide +kernel
  have patterns_broken : totalBreaks (shownPatterns group) = 1 := by decide +kernel
  have nonempty : evaluations ≠ [] := List.cons_ne_nil _ _
  rw [length_lines_evaluationsText Drawing.isFaithful_barred nonempty,
    length_lines_filterText Drawing.isFaithful_barred, labels_broken, patterns_broken]
  exact ⟨by omega, by omega⟩

end WalkFilter.Report
