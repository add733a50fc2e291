import WalkFilter.Proofs.CodeText
import WalkFilter.Proofs.Node.Written
import WalkFilter.Proofs.Text.Breaks
import WalkFilter.Proofs.Text.Newlines
import WalkFilter.Report.Tabular

/-!
# Rows of tables

A table is drawn on a line for its header, one for each row and three for the bars, unless a cell
holds a line break: it is written as it is, and what stands behind it is a line of its own. Nothing
else is needed of what draws the tables of a report.
-/

namespace WalkFilter

/-- The number of line breaks in the texts of a list. -/
def totalBreaks (texts : List (List CodePoint)) : Nat :=
  (texts.map fun text => Text.breaks (text.map CodePoint.shown)).sum

/-- No text of the list has a line break in it. -/
def AllUnbroken (texts : List (List CodePoint)) : Prop :=
  ∀ text ∈ texts, Text.Unbroken (text.map CodePoint.shown)

theorem totalBreaks_eq_zero_iff {texts : List (List CodePoint)} :
    totalBreaks texts = 0 ↔ AllUnbroken texts := by
  have counted := @Text.sum_breaks_eq_zero_iff (texts.map (·.map CodePoint.shown))
  rwa [List.map_map, List.forall_mem_map] at counted

theorem totalBreaks_cons (first : List CodePoint) (rest : List (List CodePoint)) :
    totalBreaks (first :: rest) = Text.breaks (first.map CodePoint.shown) + totalBreaks rest := by
  simp [totalBreaks]

theorem totalBreaks_append (left right : List (List CodePoint)) :
    totalBreaks (left ++ right) = totalBreaks left + totalBreaks right := by
  simp [totalBreaks]

/-- Lines one below the other, each with a line feed behind it. -/
def terminated (lines : List (List CodePoint)) : List CodePoint :=
  lines.flatMap (· ++ codePoints "\n")

theorem map_shown_terminated (lines : List (List CodePoint)) :
    (terminated lines).map CodePoint.shown =
      Text.terminated (lines.map (·.map CodePoint.shown)) := by
  simp [terminated, Text.terminated, List.flatMap_map, List.map_flatMap]

theorem terminated_append (front back : List (List CodePoint)) :
    terminated (front ++ back) = terminated front ++ terminated back :=
  List.flatMap_append

theorem terminated_map_codePoints (lines : List String) :
    terminated (lines.map codePoints) = codePoints (String.join (lines.map (· ++ "\n"))) := by
  induction lines with
  | nil => rfl
  | cons first rest induction =>
      rw [List.map_cons, List.map_cons, String.join_cons, codePoints_append, codePoints_append,
        ← induction]
      rfl

theorem whole_terminated {lines : List (List CodePoint)} :
    CodePoint.Whole (terminated lines) ↔ ∀ line ∈ lines, CodePoint.Whole line := by
  induction lines with
  | nil => simp [terminated, CodePoint.Whole]
  | cons first rest induction =>
      rw [List.forall_mem_cons, ← induction, terminated, List.flatMap_cons, CodePoint.whole_append,
        CodePoint.whole_append, and_iff_left (CodePoint.whole_codePoints _)]
      rfl

theorem intercalate_append_feed {lines : List (List CodePoint)} (nonempty : lines ≠ []) :
    (codePoints "\n").intercalate lines ++ codePoints "\n" = terminated lines := by
  induction lines with
  | nil => exact absurd rfl nonempty
  | cons first rest induction =>
      cases rest with
      | nil => simp [terminated]
      | cons second others =>
          rw [List.intercalate_cons_cons, List.append_assoc, List.append_assoc,
            induction (List.cons_ne_nil second others)]
          simp [terminated]

namespace Table

/-! ## Cells -/

theorem head?_expandTabsFrom (column : Nat) (text : List CodePoint) :
    ((expandTabsFrom column text).map CodePoint.shown).head? = some '\n' ↔
      (text.map CodePoint.shown).head? = some '\n' := by
  cases text with
  | nil => rfl
  | cons point rest =>
      rw [expandTabsFrom]
      split
      · rename_i tab
        obtain ⟨fewer, width_eq⟩ : ∃ fewer, tabStop - column % tabStop = fewer + 1 :=
          ⟨tabStop - column % tabStop - 1, by simp only [tabStop]; omega⟩
        subst tab
        simp [width_eq, List.replicate_succ]
      · split <;> simp

theorem breaks_blanks_append (count : Nat) (rest : List Char) :
    Text.breaks (List.replicate count ' ' ++ rest) = Text.breaks rest := by
  induction count with
  | zero => rfl
  | succ count induction =>
      have blank : ' ' ∉ Text.lineBreak := by decide
      rw [List.replicate_succ, List.cons_append, Text.breaks_cons_of_not_mem blank, induction]

/-- Expanding tabs keeps the line breaks of a cell. -/
theorem breaks_expandTabsFrom (column : Nat) (text : List CodePoint) :
    Text.breaks ((expandTabsFrom column text).map CodePoint.shown) =
      Text.breaks (text.map CodePoint.shown) := by
  induction text generalizing column with
  | nil => rfl
  | cons point rest induction =>
      have kept (column : Nat) :
          Text.breaks ((point :: expandTabsFrom column rest).map CodePoint.shown) =
            Text.breaks ((point :: rest).map CodePoint.shown) := by
        simp only [List.map_cons, Text.breaks_cons_eq, head?_expandTabsFrom, induction]
      rw [expandTabsFrom]
      split
      · rename_i tab
        have not_break : '\t' ∉ Text.lineBreak := by decide
        subst tab
        rw [List.map_append, List.map_replicate, CodePoint.shown_ofChar, breaks_blanks_append,
          induction, List.map_cons, CodePoint.shown_ofChar, Text.breaks_cons_of_not_mem not_break]
      · split <;> exact kept _

theorem whole_replicate (count : Nat) (char : Char) :
    CodePoint.Whole (List.replicate count (.ofChar char)) := by
  intro point member
  rw [List.eq_of_mem_replicate member]
  exact CodePoint.isHalf_ofChar char

/-- Expanding tabs neither adds nor removes halves of pairs. -/
theorem whole_expandTabsFrom (column : Nat) (text : List CodePoint) :
    CodePoint.Whole (expandTabsFrom column text) ↔ CodePoint.Whole text := by
  induction text generalizing column with
  | nil => rfl
  | cons point rest induction =>
      have kept (column : Nat) : CodePoint.Whole (point :: expandTabsFrom column rest) ↔
          CodePoint.Whole (point :: rest) := by
        simp only [CodePoint.Whole, List.forall_mem_cons]
        exact and_congr_right fun _ => induction column
      rw [expandTabsFrom]
      split
      · rename_i tab
        rw [CodePoint.whole_append, induction, and_iff_right (whole_replicate _ ' '), tab]
        simp [CodePoint.Whole, CodePoint.isHalf_ofChar]
      · split <;> exact kept _

/-! ## Rows -/

/-- A number of blanks. -/
def blanks (count : Nat) : List CodePoint := List.replicate count (.ofChar ' ')

@[simp]
theorem whole_blanks (count : Nat) : CodePoint.Whole (blanks count) := whole_replicate count ' '

/-- The line shows the texts between bars, each as it is but for blanks around it. -/
inductive ShowsTexts : List (List CodePoint) → List CodePoint → Prop where
  | bar : ShowsTexts [] (codePoints "|")
  | cell {text : List CodePoint} {texts : List (List CodePoint)} {line : List CodePoint}
    (left right : Nat) (behind : ShowsTexts texts line) :
    ShowsTexts (text :: texts)
      (codePoints "| " ++ (blanks left ++ (text ++ (blanks right ++ (codePoints " " ++ line)))))

/-- The line shows the cells of a row with their tabs expanded. -/
def Shows (cells : List (List CodePoint)) (line : List CodePoint) : Prop :=
  ShowsTexts (cells.map expandTabs) line

theorem ShowsTexts.breaks_eq {texts : List (List CodePoint)} {line : List CodePoint}
    (shows_texts : ShowsTexts texts line) :
    Text.breaks (line.map CodePoint.shown) = totalBreaks texts := by
  have bar : '|' ∉ Text.lineBreak := by decide
  have blank : ' ' ∉ Text.lineBreak := by decide
  induction shows_texts with
  | bar => rfl
  | @cell text texts line left right behind induction =>
      have apart : (text.map CodePoint.shown).getLast? = some '\r' →
          (List.replicate right ' ' ++ ' ' :: line.map CodePoint.shown).head? ≠ some '\n' := by
        intro _
        cases right <;> simp [List.replicate_succ]
      have shown_eq :
          (codePoints "| " ++ (blanks left ++ (text ++ (blanks right ++
            (codePoints " " ++ line))))).map CodePoint.shown =
              '|' :: ' ' :: (List.replicate left ' ' ++ (text.map CodePoint.shown ++
                (List.replicate right ' ' ++ ' ' :: line.map CodePoint.shown))) := by
        simp [blanks]
      rw [shown_eq, Text.breaks_cons_of_not_mem bar, Text.breaks_cons_of_not_mem blank,
        breaks_blanks_append, Text.breaks_append apart, breaks_blanks_append,
        Text.breaks_cons_of_not_mem blank, induction, totalBreaks_cons]

theorem ShowsTexts.getLast?_eq {texts : List (List CodePoint)} {line : List CodePoint}
    (shows_texts : ShowsTexts texts line) : (line.map CodePoint.shown).getLast? = some '|' := by
  induction shows_texts with
  | bar => rfl
  | cell left right behind induction =>
      simp only [List.map_append, List.getLast?_append, induction, Option.some_or]

theorem Shows.breaks_eq {cells : List (List CodePoint)} {line : List CodePoint}
    (shows_cells : Shows cells line) :
    Text.breaks (line.map CodePoint.shown) = totalBreaks cells := by
  rw [ShowsTexts.breaks_eq shows_cells, totalBreaks, totalBreaks, List.map_map]
  exact congrArg List.sum (List.map_congr_left fun cell _ => breaks_expandTabsFrom 0 cell)

theorem ShowsTexts.whole_iff {texts : List (List CodePoint)} {line : List CodePoint}
    (shows_texts : ShowsTexts texts line) :
    CodePoint.Whole line ↔ ∀ text ∈ texts, CodePoint.Whole text := by
  induction shows_texts with
  | bar => simp
  | cell left right behind induction => simp [induction]

theorem Shows.whole_iff {cells : List (List CodePoint)} {line : List CodePoint}
    (shows_cells : Shows cells line) :
    CodePoint.Whole line ↔ ∀ cell ∈ cells, CodePoint.Whole cell := by
  rw [ShowsTexts.whole_iff shows_cells, List.forall_mem_map]
  simp only [expandTabs, whole_expandTabsFrom]

theorem totalBreaks_of_shows {rows : List (List (List CodePoint))} {shown : List (List CodePoint)}
    (rows_shown : List.Forall₂ Shows rows shown) :
    totalBreaks shown = totalBreaks rows.flatten := by
  induction rows_shown with
  | nil => rfl
  | cons first _ induction =>
      rw [totalBreaks_cons, first.breaks_eq, induction, List.flatten_cons, totalBreaks_append]

theorem whole_iff_of_shows {rows : List (List (List CodePoint))} {shown : List (List CodePoint)}
    (rows_shown : List.Forall₂ Shows rows shown) :
    (∀ line ∈ shown, CodePoint.Whole line) ↔
      ∀ cells ∈ rows, ∀ cell ∈ cells, CodePoint.Whole cell := by
  induction rows_shown with
  | nil => simp
  | cons first _ induction =>
      rw [List.forall_mem_cons, List.forall_mem_cons, first.whole_iff, induction]

theorem exists_pad_eq (column : Column) (cell : List CodePoint) :
    ∃ left right, pad column cell = blanks left ++ (cell ++ blanks right) := by
  rw [pad]
  split
  · exact ⟨column.width - width cell, 0, by simp [fill, blanks]⟩
  · exact ⟨0, column.width - width cell, by simp [fill, blanks]⟩

theorem showsTexts_row {columns : List Column} {cells : List (List CodePoint)}
    (same : columns.length = cells.length) : ShowsTexts cells (row columns cells) := by
  induction columns generalizing cells with
  | nil =>
      obtain rfl := List.length_eq_zero_iff.mp same.symm
      exact .bar
  | cons column columns induction =>
      cases cells with
      | nil => cases same
      | cons cell cells =>
          obtain ⟨left, right, pad_eq⟩ := exists_pad_eq column cell
          have behind := induction (Nat.succ.inj same)
          simpa only [row, pad_eq, List.append_assoc] using
            @ShowsTexts.cell cell cells _ left right behind

/-! ## Tables -/

/-- The lines show a header and rows, with bars of one length around the header and below the
rows. -/
inductive IsDrawn (header : List (List CodePoint)) (rows : List (List (List CodePoint))) :
    List (List CodePoint) → Prop where
  | intro {dashes : Nat} {heading : List CodePoint} {shown : List (List CodePoint)}
    (some_dash : 0 < dashes) (header_shown : Shows header heading)
    (rows_shown : List.Forall₂ Shows rows shown) :
    IsDrawn header rows (List.replicate dashes (.ofChar '-') :: heading ::
      List.replicate dashes (.ofChar '-') :: (shown ++ [List.replicate dashes (.ofChar '-')]))

theorem exists_bar_eq (columns : List Column) :
    ∃ dashes, 0 < dashes ∧ bar columns = List.replicate dashes (.ofChar '-') := by
  refine ⟨_, ?_, rfl⟩
  suffices grows : ∀ total, 0 < total →
      0 < columns.foldl (fun total column => total + column.width + 3) total from
    grows 1 Nat.one_pos
  induction columns with
  | nil => exact fun total positive => positive
  | cons column columns induction => exact fun total _ => induction _ (Nat.succ_pos _)

theorem shows_row {columns : List Column} {cells : List (List CodePoint)}
    (same : columns.length = cells.length) :
    Shows cells (row columns (cells.map expandTabs)) :=
  showsTexts_row (by rw [same, List.length_map])

/-- A table whose rows have as many cells as its header is drawn on such lines. -/
theorem isDrawn_drawLines {header : List (List CodePoint)} {rows : List (List (List CodePoint))}
    (same : ∀ cells ∈ rows, cells.length = header.length) :
    IsDrawn header rows (drawLines header rows) := by
  set columns := (header.map expandTabs).zipIdx.map fun entry => Column.ofCells entry.1
    ((rows.map (·.map expandTabs)).map fun cells => cells.getD entry.2 []) with columns_eq
  have columns_length : columns.length = header.length := by simp [columns_eq]
  obtain ⟨dashes, some_dash, bar_eq⟩ := exists_bar_eq columns
  have rows_shown : List.Forall₂ Shows rows
      (rows.map fun cells => row columns (cells.map expandTabs)) := by
    rw [List.forall₂_map_right_iff, List.forall₂_same]
    exact fun cells member => shows_row (by rw [columns_length, same cells member])
  have drawn := IsDrawn.intro some_dash (shows_row columns_length) rows_shown
  rw [← bar_eq] at drawn
  simpa [drawLines, columns_eq, List.map_map, Function.comp_def] using drawn

namespace IsDrawn

variable {header : List (List CodePoint)} {rows : List (List (List CodePoint))}
  {table : List (List CodePoint)}

theorem ne_nil (drawn : IsDrawn header rows table) : table ≠ [] := by
  cases drawn
  exact List.cons_ne_nil _ _

theorem length_eq (drawn : IsDrawn header rows table) : table.length = rows.length + 4 := by
  obtain ⟨-, -, rows_shown⟩ := drawn
  simp [rows_shown.length_eq]

theorem breaks_eq (drawn : IsDrawn header rows table) :
    totalBreaks table = totalBreaks (header ++ rows.flatten) := by
  obtain ⟨-, header_shown, rows_shown⟩ := drawn
  have bar_breaks (dashes : Nat) :
      Text.breaks ((List.replicate dashes (CodePoint.ofChar '-')).map CodePoint.shown) = 0 := by
    refine Text.breaks_eq_zero_iff.mpr fun char member => ?_
    rw [List.map_replicate, CodePoint.shown_ofChar] at member
    rw [List.eq_of_mem_replicate member]
    decide
  simp only [totalBreaks_cons, totalBreaks_append, bar_breaks, header_shown.breaks_eq,
    totalBreaks_of_shows rows_shown, Nat.zero_add]
  rfl

theorem getLast?_ne (drawn : IsDrawn header rows table) :
    ∀ line ∈ table, (line.map CodePoint.shown).getLast? ≠ some '\r' := by
  have behind_bar {cells : List (List CodePoint)} {line : List CodePoint}
      (shows_cells : Shows cells line) : (line.map CodePoint.shown).getLast? ≠ some '\r' := by
    rw [ShowsTexts.getLast?_eq shows_cells]
    decide
  cases drawn with
  | @intro dashes heading shown some_dash header_shown rows_shown =>
      have bar_last :
          ((List.replicate dashes (CodePoint.ofChar '-')).map CodePoint.shown).getLast? ≠
            some '\r' := by
        intro last
        rw [List.map_replicate, CodePoint.shown_ofChar] at last
        exact absurd (List.eq_of_mem_replicate (List.mem_of_getLast? last)) (by decide)
      have shown_last : ∀ line ∈ shown, (line.map CodePoint.shown).getLast? ≠ some '\r' := by
        intro line member
        obtain ⟨cells, shows_cells⟩ := exists_of_mem_of_forall₂ rows_shown.flip member
        exact behind_bar shows_cells
      simp only [List.forall_mem_cons, List.forall_mem_append]
      exact ⟨bar_last, behind_bar header_shown, bar_last, shown_last, bar_last,
        List.forall_mem_nil _⟩

/-- A table holds no half of a pair exactly if no cell does. -/
theorem whole_iff (drawn : IsDrawn header rows table) :
    (∀ line ∈ table, CodePoint.Whole line) ↔
      (∀ cell ∈ header, CodePoint.Whole cell) ∧
        ∀ cells ∈ rows, ∀ cell ∈ cells, CodePoint.Whole cell := by
  cases drawn with
  | intro some_dash header_shown rows_shown =>
      simp only [List.forall_mem_cons, List.forall_mem_append, whole_replicate, true_and,
        header_shown.whole_iff, whole_iff_of_shows rows_shown]
      simp

/-- A table and texts below it take a line for each row, four for the header and the bars, and one
more for each break in a cell. -/
theorem length_lines (drawn : IsDrawn header rows table) {below : List (List CodePoint)}
    (below_unbroken : AllUnbroken below) :
    (Text.lines ((terminated (table ++ below)).map CodePoint.shown)).length =
      rows.length + 4 + below.length + totalBreaks (header ++ rows.flatten) := by
  have below_last : ∀ text ∈ below, (text.map CodePoint.shown).getLast? ≠ some '\r' :=
    fun text member last =>
      below_unbroken text member _ (List.mem_of_getLast? last) (by decide)
  have no_return : ∀ text ∈ (table ++ below).map (·.map CodePoint.shown),
      text.getLast? ≠ some '\r' :=
    List.forall_mem_map.mpr (List.forall_mem_append.mpr ⟨drawn.getLast?_ne, below_last⟩)
  have breaks_eq : (((table ++ below).map (·.map CodePoint.shown)).map Text.breaks).sum =
      totalBreaks (header ++ rows.flatten) := by
    have counted := totalBreaks_append table below
    rw [drawn.breaks_eq, totalBreaks_eq_zero_iff.mpr below_unbroken, Nat.add_zero] at counted
    rw [← counted, totalBreaks, List.map_map]
    rfl
  rw [map_shown_terminated, Text.length_lines_terminated no_return, breaks_eq, List.length_map,
    List.length_append, drawn.length_eq]

theorem unbroken (drawn : IsDrawn header rows table)
    (cells_unbroken : AllUnbroken (header ++ rows.flatten)) : AllUnbroken table := by
  rw [← totalBreaks_eq_zero_iff, drawn.breaks_eq, totalBreaks_eq_zero_iff]
  exact cells_unbroken

/-- The lines are those of the table and the texts below it unless a cell is broken. -/
theorem lines_eq_iff (drawn : IsDrawn header rows table) {below : List (List CodePoint)}
    (below_unbroken : AllUnbroken below) :
    (∃ other, IsDrawn header rows other ∧
      Text.lines ((terminated (table ++ below)).map CodePoint.shown) =
        (other ++ below).map (·.map CodePoint.shown)) ↔ AllUnbroken (header ++ rows.flatten) := by
  constructor
  · rintro ⟨other, other_drawn, lines_eq⟩
    have length_eq := drawn.length_lines below_unbroken
    rw [lines_eq, List.length_map, List.length_append, other_drawn.length_eq] at length_eq
    exact totalBreaks_eq_zero_iff.mp (by omega)
  · intro cells_unbroken
    refine ⟨table, drawn, ?_⟩
    rw [map_shown_terminated]
    exact Text.lines_terminated (List.forall_mem_map.mpr
      (List.forall_mem_append.mpr ⟨drawn.unbroken cells_unbroken, below_unbroken⟩))

end IsDrawn

end Table

namespace Report

/-- The last line of a text report. -/
def summaryLine (nodes results : Nat) : String :=
  toString nodes ++ (if nodes = 1 then " node" else " nodes") ++ " evaluated, " ++
    toString results ++ " included"

/-- What a report needs of a drawing: a table has one line for each row between its bars, and a
number of nodes is written as a numeral and a word. -/
structure Drawing.IsFaithful (drawing : Drawing) : Prop where
  /-- Rows with as many cells as the header are drawn, and the lines are joined by line feeds. -/
  table : ∀ (header : List (List CodePoint)) (rows : List (List (List CodePoint))),
    (∀ cells ∈ rows, cells.length = header.length) → ∃ lines, Table.IsDrawn header rows lines ∧
      drawing.table header rows = (codePoints "\n").intercalate lines
  /-- One node is told from several. -/
  countNodes : ∀ count, drawing.countNodes count =
    toString count ++ if count = 1 then " node" else " nodes"

/-- Tables between dashes and bars are drawn so. -/
theorem Drawing.isFaithful_barred : barred.IsFaithful where
  table _ _ same := ⟨_, Table.isDrawn_drawLines same, rfl⟩
  countNodes _ := rfl

namespace Drawing.IsFaithful

variable {drawing : Drawing} (faithful : drawing.IsFaithful)

include faithful

theorem summary_eq (evaluations : List Evaluation) :
    drawing.summary evaluations = summaryLine evaluations.length (included evaluations) := by
  rw [summary, faithful.countNodes, summaryLine]

/-- A table in front of other lines is its lines. -/
theorem exists_table_append {header : List (List CodePoint)} {rows : List (List (List CodePoint))}
    (same : ∀ cells ∈ rows, cells.length = header.length) :
    ∃ table, Table.IsDrawn header rows table ∧
      drawing.table header rows ++ codePoints "\n" = terminated table := by
  obtain ⟨lines, drawn, table_eq⟩ := faithful.table header rows same
  exact ⟨lines, drawn, by rw [table_eq, intercalate_append_feed drawn.ne_nil]⟩

/-- The report on a filter is the lines of a table. -/
theorem exists_filterText_eq (group : Group) :
    ∃ table, Table.IsDrawn filterHeader (filterRows group) table ∧
      drawing.filterText group = terminated table :=
  faithful.exists_table_append (by simp [filterRows, filterHeader])

/-- The report on evaluations is the lines of a table and the summary. -/
theorem exists_evaluationsText_eq {evaluations : List Evaluation} (nonempty : evaluations ≠ []) :
    ∃ table, Table.IsDrawn evaluationHeader (evaluations.map evaluationRow) table ∧
      drawing.evaluationsText evaluations = terminated (table ++
        [codePoints (summaryLine evaluations.length (included evaluations))]) := by
  have same : ∀ cells ∈ evaluations.map evaluationRow, cells.length = evaluationHeader.length :=
    List.forall_mem_map.mpr fun _ _ => rfl
  obtain ⟨table, drawn, table_eq⟩ := faithful.exists_table_append same
  refine ⟨table, drawn, ?_⟩
  rw [evaluationsText, if_neg (mt List.isEmpty_iff.mp nonempty), table_eq,
    faithful.summary_eq, terminated_append]
  simp [terminated]

end Drawing.IsFaithful

end Report

end WalkFilter
