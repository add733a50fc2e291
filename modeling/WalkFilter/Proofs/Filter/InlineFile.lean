import WalkFilter.Proofs.Files.Content
import WalkFilter.Proofs.Filter.RawTokens
import WalkFilter.Proofs.Text.Blank
import WalkFilter.Proofs.Text.Lines

/-!
# Filter files as inline filters

A file of filters does what a single filter does: the one that joins the lines of the file by bars.
Conversely every filter without line breaks can be put into a file, between two bars that keep the
blanks and the comment sign at its ends from being read as such.
-/

namespace WalkFilter

namespace Raw

/-- The lines of a text without the blanks around them, but for blank lines and comments. -/
def filterLines (text : String) : List String :=
  let stripped := (Text.lines (Text.unifyNewlines text.toList)).map Text.strip
  (stripped.filter fun line => line ≠ [] ∧ line.head? ≠ some '#').map String.ofList

theorem filtersOfLines_linesOfText (text : String) :
    filtersOfLines (linesOfText text.toList) = filterLines text := by
  have strip_eq : (linesOfText text.toList).map (fun line => Text.strip line.toList) =
      (Text.lines (Text.unifyNewlines text.toList)).map Text.strip := by
    simp [linesOfText]
  rw [filtersOfLines, strip_eq, filterLines]
  generalize (Text.lines (Text.unifyNewlines text.toList)).map Text.strip = stripped
  induction stripped with
  | nil => simp
  | cons line rest induction =>
      rw [List.filterMap_cons, List.filter_cons, induction]
      by_cases skipped : line = [] ∨ line.head? = some '#'
      · rcases skipped with rfl | comment
        · simp
        · simp [comment]
      · obtain ⟨nonempty, no_comment⟩ := not_or.mp skipped
        simp [nonempty, no_comment]

/-- Bars around a filter add empty tokens only. -/
theorem sameTokens_between_bars (filter : String) :
    SameTokens (tokens (some ("|" ++ filter ++ "|"))) (tokens (some filter)) := by
  have empty : tokens (some "") = [""] := by simp [tokens]
  have bars_eq : "|" ++ filter ++ "|" = "" ++ "|" ++ filter ++ "|" ++ "" := by simp
  intro token nonempty
  rw [bars_eq, tokens_append_bar, tokens_append_bar, empty]
  simp [nonempty]

end Raw

namespace Builder

variable {files : Files} {path : Path} {text : String}

theorem loadFilters_utf8 (stored : files path = .file text.toUTF8.data.toList)
    (builder : Builder) :
    builder.loadFilters files [path] =
      ⟨builder.addTokens ((Raw.filterLines text).flatMap fun filter => Raw.tokens (some filter)),
        none⟩ := by
  have read : files.readFilters path = .ok (Raw.filterLines text) := by
    rw [Files.readFilters, Files.readLines_utf8 stored, ← Raw.filtersOfLines_linesOfText]
    rfl
  rw [loadFilters, read, ← addFilters_eq_addTokens]
  rfl

end Builder

/-- The only line of the text is this one, whatever ends it. -/
def HasOnlyLine (text line : String) : Prop :=
  ∃ lineEnd, Text.IsLineEnd lineEnd ∧ text.toList = line.toList ++ lineEnd

theorem HasOnlyLine.filterLines {text filter : String}
    (only : HasOnlyLine text ("|" ++ filter ++ "|"))
    (unbroken : ∀ char ∈ filter.toList, char ∉ Text.lineBreak) :
    Raw.filterLines text = ["|" ++ filter ++ "|"] := by
  obtain ⟨lineEnd, ends, text_eq⟩ := only
  have line_eq : ("|" ++ filter ++ "|").toList = '|' :: (filter.toList ++ ['|']) := by
    simp
  have line_unbroken : ∀ char ∈ '|' :: (filter.toList ++ ['|']), char ∉ Text.lineBreak := by
    have bar : '|' ∉ Text.lineBreak := by decide
    simp only [List.forall_mem_cons, List.forall_mem_append]
    exact ⟨bar, unbroken, bar, List.forall_mem_nil _⟩
  have lines_eq := Text.lines_unifyNewlines ends (List.cons_ne_nil _ _) line_unbroken
  have strip_eq := @Text.strip_eq_self '|' '|' (by decide) (by decide) filter.toList
  rw [Raw.filterLines, text_eq, line_eq, lines_eq, List.map_singleton, strip_eq,
    List.filter_cons_of_pos (by simp), List.filter_nil, List.map_singleton, ← line_eq,
    String.ofList_toList]

/-- A file of filters has the effect of the single filter that joins its lines by bars, and a file
with a single line between two bars has that of the filter between them. -/
theorem loadFilters_eq_addLabels {files : Files} {path : Path} {text : String}
    (stored : files path = .file text.toUTF8.data.toList) (builder : Builder) :
    builder.loadFilters files [path] =
        ⟨builder.addLabels (some ("|".intercalate (Raw.filterLines text))), none⟩ ∧
      ∀ filter : String, (∀ char ∈ filter.toList, char ∉ Text.lineBreak) →
        HasOnlyLine text ("|" ++ filter ++ "|") →
        builder.loadFilters files [path] = ⟨builder.addLabels (some filter), none⟩ := by
  have joined : builder.loadFilters files [path] =
      ⟨builder.addLabels (some ("|".intercalate (Raw.filterLines text))), none⟩ := by
    rw [Builder.loadFilters_utf8 stored, Builder.addLabels_eq_addTokens,
      Builder.addTokens_congr builder (Raw.sameTokens_intercalate _)]
  refine ⟨joined, fun filter unbroken only => ?_⟩
  rw [joined, only.filterLines unbroken, String.intercalate_singleton,
    Builder.addLabels_eq_addTokens, Builder.addLabels_eq_addTokens,
    Builder.addTokens_congr builder (Raw.sameTokens_between_bars filter)]

/-- A file with blanks, a blank line and a comment, and a file whose line is kept between bars. -/
theorem loadFilters_eq_addLabels_commentAndBars :
    let builder := Builder.ofFilter (some "/Country")
    let commented := "\t Person|- City \r\n\r\n # >Street\r\n>Town"
    let kept := "| # >Street |\u2028"
    builder.loadFilters (fun _ => .file commented.toUTF8.data.toList) [Path.ofText "filters"] =
        ⟨builder.addLabels (some "Person|- City|>Town"), none⟩ ∧
      builder.loadFilters (fun _ => .file kept.toUTF8.data.toList) [Path.ofText "filters"] =
        ⟨builder.addLabels (some " # >Street "), none⟩ := by
  intro builder commented kept
  have lines_eq : Raw.filterLines commented = ["Person|- City", ">Town"] := by decide +kernel
  have only : HasOnlyLine kept ("|" ++ " # >Street " ++ "|") :=
    ⟨['\u2028'], .single (by decide), by decide⟩
  constructor
  · have loaded := (@loadFilters_eq_addLabels (fun _ => .file commented.toUTF8.data.toList)
      (Path.ofText "filters") commented rfl builder).1
    rw [lines_eq] at loaded
    exact loaded
  · have all_unbroken : (" # >Street ".toList.all (· ∉ Text.lineBreak)) = true := by decide
    have unbroken (char : Char) (member : char ∈ " # >Street ".toList) : char ∉ Text.lineBreak :=
      of_decide_eq_true (List.all_eq_true.mp all_unbroken char member)
    exact (@loadFilters_eq_addLabels (fun _ => .file kept.toUTF8.data.toList)
      (Path.ofText "filters") kept rfl builder).2 " # >Street " unbroken only

end WalkFilter
