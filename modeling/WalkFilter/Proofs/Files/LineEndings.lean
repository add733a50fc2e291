import WalkFilter.Proofs.Filter.Loading
import WalkFilter.Proofs.Node.Diagnosis
import WalkFilter.Proofs.Text.Newlines

/-!
# Files with any line endings

What a file holds is told by its lines, however they end and whether or not the last one does. Its
filters are the filters on these lines, and its nodes are the nodes on them; the line of an error is
counted among them.
-/

namespace WalkFilter

/-! ## Lines that make no difference -/

theorem lineTokens_empty : lineTokens "" = [] := rfl

namespace Listing

/-- An empty line behind a list makes no difference. -/
theorem readFrom_append_empty (source : String) (default : Json.Value) (number : Nat)
    (lines : List String) :
    readFrom source default number (lines ++ [""]) = readFrom source default number lines := by
  induction lines generalizing number with
  | nil => rfl
  | cons line rest induction =>
      rw [List.cons_append, readFrom, readFrom, induction]

/-- What the nodes on some lines are said to be: all of them, or the first line that fails a check
with its number. -/
inductive Answer (source : String) (default : Json.Value) (lines : List String) :
    Except ListingError (List Sample) → Prop where
  | nodes {samples : List Sample} (entries : AreEntries default lines samples) :
    Answer source default lines (.ok samples)
  | refused {before : List String} {line : String} {after : List String} {flaw : NodeFlaw}
    (place : lines = before ++ line :: after)
    (valid : ∀ earlier ∈ before, Raw.IsValid default earlier)
    (hasText : Raw.hasText line = true) (fails : Raw.FailsCheck default line flaw) :
    Answer source default lines (.error (.line ⟨source, before.length + 1, flaw.message⟩))

variable {source : String} {default : Json.Value} {lines : List String}

theorem complete_read_of_areEntries {samples : List Sample}
    (entries : AreEntries default lines samples) :
    (read source default lines).complete = .ok samples := by
  rw [read_of_areEntries entries]
  rfl

theorem complete_read_of_error {error : ListingError}
    (failed : (read source default lines).error = some error) :
    (read source default lines).complete = .error error := by
  rw [complete, failed]

/-- Lines are answered for, unless the first that is not valid is refused for its digits. -/
theorem answer_or_stopsAtDigits (source : String) (default : Json.Value) (lines : List String) :
    Answer source default lines (read source default lines).complete ∨
      ∃ digits, StopsAtDigits default lines digits := by
  rcases areEntries_or_failsCheck default lines with
    ⟨samples, entries⟩ | ⟨before, line, after, samples, flaw, rfl, entries, hasText, fails⟩
  · rw [complete_read_of_areEntries entries]
    exact .inl (.nodes entries)
  · have valid := entries.isValid
    have failed : (read source default (before ++ line :: after)).error = _ :=
      error_of_failsCheck valid hasText fails
    by_cases digits : ∃ count, flaw = .notJson (.tooManyDigits count)
    · obtain ⟨count, rfl⟩ := digits
      cases fails with
      | notJson refused =>
          obtain ⟨-, digits, overlong, rfl⟩ := Json.exists_overlong_of_parse refused
          have invalid : ¬Raw.IsValid default line := fun valid =>
            isValid_iff.mp valid ⟨hasText, _, .notJson refused⟩
          exact .inr ⟨digits, before, line, after, rfl, valid, invalid, overlong, refused⟩
    · rw [ListingError.ofFlaw_eq_line (not_exists.mp digits)] at failed
      rw [complete_read_of_error failed]
      exact .inl (.refused rfl valid hasText fails)

theorem answer_iff :
    Answer source default lines (read source default lines).complete ↔
      ∀ digits, ¬StopsAtDigits default lines digits := by
  constructor
  · intro answer digits stops
    rw [complete_read_of_error stops.error_eq] at answer
    cases answer
  · intro not_stops
    exact (answer_or_stopsAtDigits source default lines).resolve_right (not_exists.mpr not_stops)

/-- Nodes are given only if every line is valid. -/
theorem exists_complete_read_iff :
    (∃ samples, (read source default lines).complete = .ok samples) ↔
      ∀ line ∈ lines, Raw.IsValid default line := by
  constructor
  · rintro ⟨samples, complete_eq⟩
    rcases areEntries_or_failsCheck default lines with
      ⟨samples, entries⟩ | ⟨before, line, after, samples, flaw, rfl, entries, hasText, fails⟩
    · exact entries.isValid
    · rw [complete_read_of_error (error_of_failsCheck entries.isValid hasText fails)] at complete_eq
      cases complete_eq
  · intro valid
    obtain ⟨samples, entries⟩ := exists_areEntries valid
    exact ⟨samples, complete_read_of_areEntries entries⟩

end Listing

/-- A UTF-8 file with these lines. -/
def Content.ofLines (newline : Text.Newline) (closed : Bool) (lines : List String) : Content :=
  .file (String.ofList (newline.write closed (lines.map String.toList))).toUTF8.data.toList

namespace Files

/-- The path leads to a file with these lines. They all end in the same way, but the last one need
not end. -/
structure HoldsLines (files : Files) (path : Path) (lines : List String) : Prop where
  /-- No line is broken further. -/
  unbroken : ∀ line ∈ lines, ∀ char ∈ line.toList, char ∉ Text.lineBreak
  /-- The lines are written with one kind of newline. -/
  stored : ∃ newline closed, files path = .ofLines newline closed lines

variable {files : Files} {path : Path} {lines : List String}

/-- A file is read as its lines, but for an empty line behind them. -/
theorem HoldsLines.readLines (holds : files.HoldsLines path lines)
    (role : FileRole) :
    files.readLines role path = .ok lines ∨
      ∃ seen, files.readLines role path = .ok seen ∧ lines = seen ++ [""] := by
  obtain ⟨unbroken, newline, closed, stored⟩ := holds
  have texts_unbroken : ∀ text ∈ lines.map String.toList, ∀ char ∈ text, char ∉ Text.lineBreak :=
    List.forall_mem_map.mpr unbroken
  have back : (lines.map String.toList).map String.ofList = lines := by
    simp
  have seen := Text.lines_write newline closed texts_unbroken
  rw [readLines_utf8 stored, String.toList_ofList, linesOfText]
  generalize Text.lines (Text.unifyNewlines (newline.write closed _)) = texts at seen ⊢
  rcases seen with all | all_but_last
  · rw [all, back]
    exact .inl rfl
  · refine .inr ⟨_, rfl, ?_⟩
    rw [← back, ← all_but_last, List.map_append, List.map_singleton, String.ofList_nil]

theorem HoldsLines.addSource (holds : files.HoldsLines path lines)
    (builder : Builder) :
    builder.addSource files (.file path) = .ok (builder.addTokens (lines.flatMap lineTokens)) := by
  have added {seen : List String} (read : files.readLines .filter path = .ok seen) :
      builder.addSource files (.file path) = .ok (builder.addTokens (seen.flatMap lineTokens)) := by
    have filters_read : files.readFilters path = .ok (filtersOfLines seen) := by
      rw [readFilters, read]
      rfl
    rw [Builder.addSource, filters_read, ← tokens_filtersOfLines, ← Builder.addFilters_eq_addTokens]
    rfl
  rcases holds.readLines .filter with read | ⟨seen, read, rfl⟩
  · exact added read
  · rw [added read, List.flatMap_append]
    simp [lineTokens_empty]

theorem HoldsLines.loadFilters (holds : files.HoldsLines path lines)
    (builder : Builder) :
    builder.loadFilters files [path] =
      ⟨builder.addTokens (lines.flatMap lineTokens), none⟩ := by
  rw [Builder.loadFilters_singleton, holds.addSource]
  rfl

theorem HoldsLines.readNodes (holds : files.HoldsLines path lines)
    (default : Json.Value) :
    files.readNodes default path = (Listing.read path.text default lines).complete := by
  rcases holds.readLines .nodes with read | ⟨seen, read, rfl⟩
  · rw [Files.readNodes, read]
  · have same := Listing.readFrom_append_empty path.text default 1 seen
    rw [Files.readNodes, read, Listing.read, same]
    rfl

/-- Files with the same lines lead to the same filters and the same nodes, however the lines end.
The nodes are those on the lines, or an error names the first line that is not valid, counted from
`1`, and the check that it fails. Only where that line is refused for the digits of an integer in it
does the error name no line. Documents may be nested to any depth here: what a reader on a stack
does beyond the depth of its stack is left out. -/
theorem read_holdsLines (holds : files.HoldsLines path lines) :
    (∀ other : Files, other.HoldsLines path lines →
        (∀ builder : Builder,
          builder.loadFilters other [path] = builder.loadFilters files [path]) ∧
        ∀ default, other.readNodes default path = files.readNodes default path) ∧
      (∀ builder : Builder, builder.loadFilters files [path] =
        ⟨builder.addTokens (lines.flatMap lineTokens), none⟩) ∧
      ∀ default,
        (Listing.Answer path.text default lines (files.readNodes default path) ↔
          ∀ digits, ¬Listing.StopsAtDigits default lines digits) ∧
        (∀ digits, Listing.StopsAtDigits default lines digits →
          files.readNodes default path = .error (.tooManyDigits digits.length)) ∧
        ((∃ samples, files.readNodes default path = .ok samples) ↔
          ∀ line ∈ lines, Raw.IsValid default line) := by
  refine ⟨fun other other_holds => ⟨fun builder => ?_, fun default => ?_⟩, fun builder => ?_,
    fun default => ?_⟩
  · rw [other_holds.loadFilters, holds.loadFilters]
  · rw [other_holds.readNodes, holds.readNodes]
  · exact holds.loadFilters builder
  · rw [holds.readNodes]
    exact ⟨Listing.answer_iff, fun digits stops => Listing.complete_read_of_error stops.error_eq,
      Listing.exists_complete_read_iff⟩

/-- A line that breaks off behind an empty one, with two conventions. -/
theorem read_holdsLines_bracketInThirdLine :
    let lines := ["\x7b\x7d", "", "["]
    let files : Files := fun _ => .ofLines .carriageReturn false lines
    let other : Files := fun _ => .ofLines .both true lines
    let path := Path.ofText "nodes"
    other.readNodes (.integer 0) path = files.readNodes (.integer 0) path ∧
      (({} : Builder).loadFilters files [path]) =
        ⟨({} : Builder).addTokens ["\x7b\x7d", "["], none⟩ ∧
      ¬∃ samples, files.readNodes (.integer 0) path = .ok samples := by
  intro lines files other path
  have checked : (lines.all fun line => line.toList.all (· ∉ Text.lineBreak)) = true := by decide
  have unbroken : ∀ line ∈ lines, ∀ char ∈ line.toList, char ∉ Text.lineBreak := by
    simpa only [List.all_eq_true, decide_eq_true_eq] using checked
  have read := @read_holdsLines files path lines ⟨unbroken, _, _, rfl⟩
  have refused : Json.parse "[".toList = .error .expectedValue := by
    change Json.Reader.start.run (Json.tokens ['[']) = _
    rw [Json.tokens_mark rfl, Json.tokens_nil]
    rfl
  have invalid : ¬∀ line ∈ lines, Raw.IsValid (.integer 0) line := fun valid =>
    Listing.isValid_iff.mp (valid "[" (by decide)) ⟨by decide, _, .notJson refused⟩
  have tokens : lines.flatMap lineTokens = ["\x7b\x7d", "["] := by decide
  refine ⟨(read.1 other ⟨unbroken, _, _, rfl⟩).2 _, ?_, fun nodes => ?_⟩
  · rw [read.2.1, tokens]
  · exact invalid ((read.2.2 _).2.2.mp nodes)

theorem not_lineBreak_lineOfOnes (count : Nat) :
    ∀ char ∈ (Listing.lineOfOnes count).toList, char ∉ Text.lineBreak := by
  have characters (char : Char) (member : char ∈ (Listing.lineOfOnes count).toList) :
      char ∈ ['[', '1', ']'] := by
    simp only [Listing.lineOfOnes, String.toList_ofList, List.mem_cons, List.mem_append,
      List.mem_replicate] at member
    grind
  have plain : ∀ char ∈ ['[', '1', ']'], char ∉ Text.lineBreak :=
    List.all_iff_forall_prop.mp (by decide)
  exact fun char member => plain char (characters char member)

/-- A file of one line that is no entry does not lead to an error that names this line. -/
theorem not_answer_lineOfOnes :
    let lines := [Listing.lineOfOnes 4301]
    let files : Files := fun _ => .ofLines .lineFeed true lines
    ¬Listing.Answer "nodes.jsonl" (.integer 0) lines
      (files.readNodes (.integer 0) (Path.ofText "nodes.jsonl")) := by
  intro lines files answer
  have holds : files.HoldsLines (Path.ofText "nodes.jsonl") lines :=
    ⟨List.forall_mem_singleton.mpr (not_lineBreak_lineOfOnes 4301), _, _, rfl⟩
  have failed : (Listing.read "nodes.jsonl" (.integer 0) ([] ++ lines)).error =
      some (.tooManyDigits 4301) :=
    Listing.error_of_failsCheck (List.forall_mem_nil _) (Listing.hasText_lineOfOnes 4301)
      (.notJson (Listing.parse_lineOfOnes (by decide)))
  have named : (Path.ofText "nodes.jsonl").text = "nodes.jsonl" := by decide
  rw [List.nil_append] at failed
  rw [holds.readNodes, named, Listing.complete_read_of_error failed] at answer
  cases answer

end Files

end WalkFilter
