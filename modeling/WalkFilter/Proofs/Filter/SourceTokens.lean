import WalkFilter.Proofs.Except
import WalkFilter.Proofs.Filter.RawTokens

/-!
# Tokens of filter files

The tokens of a file of filters can be read off its lines. This file shows that loading the file
gives a builder exactly these tokens.
-/

namespace WalkFilter

/-- The tokens on a line of a filter file. Blank lines and comments have none. -/
def lineTokens (line : String) : List String :=
  let content := Text.strip line.toList
  if content = [] ∨ content.head? = some '#' then []
  else (content.splitOn '|').map String.ofList

/-- The tokens of a source of filters, line by line if it is a file; a file that cannot be read has
none. -/
def sourceTokens (files : Files) : FilterSource → List String
  | .inline filter => Raw.tokens (some filter)
  | .file path =>
    match files.readLines .filter path with
    | .error _ => []
    | .ok lines => lines.flatMap lineTokens

private theorem tokens_filtersOfLines_singleton (line : String) :
    (filtersOfLines [line]).flatMap (fun filter => Raw.tokens (some filter)) = lineTokens line := by
  rw [lineTokens]
  generalize content_eq : Text.strip line.toList = content
  by_cases skipped : content = [] ∨ content.head? = some '#'
  · simp [filtersOfLines, content_eq, skipped]
  · simp [filtersOfLines, content_eq, skipped, Raw.tokens]

theorem tokens_filtersOfLines (lines : List String) :
    (filtersOfLines lines).flatMap (fun filter => Raw.tokens (some filter)) =
      lines.flatMap lineTokens := by
  induction lines with
  | nil => rfl
  | cons line rest induction =>
      have split :
          filtersOfLines (line :: rest) = filtersOfLines [line] ++ filtersOfLines rest := by
        rw [filtersOfLines, filtersOfLines, filtersOfLines, ← List.filterMap_append,
          ← List.map_append, List.singleton_append]
      rw [split, List.flatMap_append, tokens_filtersOfLines_singleton, induction, List.flatMap_cons]

theorem Builder.addSource_eq_addTokens {files : Files} {builder after : Builder}
    {source : FilterSource} (added : builder.addSource files source = .ok after) :
    after = builder.addTokens (sourceTokens files source) := by
  cases source with
  | inline filter =>
      obtain rfl := Except.ok.inj added
      exact addLabels_eq_addTokens builder (some filter)
  | file path =>
      obtain ⟨filters, read, rfl⟩ := map_eq_ok_iff.mp added
      obtain ⟨lines, lines_read, rfl⟩ := map_eq_ok_iff.mp read
      rw [addFilters_eq_addTokens, tokens_filtersOfLines, sourceTokens, lines_read]

/-- A file that can be read reaches the builder as a call that loads this file alone does. -/
theorem Builder.loadFilters_of_addSource {files : Files} {builder after : Builder} {path : Path}
    (added : builder.addSource files (.file path) = .ok after) :
    after = (builder.loadFilters files [path]).builder := by
  obtain ⟨filters, read, rfl⟩ := map_eq_ok_iff.mp added
  rw [Builder.loadFilters, read]
  rfl

end WalkFilter
