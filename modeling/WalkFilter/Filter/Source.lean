import WalkFilter.Files.Content
import WalkFilter.Filter.Builder
import WalkFilter.Text.Blank

/-!
# Filter files

A filter file holds one filter on each line. Blanks around a line are removed; blank lines and lines
that start with `#` are comments. A file is read before any of its filters is added, so a file that
cannot be read adds nothing.
-/

namespace WalkFilter

/-- The filters on the lines of a file. -/
def filtersOfLines (lines : List String) : List String :=
  (lines.map fun line => Text.strip line.toList).filterMap fun line =>
    if line.isEmpty || line.head? = some '#' then none else some (String.ofList line)

/-- The filters in the file at a path. -/
def Files.readFilters (files : Files) (path : Path) : Except ReadError (List String) :=
  (files.readLines .filter path).map filtersOfLines

/-- What loading filter files leads to. -/
structure Loaded where
  /-- The builder with the filters of every file before the first that cannot be read. -/
  builder : Builder
  /-- Why that file cannot be read, if there is one. -/
  error : Option ReadError
deriving DecidableEq, Repr

namespace Builder

/-- Adds several filters in order. -/
def addFilters (builder : Builder) (filters : List String) : Builder :=
  filters.foldl (fun builder filter => builder.addLabels (some filter)) builder

/-- Adds the filters of files in order, up to the first file that cannot be read. -/
def loadFilters (files : Files) (builder : Builder) : List Path → Loaded
  | [] => ⟨builder, none⟩
  | path :: rest =>
    match files.readFilters path with
    | .error error => ⟨builder, some error⟩
    | .ok filters => (builder.addFilters filters).loadFilters files rest

end Builder

/-- Where a filter comes from. -/
inductive FilterSource where
  /-- The filter itself. -/
  | inline (filter : String)
  /-- A file of filters. -/
  | file (path : Path)
deriving DecidableEq, Repr

/-- Adds the filters of a source, or nothing if it cannot be read. -/
def Builder.addSource (files : Files) (builder : Builder) : FilterSource → Except ReadError Builder
  | .inline filter => .ok (builder.addLabels (some filter))
  | .file path => (files.readFilters path).map builder.addFilters

end WalkFilter
