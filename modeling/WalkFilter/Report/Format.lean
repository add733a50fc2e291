import WalkFilter.Report.JsonLines
import WalkFilter.Report.Tabular

/-!
# Report formats

A report describes a filter or the decisions on a list of nodes, as tables or as JSON lines.
-/

namespace WalkFilter

/-- A report format. -/
inductive Format where
  /-- Tables. -/
  | text
  /-- JSON lines. -/
  | json
deriving DecidableEq, Repr, Inhabited

namespace Format

/-- The formats in their usual order. -/
def all : List Format := [text, json]

/-- The name of a format. -/
def name : Format → String
  | text => "text"
  | json => "json"

/-- The format of this name. -/
def ofName? (name : String) : Option Format := all.find? (·.name = name)

/-- The message about a name that no format has. -/
def unsupported (name : String) : String := "Unsupported output format: " ++ name

end Format

namespace Report

/-- The report on a filter. -/
def describeFilter (format : Format) (group : Group) : List CodePoint :=
  match format with
  | .text => Drawing.barred.filterText group
  | .json => codePoints (filterJson group)

/-- The report on evaluations, empty if there are none. -/
def describeEvaluations (format : Format) (evaluations : List Evaluation) : List CodePoint :=
  match format with
  | .text => Drawing.barred.evaluationsText evaluations
  | .json => codePoints (evaluationsJson evaluations)

end Report

end WalkFilter
