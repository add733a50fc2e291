import WalkFilter.Node.Sample
import WalkFilter.Report.Table

/-!
# Reports as tables

For people, a filter is a table with one row for each operator and one for the flag, and evaluations
are a table with one row for each node and a summary below it. What draws the table and counts the
nodes in words is a part of its own, so that a report can be made with any.
-/

namespace WalkFilter.Report

/-- Labels in one cell, or a note that there are none. -/
def joinLabels (labels : List (List CodePoint)) : List CodePoint :=
  if labels.isEmpty then codePoints "(none)" else (codePoints ", ").intercalate labels

/-- Patterns in one cell. -/
def joinPatterns (patterns : Patterns) : List CodePoint :=
  joinLabels (patterns.toList.map codePoints)

/-- The names of the columns that describe a filter. -/
def filterHeader : List (List CodePoint) := ["Matcher", "Labels"].map codePoints

/-- The cells that describe a filter. -/
def filterRows (group : Group) : List (List (List CodePoint)) :=
  [[codePoints "Denylist", joinPatterns group.patterns.deny],
    [codePoints "Allowlist",
      if group.patterns.allow.isEmpty then codePoints "(all labels)"
      else joinPatterns group.patterns.allow],
    [codePoints "End nodes", joinPatterns group.patterns.endNode],
    [codePoints "Terminators", joinPatterns group.patterns.terminator],
    [codePoints "End nodes only", codePoints (if group.endNodesOnly then "yes" else "no")]]

/-- The names of the columns that describe an evaluation. -/
def evaluationHeader : List (List CodePoint) :=
  ["Labels", "Depth", "Below min level", "Result", "Walk"].map codePoints

/-- The cells that describe an evaluation. -/
def evaluationRow (evaluation : Evaluation) : List (List CodePoint) :=
  [joinLabels (evaluation.sample.labels.texts.toList.map (·.points)),
    codePoints (toString evaluation.sample.depth),
    codePoints (if evaluation.belowMinLevel then "yes" else "no"),
    codePoints (if evaluation.decision.includes then "include" else "exclude"),
    codePoints (if evaluation.decision.continues then "continue" else "prune")]

/-- What draws the tables of a report and counts its nodes. -/
structure Drawing where
  /-- Draws a table with a header and rows of as many cells. -/
  table : (header : List (List CodePoint)) → (rows : List (List (List CodePoint))) →
    List CodePoint
  /-- Writes a number of nodes in words. -/
  countNodes : Nat → String

/-- A number of nodes. -/
def countNodes (count : Nat) : String :=
  toString count ++ if count = 1 then " node" else " nodes"

/-- Tables between dashes and bars. -/
def Drawing.barred : Drawing := ⟨Table.draw, Report.countNodes⟩

/-- The number of evaluations whose node is a result. -/
def included (evaluations : List Evaluation) : Nat :=
  evaluations.countP (·.decision.includes)

namespace Drawing

/-- The last line of a text report. -/
def summary (drawing : Drawing) (evaluations : List Evaluation) : String :=
  drawing.countNodes evaluations.length ++ " evaluated, " ++ toString (included evaluations) ++
    " included"

/-- A filter as a table. -/
def filterText (drawing : Drawing) (group : Group) : List CodePoint :=
  drawing.table filterHeader (filterRows group) ++ codePoints "\n"

/-- Evaluations as a table with a summary. -/
def evaluationsText (drawing : Drawing) (evaluations : List Evaluation) : List CodePoint :=
  if evaluations.isEmpty then []
  else
    drawing.table evaluationHeader (evaluations.map evaluationRow) ++ codePoints "\n" ++
      codePoints (drawing.summary evaluations) ++ codePoints "\n"

end Drawing

end WalkFilter.Report
