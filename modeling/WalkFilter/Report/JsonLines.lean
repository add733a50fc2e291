import WalkFilter.Json.Writer
import WalkFilter.Node.Sample

/-!
# Reports as JSON lines

For programs, a filter is one JSON object on a line of its own, and so is every evaluation. The
labels and the depth have the keys under which a node list gives them.
-/

namespace WalkFilter.Report

/-- Labels as a JSON array. -/
def labelsJson (labels : List CodeText) : Json.Value := .array (labels.map .string)

/-- Patterns as a JSON array. -/
def patternsJson (patterns : Patterns) : Json.Value :=
  labelsJson (patterns.toList.map CodeText.ofString)

/-- The members that describe a group. -/
def groupMembers (group : Group) : List (CodeText × Json.Value) :=
  [("denylist", patternsJson group.patterns.deny),
    ("allowlist", patternsJson group.patterns.allow),
    ("end_nodes", patternsJson group.patterns.endNode),
    ("terminators", patternsJson group.patterns.terminator),
    ("end_nodes_only", .bool group.endNodesOnly)]

/-- A filter as a JSON object. -/
def filterValue (group : Group) : Json.Value :=
  .object (("type", .string "filter") :: groupMembers group)

/-- An evaluation as a JSON object. -/
def evaluationValue (evaluation : Evaluation) : Json.Value :=
  .object [("type", .string "node"), ("labels", labelsJson evaluation.sample.labels.texts.toList),
    ("depth", .integer evaluation.sample.depth), ("below_min_level", .bool evaluation.belowMinLevel),
    ("decision", .string evaluation.decision.word), ("include", .bool evaluation.decision.includes),
    ("continue", .bool evaluation.decision.continues)]

/-- A JSON value on a line of its own. -/
def jsonLine (value : Json.Value) : String := String.ofList (Json.write value ++ ['\n'])

/-- A filter as a JSON line. -/
def filterJson (group : Group) : String := jsonLine (filterValue group)

/-- Evaluations as JSON lines. -/
def evaluationsJson (evaluations : List Evaluation) : String :=
  String.join (evaluations.map fun evaluation => jsonLine (evaluationValue evaluation))

end WalkFilter.Report
