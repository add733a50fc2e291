import WalkFilter.Proofs.Filter.RawDecision
import WalkFilter.Proofs.Report.Description
import WalkFilter.Proofs.Report.Rows
import WalkFilter.Report.Format

/-!
# Reports on requests

A request names the tokens of a filter, the nodes and how far away a result must lie. What a whole
report on it tells can be said without any group: what each JSON line is read as, and what each row
of a table shows. A group with the patterns of the tokens reports so in both formats.
-/

namespace WalkFilter

namespace Raw

/-- What is to be reported. -/
structure Request where
  /-- The tokens of all filters. -/
  tokens : List String
  /-- Results are limited to end nodes and terminators. -/
  restricted : Bool
  /-- The least depth of a result. -/
  minLevel : Int
  /-- The filter is reported as well. -/
  explained : Bool
  /-- The nodes in order. -/
  nodes : List Node

/-- A decision in words, and its two answers. -/
inductive Tells : Decision → String → (includes continues : Bool) → Prop where
  | includeContinue : Tells .includeContinue "include_continue" true true
  | includePrune : Tells .includePrune "include_prune" true false
  | excludeContinue : Tells .excludeContinue "exclude_continue" false true
  | excludePrune : Tells .excludePrune "exclude_prune" false false

theorem tells (decision : Decision) :
    Tells decision decision.word decision.includes decision.continues := by
  cases decision <;> constructor

/-- Texts as a JSON array. -/
def jsonStrings (texts : List CodeText) : Json.Value := .array (texts.map .string)

/-- Texts in one cell, with commas between them, or a note that there are none. -/
def cell (note : String) : List (List CodePoint) → List CodePoint
  | [] => codePoints note
  | texts => (codePoints ", ").intercalate texts

/-- Lines that stand there exactly if they are asked for. -/
def IfAsked {Line : Type} (asked : Bool) (Stand : List Line → Prop) (lines : List Line) : Prop :=
  if asked then Stand lines else lines = []

/-- What is made of lines that are asked for is made of none otherwise. -/
theorem IfAsked.exists_eq {Line Text : Type} {Stand : List Line → Prop} {make : List Line → Text}
    {text : Text} (asked : Bool) (made : asked = true → ∃ lines, Stand lines ∧ make lines = text) :
    ∃ lines, IfAsked asked Stand lines ∧ make lines = if asked then text else make [] := by
  cases asked with
  | false => exact ⟨[], rfl, rfl⟩
  | true =>
      obtain ⟨lines, stand, text_eq⟩ := made rfl
      exact ⟨lines, stand, text_eq⟩

namespace Request

/-- The node is closer than a result may be. -/
def below (request : Request) (node : Node) : Bool := decide (node.depth < request.minLevel)

/-- What the walk does with the node. A label that is no string is no pattern. -/
def decision (request : Request) (node : Node) : Decision :=
  Raw.decision request.tokens request.restricted (node.labels.filterMap CodeText.string?)
    (request.below node)

/-- The node is a result. -/
def hasResult (request : Request) (node : Node) : Bool :=
  request.decision node = .includeContinue || request.decision node = .includePrune

/-! ## Lines of JSON -/

/-- The line is read as an object that describes the filter. -/
inductive FilterLine (request : Request) (line : String) : Prop where
  | intro {listed : ByOperator (List String)}
    (lists : ∀ operator, ListsInOrder (listed.get operator) (labels request.tokens operator))
    (plain : ∀ char ∈ line.toList, Json.IsPlain char)
    (parsed : Json.parse line.toList = .ok (.object [("type", .string "filter"),
      ("denylist", jsonStrings (listed.deny.map CodeText.ofString)),
      ("allowlist", jsonStrings (listed.allow.map CodeText.ofString)),
      ("end_nodes", jsonStrings (listed.endNode.map CodeText.ofString)),
      ("terminators", jsonStrings (listed.terminator.map CodeText.ofString)),
      ("end_nodes_only", .bool request.restricted)]))

/-- The line is read as an object that tells what the walk does with the node. -/
inductive NodeLine (request : Request) (node : Node) (line : String) : Prop where
  | intro {listed : List CodeText} {word : String} {includes continues : Bool}
    (lists : ListsInOrder listed node.labels)
    (tells : Tells (request.decision node) word includes continues)
    (plain : ∀ char ∈ line.toList, Json.IsPlain char)
    (parsed : Json.parse line.toList = .ok (.object [("type", .string "node"),
      ("labels", jsonStrings listed), ("depth", .integer node.depth),
      ("below_min_level", .bool (request.below node)), ("decision", .string word),
      ("include", .bool includes), ("continue", .bool continues)]))

/-- The lines tell of the filter, if it is asked for, and of each node in order. -/
inductive JsonLines (request : Request) : List String → Prop where
  | intro {filter nodes : List String}
    (filter_told : IfAsked request.explained (fun lines => ∃ line, lines = [line] ∧
      request.FilterLine line) filter)
    (nodes_told : List.Forall₂ request.NodeLine request.nodes nodes) :
    JsonLines request (filter ++ nodes)

/-! ## Rows of tables -/

/-- The lines are a table that describes the filter. -/
inductive FilterTable (request : Request) (lines : List (List CodePoint)) : Prop where
  | intro {listed : ByOperator (List String)}
    (lists : ∀ operator, ListsInOrder (listed.get operator) (labels request.tokens operator))
    (drawn : Table.IsDrawn (["Matcher", "Labels"].map codePoints)
      [[codePoints "Denylist", cell "(none)" (listed.deny.map codePoints)],
        [codePoints "Allowlist", cell "(all labels)" (listed.allow.map codePoints)],
        [codePoints "End nodes", cell "(none)" (listed.endNode.map codePoints)],
        [codePoints "Terminators", cell "(none)" (listed.terminator.map codePoints)],
        [codePoints "End nodes only", codePoints (if request.restricted then "yes" else "no")]]
      lines)

/-- The row shows what the walk does with the node. -/
inductive NodeRow (request : Request) (node : Node) : List (List CodePoint) → Prop where
  | intro {listed : List CodeText} {word : String} {includes continues : Bool}
    (lists : ListsInOrder listed node.labels)
    (tells : Tells (request.decision node) word includes continues) :
    NodeRow request node [cell "(none)" (listed.map (·.points)), codePoints (toString node.depth),
      codePoints (if request.below node then "yes" else "no"),
      codePoints (if includes then "include" else "exclude"),
      codePoints (if continues then "continue" else "prune")]

/-- The lines are a table with a row for each node in order, and a summary. -/
inductive NodeTable (request : Request) : List (List CodePoint) → Prop where
  | intro {rows : List (List (List CodePoint))} {table : List (List CodePoint)}
    (nodes_shown : List.Forall₂ request.NodeRow request.nodes rows)
    (drawn : Table.IsDrawn
      (["Labels", "Depth", "Below min level", "Result", "Walk"].map codePoints) rows table) :
    NodeTable request (table ++ [codePoints (Report.summaryLine request.nodes.length
      (request.nodes.countP request.hasResult))])

/-- The code points are the whole report on the request: JSON lines, or a table for the filter, if
it is asked for, and a table for the nodes, if there are any. -/
inductive IsReport (request : Request) : Format → List CodePoint → Prop where
  | text {filter nodes : List (List CodePoint)}
    (filter_told : IfAsked request.explained request.FilterTable filter)
    (nodes_told : IfAsked (!request.nodes.isEmpty) request.NodeTable nodes) :
    IsReport request .text (terminated (filter ++ nodes))
  | json {lines : List String} (told : request.JsonLines lines) :
    IsReport request .json (codePoints (String.join (lines.map (· ++ "\n"))))

end Request

end Raw

namespace Report

theorem joinLabels_eq_cell (labels : List (List CodePoint)) :
    joinLabels labels = Raw.cell "(none)" labels := by
  cases labels <;> rfl

theorem joinPatterns_eq_cell (patterns : Patterns) :
    joinPatterns patterns = Raw.cell "(none)" (patterns.toList.map codePoints) :=
  joinLabels_eq_cell _

theorem allowCell_eq_cell (patterns : Patterns) :
    (if patterns.isEmpty then codePoints "(all labels)"
      else Raw.cell "(none)" (patterns.toList.map codePoints)) =
        Raw.cell "(all labels)" (patterns.toList.map codePoints) := by
  rw [Patterns.isEmpty, LabelSet.isEmpty, Patterns.toList]
  cases patterns.labels.toList <;> rfl

theorem jsonLine_eq (value : Json.Value) :
    jsonLine value = String.ofList (Json.write value) ++ "\n" :=
  String.ofList_append

end Report

section

variable {request : Raw.Request} {group : Group}

/-- The list that a group keeps for an operator names the labels that the tokens give to it. -/
theorem Group.Holds.listsInOrder {tokens : List String} (holds : group.Holds tokens)
    (operator : Operator) :
    ListsInOrder ((group.patterns.map Patterns.toList).get operator)
      (Raw.labels tokens operator) := by
  rw [ByOperator.get_map]
  exact LabelSet.listsInOrder (holds operator)

theorem Raw.Node.listsInOrder (node : Raw.Node) :
    ListsInOrder node.sample.labels.texts.toList node.labels :=
  LabelSet.listsInOrder fun _ => LabelSet.mem_ofList

namespace Raw.Request

/-- The group has the patterns of the tokens, and its results are limited as requested. -/
structure IsServedBy (request : Request) (group : Group) : Prop where
  /-- The patterns are those of the tokens. -/
  holds : group.Holds request.tokens
  /-- The flag is the one of the request. -/
  endNodesOnly : group.endNodesOnly = request.restricted

namespace IsServedBy

variable (served : request.IsServedBy group)

include served

/-- The group evaluates a node as the request says. -/
theorem evaluateSample_eq (node : Node) :
    group.evaluateSample (some request.minLevel) node.sample =
      ⟨node.sample, request.below node, request.decision node⟩ := by
  have same (label : String) : label ∈ node.sample.labels.toList ↔
      label ∈ node.labels.filterMap CodeText.string? := by
    simp [Node.sample, NodeLabels.mem_toList_ofTexts, CodeText.string?_eq_some_iff]
  have below_eq : (some request.minLevel).any (isBelow node.sample.depth ·) = request.below node :=
    rfl
  rw [Group.evaluateSample, Group.evaluate_eq_decision served.holds, served.endNodesOnly,
    decision_congr same, below_eq]
  rfl

/-! ## JSON -/

theorem filterLine :
    request.FilterLine (String.ofList (Json.write (Report.filterValue group))) := by
  have exact := Report.exact_filterValue group
  refine .intro served.holds.listsInOrder ?_ ?_
  · rw [String.toList_ofList]
    exact Json.isPlain_of_mem_write exact
  · rw [String.toList_ofList, Json.parse_write exact, ← served.endNodesOnly]
    rfl

theorem exists_filterLine :
    ∃ lines, (∃ line, lines = [line] ∧ request.FilterLine line) ∧
      String.join (lines.map (· ++ "\n")) = Report.filterJson group := by
  refine ⟨_, ⟨_, rfl, served.filterLine⟩, ?_⟩
  rw [List.map_singleton, String.join_cons, String.join_nil, String.append_empty,
    Report.filterJson, Report.jsonLine_eq]

theorem nodeLine {node : Node} (few : Json.HasFewDigits node.depth) :
    request.NodeLine node (String.ofList (Report.evaluationLine
      (group.evaluateSample (some request.minLevel) node.sample))) := by
  rw [served.evaluateSample_eq]
  have exact := @Report.exact_evaluationValue
    ⟨node.sample, request.below node, request.decision node⟩ few
  refine .intro node.listsInOrder (tells _) ?_ ?_
  · rw [String.toList_ofList]
    exact Json.isPlain_of_mem_write exact
  · rw [String.toList_ofList, Report.evaluationLine, Json.parse_write exact]
    rfl

theorem exists_nodeLines (few : ∀ node ∈ request.nodes, Json.HasFewDigits node.depth) :
    ∃ lines, List.Forall₂ request.NodeLine request.nodes lines ∧
      String.join (lines.map (· ++ "\n")) = Report.evaluationsJson
        (group.evaluateSamples (some request.minLevel) (request.nodes.map Node.sample)) := by
  refine ⟨request.nodes.map fun node => String.ofList (Report.evaluationLine
    (group.evaluateSample (some request.minLevel) node.sample)), ?_, ?_⟩
  · rw [List.forall₂_map_right_iff, List.forall₂_same]
    exact fun node member => served.nodeLine (few node member)
  · rw [Report.evaluationsJson, Group.evaluateSamples, List.map_map, List.map_map, List.map_map]
    exact congrArg String.join (List.map_congr_left fun node _ => (Report.jsonLine_eq _).symm)

/-! ## Tables -/

theorem exists_filterTable :
    ∃ table, request.FilterTable table ∧
      terminated table = Report.Drawing.barred.filterText group := by
  obtain ⟨table, drawn, text_eq⟩ := Report.Drawing.isFaithful_barred.exists_filterText_eq group
  refine ⟨table, .intro served.holds.listsInOrder ?_, text_eq.symm⟩
  rw [← served.endNodesOnly]
  simp only [Report.filterRows, Report.joinPatterns_eq_cell, Report.allowCell_eq_cell] at drawn
  exact drawn

theorem nodeRow (node : Node) :
    request.NodeRow node
      (Report.evaluationRow (group.evaluateSample (some request.minLevel) node.sample)) := by
  rw [served.evaluateSample_eq, Report.evaluationRow, Report.joinLabels_eq_cell]
  exact .intro node.listsInOrder (tells _)

theorem included_eq : Report.included
    (group.evaluateSamples (some request.minLevel) (request.nodes.map Node.sample)) =
      request.nodes.countP request.hasResult := by
  rw [Report.included, Group.evaluateSamples, List.map_map, List.countP_map]
  refine List.countP_congr fun node _ => ?_
  rw [Function.comp_apply, Function.comp_apply, served.evaluateSample_eq, hasResult]
  cases request.decision node <;> simp [Decision.includes]

theorem exists_nodeTable (some_node : request.nodes ≠ []) :
    ∃ table, request.NodeTable table ∧
      terminated table = Report.Drawing.barred.evaluationsText (group.evaluateSamples
        (some request.minLevel) (request.nodes.map Node.sample)) := by
  have nonempty : group.evaluateSamples (some request.minLevel)
      (request.nodes.map Node.sample) ≠ [] := by
    simpa [Group.evaluateSamples] using some_node
  obtain ⟨table, drawn, text_eq⟩ :=
    Report.Drawing.isFaithful_barred.exists_evaluationsText_eq nonempty
  have rows_shown : List.Forall₂ request.NodeRow request.nodes
      ((group.evaluateSamples (some request.minLevel) (request.nodes.map Node.sample)).map
        Report.evaluationRow) := by
    rw [Group.evaluateSamples, List.map_map, List.map_map, List.forall₂_map_right_iff,
      List.forall₂_same]
    exact fun node _ => served.nodeRow node
  have length_eq : (group.evaluateSamples (some request.minLevel)
      (request.nodes.map Node.sample)).length = request.nodes.length := by
    rw [Group.evaluateSamples, List.length_map, List.length_map]
  rw [served.included_eq, length_eq] at text_eq
  exact ⟨_, .intro rows_shown drawn, text_eq.symm⟩

/-! ## Both formats -/

/-- What a group reports on the nodes of a request is the report on the request. -/
theorem isReport (few : ∀ node ∈ request.nodes, Json.HasFewDigits node.depth) (format : Format) :
    request.IsReport format
      ((if request.explained then Report.describeFilter format group else []) ++
        Report.describeEvaluations format (group.evaluateSamples (some request.minLevel)
          (request.nodes.map Node.sample))) := by
  cases format with
  | text =>
      obtain ⟨filter, filter_told, filter_eq⟩ :=
        IfAsked.exists_eq request.explained fun _ => served.exists_filterTable
      obtain ⟨nodes, nodes_told, nodes_eq⟩ :=
        IfAsked.exists_eq (!request.nodes.isEmpty) fun some_node =>
          served.exists_nodeTable (by simpa using some_node)
      have nodes_text : terminated nodes = Report.Drawing.barred.evaluationsText
          (group.evaluateSamples (some request.minLevel) (request.nodes.map Node.sample)) := by
        rw [nodes_eq]
        cases request.nodes <;> rfl
      rw [Report.describeFilter, Report.describeEvaluations, ← nodes_text]
      have filter_text : terminated filter =
          if request.explained then Report.Drawing.barred.filterText group else [] := filter_eq
      rw [← filter_text, ← terminated_append]
      exact .text filter_told nodes_told
  | json =>
      obtain ⟨filter, filter_told, filter_eq⟩ :=
        IfAsked.exists_eq request.explained fun _ => served.exists_filterLine
      obtain ⟨nodes, nodes_told, nodes_eq⟩ := served.exists_nodeLines few
      have filter_text : codePoints (String.join (filter.map (· ++ "\n"))) =
          if request.explained then codePoints (Report.filterJson group) else [] := by
        rw [filter_eq]
        split <;> rfl
      rw [Report.describeFilter, Report.describeEvaluations, ← filter_text, ← nodes_eq,
        ← codePoints_append, ← String.join_append, ← List.map_append]
      exact .json (.intro filter_told nodes_told)

end IsServedBy

end Raw.Request

end

end WalkFilter
