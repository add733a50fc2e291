import WalkFilter.Proofs.Report.Description
import WalkFilter.Proofs.Report.Rows

/-!
# Tables and JSON lines tell the same

Both formats report the same evaluations. What a JSON line tells about a node is read off the line,
and the cells of the row at the same place say the same; the summary below the table counts the JSON
lines and those among them whose node is a result.
-/

namespace WalkFilter

theorem Decision.of_includes_continues (decision : Decision) :
    Decision.of decision.includes decision.continues = decision := by
  cases decision <;> rfl

namespace Report

/-- The integer under a key. -/
def integer? (key : String) (members : List (CodeText × Json.Value)) : Option Int :=
  match Json.member? key members with
  | some (.integer value) => some value
  | _ => none

/-- The string under a key. -/
def string? (key : String) (members : List (CodeText × Json.Value)) : Option String :=
  ((Json.member? key members).bind Json.Value.text?).bind CodeText.string?

theorem string?_eq_some {key : String} {members : List (CodeText × Json.Value)} (text : String)
    (found : Json.member? key members = some (.string text)) : string? key members = some text := by
  rw [string?, found]
  exact CodeText.string?_ofString text

/-- What a JSON line tells about a node. -/
structure Account where
  /-- The labels as they are listed. -/
  labels : List CodeText
  /-- The depth. -/
  depth : Int
  /-- The node is below the minimum level. -/
  belowMinLevel : Bool
  /-- The decision in words. -/
  decision : String
  /-- The node is a result. -/
  includes : Bool
  /-- The walk goes on past the node. -/
  continues : Bool
deriving DecidableEq, Repr

namespace Account

/-- The account that the members of an object give. -/
def ofMembers? (members : List (CodeText × Json.Value)) : Option Account := do
  let labels ← texts? "labels" members
  let depth ← integer? "depth" members
  let belowMinLevel ← flag? "below_min_level" members
  let decision ← string? "decision" members
  let includes ← flag? "include" members
  let continues ← flag? "continue" members
  return { labels, depth, belowMinLevel, decision, includes, continues }

/-- The account that a JSON line gives. -/
def ofLine? (line : List Char) : Option Account :=
  match Json.parse line with
  | .ok (.object members) => ofMembers? members
  | _ => none

/-- The account of an evaluation. -/
def ofEvaluation (evaluation : Evaluation) : Account where
  labels := evaluation.sample.labels.texts.toList
  depth := evaluation.sample.depth
  belowMinLevel := evaluation.belowMinLevel
  decision := evaluation.decision.word
  includes := evaluation.decision.includes
  continues := evaluation.decision.continues

/-- The cells of a row say what the account tells. -/
structure Agrees (account : Account) (cells : List (List CodePoint)) : Prop where
  /-- The labels are listed in ascending order, each once. -/
  ascending : account.labels.Pairwise (· < ·)
  /-- The decision is the one that gives the two answers. -/
  decision : account.decision = (Decision.of account.includes account.continues).word
  /-- The cells are the labels with commas between them, the depth, and three answers. -/
  cells : cells =
    [if account.labels.isEmpty then codePoints "(none)"
      else (codePoints ", ").intercalate (account.labels.map (·.points)),
      codePoints (toString account.depth), codePoints (if account.belowMinLevel then "yes" else "no"),
      codePoints (if account.includes then "include" else "exclude"),
      codePoints (if account.continues then "continue" else "prune")]

theorem agrees_evaluationRow (evaluation : Evaluation) :
    (ofEvaluation evaluation).Agrees (evaluationRow evaluation) where
  ascending := evaluation.sample.labels.texts.ascending
  decision := by
    rw [ofEvaluation, Decision.of_includes_continues]
  cells := by
    rw [evaluationRow, joinLabels, List.isEmpty_map]
    rfl

/-- The line of an evaluation gives its account. -/
theorem ofLine?_evaluationLine {evaluation : Evaluation}
    (few : Json.HasFewDigits evaluation.sample.depth) :
    ofLine? (evaluationLine evaluation) = some (ofEvaluation evaluation) := by
  have parsed := Json.parse_write (exact_evaluationValue few)
  rw [ofLine?, evaluationLine, parsed, evaluationValue]
  simp only [ofMembers?]
  rw [texts?_eq_some evaluation.sample.labels.texts.toList rfl,
    string?_eq_some evaluation.decision.word rfl]
  rfl

end Account

variable {evaluations : List Evaluation}

/-- Row by row, the table says what the JSON lines tell. -/
theorem agrees_evaluationLine
    (few : ∀ evaluation ∈ evaluations, Json.HasFewDigits evaluation.sample.depth) :
    List.Forall₂ (fun cells line => ∃ account, Account.ofLine? line = some account ∧
      account.Agrees cells) (evaluations.map evaluationRow) (evaluations.map evaluationLine) := by
  induction evaluations with
  | nil => exact .nil
  | cons first rest induction =>
      obtain ⟨first_few, rest_few⟩ := List.forall_mem_cons.mp few
      exact .cons ⟨_, Account.ofLine?_evaluationLine first_few, Account.agrees_evaluationRow first⟩
        (induction rest_few)

/-- The line tells of a result. -/
def tellsResult (line : List Char) : Bool := (Account.ofLine? line).any (·.includes)

theorem included_eq_countP
    (few : ∀ evaluation ∈ evaluations, Json.HasFewDigits evaluation.sample.depth) :
    included evaluations = (evaluations.map evaluationLine).countP tellsResult := by
  rw [included, List.countP_map]
  refine List.countP_congr fun evaluation member => ?_
  rw [Function.comp_apply, tellsResult, Account.ofLine?_evaluationLine (few evaluation member)]
  rfl

theorem evaluationsJson_eq_empty_iff : evaluationsJson evaluations = "" ↔ evaluations = [] := by
  rw [← String.toList_eq_nil_iff, toList_evaluationsJson, Text.terminated]
  cases evaluations <;> simp

theorem evaluationsText_eq_nil_iff {drawing : Drawing} :
    drawing.evaluationsText evaluations = [] ↔ evaluations = [] := by
  rw [Drawing.evaluationsText, ← List.isEmpty_iff (l := evaluations)]
  split
  · simp [*]
  · simp [*, codePoints]

/-- Whatever draws the table, both reports are empty only without evaluations. Otherwise the rows of
the table agree with the lines of the JSON report one by one, and the summary counts these lines. -/
theorem reports_agree {drawing : Drawing} (faithful : drawing.IsFaithful)
    (few : ∀ evaluation ∈ evaluations, Json.HasFewDigits evaluation.sample.depth) :
    (drawing.evaluationsText evaluations = [] ↔ evaluations = []) ∧
      (evaluationsJson evaluations = "" ↔ evaluations = []) ∧
      let jsonLines := Text.lines (evaluationsJson evaluations).toList
      let rows := evaluations.map evaluationRow
      List.Forall₂ (fun cells line => ∃ account, Account.ofLine? line = some account ∧
        account.Agrees cells) rows jsonLines ∧
      (evaluations ≠ [] → drawing.evaluationsText evaluations =
        drawing.table (["Labels", "Depth", "Below min level", "Result", "Walk"].map codePoints)
          rows ++ codePoints ("\n" ++
            summaryLine jsonLines.length (jsonLines.countP tellsResult) ++ "\n")) := by
  refine ⟨evaluationsText_eq_nil_iff, evaluationsJson_eq_empty_iff, ?_⟩
  rw [lines_evaluationsJson few]
  refine ⟨agrees_evaluationLine few, fun nonempty => ?_⟩
  rw [Drawing.evaluationsText, if_neg (mt List.isEmpty_iff.mp nonempty), faithful.summary_eq,
    included_eq_countP few, List.length_map]
  simp [codePoints_append, evaluationHeader]

/-- A node without labels above the start and a node whose labels need escapes. -/
theorem reports_agree_oddLabels :
    let evaluations : List Evaluation := [⟨⟨∅, -2⟩, true, .excludeContinue⟩,
      ⟨⟨.ofList ["😀", "\u2028\"", "A, B"], 10⟩, false, .includePrune⟩]
    let jsonLines := Text.lines (evaluationsJson evaluations).toList
    Drawing.barred.evaluationsText evaluations =
        Table.draw (["Labels", "Depth", "Below min level", "Result", "Walk"].map codePoints)
          ([["(none)", "-2", "yes", "exclude", "continue"],
            ["A, B, \u2028\", 😀", "10", "no", "include", "prune"]].map (·.map codePoints)) ++
          codePoints "\n2 nodes evaluated, 1 included\n" ∧
      jsonLines.countP tellsResult = 1 := by
  intro evaluations jsonLines
  have few : ∀ evaluation ∈ evaluations, Json.HasFewDigits evaluation.sample.depth := by
    decide +kernel
  obtain ⟨-, -, rows_agree, text_eq⟩ := reports_agree Drawing.isFaithful_barred few
  have rows_eq : evaluations.map evaluationRow =
      [["(none)", "-2", "yes", "exclude", "continue"],
        ["A, B, \u2028\", 😀", "10", "no", "include", "prune"]].map (·.map codePoints) := by
    decide +kernel
  have count_eq : jsonLines.countP tellsResult = 1 := by
    rw [show jsonLines = _ from lines_evaluationsJson few, ← included_eq_countP few]
    rfl
  have length_eq : jsonLines.length = 2 := rows_agree.length_eq.symm
  refine ⟨?_, count_eq⟩
  have text_eq := text_eq (List.cons_ne_nil _ _)
  rw [rows_eq, length_eq, count_eq] at text_eq
  exact text_eq

end Report

end WalkFilter
