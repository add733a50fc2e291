import WalkFilter.Proofs.Json.RoundTrip
import WalkFilter.Proofs.Node.Written
import WalkFilter.Report.JsonLines

/-!
# Reports as node lists

A report in JSON has one line for each evaluation, whatever its labels hold. Read as a node list, it
gives the nodes that were evaluated, so evaluating them again writes the same report.
-/

namespace WalkFilter.Report

/-- The line of an evaluation without its break. -/
def evaluationLine (evaluation : Evaluation) : List Char :=
  Json.write (evaluationValue evaluation)

theorem toList_evaluationsJson (evaluations : List Evaluation) :
    (evaluationsJson evaluations).toList = Text.terminated (evaluations.map evaluationLine) := by
  induction evaluations with
  | nil => rfl
  | cons first rest induction =>
      have line_eq : (jsonLine (evaluationValue first)).toList = evaluationLine first ++ ['\n'] :=
        String.toList_ofList
      rw [evaluationsJson, List.map_cons, String.join_cons, String.toList_append, line_eq]
      exact congrArg (evaluationLine first ++ ['\n'] ++ ·) induction

theorem exact_labelsJson (labels : List CodeText) : (labelsJson labels).Exact := by
  refine .array fun element member => ?_
  obtain ⟨label, -, rfl⟩ := List.mem_map.mp member
  exact .string label

theorem exact_evaluationValue {evaluation : Evaluation}
    (few : Json.HasFewDigits evaluation.sample.depth) : (evaluationValue evaluation).Exact := by
  refine .object fun member inside => ?_
  simp only [List.mem_cons, List.not_mem_nil, or_false] at inside
  rcases inside with rfl | rfl | rfl | rfl | rfl | rfl | rfl
  · exact .string _
  · exact exact_labelsJson _
  · exact .integer few
  · exact .bool _
  · exact .string _
  · exact .bool _
  · exact .bool _

section

variable {evaluation : Evaluation}

theorem isPlain_of_mem_evaluationLine (few : Json.HasFewDigits evaluation.sample.depth) :
    ∀ char ∈ evaluationLine evaluation, Json.IsPlain char :=
  Json.isPlain_of_mem_write (exact_evaluationValue few)

theorem not_lineBreak_evaluationLine (few : Json.HasFewDigits evaluation.sample.depth) :
    ∀ char ∈ evaluationLine evaluation, char ∉ Text.lineBreak :=
  fun char member => (isPlain_of_mem_evaluationLine few char member).not_lineBreak

theorem hasText_evaluationLine (few : Json.HasFewDigits evaluation.sample.depth) :
    Raw.hasText (String.ofList (evaluationLine evaluation)) = true :=
  hasText_ofList (Json.brace_mem_of_layout (Json.layout_write (exact_evaluationValue few))
    List.mem_cons_self) rfl

theorem ofLine_evaluationLine (nonnegative : 0 ≤ evaluation.sample.depth)
    (few : Json.HasFewDigits evaluation.sample.depth) (default : Json.Value) :
    Sample.ofLine default (String.ofList (evaluationLine evaluation)) =
      .ok evaluation.sample := by
  have parsed := Json.parse_write (exact_evaluationValue few)
  have sample_eq : (⟨.ofTexts evaluation.sample.labels.texts.toList, evaluation.sample.depth⟩ :
      Sample) = evaluation.sample := by
    rw [NodeLabels.ofTexts_toList]
  rw [Sample.ofLine, String.toList_ofList, evaluationLine, parsed, ← sample_eq]
  exact Sample.ofMembers_eq_ok default rfl rfl nonnegative

end

/-- The lines of evaluations are the nodes that were evaluated. -/
theorem areNodes_evaluationLine {evaluations : List Evaluation}
    (nonnegative : ∀ evaluation ∈ evaluations, 0 ≤ evaluation.sample.depth)
    (few : ∀ evaluation ∈ evaluations, Json.HasFewDigits evaluation.sample.depth)
    (default : Json.Value) :
    Listing.AreNodes default ((evaluations.map evaluationLine).map String.ofList)
      (evaluations.map (·.sample)) := by
  induction evaluations with
  | nil => exact .nil
  | cons first rest induction =>
      obtain ⟨first_nonnegative, others_nonnegative⟩ := List.forall_mem_cons.mp nonnegative
      obtain ⟨first_few, others_few⟩ := List.forall_mem_cons.mp few
      exact .cons ⟨hasText_evaluationLine first_few,
        ofLine_evaluationLine first_nonnegative first_few default⟩
        (induction others_nonnegative others_few)

theorem lines_evaluationsJson {evaluations : List Evaluation}
    (few : ∀ evaluation ∈ evaluations, Json.HasFewDigits evaluation.sample.depth) :
    Text.lines (evaluationsJson evaluations).toList = evaluations.map evaluationLine := by
  rw [toList_evaluationsJson]
  refine Text.lines_terminated fun line member => ?_
  obtain ⟨evaluation, inside, rfl⟩ := List.mem_map.mp member
  exact not_lineBreak_evaluationLine (few evaluation inside)

/-- A report in JSON has one line for each evaluation and is read as the list of the evaluated
nodes, whatever the default depth. Evaluating them again gives the same report. -/
theorem read_evaluationsJson {evaluations : List Evaluation}
    (nonnegative : ∀ evaluation ∈ evaluations, 0 ≤ evaluation.sample.depth)
    (few : ∀ evaluation ∈ evaluations, Json.HasFewDigits evaluation.sample.depth) :
    Text.lines (evaluationsJson evaluations).toList = evaluations.map evaluationLine ∧
      ∀ (source : String) (default : Json.Value),
        let listing := Listing.read source default
          ((Text.lines (evaluationsJson evaluations).toList).map String.ofList)
        listing = ⟨evaluations.map (·.sample), none⟩ ∧
          ∀ (group : Group) (minLevel : Option Int) (samples : List Sample),
            evaluations = group.evaluateSamples minLevel samples →
            evaluationsJson (group.evaluateSamples minLevel listing.samples) =
              evaluationsJson evaluations := by
  refine ⟨lines_evaluationsJson few, fun source default => ?_⟩
  have read : Listing.read source default
      ((Text.lines (evaluationsJson evaluations).toList).map String.ofList) =
        ⟨evaluations.map (·.sample), none⟩ := by
    rw [lines_evaluationsJson few]
    exact Listing.readFrom_of_areNodes (areNodes_evaluationLine nonnegative few default) source 1
  refine ⟨read, ?_⟩
  rintro group minLevel samples rfl
  rw [read, Group.map_sample_evaluateSamples]

/-- A node with labels that need every kind of escape, evaluated by a group without patterns. -/
theorem read_evaluationsJson_oddLabels :
    let samples : List Sample :=
      [⟨.ofList ["", "\"\\", "a\nb\u0000", "\u0085\u2028", "😀"], 3⟩, ⟨∅, 0⟩]
    let report := evaluationsJson ((⟨⟨∅, ∅, ∅, ∅⟩, false⟩ : Group).evaluateSamples (some 1) samples)
    (Text.lines report.toList).length = 2 ∧
      Listing.read "report" .null ((Text.lines report.toList).map String.ofList) =
        ⟨samples, none⟩ := by
  intro samples report
  have read := @read_evaluationsJson
    ((⟨⟨∅, ∅, ∅, ∅⟩, false⟩ : Group).evaluateSamples (some 1) samples) (by decide) (by decide)
  refine ⟨?_, ?_⟩
  · rw [read.1]
    rfl
  · rw [(read.2 "report" .null).1, Group.map_sample_evaluateSamples]

end WalkFilter.Report
