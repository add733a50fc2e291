import WalkFilter.CodeText
import WalkFilter.Filter.Group
import WalkFilter.Text.Blank
import WalkFilter.Text.Split

/-!
# Node samples

A sample stands for a node of a walk: its labels and the length of the path that leads to it. An
evaluation is a sample with the decision that a group reaches for it. A label of a node may hold
halves of surrogate pairs that stand alone; then it is no string, and so no pattern of a group.
-/

namespace WalkFilter

/-- The labels of a node. -/
structure NodeLabels where
  /-- The labels as a set of texts. -/
  texts : LabelSet CodeText
deriving DecidableEq, Repr

namespace NodeLabels

/-- The set of the labels in a list of texts. -/
def ofTexts (labels : List CodeText) : NodeLabels := ⟨.ofList labels⟩

/-- The set of the labels in a list of strings. -/
def ofList (labels : List String) : NodeLabels := ofTexts (labels.map CodeText.ofString)

/-- The labels that are strings, in ascending order. -/
def toList (labels : NodeLabels) : List String := labels.texts.toList.filterMap CodeText.string?

instance : EmptyCollection NodeLabels := ⟨⟨∅⟩⟩

end NodeLabels

/-- A node to evaluate. -/
structure Sample where
  /-- The labels of the node. -/
  labels : NodeLabels
  /-- The length of the path that leads to the node. -/
  depth : Int := 0
deriving DecidableEq, Repr

/-- The labels between the commas of a text, without the blanks around them. Empty entries are
dropped. -/
def labelList (text : String) : LabelSet String :=
  .ofList (((Text.splitAt ',' text.toList).map Text.strip).filterMap fun label =>
    if label.isEmpty then none else some (String.ofList label))

/-- A node at this depth is too close to the start to be a result. -/
def isBelow (depth minLevel : Int) : Bool := depth < minLevel

/-- A sample and what a walk does with it. -/
structure Evaluation where
  /-- The node. -/
  sample : Sample
  /-- The node is below the minimum level. -/
  belowMinLevel : Bool
  /-- What the walk does with it. -/
  decision : Decision
deriving DecidableEq, Repr

namespace Group

/-- Evaluates a sample. Without a minimum level no sample is below it. -/
def evaluateSample (group : Group) (minLevel : Option Int) (sample : Sample) : Evaluation :=
  let below := minLevel.any (isBelow sample.depth ·)
  ⟨sample, below, group.evaluate sample.labels.toList below⟩

/-- Evaluates samples in order. -/
def evaluateSamples (group : Group) (minLevel : Option Int) (samples : List Sample) :
    List Evaluation :=
  samples.map (group.evaluateSample minLevel)

/-- Each sample has one evaluation, in order. -/
theorem map_sample_evaluateSamples (group : Group) (minLevel : Option Int)
    (samples : List Sample) :
    (group.evaluateSamples minLevel samples).map (·.sample) = samples := by
  rw [evaluateSamples, List.map_map]
  exact List.map_id samples

end Group

end WalkFilter
