import WalkFilter.Proofs.Filter.RawTokens

/-!
# Decisions read off raw tokens

The decision on a node can be read off the text of a filter by five rules in a fixed order. This
file states the rules over raw tokens and shows that the group of a filter follows them.
-/

namespace WalkFilter

namespace Raw

/-- The node carries one of the patterns. -/
def meets (labels patterns : List String) : Bool := labels.any fun label => patterns.contains label

/-- What the walk does with a node, read off tokens: `restricted` tells whether results are limited
to end nodes and terminators. -/
def decision (tokens : List String) (restricted : Bool) (node : List String) (below : Bool) :
    Decision :=
  if meets node (labels tokens .deny) then .excludePrune
  else if meets node (labels tokens .terminator) then
    if below then .excludeContinue else .includePrune
  else if meets node (labels tokens .endNode) then
    if below then .excludeContinue else .includeContinue
  else if (labels tokens .allow).isEmpty || meets node (labels tokens .allow) then
    if restricted || below then .excludeContinue else .includeContinue
  else .excludePrune

theorem meets_iff {node patterns : List String} :
    meets node patterns = true ↔ ∃ label ∈ node, label ∈ patterns := by
  simp [meets]

theorem meets_congr {node other patterns : List String}
    (same : ∀ label, label ∈ node ↔ label ∈ other) :
    meets node patterns = meets other patterns := by
  rw [Bool.eq_iff_iff, meets_iff, meets_iff]
  simp [same]

/-- The decision asks only which labels the node carries, not how they are listed. -/
theorem decision_congr {node other : List String} (same : ∀ label, label ∈ node ↔ label ∈ other)
    (tokens : List String) (restricted below : Bool) :
    decision tokens restricted node below = decision tokens restricted other below := by
  simp only [decision, meets_congr same]

end Raw

namespace Patterns

theorem hits_eq_meets {patterns : Patterns} {labels : List String}
    (same : ∀ label, label ∈ patterns.labels ↔ label ∈ labels) (node : List String) :
    patterns.hits node = Raw.meets node labels := by
  rw [Bool.eq_iff_iff, Raw.meets_iff, hits, List.any_eq_true]
  simp only [LabelSet.contains_iff, same]

theorem isEmpty_eq_isEmpty {patterns : Patterns} {labels : List String}
    (same : ∀ label, label ∈ patterns.labels ↔ label ∈ labels) :
    patterns.isEmpty = labels.isEmpty := by
  rw [Bool.eq_iff_iff, isEmpty, LabelSet.isEmpty_iff, List.isEmpty_iff,
    List.eq_nil_iff_forall_not_mem]
  simp only [same]

theorem isEmpty_eq_false_iff {patterns : Patterns} :
    patterns.isEmpty = false ↔ ∃ label, label ∈ patterns.labels := by
  rw [← Bool.not_eq_true, isEmpty, LabelSet.isEmpty_iff, not_forall_not]

end Patterns

namespace Group

/-- The patterns of the group are the labels that the tokens give to each operator. -/
def Holds (group : Group) (tokens : List String) : Prop :=
  ∀ operator label,
    label ∈ (group.patterns.get operator).labels ↔ label ∈ Raw.labels tokens operator

/-- A group decides as its tokens say. -/
theorem evaluate_eq_decision {group : Group} {tokens : List String} (holds : group.Holds tokens)
    (node : List String) (below : Bool) :
    group.evaluate node below = Raw.decision tokens group.endNodesOnly node below := by
  have hits (operator : Operator) :
      (group.patterns.get operator).hits node = Raw.meets node (Raw.labels tokens operator) :=
    Patterns.hits_eq_meets (holds operator) node
  have isEmpty : group.patterns.allow.isEmpty = (Raw.labels tokens .allow).isEmpty :=
    Patterns.isEmpty_eq_isEmpty (holds .allow)
  rw [evaluate, Raw.decision, isEmpty, ← hits .deny, ← hits .terminator, ← hits .endNode,
    ← hits .allow]
  rfl

end Group

theorem Builder.holds_build_addTokens (tokens : List String) :
    (({} : Builder).addTokens tokens).build.Holds tokens := by
  intro operator label
  exact Builder.mem_addTokens.trans (or_iff_right (Builder.not_mem_initial operator label))

theorem Group.ofFilter_eq_build (filter : Option String) :
    Group.ofFilter filter = (({} : Builder).addTokens (Raw.tokens filter)).build := by
  rw [Group.ofFilter, Builder.ofFilter, Builder.addLabels_eq_addTokens]

/-- The group of a filter decides on every node as the raw tokens of the filter say. -/
theorem evaluate_ofFilter (filter : Option String) (node : List String) (below : Bool) :
    (Group.ofFilter filter).evaluate node below =
      Raw.decision (Raw.tokens filter) (Raw.restricts (Raw.tokens filter)) node below := by
  have restricted : (Group.ofFilter filter).endNodesOnly = Raw.restricts (Raw.tokens filter) := by
    rw [Group.ofFilter_eq_build]
    exact (Builder.endNodesOnly_addTokens {} _).trans (Bool.false_or _)
  have holds : (Group.ofFilter filter).Holds (Raw.tokens filter) := by
    rw [Group.ofFilter_eq_build]
    exact Builder.holds_build_addTokens (Raw.tokens filter)
  rw [Group.evaluate_eq_decision holds, restricted]

end WalkFilter
