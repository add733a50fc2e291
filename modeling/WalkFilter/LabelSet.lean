/-!
# Label sets

A set of labels is kept as its labels in strictly ascending order of their code points, so two sets
with the same labels are equal and a set is listed in one way only. The labels are strings in a
filter, and texts in which halves of surrogate pairs may stand alone in a node list.
-/

namespace WalkFilter

/-- A finite set of labels. -/
structure LabelSet (Label : Type) [LT Label] where
  /-- The labels in ascending order, each once. -/
  toList : List Label
  /-- The order is strict. -/
  ascending : toList.Pairwise (· < ·)
deriving DecidableEq, Repr

namespace LabelSet

variable {Label : Type} [LT Label]

/-- The label is in the set. -/
def contains [DecidableEq Label] (labels : LabelSet Label) (label : Label) : Bool :=
  labels.toList.contains label

instance : Membership Label (LabelSet Label) where
  mem labels label := label ∈ labels.toList

instance [DecidableEq Label] (label : Label) (labels : LabelSet Label) :
    Decidable (label ∈ labels) :=
  inferInstanceAs (Decidable (label ∈ labels.toList))

/-- The set without labels. -/
def empty : LabelSet Label := ⟨[], .nil⟩

instance : EmptyCollection (LabelSet Label) := ⟨empty⟩

instance : Inhabited (LabelSet Label) := ⟨empty⟩

/-- The set has no labels. -/
def isEmpty (labels : LabelSet Label) : Bool := labels.toList.isEmpty

/-- The number of labels. -/
def size (labels : LabelSet Label) : Nat := labels.toList.length

variable [DecidableLT Label]

/-- Puts a label at its place in an ascending list, unless it is there already. -/
def insertSorted (label : Label) : List Label → List Label
  | [] => [label]
  | first :: rest =>
    if label < first then label :: first :: rest
    else if first < label then first :: insertSorted label rest
    else first :: rest

variable [LE Label] [Std.IsLinearOrder Label] [Std.LawfulOrderLT Label]

theorem mem_insertSorted {label other : Label} {labels : List Label} :
    other ∈ insertSorted label labels ↔ other = label ∨ other ∈ labels := by
  induction labels with
  | nil => simp [insertSorted]
  | cons first rest induction =>
    simp only [insertSorted]
    split
    · simp
    · split
      · simp only [List.mem_cons, induction]
        grind
      · rename_i not_less not_greater
        have same : first = label :=
          Std.le_antisymm (Std.not_lt.mp not_less) (Std.not_lt.mp not_greater)
        simp [same]

theorem pairwise_insertSorted {label : Label} {labels : List Label}
    (ascending : labels.Pairwise (· < ·)) : (insertSorted label labels).Pairwise (· < ·) := by
  induction labels with
  | nil => simp [insertSorted]
  | cons first rest induction =>
    obtain ⟨first_least, rest_ascending⟩ := List.pairwise_cons.mp ascending
    simp only [insertSorted]
    split
    · rename_i less
      refine List.pairwise_cons.mpr ⟨fun other member => ?_, ascending⟩
      rcases List.mem_cons.mp member with rfl | member
      · exact less
      · exact Std.lt_trans less (first_least other member)
    · split
      · rename_i greater
        refine List.pairwise_cons.mpr ⟨fun other member => ?_, induction rest_ascending⟩
        rcases mem_insertSorted.mp member with rfl | member
        · exact greater
        · exact first_least other member
      · exact ascending

/-- The set with one more label. -/
def insert (label : Label) (labels : LabelSet Label) : LabelSet Label :=
  ⟨insertSorted label labels.toList, pairwise_insertSorted labels.ascending⟩

/-- The set of the labels in a list. -/
def ofList (labels : List Label) : LabelSet Label :=
  labels.foldl (fun set label => set.insert label) ∅

/-- A label is in the larger set if it is the new one or an old one. -/
theorem mem_insert {label other : Label} {labels : LabelSet Label} :
    other ∈ labels.insert label ↔ other = label ∨ other ∈ labels :=
  mem_insertSorted

end LabelSet

end WalkFilter
