import Mathlib.Data.List.Sort
import WalkFilter.Node.Sample
import WalkFilter.Proofs.CodeText

/-!
# Membership in label sets

A label set is determined by its members: the list that it keeps is the only ascending list of them.
The labels of a node are such a set of texts, and a string is one of them if its text is.
-/

namespace WalkFilter

/-- The list names the labels in strictly ascending order. -/
structure ListsInOrder {Label : Type} [LT Label] (listed labels : List Label) : Prop where
  /-- No label is listed twice. -/
  ascending : listed.Pairwise (· < ·)
  /-- The labels are listed, and nothing else. -/
  same : ∀ label, label ∈ listed ↔ label ∈ labels

namespace LabelSet

section

variable {Label : Type} [LT Label]

theorem contains_iff [DecidableEq Label] {labels : LabelSet Label} {label : Label} :
    labels.contains label = true ↔ label ∈ labels :=
  List.contains_iff_mem

@[simp]
theorem not_mem_empty (label : Label) : label ∉ (∅ : LabelSet Label) := List.not_mem_nil

theorem isEmpty_iff {labels : LabelSet Label} :
    labels.isEmpty = true ↔ ∀ label, label ∉ labels :=
  List.isEmpty_iff.trans List.eq_nil_iff_forall_not_mem

theorem listsInOrder {set : LabelSet Label} {labels : List Label}
    (same : ∀ label, label ∈ set ↔ label ∈ labels) : ListsInOrder set.toList labels :=
  ⟨set.ascending, same⟩

end

variable {Label : Type} [LT Label] [LE Label] [Std.IsLinearOrder Label] [Std.LawfulOrderLT Label]

/-- Whatever ascending list names the members of a set, it is the list that the set keeps. -/
theorem toList_eq {set : LabelSet Label} {labels : List Label}
    (ascending : labels.Pairwise (· < ·)) (same : ∀ label, label ∈ set ↔ label ∈ labels) :
    set.toList = labels := by
  have distinct {label other : Label} (less : label < other) : label ≠ other :=
    fun equal => Std.lt_irrefl (equal ▸ less)
  have permutation : set.toList.Perm labels :=
    (List.perm_ext_iff_of_nodup (set.ascending.imp distinct) (ascending.imp distinct)).mpr same
  exact permutation.eq_of_pairwise
    (fun _ _ _ _ less greater => absurd (Std.lt_trans less greater) Std.lt_irrefl)
    set.ascending ascending

/-- Sets with the same members are equal. -/
theorem eq_of_mem_iff {left right : LabelSet Label}
    (same : ∀ label, label ∈ left ↔ label ∈ right) : left = right := by
  have lists_eq : left.toList = right.toList := toList_eq right.ascending same
  cases left
  cases right
  cases lists_eq
  rfl

variable [DecidableLT Label]

private theorem mem_foldl_insert {label : Label} {set : LabelSet Label} {labels : List Label} :
    label ∈ labels.foldl (fun set label => set.insert label) set ↔
      label ∈ set ∨ label ∈ labels := by
  induction labels generalizing set with
  | nil => simp
  | cons first rest induction =>
      rw [List.foldl_cons, induction, mem_insert, List.mem_cons]
      tauto

theorem mem_ofList {label : Label} {labels : List Label} :
    label ∈ ofList labels ↔ label ∈ labels := by
  rw [ofList, mem_foldl_insert]
  simp

/-- A set is the set of the labels that it lists. -/
theorem ofList_toList (set : LabelSet Label) : ofList set.toList = set :=
  eq_of_mem_iff fun _ => mem_ofList

end LabelSet

namespace NodeLabels

/-- The labels of a node are the set of the texts that they list. -/
theorem ofTexts_toList (labels : NodeLabels) : ofTexts labels.texts.toList = labels :=
  congrArg NodeLabels.mk (LabelSet.ofList_toList labels.texts)

theorem mem_toList {labels : NodeLabels} {label : String} :
    label ∈ labels.toList ↔ (label : CodeText) ∈ labels.texts := by
  rw [toList, List.mem_filterMap]
  constructor
  · rintro ⟨text, member, is_string⟩
    exact CodeText.string?_eq_some_iff.mp is_string ▸ member
  · exact fun member => ⟨label, member, CodeText.string?_ofString label⟩

theorem mem_toList_ofTexts {texts : List CodeText} {label : String} :
    label ∈ (ofTexts texts).toList ↔ (label : CodeText) ∈ texts :=
  mem_toList.trans LabelSet.mem_ofList

end NodeLabels

end WalkFilter
