import WalkFilter.Proofs.Node.Listing

/-!
# Labels between commas

The labels of a node can be written in one text, with commas between them. Such a text gives exactly
the sets of labels that neither are empty nor hold a comma nor start or end with a blank. Each of
these sets can be written in many ways: blanks around the labels, blank entries between them, their
order and repetitions make no difference.
-/

namespace WalkFilter

namespace Raw

/-- A label that can stand between commas. -/
structure IsListable (label : String) : Prop where
  /-- It is not empty. -/
  nonempty : label ≠ ""
  /-- It holds no comma. -/
  no_comma : ',' ∉ label.toList
  /-- It neither starts nor ends with a blank. -/
  stripped : Text.Stripped label.toList

instance (label : String) : Decidable (IsListable label) :=
  decidable_of_iff (label ≠ "" ∧ ',' ∉ label.toList ∧ Text.Stripped label.toList)
    ⟨fun ⟨nonempty, no_comma, stripped⟩ => ⟨nonempty, no_comma, stripped⟩,
      fun ⟨nonempty, no_comma, stripped⟩ => ⟨nonempty, no_comma, stripped⟩⟩

/-- The entries hold the labels in order, each between blanks, and nothing else but blanks. -/
inductive HoldsLabels : List String → List String → Prop where
  | nil : HoldsLabels [] []
  | label {label before after : String} {labels entries : List String}
    (before_blank : Text.AllBlank before.toList) (after_blank : Text.AllBlank after.toList)
    (behind : HoldsLabels labels entries) :
    HoldsLabels (label :: labels) ((before ++ label ++ after) :: entries)
  | blanks {blanks : String} {labels entries : List String}
    (all_blank : Text.AllBlank blanks.toList) (behind : HoldsLabels labels entries) :
    HoldsLabels labels (blanks :: entries)

/-! ## Reading entries -/

/-- The labels of the entries between commas. -/
def entryLabels (entries : List (List Char)) : List String :=
  ((entries.map Text.strip).filter (· ≠ [])).map String.ofList

theorem labelsBetweenCommas_eq (text : String) :
    labelsBetweenCommas text = entryLabels (text.toList.splitOn ',') := rfl

theorem entryLabels_append (left right : List (List Char)) :
    entryLabels (left ++ right) = entryLabels left ++ entryLabels right := by
  simp only [entryLabels, List.map_append, List.filter_append]

theorem mem_entryLabels {entries : List (List Char)} {label : String} :
    label ∈ entryLabels entries ↔ label ≠ "" ∧ ∃ entry ∈ entries, Text.strip entry = label.toList := by
  simp only [entryLabels, List.mem_map, List.mem_filter, decide_eq_true_eq]
  constructor
  · rintro ⟨_, ⟨⟨entry, member, rfl⟩, nonempty⟩, rfl⟩
    exact ⟨by simpa using nonempty, entry, member, String.toList_ofList.symm⟩
  · rintro ⟨nonempty, entry, member, strip_eq⟩
    refine ⟨label.toList, ⟨⟨entry, member, strip_eq⟩, by simpa using nonempty⟩, ?_⟩
    exact String.ofList_toList

theorem labelsBetweenCommas_append_comma (left right : String) :
    labelsBetweenCommas (left ++ "," ++ right) =
      labelsBetweenCommas left ++ labelsBetweenCommas right := by
  have comma : ",".toList = [','] := by decide
  simp only [labelsBetweenCommas_eq, String.toList_append, comma, List.append_assoc,
    List.singleton_append, Text.splitOn_append_cons, entryLabels_append]

/-- Whatever stands between commas gives labels that can stand there. -/
theorem isListable_of_mem {text label : String} (member : label ∈ labelsBetweenCommas text) :
    IsListable label := by
  obtain ⟨nonempty, entry, entry_mem, strip_eq⟩ := mem_entryLabels.mp member
  refine ⟨nonempty, fun comma => ?_, strip_eq ▸ Text.stripped_strip entry⟩
  rw [← strip_eq] at comma
  exact Text.not_mem_of_mem_splitOn entry_mem ((Text.strip_infix entry).subset comma)

/-! ## Writing entries -/

theorem comma_not_mem_blanks {text : List Char} (all_blank : Text.AllBlank text) : ',' ∉ text := by
  intro member
  have comma_visible : Text.blank.contains ',' = false := by decide
  rw [all_blank ',' member] at comma_visible
  cases comma_visible

/-- Entries that hold labels give these labels. -/
theorem HoldsLabels.entryLabels_eq {labels entries : List String} (holds : HoldsLabels labels entries)
    (listable : ∀ label ∈ labels, IsListable label) :
    entryLabels (entries.map String.toList) = labels ∧ ∀ entry ∈ entries, ',' ∉ entry.toList := by
  induction holds with
  | nil => exact ⟨rfl, List.forall_mem_nil _⟩
  | @label label before after labels entries before_blank after_blank behind induction =>
      obtain ⟨first, others⟩ := List.forall_mem_cons.mp listable
      obtain ⟨behind_eq, behind_unbroken⟩ := induction others
      have strip_eq : Text.strip (before ++ label ++ after).toList = label.toList := by
        rw [String.toList_append, String.toList_append]
        exact Text.strip_padded before_blank first.stripped after_blank
      have nonempty : label.toList ≠ [] := by simpa using first.nonempty
      refine ⟨?_, List.forall_mem_cons.mpr ⟨?_, behind_unbroken⟩⟩
      · rw [entryLabels] at behind_eq
        rw [entryLabels, List.map_cons, List.map_cons, strip_eq,
          List.filter_cons_of_pos (by simpa using nonempty), List.map_cons, behind_eq,
          String.ofList_toList]
      · simp only [String.toList_append, List.mem_append, not_or]
        exact ⟨⟨comma_not_mem_blanks before_blank, first.no_comma⟩,
          comma_not_mem_blanks after_blank⟩
  | blanks all_blank behind induction =>
      obtain ⟨behind_eq, behind_unbroken⟩ := induction listable
      refine ⟨?_, List.forall_mem_cons.mpr ⟨comma_not_mem_blanks all_blank, behind_unbroken⟩⟩
      rw [entryLabels] at behind_eq
      rw [entryLabels, List.map_cons, List.map_cons, Text.strip_eq_nil_iff.mpr all_blank,
        List.filter_cons_of_neg (by simp), behind_eq]

theorem HoldsLabels.labelsBetweenCommas_eq {labels entries : List String}
    (holds : HoldsLabels labels entries) (listable : ∀ label ∈ labels, IsListable label) :
    labelsBetweenCommas (",".intercalate entries) = labels := by
  obtain ⟨labels_eq, unbroken⟩ := holds.entryLabels_eq listable
  have comma : ",".toList = [','] := by decide
  rw [Raw.labelsBetweenCommas_eq, String.toList_intercalate, comma]
  by_cases empty : entries = []
  · subst empty
    cases holds
    rfl
  · rw [List.splitOn_intercalate ',' (List.forall_mem_map.mpr unbroken) (by simpa using empty),
      labels_eq]

/-- Labels may stand without any blanks. -/
theorem holdsLabels_self (labels : List String) : HoldsLabels labels labels := by
  induction labels with
  | nil => exact .nil
  | cons label rest induction =>
      have none_blank : Text.AllBlank "".toList := List.forall_mem_nil _
      have holds := @HoldsLabels.label label "" "" rest rest none_blank none_blank induction
      rwa [String.empty_append, String.append_empty] at holds

end Raw

theorem mem_labelList {text label : String} :
    label ∈ labelList text ↔ label ∈ Raw.labelsBetweenCommas text := by
  rw [labelList_eq_ofList, LabelSet.mem_ofList]

/-- Entries that hold the labels of a set, in any order and number, give the set. -/
theorem labelList_of_holdsLabels {set : LabelSet String} {labels entries : List String}
    (listable : ∀ label ∈ set, Raw.IsListable label) (same : ∀ label, label ∈ labels ↔ label ∈ set)
    (holds : Raw.HoldsLabels labels entries) : labelList (",".intercalate entries) = set := by
  refine LabelSet.eq_of_mem_iff fun label => ?_
  rw [mem_labelList, holds.labelsBetweenCommas_eq fun label member =>
    listable label ((same label).mp member), same]

/-- A comma joins two texts of labels into one that gives the labels of both. A set of labels has a
text exactly if each of its labels can stand between commas, and then it has all of these: its labels
in any order, and repeated, with blanks around them and blank entries anywhere. So the labels of a
text, joined by commas, have the same labels again. -/
theorem labelList_exact :
    (∀ left right label, label ∈ labelList (left ++ "," ++ right) ↔
      label ∈ labelList left ∨ label ∈ labelList right) ∧
    (∀ set : LabelSet String, (∃ text, labelList text = set) ↔ ∀ label ∈ set, Raw.IsListable label) ∧
    (∀ set : LabelSet String, (∀ label ∈ set, Raw.IsListable label) →
      ∀ labels entries, (∀ label, label ∈ labels ↔ label ∈ set) → Raw.HoldsLabels labels entries →
        labelList (",".intercalate entries) = set) ∧
    ∀ text, labelList (",".intercalate (labelList text).toList) = labelList text := by
  have given (text : String) : ∀ label ∈ labelList text, Raw.IsListable label :=
    fun _ member => Raw.isListable_of_mem (mem_labelList.mp member)
  have joined {set : LabelSet String} (listable : ∀ label ∈ set, Raw.IsListable label) :
      labelList (",".intercalate set.toList) = set :=
    labelList_of_holdsLabels listable (fun _ => Iff.rfl) (Raw.holdsLabels_self set.toList)
  refine ⟨fun left right label => ?_, fun set => ⟨?_, fun listable => ⟨_, joined listable⟩⟩, ?_,
    fun text => joined (given text)⟩
  · simp only [mem_labelList, Raw.labelsBetweenCommas_append_comma, List.mem_append]
  · rintro ⟨text, rfl⟩
    exact given text
  · intro set listable labels entries same holds
    exact labelList_of_holdsLabels listable same holds

/-- Labels with a blank and a bar inside, in descending order and repeated, among typographic blanks,
a separator and entries of nothing else. -/
theorem labelList_exact_typographicBlanks :
    let set := LabelSet.ofList ["a b", "x|y"]
    let entries := ["\u2003x|y\t", "", "\x1C\n", " a b\u3000", "x|y", " "]
    (∀ label ∈ set, Raw.IsListable label) ∧ labelList (",".intercalate entries) = set := by
  intro set entries
  have listable : ∀ label ∈ set, Raw.IsListable label := by decide +kernel
  have blank : ∀ text ∈ ["", " ", "\t", "\x1C\n", "\u2003", "\u3000"], Text.AllBlank text.toList := by
    decide +kernel
  have last : Raw.HoldsLabels ["x|y"] ["x|y", " "] :=
    @Raw.HoldsLabels.label _ "" "" _ _ (blank "" (by simp)) (blank "" (by simp))
      (.blanks (blank " " (by simp)) .nil)
  have middle : Raw.HoldsLabels ["a b", "x|y"] [" a b\u3000", "x|y", " "] :=
    @Raw.HoldsLabels.label _ " " "\u3000" _ _ (blank " " (by simp)) (blank "\u3000" (by simp)) last
  have holds : Raw.HoldsLabels ["x|y", "a b", "x|y"] entries :=
    @Raw.HoldsLabels.label _ "\u2003" "\t" _ _ (blank "\u2003" (by simp)) (blank "\t" (by simp))
      (.blanks (blank "" (by simp)) (.blanks (blank "\x1C\n" (by simp)) middle))
  refine ⟨listable, labelList_exact.2.2.1 set listable _ entries (fun label => ?_) holds⟩
  rw [LabelSet.mem_ofList]
  simp only [List.mem_cons, List.not_mem_nil, or_false]
  tauto

end WalkFilter
