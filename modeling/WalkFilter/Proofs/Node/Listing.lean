import Mathlib.Data.List.Forall2
import WalkFilter.Node.Listing
import WalkFilter.Proofs.LabelSet
import WalkFilter.Proofs.Text.Blank
import WalkFilter.Proofs.Text.Split

/-!
# Node lists, line by line

A node can be written between commas or as a JSON object on a line. This file says what node either
text describes, and shows that a node list gives the nodes of its lines in order, or points to the
first line that is no node.
-/

namespace WalkFilter

namespace Raw

/-- A node as it is written: labels in any order, perhaps repeated, and a depth. -/
structure Node where
  /-- The labels. -/
  labels : List CodeText
  /-- The depth. -/
  depth : Int

/-- The sample that stands for a node. -/
def Node.sample (node : Node) : Sample := ⟨.ofTexts node.labels, node.depth⟩

/-- The labels between commas, without the blanks around them and without empty ones. -/
def labelsBetweenCommas (text : String) : List String :=
  (((text.toList.splitOn ',').map Text.strip).filter (· ≠ [])).map String.ofList

/-- The members of an object describe the node: its labels are none if the object lists none, and
its depth is the default if the object gives none. -/
structure Node.OfMembers (default : Int) (members : List (CodeText × Json.Value)) (node : Node) :
    Prop where
  /-- The labels are a list of strings. -/
  labels : Json.member? "labels" members = some (.array (node.labels.map .string)) ∨
    Json.member? "labels" members = none ∧ node.labels = []
  /-- The depth is an integer. -/
  depth : Json.member? "depth" members = some (.integer node.depth) ∨
    Json.member? "depth" members = none ∧ node.depth = default

/-- The line holds an object that describes the node. -/
def Node.OfLine (default : Int) (line : String) (node : Node) : Prop :=
  ∃ members, Json.parse line.toList = .ok (.object members) ∧ node.OfMembers default members

/-- The line holds something besides blanks. -/
def hasText (line : String) : Bool := line.toList.any fun char => !Text.blank.contains char

end Raw

theorem labelList_eq_ofList (text : String) :
    labelList text = .ofList (Raw.labelsBetweenCommas text) := by
  rw [labelList, Raw.labelsBetweenCommas, Text.splitAt_eq_splitOn]
  congr 1
  induction (text.toList.splitOn ',').map Text.strip with
  | nil => rfl
  | cons label rest induction =>
      cases label with
      | nil => simpa using induction
      | cons char chars => simpa using induction

theorem Listing.isBlankLine_eq_not_hasText (line : String) :
    isBlankLine line = !Raw.hasText line := by
  rw [Bool.eq_iff_iff, isBlankLine, List.isEmpty_iff, Text.strip_eq_nil_iff]
  simp [Raw.hasText]

namespace Sample

theorem mapM_text?_eq_some_iff {elements : List Json.Value} {labels : List CodeText} :
    elements.mapM Json.Value.text? = some labels ↔ elements = labels.map .string := by
  induction elements generalizing labels with
  | nil => cases labels <;> simp
  | cons element rest induction =>
      cases element <;> cases labels <;>
        simp [Json.Value.text?, Option.bind_eq_some_iff, induction, and_comm]

theorem labels?_eq_some_iff {value : Json.Value} {set : NodeLabels} :
    labels? value = some set ↔
      ∃ labels : List CodeText, value = .array (labels.map .string) ∧ set = .ofTexts labels := by
  cases value with
  | array elements =>
      simp only [labels?, Option.map_eq_some_iff, mapM_text?_eq_some_iff, Json.Value.array.injEq]
      constructor
      · rintro ⟨labels, listed, rfl⟩
        exact ⟨labels, listed, rfl⟩
      · rintro ⟨labels, listed, rfl⟩
        exact ⟨labels, listed, rfl⟩
  | null | bool | integer | decimal | string | object => simp [labels?]

theorem depth?_eq_some_iff {value : Json.Value} {depth : Int} :
    depth? value = some depth ↔ value = .integer depth ∧ 0 ≤ depth := by
  cases value with
  | integer given =>
      simp only [depth?, Json.Value.integer.injEq]
      split <;> grind
  | null | bool | decimal | string | array | object => simp [depth?]

theorem getD_labels_iff {value? : Option Json.Value} {labels : List CodeText} :
    value?.getD (.array []) = .array (labels.map .string) ↔
      value? = some (.array (labels.map .string)) ∨ value? = none ∧ labels = [] := by
  rw [Option.getD_eq_iff, Json.Value.array.injEq, List.nil_eq, List.map_eq_nil_iff]

theorem getD_depth_iff {value? : Option Json.Value} {default depth : Int} :
    value?.getD (.integer default) = .integer depth ↔
      value? = some (.integer depth) ∨ value? = none ∧ depth = default := by
  rw [Option.getD_eq_iff, Json.Value.integer.injEq, eq_comm (a := default)]

theorem ofMembers_eq_ok_iff {default : Int} {members : List (CodeText × Json.Value)}
    {sample : Sample} :
    ofMembers (.integer default) members = .ok sample ↔
      ∃ node : Raw.Node, node.OfMembers default members ∧ 0 ≤ node.depth ∧
        sample = node.sample := by
  rw [ofMembers]
  constructor
  · intro read
    split at read
    · cases read
    · rename_i set labels_read
      split at read
      · cases read
      · rename_i depth depth_read
        obtain rfl := Except.ok.inj read
        obtain ⟨labels, labels_given, rfl⟩ := labels?_eq_some_iff.mp labels_read
        obtain ⟨depth_given, nonnegative⟩ := depth?_eq_some_iff.mp depth_read
        exact ⟨⟨labels, depth⟩, ⟨getD_labels_iff.mp labels_given, getD_depth_iff.mp depth_given⟩,
          nonnegative, rfl⟩
  · rintro ⟨node, described, nonnegative, rfl⟩
    have labels_read : labels? ((Json.member? "labels" members).getD (.array [])) =
        some (.ofTexts node.labels) :=
      labels?_eq_some_iff.mpr ⟨node.labels, getD_labels_iff.mpr described.labels, rfl⟩
    have depth_read : depth? ((Json.member? "depth" members).getD (.integer default)) =
        some node.depth :=
      depth?_eq_some_iff.mpr ⟨getD_depth_iff.mpr described.depth, nonnegative⟩
    rw [labels_read, depth_read]
    rfl

/-- A line is read as the node that it describes, if its depth is not negative. -/
theorem ofLine_eq_ok_iff {default : Int} {line : String} {sample : Sample} :
    ofLine (.integer default) line = .ok sample ↔
      ∃ node : Raw.Node, node.OfLine default line ∧ 0 ≤ node.depth ∧ sample = node.sample := by
  rw [ofLine]
  constructor
  · intro read
    split at read
    · cases read
    · rename_i members parsed
      obtain ⟨node, described, nonnegative, rfl⟩ := ofMembers_eq_ok_iff.mp read
      exact ⟨node, ⟨members, parsed, described⟩, nonnegative, rfl⟩
    · cases read
  · rintro ⟨node, ⟨members, parsed, described⟩, nonnegative, rfl⟩
    rw [parsed]
    exact ofMembers_eq_ok_iff.mpr ⟨node, described, nonnegative, rfl⟩

end Sample

/-- Whatever is related one by one has a counterpart. -/
theorem exists_of_mem_of_forall₂ {α β : Type} {related : α → β → Prop} {lefts : List α}
    {rights : List β} (all : List.Forall₂ related lefts rights) {left : α} (member : left ∈ lefts) :
    ∃ right, related left right := by
  induction all with
  | nil => cases member
  | cons first others induction =>
      rcases List.mem_cons.mp member with rfl | inside
      · exact ⟨_, first⟩
      · exact induction inside

namespace Listing

/-- A line that a node list can hold in front of others. -/
def Good (default : Json.Value) (line : String) : Prop :=
  Raw.hasText line = true → ∃ sample, Sample.ofLine default line = .ok sample

/-- The lines that are not blank are read as the samples, one by one. -/
def AreRead (default : Json.Value) (lines : List String) (samples : List Sample) : Prop :=
  List.Forall₂ (fun line sample => Sample.ofLine default line = .ok sample)
    (lines.filter Raw.hasText) samples

section

variable {source : String} {default : Json.Value}

theorem AreRead.blank {line : String} {lines : List String} {samples : List Sample}
    (read : AreRead default lines samples) (blank : Raw.hasText line = false) :
    AreRead default (line :: lines) samples := by
  rwa [AreRead, List.filter_cons_of_neg (by simp [blank])]

theorem AreRead.cons {line : String} {sample : Sample} {lines : List String}
    {samples : List Sample} (read : AreRead default lines samples)
    (hasText : Raw.hasText line = true) (first : Sample.ofLine default line = .ok sample) :
    AreRead default (line :: lines) (sample :: samples) := by
  rw [AreRead, List.filter_cons_of_pos hasText]
  exact .cons first read

/-- Lines that are blank or nodes are read one by one, and then what follows them. -/
theorem readFrom_append {lines : List String} {samples : List Sample}
    (read : AreRead default lines samples) (source : String) (number : Nat) (rest : List String) :
    readFrom source default number (lines ++ rest) =
      { readFrom source default (number + lines.length) rest with
        samples := samples ++ (readFrom source default (number + lines.length) rest).samples } := by
  induction lines generalizing number samples with
  | nil =>
      cases read
      rfl
  | cons line lines induction =>
      rw [List.cons_append, readFrom, isBlankLine_eq_not_hasText, List.length_cons,
        Nat.add_comm lines.length, ← Nat.add_assoc]
      cases hasText : Raw.hasText line with
      | false =>
          rw [AreRead, List.filter_cons_of_neg (by simp [hasText])] at read
          rw [Bool.not_false, if_pos rfl]
          exact induction read (number + 1)
      | true =>
          rw [AreRead, List.filter_cons_of_pos hasText] at read
          cases read with
          | cons first others =>
              rw [Bool.not_true, if_neg Bool.false_ne_true, first]
              simp only [induction others, List.cons_append]

theorem readFrom_of_areRead {lines : List String} {samples : List Sample}
    (read : AreRead default lines samples) (source : String) (number : Nat) :
    readFrom source default number lines = ⟨samples, none⟩ := by
  have whole := readFrom_append read source number []
  simpa [readFrom] using whole

/-- Behind lines that are blank or nodes, a line that is neither is reported. -/
theorem readFrom_of_flaw {before : List String} {samples : List Sample}
    (read : AreRead default before samples) {line : String} {flaw : NodeFlaw}
    (hasText : Raw.hasText line = true) (flawed : Sample.ofLine default line = .error flaw)
    (source : String) (number : Nat) (rest : List String) :
    readFrom source default number (before ++ line :: rest) =
      ⟨samples, some (.ofFlaw source (number + before.length) flaw)⟩ := by
  have last : readFrom source default (number + before.length) (line :: rest) =
      ⟨[], some (.ofFlaw source (number + before.length) flaw)⟩ := by
    rw [readFrom, isBlankLine_eq_not_hasText, hasText, Bool.not_true, if_neg Bool.false_ne_true,
      flawed]
  rw [readFrom_append read, last, List.append_nil]

end

/-- The first line of a list that is no node. -/
structure FirstFlaw (default : Json.Value) (lines before : List String) (line : String)
    (flaw : NodeFlaw) : Prop where
  /-- The line stands behind the lines before. -/
  place : ∃ after, lines = before ++ line :: after
  /-- Every line before is blank or a node. -/
  good : ∀ earlier ∈ before, Good default earlier
  /-- The line is not blank. -/
  hasText : Raw.hasText line = true
  /-- The line is no node. -/
  flaw : Sample.ofLine default line = .error flaw

theorem FirstFlaw.cons {default : Json.Value} {lines before : List String} {first line : String}
    {flaw : NodeFlaw} (behind : FirstFlaw default lines before line flaw)
    (good : Good default first) :
    FirstFlaw default (first :: lines) (first :: before) line flaw where
  place := by
    obtain ⟨after, rfl⟩ := behind.place
    exact ⟨after, rfl⟩
  good := List.forall_mem_cons.mpr ⟨good, behind.good⟩
  hasText := behind.hasText
  flaw := behind.flaw

/-- All lines are blank or nodes, or one of them is the first that is neither. -/
theorem areRead_or_firstFlaw (default : Json.Value) (lines : List String) :
    (∃ samples, AreRead default lines samples) ∨
      ∃ before line flaw samples, FirstFlaw default lines before line flaw ∧
        AreRead default before samples := by
  induction lines with
  | nil => exact .inl ⟨[], .nil⟩
  | cons first rest induction =>
      cases hasText : Raw.hasText first with
      | false =>
          rcases induction with ⟨samples, read⟩ | ⟨before, line, flaw, samples, flawed, read⟩
          · exact .inl ⟨samples, read.blank hasText⟩
          · have good : Good default first := fun text => absurd text (by simp [hasText])
            exact .inr ⟨first :: before, line, flaw, samples, flawed.cons good, read.blank hasText⟩
      | true =>
          cases first_read : Sample.ofLine default first with
          | error flaw =>
              exact .inr ⟨[], first, flaw, [], ⟨⟨rest, rfl⟩, by simp, hasText, first_read⟩, .nil⟩
          | ok sample =>
              rcases induction with ⟨samples, read⟩ | ⟨before, line, flaw, samples, flawed, read⟩
              · exact .inl ⟨sample :: samples, read.cons hasText first_read⟩
              · exact .inr ⟨first :: before, line, flaw, sample :: samples,
                  flawed.cons fun _ => ⟨sample, first_read⟩, read.cons hasText first_read⟩

section

variable {source : String} {default : Json.Value} {number : Nat} {lines : List String}

/-- A list that is read to its end gives the nodes of its lines in order. -/
theorem samples_of_complete (complete : (readFrom source default number lines).error = none) :
    AreRead default lines (readFrom source default number lines).samples := by
  rcases areRead_or_firstFlaw default lines with
    ⟨samples, read⟩ | ⟨before, line, flaw, samples, first, read⟩
  · rwa [readFrom_of_areRead read]
  · obtain ⟨after, rfl⟩ := first.place
    rw [readFrom_of_flaw read first.hasText first.flaw] at complete
    cases complete

/-- A list that is not read to its end points to the first line that is no node. -/
theorem firstFlaw_of_error {error : ListingError}
    (failed : (readFrom source default number lines).error = some error) :
    ∃ before line flaw, FirstFlaw default lines before line flaw ∧
      error = .ofFlaw source (number + before.length) flaw := by
  rcases areRead_or_firstFlaw default lines with
    ⟨samples, read⟩ | ⟨before, line, flaw, samples, first, read⟩
  · rw [readFrom_of_areRead read] at failed
    cases failed
  · refine ⟨before, line, flaw, first, ?_⟩
    obtain ⟨after, rfl⟩ := first.place
    rw [readFrom_of_flaw read first.hasText first.flaw] at failed
    exact (Option.some.inj failed).symm

end

end Listing

/-- The file at the path holds the nodes, one on each line that is not blank. -/
def Raw.InFile (files : Files) (default : Int) (path : Path) (nodes : List Raw.Node) : Prop :=
  ∃ lines, files.readLines .nodes path = .ok lines ∧
    List.Forall₂ (fun line node => node.OfLine default line) (lines.filter Raw.hasText) nodes

private theorem exists_nodes_of_samples {default : Int} {lines : List String}
    {samples : List Sample}
    (read : List.Forall₂ (fun line sample => Sample.ofLine (.integer default) line = .ok sample)
      lines samples) :
    ∃ nodes : List Raw.Node, List.Forall₂ (fun line node => node.OfLine default line) lines nodes ∧
      samples = nodes.map Raw.Node.sample := by
  induction read with
  | nil => exact ⟨[], .nil, rfl⟩
  | cons first_read _ induction =>
      obtain ⟨node, described, _, rfl⟩ := Sample.ofLine_eq_ok_iff.mp first_read
      obtain ⟨nodes, others_described, rfl⟩ := induction
      exact ⟨node :: nodes, .cons described others_described, rfl⟩

namespace Files

variable {files : Files} {default : Int} {path : Path}

/-- What is read from a file is the nodes that it holds. -/
theorem inFile_of_readNodes {samples : List Sample}
    (read : files.readNodes (.integer default) path = .ok samples) :
    ∃ nodes, Raw.InFile files default path nodes ∧ samples = nodes.map Raw.Node.sample := by
  rw [readNodes] at read
  split at read
  · cases read
  · rename_i lines lines_read
    rw [Listing.complete] at read
    split at read
    · cases read
    · rename_i complete
      obtain rfl := Except.ok.inj read
      obtain ⟨nodes, described, samples_eq⟩ :=
        exists_nodes_of_samples (Listing.samples_of_complete complete)
      exact ⟨nodes, ⟨lines, lines_read, described⟩, samples_eq⟩

/-- If no nodes are read, the file cannot be read, or the error is about its first line that is no
node. -/
theorem error_of_readNodes {defaultDepth : Json.Value} {error : ListingError}
    (failed : files.readNodes defaultDepth path = .error error) :
    (∃ reason, files.readLines .nodes path = .error reason ∧ error = .file reason) ∨
      ∃ lines before line flaw, files.readLines .nodes path = .ok lines ∧
        Listing.FirstFlaw defaultDepth lines before line flaw ∧
        error = .ofFlaw path.text (before.length + 1) flaw := by
  rw [readNodes] at failed
  split at failed
  · rename_i reason lines_failed
    obtain rfl := Except.error.inj failed
    exact .inl ⟨reason, lines_failed, rfl⟩
  · rename_i lines lines_read
    rw [Listing.complete] at failed
    split at failed
    · rename_i found first_error
      obtain rfl := Except.error.inj failed
      obtain ⟨before, line, flaw, first, rfl⟩ := Listing.firstFlaw_of_error first_error
      exact .inr ⟨lines, before, line, flaw, lines_read, first, by rw [Nat.add_comm]⟩
    · cases failed

end Files

end WalkFilter
