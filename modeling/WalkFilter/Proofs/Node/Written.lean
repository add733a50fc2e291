import WalkFilter.Proofs.Files.Content
import WalkFilter.Proofs.Json.Document
import WalkFilter.Proofs.Node.Listing
import WalkFilter.Proofs.Text.Lines

/-!
# Node lists written by others

A node list may be laid out freely and may spell its labels in any way that JSON allows. It is read
as the nodes that were written unless a label holds a line separator as it is: there the line ends
too early, and the list is refused at this line.
-/

namespace WalkFilter

namespace Sample

/-- An object that lists labels and gives a depth is read as a node, whatever the default. -/
theorem ofMembers_eq_ok (default : Json.Value) {members : List (CodeText × Json.Value)}
    {labels : List CodeText} {depth : Int}
    (labels_given : Json.member? "labels" members = some (.array (labels.map .string)))
    (depth_given : Json.member? "depth" members = some (.integer depth))
    (nonnegative : 0 ≤ depth) :
    ofMembers default members = .ok ⟨.ofTexts labels, depth⟩ := by
  have labels_read : labels? (.array (labels.map .string)) = some (.ofTexts labels) :=
    labels?_eq_some_iff.mpr ⟨labels, rfl, rfl⟩
  have depth_read : depth? (.integer depth) = some depth :=
    depth?_eq_some_iff.mpr ⟨rfl, nonnegative⟩
  rw [ofMembers, labels_given, depth_given, Option.getD_some, Option.getD_some, labels_read,
    depth_read]

end Sample

namespace Listing

/-- Each of the lines is a node of its own. -/
def AreNodes (default : Json.Value) (lines : List String) (samples : List Sample) : Prop :=
  List.Forall₂ (fun line sample => Raw.hasText line = true ∧
    Sample.ofLine default line = .ok sample) lines samples

theorem AreNodes.read {default : Json.Value} {lines : List String} {samples : List Sample}
    (are_nodes : AreNodes default lines samples) : AreRead default lines samples := by
  induction are_nodes with
  | nil => exact .nil
  | cons first _ induction => exact induction.cons first.1 first.2

theorem readFrom_of_areNodes {default : Json.Value} {lines : List String} {samples : List Sample}
    (are_nodes : AreNodes default lines samples) (source : String) (number : Nat) :
    readFrom source default number lines = ⟨samples, none⟩ :=
  readFrom_of_areRead are_nodes.read source number

end Listing

/-! ## Lines that a node is written on -/

namespace Raw.Node

/-- The node as an object with its labels and its depth. -/
def value (node : Raw.Node) : Json.Value :=
  .object [("labels", .array (node.labels.map .string)), ("depth", .integer node.depth)]

/-- The text writes the node as a JSON object, whose depth is not negative. -/
structure IsWrittenAs (node : Raw.Node) (text : List Char) : Prop where
  /-- Spaces and tabs stand between the tokens, and strings are spelled in any way. -/
  layout : Json.Layout node.value.tokens text
  /-- The depth can be read. -/
  nonnegative : 0 ≤ node.depth

end Raw.Node

/-- The line breaks that a string may hold as they are. -/
def rawBreaks : List Char := ['\u0085', '\u2028', '\u2029']

theorem mem_rawBreaks {char : Char} (breaks : char ∈ Text.lineBreak) (printed : 0x20 ≤ char.toNat) :
    char ∈ rawBreaks := by
  have in_ranges : char.toNat = 0x85 ∨ char.toNat = 0x2028 ∨ char.toNat = 0x2029 := by
    have contained : Text.lineBreak.contains char = true := breaks
    simp only [Text.CharClass.contains, Text.lineBreak, List.any_cons, List.any_nil,
      Bool.or_eq_true, Bool.and_eq_true, decide_eq_true_eq, Bool.false_eq_true, or_false]
      at contained
    omega
  rw [← Char.ofNat_toNat char]
  rcases in_ranges with point | point | point <;> rw [point] <;> decide

theorem rawBreak_spec {char : Char} (breaks : char ∈ rawBreaks) :
    char ∈ Text.lineBreak ∧ char ≠ '\r' ∧ 0x7F ≤ char.toNat := by
  simp only [rawBreaks, List.mem_cons, List.not_mem_nil, or_false] at breaks
  rcases breaks with rfl | rfl | rfl <;> decide

/-- Plain characters do not break lines. -/
theorem Json.IsPlain.not_lineBreak {char : Char} (plain : IsPlain char) :
    char ∉ Text.lineBreak := fun breaks =>
  not_isPlain (rawBreak_spec (mem_rawBreaks breaks plain.1)).2.2 plain

theorem hasText_ofList {text : List Char} {char : Char} (member : char ∈ text)
    (not_blank : Text.blank.contains char = false) : Raw.hasText (String.ofList text) = true := by
  rw [Raw.hasText, String.toList_ofList, List.any_eq_true]
  exact ⟨char, member, by rw [not_blank]; rfl⟩

namespace Raw.Node.IsWrittenAs

variable {node : Raw.Node} {text : List Char}

theorem mem_rawBreaks (written : node.IsWrittenAs text) {char : Char} (member : char ∈ text)
    (breaks : char ∈ Text.lineBreak) : char ∈ rawBreaks := by
  rcases Json.printed_of_mem_layout written.layout char member with rfl | printed
  · exact absurd breaks (by decide)
  · exact WalkFilter.mem_rawBreaks breaks printed

theorem ofLine (written : node.IsWrittenAs text) (default : Json.Value) :
    Sample.ofLine default (String.ofList text) = .ok node.sample := by
  rw [Sample.ofLine, String.toList_ofList, Json.parse_of_layout written.layout]
  exact Sample.ofMembers_eq_ok default rfl rfl written.nonnegative

theorem hasText (written : node.IsWrittenAs text) : Raw.hasText (String.ofList text) = true :=
  hasText_ofList (Json.brace_mem_of_layout written.layout List.mem_cons_self) rfl

/-- Cut at the first break in it, the line is refused. -/
theorem ofLine_front (written : node.IsWrittenAs text) {char : Char} (member : char ∈ text)
    (breaks : char ∈ rawBreaks) (default : Json.Value) :
    ∃ front between behind fault, text = front ++ between :: behind ∧
      (∀ other ∈ front, other ∉ Text.lineBreak) ∧ between ∈ rawBreaks ∧ Json.BreaksOff fault ∧
      Raw.hasText (String.ofList front) = true ∧
      Sample.ofLine default (String.ofList front) = .error (.notJson fault) := by
  have found : (text.find? (· ∈ Text.lineBreak)).isSome := by
    rw [List.find?_isSome]
    exact ⟨char, member, by simpa using (rawBreak_spec breaks).1⟩
  obtain ⟨between, first⟩ := Option.isSome_iff_exists.mp found
  obtain ⟨between_breaks, front, behind, rfl, unbroken⟩ := List.find?_eq_some_iff_append.mp first
  have between_raw : between ∈ rawBreaks :=
    written.mem_rawBreaks (by simp) (by simpa using between_breaks)
  obtain ⟨quote, fault, breaks_off, parsed⟩ :=
    Json.parse_of_split written.layout (rawBreak_spec between_raw).2.2
  refine ⟨front, between, behind, fault, rfl, ?_, between_raw, breaks_off,
    hasText_ofList quote (by decide), ?_⟩
  · simpa using unbroken
  · rw [Sample.ofLine, String.toList_ofList, parsed]

end Raw.Node.IsWrittenAs

/-- A line for a node with a single label, spelled in some way. -/
def singleLabelLine (body : List Char) (depth : Int) : List Char :=
  "\x7b\"labels\": [\"".toList ++ (body ++ ("\"], \"depth\": ".toList ++
    ((toString depth).toList ++ ['\x7d'])))

theorem isWrittenAs_singleLabelLine {label : CodeText} {body : List Char} {depth : Int}
    (spelled : Json.WritesText label body) (few : Json.HasFewDigits depth)
    (nonnegative : 0 ≤ depth) :
    (⟨[label], depth⟩ : Raw.Node).IsWrittenAs (singleLabelLine body depth) := by
  have key (name : String)
      (unescaped : ∀ char ∈ name.toList, char ≠ '"' ∧ char ≠ '\\' ∧ 0x20 ≤ char.toNat)
      {tokens : List Json.Token} {rest : List Char} (behind : Json.Layout tokens rest) :
      Json.Layout (.string name :: tokens) ('"' :: (name.toList ++ '"' :: rest)) := by
    exact Json.Layout.string (Json.writesText_self unescaped) behind
  have colon : Json.punctuation? ':' = some .colon := rfl
  have comma : Json.punctuation? ',' = some .comma := rfl
  have open_array : Json.punctuation? '[' = some .openArray := rfl
  have close_array : Json.punctuation? ']' = some .closeArray := rfl
  have closed : Json.Layout [.closeObject] ['\x7d'] := .mark rfl .nil
  have depth_layout := Json.Layout.integer few (by simp [Json.EndsNumeral]) closed
  have depth_member := key "depth" (List.all_iff_forall_prop.mp (by decide))
    (.mark colon (.gap (.inl rfl) depth_layout))
  have label_layout := Json.Layout.string spelled
    (.mark close_array (.mark comma (.gap (.inl rfl) depth_member)))
  have labels_member := key "labels" (List.all_iff_forall_prop.mp (by decide))
    (.mark colon (.gap (.inl rfl) (.mark open_array label_layout)))
  exact ⟨.mark rfl labels_member, nonnegative⟩

theorem exists_isWrittenAs {nodes : List Raw.Node} {texts : List (List Char)}
    (written : List.Forall₂ Raw.Node.IsWrittenAs nodes texts) {text : List Char}
    (member : text ∈ texts) : ∃ node : Raw.Node, node.IsWrittenAs text :=
  exists_of_mem_of_forall₂ written.flip member

theorem not_lineBreak_of_written {nodes : List Raw.Node} {texts : List (List Char)}
    (written : List.Forall₂ Raw.Node.IsWrittenAs nodes texts)
    (unbroken : ∀ text ∈ texts, ∀ char ∈ text, char ∉ rawBreaks) :
    ∀ text ∈ texts, ∀ char ∈ text, char ∉ Text.lineBreak := by
  intro text text_member char member breaks
  obtain ⟨node, node_written⟩ := exists_isWrittenAs written text_member
  exact unbroken text text_member char member (node_written.mem_rawBreaks member breaks)

/-- Among texts that are not all unbroken, there is a first one with a break. -/
theorem exists_first_break {texts : List (List Char)}
    (broken : ¬∀ text ∈ texts, ∀ char ∈ text, char ∉ rawBreaks) :
    ∃ before text after, texts = before ++ text :: after ∧
      (∀ earlier ∈ before, ∀ char ∈ earlier, char ∉ rawBreaks) ∧
      ∃ char ∈ text, char ∈ rawBreaks := by
  have found : (texts.find? fun text => text.any (· ∈ rawBreaks)).isSome := by
    simpa using broken
  obtain ⟨text, first⟩ := Option.isSome_iff_exists.mp found
  obtain ⟨text_broken, before, after, rfl, unbroken⟩ := List.find?_eq_some_iff_append.mp first
  exact ⟨before, text, after, rfl, by simpa using unbroken, by simpa using text_broken⟩

theorem areNodes_of_isWrittenAs {nodes : List Raw.Node} {texts : List (List Char)}
    (written : List.Forall₂ Raw.Node.IsWrittenAs nodes texts) (default : Json.Value) :
    Listing.AreNodes default (texts.map String.ofList) (nodes.map Raw.Node.sample) := by
  induction written with
  | nil => exact .nil
  | cons first others induction =>
      exact .cons ⟨first.hasText, first.ofLine default⟩ induction

namespace Files

/-- A file in UTF-8 is cut into lines as it is if it holds no carriage return. -/
theorem readLines_eq_ok {files : Files} {path : Path} {text : List Char}
    (stored : files path = .file (String.ofList text).toUTF8.data.toList)
    (no_return : '\r' ∉ text) (role : FileRole) :
    files.readLines role path = .ok ((Text.lines text).map String.ofList) := by
  rw [readLines_utf8 stored, String.toList_ofList, linesOfText,
    Text.unifyNewlines_eq_self no_return]

section

variable {files : Files} {path : Path} {nodes : List Raw.Node} {texts : List (List Char)}

theorem readLines_terminated (written : List.Forall₂ Raw.Node.IsWrittenAs nodes texts)
    (stored : files path = .file (String.ofList (Text.terminated texts)).toUTF8.data.toList)
    (role : FileRole) :
    files.readLines role path =
      .ok ((Text.lines (Text.terminated texts)).map String.ofList) := by
  refine readLines_eq_ok stored ?_ role
  intro returned
  obtain ⟨text, text_member, inside⟩ := List.mem_flatMap.mp returned
  obtain ⟨node, node_written⟩ := exists_isWrittenAs written text_member
  rcases List.mem_append.mp inside with in_text | feed
  · rcases Json.printed_of_mem_layout node_written.layout _ in_text with tab | printed
    · cases tab
    · exact absurd printed (by decide)
  · cases List.mem_singleton.mp feed

theorem readNodes_of_unbroken (written : List.Forall₂ Raw.Node.IsWrittenAs nodes texts)
    (stored : files path = .file (String.ofList (Text.terminated texts)).toUTF8.data.toList)
    (default : Json.Value) (unbroken : ∀ text ∈ texts, ∀ char ∈ text, char ∉ rawBreaks) :
    files.readNodes default path = .ok (nodes.map Raw.Node.sample) := by
  have lines_eq := Text.lines_terminated (not_lineBreak_of_written written unbroken)
  rw [readNodes, readLines_terminated written stored, lines_eq]
  simp only [Listing.read,
    Listing.readFrom_of_areNodes (areNodes_of_isWrittenAs written default), Listing.complete]

theorem readNodes_of_break {before after : List (List Char)} {text : List Char}
    (written : List.Forall₂ Raw.Node.IsWrittenAs nodes (before ++ text :: after))
    (stored : files path =
      .file (String.ofList (Text.terminated (before ++ text :: after))).toUTF8.data.toList)
    (default : Json.Value) (unbroken : ∀ earlier ∈ before, ∀ char ∈ earlier, char ∉ rawBreaks)
    (broken : ∃ char ∈ text, char ∈ rawBreaks) :
    ∃ fault, Json.BreaksOff fault ∧ files.readNodes default path =
      .error (.line ⟨path.text, before.length + 1, (NodeFlaw.notJson fault).message⟩) := by
  have before_written := List.forall₂_take_append nodes before (text :: after) written
  have text_member : text ∈ before ++ text :: after := by simp
  obtain ⟨node, node_written⟩ := exists_isWrittenAs written text_member
  obtain ⟨char, member, breaks⟩ := broken
  obtain ⟨front, between, behind, fault, rfl, front_unbroken, between_breaks, breaks_off, hasText,
    refused⟩ := node_written.ofLine_front member breaks default
  obtain ⟨is_break, not_return, -⟩ := rawBreak_spec between_breaks
  have lines_eq : Text.lines (Text.terminated (before ++ (front ++ between :: behind) :: after)) =
      before ++ front :: Text.lines (behind ++ '\n' :: Text.terminated after) := by
    rw [← Text.lines_append_cons front_unbroken is_break not_return,
      ← Text.lines_terminated_append (not_lineBreak_of_written before_written unbroken)]
    simp [Text.terminated]
  have before_read := (areNodes_of_isWrittenAs before_written default).read
  have read := Listing.readFrom_of_flaw before_read hasText refused path.text 1
    ((Text.lines (behind ++ '\n' :: Text.terminated after)).map String.ofList)
  refine ⟨fault, breaks_off, ?_⟩
  rw [readNodes, readLines_terminated written stored, lines_eq]
  simp only [List.map_append, List.map_cons, Listing.read, read, Listing.complete]
  rcases breaks_off with rfl | rfl <;> simp [ListingError.ofFlaw, Nat.add_comm]

end

/-- A node list is read as the nodes written in it exactly if no line holds a break as it is. If
one does, the first such line is reported as broken off. -/
theorem readNodes_written {files : Files} {path : Path} {nodes : List Raw.Node}
    {texts : List (List Char)} (written : List.Forall₂ Raw.Node.IsWrittenAs nodes texts)
    (stored : files path = .file (String.ofList (Text.terminated texts)).toUTF8.data.toList)
    (default : Json.Value) :
    (files.readNodes default path = .ok (nodes.map Raw.Node.sample) ↔
        ∀ text ∈ texts, ∀ char ∈ text, char ∉ rawBreaks) ∧
      ∀ before text after, texts = before ++ text :: after →
        (∀ earlier ∈ before, ∀ char ∈ earlier, char ∉ rawBreaks) →
        (∃ char ∈ text, char ∈ rawBreaks) →
        ∃ fault, Json.BreaksOff fault ∧ files.readNodes default path =
          .error (.line ⟨path.text, before.length + 1, (NodeFlaw.notJson fault).message⟩) := by
  have of_break : ∀ before text after, texts = before ++ text :: after →
      (∀ earlier ∈ before, ∀ char ∈ earlier, char ∉ rawBreaks) →
      (∃ char ∈ text, char ∈ rawBreaks) →
      ∃ fault, Json.BreaksOff fault ∧ files.readNodes default path =
        .error (.line ⟨path.text, before.length + 1, (NodeFlaw.notJson fault).message⟩) := by
    rintro before text after rfl unbroken broken
    exact readNodes_of_break written stored default unbroken broken
  refine ⟨⟨fun read => ?_, readNodes_of_unbroken written stored default⟩, of_break⟩
  by_contra broken
  obtain ⟨before, text, after, texts_eq, unbroken, text_broken⟩ := exists_first_break broken
  obtain ⟨fault, -, refused⟩ := of_break before text after texts_eq unbroken text_broken
  rw [refused] at read
  cases read

/-- Every path leads to a file with these lines. -/
def ofTexts (texts : List (List Char)) : Files :=
  fun _ => .file (String.ofList (Text.terminated texts)).toUTF8.data.toList

/-- The same label with a line separator, first spelled by number and then as it is. -/
theorem readNodes_written_spelledAndRaw :
    (ofTexts [singleLabelLine "a\\u2028b".toList 2]).readNodes .null (Path.ofText "nodes.jsonl") =
        .ok [⟨.ofList ["a\u2028b"], 2⟩] ∧
      ∃ fault, Json.BreaksOff fault ∧
        (ofTexts [singleLabelLine "a\\u2028b".toList 2,
            singleLabelLine "a\u2028b".toList 0]).readNodes .null (Path.ofText "nodes.jsonl") =
          .error (.line ⟨"nodes.jsonl", 2, (NodeFlaw.notJson fault).message⟩) := by
  have itself {char : Char} (unescaped : char ≠ '"' ∧ char ≠ '\\' ∧ 0x20 ≤ char.toNat) :
      Json.WritesPoint (.ofChar char) [char] :=
    .char (.itself unescaped.1 unescaped.2.1 unescaped.2.2)
  have digits : Json.WritesUnit 0x2028 ['\\', 'u', '2', '0', '2', '8'] :=
    .digits (a := 2) (b := 0) (c := 2) (d := 8) (by decide) (by decide) (by decide) (by decide)
  have separator : Json.WritesPoint (.ofChar '\u2028') ['\\', 'u', '2', '0', '2', '8'] :=
    .char (.unit digits)
  have spelled : Json.WritesText "a\u2028b" "a\\u2028b".toList :=
    .cons (itself (by decide)) (.cons separator (.cons (itself (by decide)) .nil))
  have raw : Json.WritesText "a\u2028b" "a\u2028b".toList :=
    Json.writesText_self (List.all_iff_forall_prop.mp (by decide))
  have few : Json.HasFewDigits 2 ∧ Json.HasFewDigits 0 := by decide
  have first := isWrittenAs_singleLabelLine spelled few.1 (by decide)
  have second := isWrittenAs_singleLabelLine raw few.2 (by decide)
  have unbroken : ∀ text ∈ [singleLabelLine "a\\u2028b".toList 2], ∀ char ∈ text,
      char ∉ rawBreaks :=
    List.forall_mem_singleton.mpr (List.all_iff_forall_prop.mp (by decide))
  refine ⟨(readNodes_written (.cons first .nil) rfl .null).1.mpr unbroken, ?_⟩
  exact (readNodes_written (.cons first (.cons second .nil)) rfl .null).2
    [_] _ [] rfl unbroken ⟨'\u2028', by decide, by decide⟩

/-- A list of one node is refused although it is written as JSON allows. -/
theorem readNodes_refuses_rawSeparator :
    Raw.Node.IsWrittenAs ⟨["a\u2028b"], 0⟩ (singleLabelLine "a\u2028b".toList 0) ∧
      ¬(ofTexts [singleLabelLine "a\u2028b".toList 0]).readNodes (.integer 0)
        (Path.ofText "nodes.jsonl") = .ok [⟨.ofList ["a\u2028b"], 0⟩] := by
  have raw : Json.WritesText "a\u2028b" "a\u2028b".toList :=
    Json.writesText_self (List.all_iff_forall_prop.mp (by decide))
  have few : Json.HasFewDigits 0 := by decide
  have written := isWrittenAs_singleLabelLine raw few (by decide)
  refine ⟨written, fun read => ?_⟩
  have stored : ofTexts [singleLabelLine "a\u2028b".toList 0] (Path.ofText "nodes.jsonl") =
      .file (String.ofList (Text.terminated
        ([] ++ singleLabelLine "a\u2028b".toList 0 :: []))).toUTF8.data.toList := rfl
  obtain ⟨fault, -, refused⟩ := readNodes_of_break (.cons written .nil) stored (.integer 0)
    (by simp) ⟨'\u2028', by decide, by decide⟩
  rw [refused] at read
  cases read

end Files

end WalkFilter
