import WalkFilter.Proofs.Json.Overlong
import WalkFilter.Proofs.Node.Listing

/-!
# Where reading a node list stops

A line of a node list is blank, or it describes a node, or it fails one of four checks. A list is
read up to the first line that fails one, so what is read of two lists in a row is what is read of
each of them. This file states each check on the document of the line.
-/

namespace WalkFilter

namespace Json

/-- The last of the members with the key has the value. -/
def LastMember (key : CodeText) (value : Value) (members : List (CodeText × Value)) : Prop :=
  ∃ before after, members = before ++ (key, value) :: after ∧ ∀ member ∈ after, member.1 ≠ key

theorem member?_eq_some_iff {key : String} {value : Value} {members : List (CodeText × Value)} :
    member? key members = some value ↔ LastMember key value members := by
  rw [member?, List.lookup_eq_some_iff]
  constructor
  · rintro ⟨after, before, reversed, others⟩
    refine ⟨before.reverse, after.reverse, ?_, ?_⟩
    · rw [← List.reverse_reverse members, reversed]
      simp
    · intro member inside same
      exact absurd (others member (List.mem_reverse.mp inside)) (by simp [same])
  · rintro ⟨before, after, rfl, others⟩
    refine ⟨after.reverse, before.reverse, by simp, ?_⟩
    intro member inside
    simpa using (others member (List.mem_reverse.mp inside)).symm

theorem member?_eq_none_iff {key : String} {members : List (CodeText × Value)} :
    member? key members = none ↔ ∀ member ∈ members, member.1 ≠ key := by
  rw [member?, List.lookup_eq_none_iff]
  simp only [List.mem_reverse, bne_iff_ne, ne_comm (a := (key : CodeText))]

end Json

namespace Raw

/-- The members give the labels: the last list of them, or none if there is no list. -/
inductive GivesLabels (members : List (CodeText × Json.Value)) : List CodeText → Prop where
  | listed {labels : List CodeText}
    (last : Json.LastMember "labels" (.array (labels.map .string)) members) :
    GivesLabels members labels
  | missing (missing : ∀ member ∈ members, member.1 ≠ "labels") : GivesLabels members []

/-- The members give the depth: the last one, or the default if there is none. Either must be an
integer that is not negative. -/
inductive GivesDepth (default : Json.Value) (members : List (CodeText × Json.Value)) :
    Int → Prop where
  | given {depth : Int} (last : Json.LastMember "depth" (.integer depth) members)
    (nonnegative : 0 ≤ depth) : GivesDepth default members depth
  | missing {depth : Int} (missing : ∀ member ∈ members, member.1 ≠ "depth")
    (default_eq : default = .integer depth) (nonnegative : 0 ≤ depth) :
    GivesDepth default members depth

/-- The line holds an object that gives the labels and the depth of the sample. -/
def IsEntry (default : Json.Value) (line : String) (sample : Sample) : Prop :=
  ∃ members labels, Json.parse line.toList = .ok (.object members) ∧ GivesLabels members labels ∧
    GivesDepth default members sample.depth ∧ sample.labels = .ofTexts labels

/-- The first check that the line fails. -/
inductive FailsCheck (default : Json.Value) (line : String) : NodeFlaw → Prop where
  | notJson {fault : Json.Fault} (refused : Json.parse line.toList = .error fault) :
    FailsCheck default line (.notJson fault)
  | notObject {value : Json.Value} (parsed : Json.parse line.toList = .ok value)
    (other : ∀ members, value ≠ .object members) : FailsCheck default line .notObject
  | badLabels {members : List (CodeText × Json.Value)}
    (parsed : Json.parse line.toList = .ok (.object members))
    (gives_none : ∀ labels, ¬GivesLabels members labels) : FailsCheck default line .badLabels
  | badDepth {members : List (CodeText × Json.Value)} {labels : List CodeText}
    (parsed : Json.parse line.toList = .ok (.object members))
    (gives_labels : GivesLabels members labels)
    (gives_none : ∀ depth, ¬GivesDepth default members depth) : FailsCheck default line .badDepth

/-- What the decoder says about a text that is no JSON. -/
inductive DecoderText : Json.Fault → String → Prop where
  | byteOrderMark : DecoderText .byteOrderMark "Unexpected UTF-8 BOM (decode using utf-8-sig)"
  | expectedValue : DecoderText .expectedValue "Expecting value"
  | expectedKey :
    DecoderText .expectedKey "Expecting property name enclosed in double quotes"
  | expectedColon : DecoderText .expectedColon "Expecting ':' delimiter"
  | expectedComma : DecoderText .expectedComma "Expecting ',' delimiter"
  | unterminatedString : DecoderText .unterminatedString "Unterminated string starting at"
  | controlCharacter : DecoderText .controlCharacter "Invalid control character at"
  | invalidEscape : DecoderText .invalidEscape "Invalid \\escape"
  | invalidUnitEscape : DecoderText .invalidUnitEscape "Invalid \\uXXXX escape"
  | extraData : DecoderText .extraData "Extra data"

/-- The reason that is given for a failed check. -/
inductive GivesReason : NodeFlaw → String → Prop where
  | notJson {fault : Json.Fault} {text : String} (told : DecoderText fault text) :
    GivesReason (.notJson fault) ("invalid JSON: " ++ text)
  | notObject : GivesReason .notObject "expected a JSON object"
  | badLabels : GivesReason .badLabels "'labels' must be a list of strings"
  | badDepth : GivesReason .badDepth "'depth' must be a non-negative integer"

/-- Every flaw but a number with too many digits has one reason. -/
theorem givesReason_iff {flaw : NodeFlaw} {reason : String} :
    GivesReason flaw reason ↔
      (∀ count, flaw ≠ .notJson (.tooManyDigits count)) ∧ reason = flaw.message := by
  constructor
  · intro given
    cases given with
    | notJson told =>
        refine ⟨?_, by cases told <;> rfl⟩
        rintro count same
        obtain rfl := NodeFlaw.notJson.inj same
        cases told
    | notObject | badLabels | badDepth => exact ⟨fun count => NodeFlaw.noConfusion, rfl⟩
  · rintro ⟨not_digits, rfl⟩
    cases flaw with
    | notJson fault =>
        refine .notJson ?_
        cases fault with
        | tooManyDigits count => exact absurd rfl (not_digits count)
        | _ => constructor
    | notObject => exact .notObject
    | badLabels => exact .badLabels
    | badDepth => exact .badDepth

end Raw

namespace Sample

variable {default : Json.Value} {members : List (CodeText × Json.Value)}

theorem labels?_member_eq_some_iff {set : NodeLabels} :
    labels? ((Json.member? "labels" members).getD (.array [])) = some set ↔
      ∃ labels, Raw.GivesLabels members labels ∧ set = .ofTexts labels := by
  simp only [labels?_eq_some_iff, getD_labels_iff, Json.member?_eq_some_iff,
    Json.member?_eq_none_iff]
  constructor
  · rintro ⟨labels, last | ⟨missing, rfl⟩, rfl⟩
    · exact ⟨labels, .listed last, rfl⟩
    · exact ⟨[], .missing missing, rfl⟩
  · rintro ⟨labels, last | missing, rfl⟩
    · exact ⟨labels, .inl last, rfl⟩
    · exact ⟨[], .inr ⟨missing, rfl⟩, rfl⟩

theorem depth?_member_eq_some_iff {depth : Int} :
    depth? ((Json.member? "depth" members).getD default) = some depth ↔
      Raw.GivesDepth default members depth := by
  rw [depth?_eq_some_iff, Option.getD_eq_iff, Json.member?_eq_some_iff, Json.member?_eq_none_iff]
  constructor
  · rintro ⟨last | ⟨missing, default_eq⟩, nonnegative⟩
    · exact .given last nonnegative
    · exact .missing missing default_eq nonnegative
  · rintro (⟨last, nonnegative⟩ | ⟨missing, default_eq, nonnegative⟩)
    · exact ⟨.inl last, nonnegative⟩
    · exact ⟨.inr ⟨missing, default_eq⟩, nonnegative⟩

variable {line : String}

/-- An entry is read as its node. -/
theorem ofLine_of_isEntry {sample : Sample} (entry : Raw.IsEntry default line sample) :
    ofLine default line = .ok sample := by
  obtain ⟨members, labels, parsed, gives_labels, gives_depth, labels_eq⟩ := entry
  have labels_read := labels?_member_eq_some_iff.mpr ⟨labels, gives_labels, labels_eq⟩
  have depth_read := depth?_member_eq_some_iff.mpr gives_depth
  rw [ofLine, parsed]
  simp only [ofMembers, labels_read, depth_read]

/-- A line that fails a check is refused with the flaw that the check is about. -/
theorem ofLine_of_failsCheck {flaw : NodeFlaw} (fails : Raw.FailsCheck default line flaw) :
    ofLine default line = .error flaw := by
  cases fails with
  | notJson refused => rw [ofLine, refused]
  | @notObject value parsed other =>
      rw [ofLine, parsed]
      cases value with
      | object members => exact absurd rfl (other members)
      | null | bool | integer | decimal | string | array => rfl
  | badLabels parsed gives_none =>
      have labels_refused := Option.eq_none_iff_forall_ne_some.mpr fun set read =>
        (labels?_member_eq_some_iff.mp read).elim fun labels given => gives_none labels given.1
      rw [ofLine, parsed]
      simp only [ofMembers, labels_refused]
  | @badDepth members labels parsed gives_labels gives_none =>
      have labels_read := labels?_member_eq_some_iff.mpr ⟨labels, gives_labels, rfl⟩
      have depth_refused := Option.eq_none_iff_forall_ne_some.mpr fun depth read =>
        gives_none depth (depth?_member_eq_some_iff.mp read)
      rw [ofLine, parsed]
      simp only [ofMembers, labels_read, depth_refused]

/-- A line is an entry, or it fails a check. -/
theorem isEntry_or_failsCheck (default : Json.Value) (line : String) :
    (∃ sample, Raw.IsEntry default line sample) ∨ ∃ flaw, Raw.FailsCheck default line flaw := by
  cases parsed : Json.parse line.toList with
  | error fault => exact .inr ⟨_, .notJson parsed⟩
  | ok value =>
      by_cases object : ∃ members, value = .object members
      · obtain ⟨members, rfl⟩ := object
        by_cases some_labels : ∃ labels, Raw.GivesLabels members labels
        · obtain ⟨labels, gives_labels⟩ := some_labels
          by_cases some_depth : ∃ depth, Raw.GivesDepth default members depth
          · obtain ⟨depth, gives_depth⟩ := some_depth
            exact .inl ⟨⟨.ofTexts labels, depth⟩, members, labels, parsed, gives_labels,
              gives_depth, rfl⟩
          · exact .inr ⟨_, .badDepth parsed gives_labels (not_exists.mp some_depth)⟩
        · exact .inr ⟨_, .badLabels parsed (not_exists.mp some_labels)⟩
      · exact .inr ⟨_, .notObject parsed (not_exists.mp object)⟩

theorem ofLine_eq_ok_iff_isEntry {sample : Sample} :
    ofLine default line = .ok sample ↔ Raw.IsEntry default line sample := by
  refine ⟨fun read => ?_, ofLine_of_isEntry⟩
  rcases isEntry_or_failsCheck default line with ⟨found, entry⟩ | ⟨flaw, fails⟩
  · rw [ofLine_of_isEntry entry] at read
    exact Except.ok.inj read ▸ entry
  · rw [ofLine_of_failsCheck fails] at read
    cases read

theorem ofLine_eq_error_iff {flaw : NodeFlaw} :
    ofLine default line = .error flaw ↔ Raw.FailsCheck default line flaw := by
  refine ⟨fun refused => ?_, ofLine_of_failsCheck⟩
  rcases isEntry_or_failsCheck default line with ⟨sample, entry⟩ | ⟨found, fails⟩
  · rw [ofLine_of_isEntry entry] at refused
    cases refused
  · rw [ofLine_of_failsCheck fails] at refused
    exact Except.error.inj refused ▸ fails

end Sample

/-- The first line of a list that is neither blank nor an entry fails the check. -/
structure Raw.StopsAt (default : Json.Value) (lines before : List String) (line : String)
    (flaw : NodeFlaw) : Prop where
  /-- The line stands behind the lines before. -/
  place : ∃ after, lines = before ++ line :: after
  /-- Every line before that is not blank is an entry. -/
  earlier : ∀ other ∈ before, hasText other = true → ∃ sample, IsEntry default other sample
  /-- The line is not blank. -/
  hasText : hasText line = true
  /-- The line fails the check and none before it. -/
  fails : FailsCheck default line flaw

theorem Listing.FirstFlaw.stopsAt {default : Json.Value} {lines before : List String}
    {line : String} {flaw : NodeFlaw} (first : FirstFlaw default lines before line flaw) :
    Raw.StopsAt default lines before line flaw where
  place := first.place
  earlier other member has_text := by
    obtain ⟨sample, read⟩ := first.good other member has_text
    exact ⟨sample, Sample.ofLine_eq_ok_iff_isEntry.mp read⟩
  hasText := first.hasText
  fails := Sample.ofLine_eq_error_iff.mp first.flaw

/-- Only a number with too many digits is reported without its line. -/
theorem ListingError.ofFlaw_eq_line {flaw : NodeFlaw}
    (not_digits : ∀ count, flaw ≠ .notJson (.tooManyDigits count)) (source : String)
    (number : Nat) : ofFlaw source number flaw = .line ⟨source, number, flaw.message⟩ := by
  fun_cases ofFlaw source number flaw with
  | case1 count => exact absurd rfl (not_digits count)
  | case2 => rfl

namespace Listing

section

variable {source : String} {default : Json.Value}

/-- The lines that are not blank are the entries of the samples, one by one. -/
def AreEntries (default : Json.Value) (lines : List String) (samples : List Sample) : Prop :=
  List.Forall₂ (Raw.IsEntry default) (lines.filter Raw.hasText) samples

theorem areEntries_iff {lines : List String} {samples : List Sample} :
    AreEntries default lines samples ↔ AreRead default lines samples := by
  simp only [AreEntries, AreRead, Sample.ofLine_eq_ok_iff_isEntry]

/-- What reading the lines of a list leads to. -/
inductive Outcome (source : String) (default : Json.Value) : List String → Listing → Prop where
  /-- Every line is blank or an entry. -/
  | complete {lines : List String} {samples : List Sample}
    (entries : AreEntries default lines samples) : Outcome source default lines ⟨samples, none⟩
  /-- The lines before one that fails a check are blank or entries, and what follows it is not
  read. -/
  | cut {before : List String} {line : String} {after : List String} {samples : List Sample}
    {flaw : NodeFlaw} {reason : String} (entries : AreEntries default before samples)
    (hasText : Raw.hasText line = true) (fails : Raw.FailsCheck default line flaw)
    (given : Raw.GivesReason flaw reason) :
    Outcome source default (before ++ line :: after)
      ⟨samples, some (.line ⟨source, before.length + 1, reason⟩)⟩

theorem read_of_areEntries {lines : List String} {samples : List Sample}
    (entries : AreEntries default lines samples) : read source default lines = ⟨samples, none⟩ :=
  readFrom_of_areRead (areEntries_iff.mp entries) source 1

theorem read_of_failsCheck {before after : List String} {line : String} {samples : List Sample}
    {flaw : NodeFlaw} (entries : AreEntries default before samples)
    (hasText : Raw.hasText line = true) (fails : Raw.FailsCheck default line flaw) :
    read source default (before ++ line :: after) =
      ⟨samples, some (.ofFlaw source (before.length + 1) flaw)⟩ := by
  have read := readFrom_of_flaw (areEntries_iff.mp entries) hasText
    (Sample.ofLine_of_failsCheck fails) source 1 after
  rw [Listing.read, read, Nat.add_comm]

end

/-- Every line is blank or an entry, or a first line fails a check. -/
theorem areEntries_or_failsCheck (default : Json.Value) (lines : List String) :
    (∃ samples, AreEntries default lines samples) ∨
      ∃ before line after samples flaw, lines = before ++ line :: after ∧
        AreEntries default before samples ∧ Raw.hasText line = true ∧
        Raw.FailsCheck default line flaw := by
  simp only [areEntries_iff, ← Sample.ofLine_eq_error_iff]
  rcases areRead_or_firstFlaw default lines with
    all | ⟨before, line, flaw, samples, first, read⟩
  · exact .inl all
  · obtain ⟨after, rfl⟩ := first.place
    exact .inr ⟨before, line, after, samples, flaw, rfl, read, first.hasText, first.flaw⟩

end Listing

/-! ## Lists behind other lines -/

/-- The error with its line counted from further up. -/
def ListingError.later (count : Nat) : ListingError → ListingError
  | .line error => .line { error with line := error.line + count }
  | error => error

theorem ListingError.later_ofFlaw (source : String) (number count : Nat) (flaw : NodeFlaw) :
    (ofFlaw source number flaw).later count = ofFlaw source (number + count) flaw := by
  fun_cases ofFlaw source number flaw with
  | case1 => rfl
  | case2 flaw not_digits =>
      rw [ofFlaw_eq_line not_digits, later]
      simp

namespace Listing

theorem readFrom_add (source : String) (default : Json.Value) (number count : Nat)
    (lines : List String) :
    readFrom source default (number + count) lines =
      { readFrom source default number lines with
        error := (readFrom source default number lines).error.map (·.later count) } := by
  induction lines generalizing number with
  | nil => rfl
  | cons line rest induction =>
      rw [readFrom, readFrom, Nat.add_right_comm number count 1, induction]
      split
      · rfl
      · split
        · simp only [Option.map_some, ListingError.later_ofFlaw]
        · rfl

/-- Behind a list that is read to its end, another is read as if it stood alone, except for the
number of the line with an error. -/
theorem read_append {source : String} {default : Json.Value} {lines : List String}
    (complete : (read source default lines).error = none) (others : List String) :
    read source default (lines ++ others) =
      ⟨(read source default lines).samples ++ (read source default others).samples,
        (read source default others).error.map (·.later lines.length)⟩ := by
  rw [Listing.read, readFrom_append (samples_of_complete complete), readFrom_add]
  rfl

theorem read_eq_iff_outcome {source : String} {default : Json.Value} {lines : List String}
    (fit : ∀ line ∈ lines, Json.IntegersFit line.toList) {listing : Listing} :
    read source default lines = listing ↔ Outcome source default lines listing := by
  constructor
  · rintro rfl
    rcases areEntries_or_failsCheck default lines with
      ⟨samples, entries⟩ | ⟨before, line, after, samples, flaw, rfl, entries, hasText, fails⟩
    · rw [read_of_areEntries entries]
      exact .complete entries
    · have not_digits : ∀ count, flaw ≠ .notJson (.tooManyDigits count) := by
        rintro count rfl
        cases fails with
        | notJson refused => exact (fit line (by simp)).parse_ne count refused
      rw [read_of_failsCheck entries hasText fails, ListingError.ofFlaw_eq_line not_digits]
      exact .cut entries hasText fails (Raw.givesReason_iff.mpr ⟨not_digits, rfl⟩)
  · intro outcome
    cases outcome with
    | complete entries => exact read_of_areEntries entries
    | cut entries hasText fails given =>
        obtain ⟨not_digits, rfl⟩ := Raw.givesReason_iff.mp given
        rw [read_of_failsCheck entries hasText fails, ListingError.ofFlaw_eq_line not_digits]
        rfl

/-- Reading a list stops at the first line that is neither blank nor an entry. The samples of the
lines before it are kept, and the error names the first check that it fails. -/
theorem read_upToFailedCheck (source : String) (default : Json.Value) :
    (∀ lines listing, (∀ line ∈ lines, Json.IntegersFit line.toList) →
        (read source default lines = listing ↔ Outcome source default lines listing)) ∧
      ∀ lines others, (read source default lines).error = none →
        read source default (lines ++ others) =
          ⟨(read source default lines).samples ++ (read source default others).samples,
            (read source default others).error.map (·.later lines.length)⟩ :=
  ⟨fun _ _ fit => read_eq_iff_outcome fit, fun _ others complete => read_append complete others⟩

private theorem tokens_key {name : String}
    (unescaped : name.toList.all
      (fun char => char ≠ '"' ∧ char ≠ '\\' ∧ 0x20 ≤ char.toNat) = true) (rest : List Char) :
    Json.tokens ('"' :: (name.toList ++ '"' :: rest)) = .string name :: Json.tokens rest :=
  Json.tokens_string (Json.writesText_self (by simpa using unescaped)) rest

private theorem parse_negativeZero :
    Json.parse "\x7b\"depth\":-0\x7d".toList = .ok (.object [("depth", .integer 0)]) := by
  have number : Json.tokens ['-', '0', '\x7d'] = [.scalar (.integer 0), .closeObject] := by
    have no_literal : Json.literal? ['-', '0', '\x7d'] = none := by decide
    have numeral : Json.Numeral.read? ['-', '0', '\x7d'] =
        some (⟨true, ['0'], [], []⟩, ['\x7d']) := by
      decide
    have close : Json.tokens ['\x7d'] = [.closeObject] := by
      rw [Json.tokens_mark rfl, Json.tokens_nil]
    rw [Json.tokens_bare rfl rfl (by decide), no_literal, numeral, ← close]
    rfl
  have text_eq : "\x7b\"depth\":-0\x7d".toList =
      '\x7b' :: '"' :: ("depth".toList ++ '"' :: ':' :: ['-', '0', '\x7d']) := rfl
  rw [text_eq, Json.parse, if_neg (by decide), Json.tokens_mark rfl, tokens_key (by decide),
    Json.tokens_mark rfl, number]
  rfl

/-- One half of a pair, by number, between quotes. -/
private theorem parse_half :
    Json.parse "\x7b\"labels\":[\"\\ud800\"]\x7d".toList =
      .ok (.object [("labels", .array [.string ⟨[0xD800], trivial⟩])]) := by
  have digits : Json.WritesUnit 0xD800 ['\\', 'u', 'd', '8', '0', '0'] :=
    .digits (a := 13) (b := 8) (c := 0) (d := 0) (by decide) (by decide) (by decide) (by decide)
  have half : Json.WritesPoint 0xD800 ['\\', 'u', 'd', '8', '0', '0'] := .half (by decide) digits
  have spelled : Json.WritesText ⟨[0xD800], trivial⟩ "\\ud800".toList := .cons half .nil
  have text_eq : "\x7b\"labels\":[\"\\ud800\"]\x7d".toList =
      '\x7b' :: '"' :: ("labels".toList ++ '"' :: ':' :: '[' :: '"' ::
        ("\\ud800".toList ++ '"' :: [']', '\x7d'])) := rfl
  rw [text_eq, Json.parse, if_neg (by decide), Json.tokens_mark rfl, tokens_key (by decide),
    Json.tokens_mark rfl, Json.tokens_mark rfl, Json.tokens_string spelled, Json.tokens_mark rfl,
    Json.tokens_mark rfl, Json.tokens_nil]
  rfl

private theorem parse_word : Json.parse "node".toList = .error .expectedValue := by
  have no_literal : Json.literal? ['n', 'o', 'd', 'e'] = none := by decide
  have no_numeral : Json.Numeral.read? ['n', 'o', 'd', 'e'] = none := by decide
  have stray : Json.tokens ['n', 'o', 'd', 'e'] = [.stray] := by
    rw [Json.tokens_bare rfl rfl (by decide), no_literal, no_numeral]
  change Json.Reader.start.run (Json.tokens ['n', 'o', 'd', 'e']) = _
  rw [stray]
  rfl

private theorem parse_emptyArray : Json.parse "[]".toList = .ok (.array []) := by
  change Json.Reader.start.run (Json.tokens ['[', ']']) = _
  rw [Json.tokens_mark rfl, Json.tokens_mark rfl, Json.tokens_nil]
  rfl

/-- Blank lines, a negative zero, a half of a pair that stands alone, and a missing depth whose
default is first an integer and then a truth value; then a line that is no object, and one that is
no JSON. -/
theorem read_upToFailedCheck_negativeZero :
    let lines := ["\u00a0\u2003", "\x7b\"depth\":-0\x7d", "",
      "\x7b\"labels\":[\"\\ud800\"]\x7d"]
    let half : NodeLabels := .ofTexts [⟨[0xD800], trivial⟩]
    Outcome "nodes" (.integer 3) lines ⟨[⟨∅, 0⟩, ⟨half, 3⟩], none⟩ ∧
      Outcome "nodes" (.bool true) lines
        ⟨[⟨∅, 0⟩], some (.line ⟨"nodes", 4, "'depth' must be a non-negative integer"⟩)⟩ ∧
      read "nodes" (.integer 3) (lines ++ ["\t", "[]"]) =
        ⟨[⟨∅, 0⟩, ⟨half, 3⟩], some (.line ⟨"nodes", 6, "expected a JSON object"⟩)⟩ ∧
      Outcome "nodes" (.integer 3) ["node"]
        ⟨[], some (.line ⟨"nodes", 1, "invalid JSON: Expecting value"⟩)⟩ := by
  intro lines half
  have fit : ∀ line ∈ "node" :: lines, Json.IntegersFit line.toList := by
    have short : ∀ line ∈ "node" :: lines, line.toList.length ≤ Text.digitLimit := by decide
    exact fun line member => Json.integersFit_of_length_le (short line member)
  obtain ⟨word_fits, fit⟩ := List.forall_mem_cons.mp fit
  have zero (default : Json.Value) :
      Sample.ofLine default "\x7b\"depth\":-0\x7d" = .ok ⟨∅, 0⟩ := by
    rw [Sample.ofLine, parse_negativeZero]
    rfl
  have missing : Sample.ofLine (.integer 3) "\x7b\"labels\":[\"\\ud800\"]\x7d" =
      .ok ⟨half, 3⟩ := by
    rw [Sample.ofLine, parse_half]
    rfl
  have truth_value : Sample.ofLine (.bool true) "\x7b\"labels\":[\"\\ud800\"]\x7d" =
      .error .badDepth := by
    rw [Sample.ofLine, parse_half]
    rfl
  have array : Sample.ofLine (.integer 3) "[]" = .error .notObject := by
    refine Sample.ofLine_of_failsCheck (.notObject parse_emptyArray ?_)
    intro members same
    cases same
  have word : Sample.ofLine (.integer 3) "node" = .error (.notJson .expectedValue) :=
    Sample.ofLine_of_failsCheck (.notJson parse_word)
  have blank : isBlankLine "\u00a0\u2003" = true ∧ isBlankLine "" = true ∧
      isBlankLine "\t" = true := by
    decide
  have text : isBlankLine "\x7b\"depth\":-0\x7d" = false ∧
      isBlankLine "\x7b\"labels\":[\"\\ud800\"]\x7d" = false ∧ isBlankLine "[]" = false ∧
      isBlankLine "node" = false := by
    decide
  have complete : read "nodes" (.integer 3) lines = ⟨[⟨∅, 0⟩, ⟨half, 3⟩], none⟩ := by
    simp [Listing.read, readFrom, lines, blank, text, zero, missing]
  have cut : read "nodes" (.bool true) lines =
      ⟨[⟨∅, 0⟩], some (.line ⟨"nodes", 4, "'depth' must be a non-negative integer"⟩)⟩ := by
    simp [Listing.read, readFrom, lines, blank, text, zero, truth_value, ListingError.ofFlaw,
      NodeFlaw.message]
  have others : read "nodes" (.integer 3) ["\t", "[]"] =
      ⟨[], some (.line ⟨"nodes", 2, "expected a JSON object"⟩)⟩ := by
    simp [Listing.read, readFrom, blank, text, array, ListingError.ofFlaw, NodeFlaw.message]
  have no_json : read "nodes" (.integer 3) ["node"] =
      ⟨[], some (.line ⟨"nodes", 1, "invalid JSON: Expecting value"⟩)⟩ := by
    simp only [Listing.read, readFrom, text, word, Bool.false_eq_true, if_false]
    rfl
  refine ⟨((read_upToFailedCheck "nodes" _).1 lines _ fit).mp complete,
    ((read_upToFailedCheck "nodes" _).1 lines _ fit).mp cut, ?_,
    ((read_upToFailedCheck "nodes" _).1 ["node"] _ (by simpa using word_fits)).mp no_json⟩
  rw [(read_upToFailedCheck "nodes" _).2 lines _ (by rw [complete]), complete, others]
  rfl

end Listing

end WalkFilter
