import WalkFilter.Proofs.Node.Acceptance
import WalkFilter.Proofs.Node.Written

/-!
# Which errors of a node list point to a line

Reading a node list ends well if it reaches the end, or if its error names the first line that is
neither blank nor an entry. It always ends well, except where that line holds an integer with more
digits than are read: the error then names no line.
-/

namespace WalkFilter

/-- A line that a node list may hold: it is blank, or it is an entry. -/
def Raw.IsValid (default : Json.Value) (line : String) : Prop :=
  Raw.hasText line = true → ∃ sample, Raw.IsEntry default line sample

namespace Listing

/-- Every line is valid and there is no error, or the error names the list and the first line that
is not valid. -/
inductive EndsWell (source : String) (default : Json.Value) (lines : List String) :
    Option ListingError → Prop where
  | finished (valid : ∀ line ∈ lines, Raw.IsValid default line) :
    EndsWell source default lines none
  | reported {before : List String} {line : String} {after : List String} {reason : String}
    (place : lines = before ++ line :: after)
    (valid : ∀ earlier ∈ before, Raw.IsValid default earlier)
    (invalid : ¬Raw.IsValid default line) :
    EndsWell source default lines (some (.line ⟨source, before.length + 1, reason⟩))

/-- The first line that is not valid is refused for the digits of an integer in it. -/
def StopsAtDigits (default : Json.Value) (lines : List String) (digits : List Char) : Prop :=
  ∃ before line after, lines = before ++ line :: after ∧
    (∀ earlier ∈ before, Raw.IsValid default earlier) ∧ ¬Raw.IsValid default line ∧
    Json.Overlong line.toList digits ∧
    Json.parse line.toList = .error (.tooManyDigits digits.length)

variable {source : String} {default : Json.Value} {lines : List String}

theorem isValid_iff {line : String} :
    Raw.IsValid default line ↔
      ¬(Raw.hasText line = true ∧ ∃ flaw, Raw.FailsCheck default line flaw) := by
  constructor
  · rintro valid ⟨hasText, flaw, fails⟩
    obtain ⟨sample, entry⟩ := valid hasText
    have read := Sample.ofLine_of_isEntry entry
    rw [Sample.ofLine_of_failsCheck fails] at read
    cases read
  · intro passes hasText
    rcases Sample.isEntry_or_failsCheck default line with entry | fails
    · exact entry
    · exact absurd ⟨hasText, fails⟩ passes

theorem AreEntries.isValid {samples : List Sample} (entries : AreEntries default lines samples) :
    ∀ line ∈ lines, Raw.IsValid default line := by
  intro line member hasText
  exact exists_of_mem_of_forall₂ entries (List.mem_filter.mpr ⟨member, hasText⟩)

theorem exists_areEntries (valid : ∀ line ∈ lines, Raw.IsValid default line) :
    ∃ samples, AreEntries default lines samples := by
  rcases areEntries_or_failsCheck default lines with
    entries | ⟨before, line, after, samples, flaw, rfl, -, hasText, fails⟩
  · exact entries
  · exact absurd ⟨hasText, flaw, fails⟩ (isValid_iff.mp (valid line (by simp)))

/-- The first line that is not valid is reported with the first check that it fails. -/
theorem error_of_failsCheck {before after : List String} {line : String} {flaw : NodeFlaw}
    (valid : ∀ earlier ∈ before, Raw.IsValid default earlier) (hasText : Raw.hasText line = true)
    (fails : Raw.FailsCheck default line flaw) :
    (read source default (before ++ line :: after)).error =
      some (.ofFlaw source (before.length + 1) flaw) := by
  obtain ⟨samples, entries⟩ := exists_areEntries valid
  rw [read_of_failsCheck entries hasText fails]

theorem StopsAtDigits.error_eq {digits : List Char} (stops : StopsAtDigits default lines digits) :
    (read source default lines).error = some (.tooManyDigits digits.length) := by
  obtain ⟨before, line, after, rfl, valid, invalid, -, refused⟩ := stops
  obtain ⟨hasText, -⟩ := not_not.mp (mt isValid_iff.mpr invalid)
  rw [error_of_failsCheck valid hasText (.notJson refused)]
  rfl

/-- Reading a list ends well, except where the first line that is not valid is refused for the
digits of an integer in it. There the error gives their number and no line. -/
theorem endsWell_iff (source : String) (default : Json.Value) (lines : List String) :
    (EndsWell source default lines (read source default lines).error ↔
        ∀ digits, ¬StopsAtDigits default lines digits) ∧
      ∀ digits, StopsAtDigits default lines digits →
        (read source default lines).error = some (.tooManyDigits digits.length) := by
  refine ⟨⟨fun well digits stops => ?_, fun not_stops => ?_⟩, fun digits stops => stops.error_eq⟩
  · rw [stops.error_eq] at well
    cases well
  · rcases areEntries_or_failsCheck default lines with
      ⟨samples, entries⟩ | ⟨before, line, after, samples, flaw, rfl, entries, hasText, fails⟩
    · rw [read_of_areEntries entries]
      exact .finished entries.isValid
    · have invalid : ¬Raw.IsValid default line := fun valid =>
        isValid_iff.mp valid ⟨hasText, flaw, fails⟩
      have not_digits (count : Nat) : flaw ≠ .notJson (.tooManyDigits count) := by
        rintro rfl
        cases fails with
        | notJson refused =>
            obtain ⟨-, digits, overlong, rfl⟩ := Json.exists_overlong_of_parse refused
            exact not_stops digits
              ⟨before, line, after, rfl, entries.isValid, invalid, overlong, refused⟩
      rw [read_of_failsCheck entries hasText fails, ListingError.ofFlaw_eq_line not_digits]
      exact .reported rfl entries.isValid invalid

/-- An array of one integer that consists of ones. -/
def lineOfOnes (count : Nat) : String := String.ofList ('[' :: (List.replicate count '1' ++ [']']))

theorem overlong_lineOfOnes {count : Nat} (many : Text.digitLimit < count) :
    Json.Overlong (lineOfOnes count).toList (List.replicate count '1') where
  inside := by
    rw [lineOfOnes, String.toList_ofList]
    exact ⟨['['], [']'], rfl⟩
  isDigit := fun char member => by
    rw [List.eq_of_mem_replicate member]
    rfl
  many := by rwa [List.length_replicate]

theorem parse_lineOfOnes {count : Nat} (many : Text.digitLimit < count) :
    Json.parse (lineOfOnes count).toList = .error (.tooManyDigits count) := by
  have is_digit := (overlong_lineOfOnes many).isDigit
  obtain ⟨fewer, rfl⟩ := Nat.exists_eq_succ_of_ne_zero (Nat.ne_zero_of_lt many)
  rw [List.replicate_succ] at is_digit
  have refused := Json.parse_of_overlong is_digit (by decide) (by simpa using many)
  rw [lineOfOnes, String.toList_ofList, List.replicate_succ, refused]
  simp

theorem ofLine_emptyObject (default : Json.Value) :
    Sample.ofLine default "\x7b\x7d" = Sample.ofMembers default [] := by
  have parsed : Json.parse "\x7b\x7d".toList = .ok (.object []) := by
    change Json.Reader.start.run (Json.tokens ['\x7b', '\x7d']) = _
    rw [Json.tokens_mark rfl, Json.tokens_mark rfl, Json.tokens_nil]
    rfl
  rw [Sample.ofLine, parsed]

theorem hasText_lineOfOnes (count : Nat) : Raw.hasText (lineOfOnes count) = true :=
  hasText_ofList List.mem_cons_self rfl

/-- A line that is no JSON is reported with its number, an integer with one digit too many in the
same place is not. -/
theorem endsWell_iff_bracketAndOnes :
    EndsWell "nodes" (.integer 0) ["", "\x7b\x7d", "["]
        (read "nodes" (.integer 0) ["", "\x7b\x7d", "["]).error ∧
      (read "nodes" (.integer 0) ["", "\x7b\x7d", lineOfOnes 4301]).error =
        some (.tooManyDigits 4301) := by
  have entry : Sample.ofLine (.integer 0) "\x7b\x7d" = .ok ⟨∅, 0⟩ := ofLine_emptyObject _
  have broken_off : Sample.ofLine (.integer 0) "[" = .error (.notJson .expectedValue) := by
    have refused : Json.parse "[".toList = .error .expectedValue := by
      change Json.Reader.start.run (Json.tokens ['[']) = _
      rw [Json.tokens_mark rfl, Json.tokens_nil]
      rfl
    exact Sample.ofLine_of_failsCheck (.notJson refused)
  have line_error : (read "nodes" (.integer 0) ["", "\x7b\x7d", "["]).error =
      some (.line ⟨"nodes", 3, (NodeFlaw.notJson .expectedValue).message⟩) := by
    have blank : isBlankLine "" = true := by decide
    have text : isBlankLine "\x7b\x7d" = false ∧ isBlankLine "[" = false := by decide
    simp [Listing.read, readFrom, blank, text, entry, broken_off, ListingError.ofFlaw]
  constructor
  · refine (endsWell_iff "nodes" (.integer 0) ["", "\x7b\x7d", "["]).1.mpr fun digits stops => ?_
    have digits_error := (endsWell_iff "nodes" _ _).2 digits stops
    rw [line_error] at digits_error
    cases digits_error
  · have valid : ∀ earlier ∈ ["", "\x7b\x7d"], Raw.IsValid (.integer 0) earlier := by
      refine List.forall_mem_cons.mpr ⟨fun hasText => absurd hasText (by decide), ?_⟩
      exact List.forall_mem_singleton.mpr fun _ => ⟨_, Sample.ofLine_eq_ok_iff_isEntry.mp entry⟩
    have refused := parse_lineOfOnes (by decide : Text.digitLimit < 4301)
    have invalid : ¬Raw.IsValid (.integer 0) (lineOfOnes 4301) := fun valid =>
      isValid_iff.mp valid ⟨hasText_lineOfOnes 4301, _, .notJson refused⟩
    have overlong := overlong_lineOfOnes (by decide : Text.digitLimit < 4301)
    have stops : StopsAtDigits (.integer 0) ["", "\x7b\x7d", lineOfOnes 4301]
        (List.replicate 4301 '1') := by
      refine ⟨_, _, [], rfl, valid, invalid, overlong, ?_⟩
      rw [refused, List.length_replicate]
    rw [(endsWell_iff "nodes" (.integer 0) _).2 _ stops, List.length_replicate]

/-- A list of one line that is no entry does not lead to an error that names the line. -/
theorem not_endsWell_lineOfOnes :
    ¬EndsWell "<input>" (.integer 0) [lineOfOnes 4301]
      (read "<input>" (.integer 0) [lineOfOnes 4301]).error := by
  have refused := parse_lineOfOnes (by decide : Text.digitLimit < 4301)
  have error_eq : (read "<input>" (.integer 0) ([] ++ [lineOfOnes 4301])).error =
      some (.tooManyDigits 4301) :=
    error_of_failsCheck (by simp) (hasText_lineOfOnes 4301) (.notJson refused)
  rw [List.nil_append] at error_eq
  rw [error_eq]
  intro well
  cases well

end Listing

end WalkFilter
