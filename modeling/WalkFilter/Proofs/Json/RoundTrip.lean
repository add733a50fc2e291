import WalkFilter.Json.Writer
import WalkFilter.Proofs.CodeText
import WalkFilter.Proofs.Json.Document

/-!
# Written documents are read back

What the writer writes is a layout of the tokens of the value, so the reader gives the value back.
The text holds printable ASCII characters only.
-/

namespace WalkFilter.Json

/-! ## Strings -/

theorem writesDigit_hexDigit {value : Nat} (bound : value < 16) :
    WritesDigit value (Text.hexDigit value) :=
  .inl ((by decide : ∀ digit < 16,
    "0123456789abcdef".toList[digit]? = some (Text.hexDigit digit)) value bound)

theorem writesUnit_unitEscape {unit : Nat} (bound : unit < 0x10000) :
    WritesUnit unit (unitEscape unit) := by
  have last (number : Nat) : WritesDigit (number % 16) (Text.hexDigit (number % 16)) :=
    writesDigit_hexDigit (Nat.mod_lt number (by decide))
  have digits := WritesUnit.digits (last (unit / 16 / 16 / 16)) (last (unit / 16 / 16))
    (last (unit / 16)) (last unit)
  have sum_eq : unit / 16 / 16 / 16 % 16 * 4096 + unit / 16 / 16 % 16 * 256 + unit / 16 % 16 * 16 +
      unit % 16 = unit := by omega
  rw [sum_eq] at digits
  exact digits

/-- How a character is escaped. -/
theorem escapeChar_cases (char : Char) :
    (∃ letter, (letter, char) ∈ escapeLetters ∧ escapeChar char = ['\\', letter]) ∨
      char ≠ '"' ∧ char ≠ '\\' ∧ IsPlain char ∧ escapeChar char = [char] ∨
      char.toNat < 0x10000 ∧ escapeChar char = unitEscape char.toNat ∨
      0x10000 ≤ char.toNat ∧
        escapeChar char = unitEscape (0xD800 + (char.toNat - 0x10000) / 0x400) ++
          unitEscape (0xDC00 + (char.toNat - 0x10000) % 0x400) := by
  by_cases in_letters : ∃ letter, (letter, char) ∈ escapeLetters ∧ escapeChar char = ['\\', letter]
  · exact .inl in_letters
  · have different (letter other : Char) (stands : (letter, other) ∈ escapeLetters)
        (escaped : escapeChar other = ['\\', letter]) : char ≠ other := by
      rintro rfl
      exact in_letters ⟨letter, stands, escaped⟩
    have not_quote := different '"' '"' (by decide) rfl
    have not_backslash := different '\\' '\\' (by decide) rfl
    rw [escapeChar, if_neg not_quote, if_neg not_backslash,
      if_neg (different 'n' '\n' (by decide) rfl), if_neg (different 'r' '\r' (by decide) rfl),
      if_neg (different 't' '\t' (by decide) rfl), if_neg (different 'b' '\x08' (by decide) rfl),
      if_neg (different 'f' '\x0C' (by decide) rfl)]
    by_cases plain : IsPlain char
    · exact .inr (.inl ⟨not_quote, not_backslash, plain, if_pos plain⟩)
    · have not_printed : ¬(0x20 ≤ char.toNat ∧ char.toNat < 0x7F) := plain
      rw [if_neg not_printed]
      by_cases first_plane : char.toNat < 0x10000
      · exact .inr (.inr (.inl ⟨first_plane, if_pos first_plane⟩))
      · exact .inr (.inr (.inr ⟨Nat.not_lt.mp first_plane, if_neg first_plane⟩))

theorem writesChar_escapeChar (char : Char) : WritesChar char (escapeChar char) := by
  rcases escapeChar_cases char with ⟨letter, stands, escaped⟩ |
    ⟨not_quote, not_backslash, plain, escaped⟩ | ⟨first_plane, escaped⟩ | ⟨beyond, escaped⟩
  · rw [escaped]
    exact .letter stands
  · rw [escaped]
    exact .itself not_quote not_backslash plain.1
  · rw [escaped]
    exact .unit (writesUnit_unitEscape first_plane)
  · have valid := CodePoint.toNat_lt char
    rw [escaped]
    exact .pair (by omega) (by omega) (by omega) (writesUnit_unitEscape (by omega))
      (writesUnit_unitEscape (by omega))

theorem isPlain_of_mem_escapeChar {char : Char} :
    ∀ written ∈ escapeChar char, IsPlain written := by
  rcases escapeChar_cases char with ⟨letter, stands, escaped⟩ |
    ⟨not_quote, not_backslash, plain, escaped⟩ | ⟨first_plane, escaped⟩ | ⟨beyond, escaped⟩
  · have letter_plain := (by decide : ∀ escape ∈ escapeLetters, IsPlain escape.1) _ stands
    rw [escaped]
    exact List.forall_mem_cons.mpr ⟨by decide, List.forall_mem_singleton.mpr letter_plain⟩
  · rw [escaped]
    exact List.forall_mem_singleton.mpr plain
  · rw [escaped]
    exact (writesUnit_unitEscape first_plane).isPlain
  · have valid := CodePoint.toNat_lt char
    rw [escaped]
    exact List.forall_mem_append.mpr
      ⟨(writesUnit_unitEscape (by omega)).isPlain, (writesUnit_unitEscape (by omega)).isPlain⟩

theorem writesPoint_escapePoint (point : CodePoint) : WritesPoint point (escapePoint point) := by
  unfold escapePoint
  split
  · rename_i char is_char
    exact CodePoint.char?_eq_some_iff.mp is_char ▸ .char (writesChar_escapeChar char)
  · rename_i no_char
    have is_half := CodePoint.char?_eq_none_iff.mp no_char
    exact .half is_half (writesUnit_unitEscape (CodePoint.lt_of_isHalf is_half))

theorem isPlain_of_mem_escapePoint {point : CodePoint} :
    ∀ written ∈ escapePoint point, IsPlain written := by
  unfold escapePoint
  split
  · exact isPlain_of_mem_escapeChar
  · rename_i no_char
    have is_half := CodePoint.char?_eq_none_iff.mp no_char
    exact (writesUnit_unitEscape (CodePoint.lt_of_isHalf is_half)).isPlain

theorem writesPoints_flatMap (points : List CodePoint) :
    WritesPoints points (points.flatMap escapePoint) := by
  induction points with
  | nil => exact .nil
  | cons first rest induction => exact .cons (writesPoint_escapePoint first) induction

theorem layout_writeString (content : CodeText) {tokens : List Token} {text : List Char}
    (behind : Layout tokens text) :
    Layout (.string content :: tokens) (writeString content ++ text) := by
  have layout := Layout.string (writesPoints_flatMap content.points) behind
  simpa [writeString] using layout

/-! ## Values -/

/-- A value of which writing loses nothing: all its numbers are integers that can be read. -/
inductive Value.Exact : Value → Prop where
  | null : Exact .null
  | bool (value : Bool) : Exact (.bool value)
  | integer {value : Int} (few : HasFewDigits value) : Exact (.integer value)
  | string (text : CodeText) : Exact (.string text)
  | array {elements : List Value} (exact : ∀ element ∈ elements, Exact element) :
    Exact (.array elements)
  | object {members : List (CodeText × Value)} (exact : ∀ member ∈ members, Exact member.2) :
    Exact (.object members)

/-- In front of a text that does not continue a numeral, the value is written as its tokens. -/
def IsLaidOut (value : Value) : Prop :=
  ∀ {tokens : List Token} {text : List Char}, Layout tokens text → EndsNumeral text →
    Layout (value.tokens ++ tokens) (write value ++ text)

theorem layout_comma {tokens : List Token} {text : List Char} (behind : Layout tokens text) :
    Layout (.comma :: tokens) (", ".toList ++ text) :=
  .mark rfl (.gap (.inl rfl) behind)

theorem layout_colon {tokens : List Token} {text : List Char} (behind : Layout tokens text) :
    Layout (.colon :: tokens) (": ".toList ++ text) :=
  .mark rfl (.gap (.inl rfl) behind)

theorem layout_elements {elements : List Value} (laid_out : ∀ element ∈ elements, IsLaidOut element)
    {tokens : List Token} {text : List Char} (behind : Layout tokens text)
    (ends : EndsNumeral text) :
    Layout (elementTokens elements ++ tokens) (writeElements elements ++ text) := by
  induction elements with
  | nil => exact behind
  | cons element rest induction =>
      obtain ⟨first, others⟩ := List.forall_mem_cons.mp laid_out
      cases rest with
      | nil => exact first behind ends
      | cons next rest =>
          rw [elementTokens, writeElements, List.append_assoc, List.append_assoc,
            List.append_assoc]
          exact first (layout_comma (induction others)) (by simp [EndsNumeral])

theorem layout_members {members : List (CodeText × Value)}
    (laid_out : ∀ member ∈ members, IsLaidOut member.2) {tokens : List Token} {text : List Char}
    (behind : Layout tokens text) (ends : EndsNumeral text) :
    Layout (memberTokens members ++ tokens) (writeMembers members ++ text) := by
  induction members with
  | nil => exact behind
  | cons member rest induction =>
      obtain ⟨first, others⟩ := List.forall_mem_cons.mp laid_out
      obtain ⟨key, value⟩ := member
      cases rest with
      | nil =>
          rw [memberTokens, writeMembers, List.append_assoc, List.append_assoc]
          exact layout_writeString key (layout_colon (first behind ends))
      | cons next rest =>
          have separated := first (layout_comma (induction others)) (by simp [EndsNumeral])
          rw [memberTokens, writeMembers]
          simp only [List.append_assoc, List.cons_append]
          exact layout_writeString key (layout_colon separated)

theorem isLaidOut {value : Value} (exact : value.Exact) : IsLaidOut value := by
  intro tokens text behind ends
  induction exact generalizing tokens text with
  | null =>
      have stands : ("null", Value.null) ∈ commonLiterals := by simp [commonLiterals]
      exact .literal stands behind
  | bool value =>
      have true_stands : ("true", Value.bool true) ∈ commonLiterals := by simp [commonLiterals]
      have false_stands : ("false", Value.bool false) ∈ commonLiterals := by simp [commonLiterals]
      cases value with
      | true => exact .literal true_stands behind
      | false => exact .literal false_stands behind
  | integer few => exact .integer few ends behind
  | string content => exact layout_writeString content behind
  | array exact laid_out =>
      have closed : Layout (.closeArray :: tokens) (']' :: text) := .mark rfl behind
      have elements := layout_elements laid_out closed (by simp [EndsNumeral])
      rw [Value.tokens, write, List.append_assoc, List.append_assoc]
      exact .mark rfl elements
  | object exact laid_out =>
      have closed : Layout (.closeObject :: tokens) ('\x7d' :: text) := .mark rfl behind
      have members := layout_members laid_out closed (by simp [EndsNumeral])
      rw [Value.tokens, write, List.append_assoc, List.append_assoc]
      exact .mark rfl members

theorem layout_write {value : Value} (exact : value.Exact) :
    Layout value.tokens (write value) := by
  have ends : EndsNumeral [] := by simp [EndsNumeral]
  have layout := isLaidOut exact .nil ends
  rwa [List.append_nil, List.append_nil] at layout

/-- What is written for a value is read as the value. -/
theorem parse_write {value : Value} (exact : value.Exact) : parse (write value) = .ok value :=
  parse_of_layout (layout_write exact)

/-- The same for a line on which the value is written. -/
theorem parse_write_line {value : Value} (exact : value.Exact) :
    parse (write value ++ ['\n']) = .ok value :=
  parse_line_of_layout (layout_write exact)

/-! ## Plain text -/

theorem isPlain_of_mem_writeString {content : CodeText} :
    ∀ written ∈ writeString content, IsPlain written := by
  intro written member
  rcases List.mem_append.mp member with member | member
  · rcases List.mem_cons.mp member with rfl | member
    · decide
    · obtain ⟨point, -, inside⟩ := List.mem_flatMap.mp member
      exact isPlain_of_mem_escapePoint written inside
  · obtain rfl := List.mem_singleton.mp member
    decide

theorem isPlain_of_mem_writeElements {elements : List Value}
    (plain : ∀ element ∈ elements, ∀ written ∈ write element, IsPlain written) :
    ∀ written ∈ writeElements elements, IsPlain written := by
  have separator : ∀ written ∈ ", ".toList, IsPlain written :=
    isPlain_of_all (by decide)
  induction elements with
  | nil => simp [writeElements]
  | cons element rest induction =>
      obtain ⟨first, others⟩ := List.forall_mem_cons.mp plain
      cases rest with
      | nil => exact first
      | cons next rest =>
          exact List.forall_mem_append.mpr
            ⟨List.forall_mem_append.mpr ⟨first, separator⟩, induction others⟩

theorem isPlain_of_mem_writeMembers {members : List (CodeText × Value)}
    (plain : ∀ member ∈ members, ∀ written ∈ write member.2, IsPlain written) :
    ∀ written ∈ writeMembers members, IsPlain written := by
  have separator : ∀ written ∈ ", ".toList, IsPlain written :=
    isPlain_of_all (by decide)
  have colon : ∀ written ∈ ": ".toList, IsPlain written :=
    isPlain_of_all (by decide)
  induction members with
  | nil => simp [writeMembers]
  | cons member rest induction =>
      obtain ⟨first, others⟩ := List.forall_mem_cons.mp plain
      obtain ⟨key, value⟩ := member
      have keyed : ∀ written ∈ writeString key ++ ": ".toList ++ write value, IsPlain written :=
        List.forall_mem_append.mpr
          ⟨List.forall_mem_append.mpr ⟨isPlain_of_mem_writeString, colon⟩, first⟩
      cases rest with
      | nil => exact keyed
      | cons next rest =>
          exact List.forall_mem_append.mpr
            ⟨List.forall_mem_append.mpr ⟨keyed, separator⟩, induction others⟩

/-- Documents are written in plain characters. -/
theorem isPlain_of_mem_write {value : Value} (exact : value.Exact) :
    ∀ written ∈ write value, IsPlain written := by
  induction exact with
  | null => exact isPlain_of_all (by decide)
  | bool value => cases value <;> exact isPlain_of_all (by decide)
  | integer few => exact fun _ => isPlain_of_mem_toString
  | string content => exact isPlain_of_mem_writeString
  | array exact plain =>
      exact List.forall_mem_append.mpr
        ⟨List.forall_mem_cons.mpr ⟨by decide, isPlain_of_mem_writeElements plain⟩,
          isPlain_of_all (by decide)⟩
  | object exact plain =>
      exact List.forall_mem_append.mpr
        ⟨List.forall_mem_cons.mpr ⟨by decide, isPlain_of_mem_writeMembers plain⟩,
          isPlain_of_all (by decide)⟩

end WalkFilter.Json
