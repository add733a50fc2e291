import WalkFilter.Json.Numeral
import WalkFilter.Json.StringLiteral

/-!
# JSON tokens

A JSON text is first cut into tokens. Cutting stops at the first string or number that is faulty and
at the first character that begins no token; such an end is a token of its own, so that the reader
decides whether the fault counts or whether nothing of that kind was expected there.
-/

namespace WalkFilter.Json

/-- A token of a JSON text. -/
inductive Token where
  /-- `[` -/
  | openArray
  /-- `]` -/
  | closeArray
  /-- `{` -/
  | openObject
  /-- `}` -/
  | closeObject
  /-- A comma. -/
  | comma
  /-- A colon. -/
  | colon
  /-- A string. -/
  | string (content : CodeText)
  /-- A literal or a number. -/
  | scalar (value : Value)
  /-- A string with a fault. -/
  | badString (fault : Fault)
  /-- A number with a fault. -/
  | badNumber (fault : Fault)
  /-- A character that begins no token. -/
  | stray
deriving Repr

/-- The blanks between tokens. -/
def isGap (char : Char) : Bool := char = ' ' || char = '\t' || char = '\n' || char = '\r'

/-- The token of a punctuation mark. -/
def punctuation? (char : Char) : Option Token :=
  match char with
  | '[' => some .openArray
  | ']' => some .closeArray
  | '\x7b' => some .openObject
  | '\x7d' => some .closeObject
  | ',' => some .comma
  | ':' => some .colon
  | _ => none

/-- The literals and their values. -/
def literals : List (String × Value) :=
  [("null", .null), ("true", .bool true), ("false", .bool false), ("NaN", .decimal "NaN"),
    ("Infinity", .decimal "Infinity"), ("-Infinity", .decimal "-Infinity")]

/-- The literal at the start of a text and what follows it. -/
def literal? (text : List Char) : Option (Value × List Char) :=
  (literals.find? fun literal => literal.1.toList.isPrefixOf text).map fun literal =>
    (literal.2, text.drop literal.1.length)

/-- A literal takes at least one character. -/
theorem length_lt_of_literal? {text rest : List Char} {value : Value}
    (read : literal? text = some (value, rest)) : rest.length < text.length := by
  simp only [literal?, Option.map_eq_some_iff, Prod.mk.injEq] at read
  obtain ⟨literal, found, -, dropped⟩ := read
  have starts := List.find?_some found
  have member := List.mem_of_find?_eq_some found
  have positive : 0 < literal.1.length := by
    simp only [literals, List.mem_cons, List.not_mem_nil, or_false] at member
    rcases member with rfl | rfl | rfl | rfl | rfl | rfl <;> decide
  have bound := (List.isPrefixOf_iff_prefix.mp starts).length_le
  rw [String.length_toList] at bound
  rw [← dropped, List.length_drop]
  omega

/-- The tokens of a text. -/
def tokens (text : List Char) : List Token :=
  match text with
  | [] => []
  | char :: rest =>
    if isGap char then tokens rest
    else if let some mark := punctuation? char then mark :: tokens rest
    else if char = '"' then
      match _read : readString rest with
      | .ok (content, after) => .string content :: tokens after
      | .error fault => [.badString fault]
    else
      match _literal : literal? (char :: rest) with
      | some (value, after) => .scalar value :: tokens after
      | none =>
        match _read : Numeral.read? (char :: rest) with
        | some (numeral, after) =>
          match numeral.value with
          | .ok value => .scalar value :: tokens after
          | .error fault => [.badNumber fault]
        | none => [.stray]
termination_by text.length
decreasing_by
  all_goals simp only [List.length_cons]
  · omega
  · omega
  · have := length_lt_of_readString _read
    omega
  · simpa using length_lt_of_literal? _literal
  · have := Numeral.length_lt_of_read? _read
    simpa using this

end WalkFilter.Json
