import WalkFilter.Text.Digit

/-!
# Faults of a JSON text

Reading stops at the first place where a text cannot be continued to a JSON document. An integer
with too many digits is well formed, yet it is refused like a fault.
-/

namespace WalkFilter.Json

/-- Why a text is not read as JSON. -/
inductive Fault where
  /-- The text starts with a byte order mark. -/
  | byteOrderMark
  /-- No value starts where one must. -/
  | expectedValue
  /-- No string starts where a key must. -/
  | expectedKey
  /-- No colon follows a key. -/
  | expectedColon
  /-- Neither a comma nor the closing bracket follows an element or a member. -/
  | expectedComma
  /-- The text ends inside a string. -/
  | unterminatedString
  /-- A control character stands unescaped in a string. -/
  | controlCharacter
  /-- A backslash is followed by a character that names no escape. -/
  | invalidEscape
  /-- A code unit escape lacks its four digits, or the text ends right after them. -/
  | invalidUnitEscape
  /-- Something follows the document. -/
  | extraData
  /-- An integer has more digits than are read. -/
  | tooManyDigits (count : Nat)
deriving DecidableEq, Repr

/-- The fault in words. -/
def Fault.message : Fault → String
  | byteOrderMark => "Unexpected UTF-8 BOM (decode using utf-8-sig)"
  | expectedValue => "Expecting value"
  | expectedKey => "Expecting property name enclosed in double quotes"
  | expectedColon => "Expecting ':' delimiter"
  | expectedComma => "Expecting ',' delimiter"
  | unterminatedString => "Unterminated string starting at"
  | controlCharacter => "Invalid control character at"
  | invalidEscape => "Invalid \\escape"
  | invalidUnitEscape => "Invalid \\uXXXX escape"
  | extraData => "Extra data"
  | tooManyDigits count =>
    "Exceeds the limit (" ++ toString Text.digitLimit ++ " digits) for integer string conversion: " ++
      "value has " ++ toString count ++
      " digits; use sys.set_int_max_str_digits() to increase the limit"

end WalkFilter.Json
