import WalkFilter.Json.Value
import WalkFilter.Text.Hex

/-!
# Writing JSON

A value is written on one line, with a space after every comma and colon. Strings hold printable
ASCII characters only: every other character is escaped, as one UTF-16 unit or as two beyond the
first plane. A half of a surrogate pair that stands alone is escaped as one unit.
-/

namespace WalkFilter.Json

/-- An escape of one UTF-16 unit. -/
def unitEscape (unit : Nat) : List Char := '\\' :: 'u' :: Text.hex 4 unit

/-- A character as it stands in a string. -/
def escapeChar (char : Char) : List Char :=
  let point := char.toNat
  if char = '"' then ['\\', '"']
  else if char = '\\' then ['\\', '\\']
  else if char = '\n' then ['\\', 'n']
  else if char = '\r' then ['\\', 'r']
  else if char = '\t' then ['\\', 't']
  else if char = '\x08' then ['\\', 'b']
  else if char = '\x0C' then ['\\', 'f']
  else if 0x20 ≤ point ∧ point < 0x7F then [char]
  else if point < 0x10000 then unitEscape point
  else
    unitEscape (0xD800 + (point - 0x10000) / 0x400) ++
      unitEscape (0xDC00 + (point - 0x10000) % 0x400)

/-- A code point as it stands in a string. -/
def escapePoint (point : CodePoint) : List Char :=
  match CodePoint.char? point with
  | some char => escapeChar char
  | none => unitEscape point.val

/-- A string between quotes. -/
def writeString (text : CodeText) : List Char :=
  '"' :: text.points.flatMap escapePoint ++ ['"']

mutual

/-- A value as JSON text. -/
def write : Value → List Char
  | .null => "null".toList
  | .bool true => "true".toList
  | .bool false => "false".toList
  | .integer value => (toString value).toList
  | .decimal text => text.toList
  | .string text => writeString text
  | .array elements => '[' :: writeElements elements ++ [']']
  | .object members => '\x7b' :: writeMembers members ++ ['\x7d']

/-- The elements of an array with commas between them. -/
def writeElements : List Value → List Char
  | [] => []
  | [element] => write element
  | element :: next :: rest => write element ++ ", ".toList ++ writeElements (next :: rest)

/-- The members of an object with commas between them. -/
def writeMembers : List (CodeText × Value) → List Char
  | [] => []
  | [(key, value)] => writeString key ++ ": ".toList ++ write value
  | (key, value) :: next :: rest =>
    writeString key ++ ": ".toList ++ write value ++ ", ".toList ++ writeMembers (next :: rest)

end

end WalkFilter.Json
