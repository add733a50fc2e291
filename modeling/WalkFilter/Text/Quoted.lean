import WalkFilter.Text.Hex
import WalkFilter.Text.Printable

/-!
# Quoted text

Messages and log records show a text between quotes on one line. The quote is single unless the
text holds a single quote and no double one; the backslash, that quote and every unprintable
character are escaped.
-/

namespace WalkFilter.Text

/-- The quote that needs the fewest escapes, single if both need as many. -/
def chooseQuote (text : List Char) : Char :=
  if '\'' ∈ text ∧ '"' ∉ text then '"' else '\''

/-- A character as it stands between the given quotes. -/
def quoteChar (quote char : Char) : List Char :=
  let point := char.toNat
  if char = quote ∨ char = '\\' then ['\\', char]
  else if char = '\t' then ['\\', 't']
  else if char = '\n' then ['\\', 'n']
  else if char = '\r' then ['\\', 'r']
  else if char ∈ unprintable then
    if point < 0x100 then '\\' :: 'x' :: hex 2 point
    else if point < 0x10000 then '\\' :: 'u' :: hex 4 point
    else '\\' :: 'U' :: hex 8 point
  else [char]

/-- The text between quotes, with escapes. -/
def quoted (text : String) : String :=
  let quote := chooseQuote text.toList
  String.ofList (quote :: text.toList.flatMap (quoteChar quote) ++ [quote])

/-- The quoted texts between brackets. -/
def quotedList (texts : List String) : String :=
  "[" ++ ", ".intercalate (texts.map quoted) ++ "]"

end WalkFilter.Text
