import WalkFilter.Text.CharClass
import WalkFilter.Text.Split

/-!
# Lines

A text is cut into lines in two steps: the three newline conventions are unified when a file is
read, and the unified text is cut at every line break. The breaks include the vertical tab, the
form feed, three information separators and the line separators beyond ASCII.
-/

namespace WalkFilter.Text

/-- The characters that end a line. -/
def lineBreak : CharClass where
  ranges := [(0x0A, 0x0D), (0x1C, 0x1E), (0x85, 0x85), (0x2028, 0x2029)]

/-- Writes every carriage return, alone or before a line feed, as one line feed. -/
def unifyNewlines : List Char → List Char
  | [] => []
  | '\r' :: '\n' :: rest => '\n' :: unifyNewlines rest
  | char :: rest => (if char = '\r' then '\n' else char) :: unifyNewlines rest

/-- The lines of a text without their breaks. A carriage return and the line feed after it are one
break, and no empty line follows a final break. -/
def lines : List Char → List (List Char)
  | [] => []
  | '\r' :: '\n' :: rest => [] :: lines rest
  | char :: rest => if char ∈ lineBreak then [] :: lines rest else extendFirst char (lines rest)

end WalkFilter.Text
