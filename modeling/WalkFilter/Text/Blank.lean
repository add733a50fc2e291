import WalkFilter.Text.CharClass

/-!
# Blank characters

Labels, filter lines and node lines are read with the blanks around them removed. The class is
wider than the ASCII blanks: it holds the separators of the information-separator row, the
no-break space and the typographic spaces, and leaves out the zero-width ones.
-/

namespace WalkFilter.Text

/-- The characters that count as blank at either end of a text. -/
def blank : CharClass where
  ranges := [(0x09, 0x0D), (0x1C, 0x20), (0x85, 0x85), (0xA0, 0xA0), (0x1680, 0x1680),
    (0x2000, 0x200A), (0x2028, 0x2029), (0x202F, 0x202F), (0x205F, 0x205F), (0x3000, 0x3000)]

/-- The text without the characters of the class at its start. -/
def trimStart (charClass : CharClass) (text : List Char) : List Char :=
  text.dropWhile (charClass.contains ·)

/-- The text without the characters of the class at its start and its end. -/
def trim (charClass : CharClass) (text : List Char) : List Char :=
  (trimStart charClass (trimStart charClass text).reverse).reverse

/-- The text without blanks at its start and its end. -/
def strip (text : List Char) : List Char := trim blank text

end WalkFilter.Text
