/-!
# Pieces between separators

A filter is a list of tokens between `|`, a label list a list of labels between commas.
-/

namespace WalkFilter.Text

/-- Puts a character in front of the first piece, starting that piece if there is none. -/
def extendFirst (char : Char) : List (List Char) → List (List Char)
  | [] => [[char]]
  | first :: rest => (char :: first) :: rest

/-- The pieces of a text between occurrences of the separator: one more than it has separators. -/
def splitAt (separator : Char) : List Char → List (List Char)
  | [] => [[]]
  | char :: rest =>
    if char = separator then [] :: splitAt separator rest
    else extendFirst char (splitAt separator rest)

/-- The pieces of a string between occurrences of the separator. -/
def pieces (separator : Char) (text : String) : List String :=
  (splitAt separator text.toList).map String.ofList

end WalkFilter.Text
