import WalkFilter.Text.Split

/-!
# Paths

A path is normalised as soon as it is read: repeated slashes, single dots and trailing slashes make
no difference, while a double dot is kept. Exactly two slashes at the start are a root of their own;
any other number of them is the ordinary root.
-/

namespace WalkFilter

/-- Where a path starts. -/
inductive Anchor where
  /-- At the working directory. -/
  | relative
  /-- At the root. -/
  | root
  /-- At the root written with two slashes. -/
  | doubleRoot
deriving DecidableEq, Repr, Inhabited

/-- The slashes that write the anchor. -/
def Anchor.text : Anchor → String
  | relative => ""
  | root => "/"
  | doubleRoot => "//"

/-- A normalised path. -/
structure Path where
  /-- Where it starts. -/
  anchor : Anchor
  /-- The names on the way, the file's own name last. -/
  names : List String
deriving DecidableEq, Repr, Inhabited

namespace Path

/-- The anchor of a path that starts with this many slashes. -/
def anchorOfSlashes : Nat → Anchor
  | 0 => .relative
  | 2 => .doubleRoot
  | _ => .root

/-- The path that a text names. The empty text names the working directory. -/
def ofText (text : String) : Path where
  anchor := anchorOfSlashes (text.toList.takeWhile (· = '/')).length
  names := (Text.pieces '/' text).filter fun name => name ≠ "" && name ≠ "."

/-- The normalised text of a path. -/
def text (path : Path) : String :=
  if path.anchor = .relative ∧ path.names = [] then "."
  else path.anchor.text ++ "/".intercalate path.names

end Path

end WalkFilter
