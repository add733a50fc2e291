/-!
# Character classes

A class of characters is given by closed ranges of code points. Blank characters, line breaks and
decimal digits are all described this way.
-/

namespace WalkFilter.Text

/-- A set of characters, listed as closed ranges of code points. -/
structure CharClass where
  /-- First and last code point of each range. -/
  ranges : List (Nat × Nat)

namespace CharClass

/-- The character lies in one of the ranges. -/
def contains (charClass : CharClass) (char : Char) : Bool :=
  charClass.ranges.any fun range => range.1 ≤ char.toNat && char.toNat ≤ range.2

instance : Membership Char CharClass where
  mem charClass char := charClass.contains char = true

instance (char : Char) (charClass : CharClass) : Decidable (char ∈ charClass) :=
  inferInstanceAs (Decidable (charClass.contains char = true))

end CharClass

end WalkFilter.Text
