import WalkFilter.Text.Blank
import WalkFilter.Text.Digit

/-!
# Integers in option values

An integer may have blanks around it, a sign, digits of any script, and single underscores between
digits. Longer numerals than `digitLimit` are refused, leading zeros counted.
-/

namespace WalkFilter.Text

/-- The blanks allowed around an integer: those around labels without the information
separators. -/
def integerBlank : CharClass where
  ranges := [(0x09, 0x0D), (0x20, 0x20), (0x85, 0x85), (0xA0, 0xA0), (0x1680, 0x1680),
    (0x2000, 0x200A), (0x2028, 0x2029), (0x202F, 0x202F), (0x205F, 0x205F), (0x3000, 0x3000)]

/-- The digit values of a numeral: digits, with single underscores between two of them. -/
def digitValues? : List Char → Option (List Nat)
  | [] => none
  | [char] => (digitValue? char).map ([·])
  | char :: '_' :: rest => do return (← digitValue? char) :: (← digitValues? rest)
  | char :: rest => do return (← digitValue? char) :: (← digitValues? rest)

/-- The number with the given decimal digits, the most significant first. -/
def ofDigitValues (values : List Nat) : Nat := values.foldl (fun number value => number * 10 + value) 0

/-- The number that a numeral without sign and blanks stands for. -/
def natural? (text : List Char) : Option Nat := do
  let values ← digitValues? text
  if values.length ≤ digitLimit then some (ofDigitValues values) else none

/-- The integer that a text stands for. -/
def integer? (text : String) : Option Int :=
  match trim integerBlank text.toList with
  | '-' :: digits => (natural? digits).map fun number => -(number : Int)
  | '+' :: digits => (natural? digits).map Int.ofNat
  | digits => (natural? digits).map Int.ofNat

end WalkFilter.Text
