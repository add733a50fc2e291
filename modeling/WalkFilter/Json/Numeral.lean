import WalkFilter.Json.Fault
import WalkFilter.Json.Value

/-!
# JSON numerals

A numeral is an optional minus sign, a whole part without leading zeros, an optional fraction and an
optional exponent. `Numeral.read?` takes the longest numeral at the start of a text, so a point or
an `e` without digits after it is left over.
-/

namespace WalkFilter.Json

/-- A numeral taken apart. -/
structure Numeral where
  /-- A minus sign comes first. -/
  negative : Bool
  /-- The digits before the point. -/
  whole : List Char
  /-- The point and the digits after it, or nothing. -/
  fraction : List Char
  /-- The exponent with its letter and sign, or nothing. -/
  exponent : List Char
deriving DecidableEq, Repr

namespace Numeral

/-- The digits at the start of a text. -/
def digits (text : List Char) : List Char := text.takeWhile Char.isDigit

/-- The digits of a whole part: a single zero, or digits that start with another one. -/
def wholePart (text : List Char) : List Char :=
  if text.head? = some '0' then ['0'] else digits text

/-- The fraction at the start of a text, or nothing. -/
def fractionPart : List Char → List Char
  | '.' :: rest => if (digits rest).isEmpty then [] else '.' :: digits rest
  | _ => []

/-- The sign at the start of an exponent, or nothing. -/
def exponentSign : List Char → List Char
  | '+' :: _ => ['+']
  | '-' :: _ => ['-']
  | _ => []

/-- The exponent at the start of a text, or nothing. -/
def exponentPart : List Char → List Char
  | letter :: rest =>
    let sign := exponentSign rest
    let power := digits (rest.drop sign.length)
    if (letter = 'e' ∨ letter = 'E') ∧ ¬ power.isEmpty then letter :: sign ++ power else []
  | [] => []

/-- The numeral as it is written. -/
def text (numeral : Numeral) : List Char :=
  (if numeral.negative then ['-'] else []) ++ numeral.whole ++ numeral.fraction ++ numeral.exponent

/-- The longest numeral at the start of a text and what follows it. -/
def read? (text : List Char) : Option (Numeral × List Char) :=
  let negative := text.head? = some '-'
  let unsigned := if negative then text.drop 1 else text
  let whole := wholePart unsigned
  if whole.isEmpty then none
  else
    let afterWhole := unsigned.drop whole.length
    let fraction := fractionPart afterWhole
    let afterFraction := afterWhole.drop fraction.length
    let exponent := exponentPart afterFraction
    some (⟨negative, whole, fraction, exponent⟩, afterFraction.drop exponent.length)

/-- The number that decimal digits stand for. -/
def ofDigits (digits : List Char) : Nat :=
  digits.foldl (fun number digit => number * 10 + (digit.toNat - 0x30)) 0

/-- The value of a numeral. Only an integer can have too many digits. -/
def value (numeral : Numeral) : Except Fault Value :=
  if numeral.fraction.isEmpty ∧ numeral.exponent.isEmpty then
    if numeral.whole.length ≤ Text.digitLimit then
      let magnitude : Int := ofDigits numeral.whole
      .ok (.integer (if numeral.negative then -magnitude else magnitude))
    else .error (.tooManyDigits numeral.whole.length)
  else .ok (.decimal (String.ofList numeral.text))

/-- A numeral takes at least one digit. -/
theorem length_lt_of_read? {text rest : List Char} {numeral : Numeral}
    (read : read? text = some (numeral, rest)) : rest.length < text.length := by
  cases text with
  | nil => simp [read?, wholePart, digits] at read
  | cons first others =>
    unfold read? at read
    extract_lets negative unsigned whole afterWhole fraction afterFraction exponent at read
    have unsigned_le : unsigned.length ≤ others.length + 1 := by
      simp only [unsigned]
      split <;> simp
    clear_value unsigned
    split at read
    · simp at read
    · rename_i whole_nonempty
      have whole_pos : whole.length ≠ 0 := by simpa using whole_nonempty
      simp only [Option.some.injEq, Prod.mk.injEq] at read
      rw [← read.2]
      simp only [afterFraction, afterWhole, List.length_drop, List.length_cons]
      omega

end Numeral

end WalkFilter.Json
