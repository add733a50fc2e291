import WalkFilter.Text.Hex

/-!
# Texts by their code points

Escapes can spell a half of a surrogate pair without the other half. A text with such a half has no
encoding: it can be compared and escaped again, but neither typed as a pattern nor written as it is.
Such a text is kept by its code points. Every string is one of these texts, and where only strings
are possible a half shows as the replacement character.
-/

namespace WalkFilter

/-- A code point: a character or a half of a surrogate pair. -/
abbrev CodePoint := Fin 0x110000

namespace CodePoint

/-- The code point is the first half of a pair. -/
def isHighHalf (point : CodePoint) : Bool := 0xD800 ≤ point.val && point.val ≤ 0xDBFF

/-- The code point is the second half of a pair. -/
def isLowHalf (point : CodePoint) : Bool := 0xDC00 ≤ point.val && point.val ≤ 0xDFFF

/-- The code point is a half of a pair. -/
def isHalf (point : CodePoint) : Bool := isHighHalf point || isLowHalf point

theorem toNat_lt (char : Char) : char.toNat < 0x110000 := by
  have valid := char.valid
  simp only [UInt32.isValidChar, Nat.isValidChar] at valid
  change char.val.toNat < 0x110000
  omega

/-- The code point of a character. -/
def ofChar (char : Char) : CodePoint := ⟨char.toNat, toNat_lt char⟩

/-- The character of a code point, unless it is a half. -/
def char? (point : CodePoint) : Option Char :=
  if isHalf point then none else some (Char.ofNat point.val)

/-- The code point as it shows where only characters are possible. -/
def shown (point : CodePoint) : Char := (char? point).getD '\uFFFD'

theorem isHalf_ofChar (char : Char) : isHalf (ofChar char) = false := by
  have valid := char.valid
  simp only [UInt32.isValidChar, Nat.isValidChar] at valid
  have value : (ofChar char).val = char.val.toNat := rfl
  simp only [isHalf, isHighHalf, isLowHalf, value, Bool.or_eq_false_iff, Bool.and_eq_false_iff,
    decide_eq_false_iff_not]
  omega

@[simp]
theorem char?_ofChar (char : Char) : char? (ofChar char) = some char := by
  rw [char?, isHalf_ofChar]
  exact congrArg some (Char.ofNat_toNat char)

@[simp]
theorem shown_ofChar (char : Char) : shown (ofChar char) = char := by
  rw [shown, char?_ofChar, Option.getD_some]

/-- Code points as they show where only strings are possible. -/
def display (points : List CodePoint) : String := String.ofList (points.map shown)

instance : Coe (List CodePoint) String := ⟨display⟩

end CodePoint

/-- The code points of a string. -/
def codePoints (text : String) : List CodePoint := text.toList.map CodePoint.ofChar

/-- No first half of a pair is directly followed by a second one: the two would be one character. -/
def HalvesApart : List CodePoint → Prop
  | high :: low :: rest =>
    ¬(CodePoint.isHighHalf high ∧ CodePoint.isLowHalf low) ∧ HalvesApart (low :: rest)
  | _ => True

theorem HalvesApart.tail {point : CodePoint} {points : List CodePoint}
    (apart : HalvesApart (point :: points)) : HalvesApart points := by
  cases points with
  | nil => trivial
  | cons next rest => exact apart.2

/-- A text in which halves of surrogate pairs may stand alone. -/
structure CodeText where
  /-- The code points of the text. -/
  points : List CodePoint
  /-- Halves that belong together are one character. -/
  apart : HalvesApart points
deriving DecidableEq

namespace CodeText

theorem halvesApart_codePoints (text : String) : HalvesApart (codePoints text) := by
  unfold codePoints
  induction text.toList with
  | nil => trivial
  | cons first rest induction =>
    cases rest with
    | nil => trivial
    | cons second others =>
      refine ⟨fun ⟨high, _⟩ => ?_, induction⟩
      have no_half := CodePoint.isHalf_ofChar first
      simp [CodePoint.isHalf, high] at no_half

/-- A string by its code points. -/
def ofString (text : String) : CodeText := ⟨codePoints text, halvesApart_codePoints text⟩

instance : Coe String CodeText := ⟨ofString⟩

/-- The string that the text is, if no half stands alone in it. -/
def string? (text : CodeText) : Option String :=
  (text.points.mapM CodePoint.char?).map String.ofList

instance : Repr CodeText := ⟨fun text => reprPrec (CodePoint.display text.points)⟩

/-! ## Order -/

/-- Texts are ordered by their code points. -/
instance : LE CodeText := ⟨fun left right => List.le left.points right.points⟩

instance : LT CodeText := ⟨fun left right => left.points < right.points⟩

instance : DecidableLT CodeText := fun left right =>
  inferInstanceAs (Decidable (left.points < right.points))

instance : Std.IsLinearOrder CodeText where
  le_refl text := List.le_refl text.points
  le_trans _ _ _ first second := List.le_trans first second
  le_antisymm left right forth back := by
    have same : left.points = right.points := List.le_antisymm forth back
    cases left
    cases right
    cases same
    rfl
  le_total left right := List.le_total left.points right.points

instance : Std.LawfulOrderLT CodeText where
  lt_iff left right :=
    @Std.LawfulOrderLT.lt_iff (List CodePoint) _ List.instLE _ left.points right.points

end CodeText

/-! ## Writing -/

/-- Why a text cannot be encoded: its first halves, and where they stand. -/
structure EncodingError where
  /-- The number of code points in front of them. -/
  position : Nat
  /-- The halves, up to the next character. -/
  halves : List CodePoint
deriving DecidableEq

/-- The error in words. -/
def EncodingError.message (error : EncodingError) : String :=
  match error.halves with
  | [half] =>
    "'utf-8' codec can't encode character '\\u" ++ String.ofList (Text.hex 4 half.val) ++
      "' in position " ++ toString error.position ++ ": surrogates not allowed"
  | halves =>
    "'utf-8' codec can't encode characters in position " ++ toString error.position ++ "-" ++
      toString (error.position + halves.length - 1) ++ ": surrogates not allowed"

/-- The string that code points make up, if there are no halves among them. -/
def CodePoint.encode (points : List CodePoint) : Except EncodingError String :=
  match points.mapM CodePoint.char? with
  | some chars => .ok (String.ofList chars)
  | none =>
    let before := points.takeWhile (! CodePoint.isHalf ·)
    .error ⟨before.length, (points.drop before.length).takeWhile CodePoint.isHalf⟩

end WalkFilter
