import Mathlib.Data.List.Basic
import Mathlib.Data.List.TakeWhile
import WalkFilter.CodeText

/-!
# Texts without halves

The texts in which no half of a surrogate pair stands alone are those of the strings. A string is
found again in its text, and code points can be encoded exactly if they are those of a string.
-/

namespace WalkFilter

namespace CodePoint

theorem char?_eq_some_iff {point : CodePoint} {char : Char} :
    char? point = some char ↔ point = ofChar char := by
  refine ⟨fun found => ?_, fun equal => equal ▸ char?_ofChar char⟩
  unfold char? at found
  split at found
  · cases found
  · rename_i no_half
    obtain rfl := Option.some.inj found
    have valid : point.val.isValidChar := by
      simp only [isHalf, isHighHalf, isLowHalf, Bool.or_eq_true, Bool.and_eq_true,
        decide_eq_true_eq] at no_half
      have bound := point.isLt
      simp only [Nat.isValidChar]
      omega
    refine Fin.ext ?_
    change point.val = (Char.ofNat point.val).toNat
    rw [Char.ofNat, dif_pos valid]
    rfl

theorem char?_eq_none_iff {point : CodePoint} : char? point = none ↔ isHalf point = true := by
  unfold char?
  split <;> simp_all

theorem lt_of_isHalf {point : CodePoint} (is_half : isHalf point = true) :
    point.val < 0x10000 := by
  simp only [isHalf, isHighHalf, isLowHalf, Bool.or_eq_true, Bool.and_eq_true,
    decide_eq_true_eq] at is_half
  omega

theorem isHalf_eq_false_iff {point : CodePoint} :
    isHalf point = false ↔ ∃ char, point = ofChar char := by
  refine ⟨fun no_half => ?_, fun ⟨char, equal⟩ => equal ▸ isHalf_ofChar char⟩
  cases found : char? point with
  | none => rw [char?_eq_none_iff.mp found] at no_half; cases no_half
  | some char => exact ⟨char, char?_eq_some_iff.mp found⟩

theorem ofChar_injective : Function.Injective ofChar := by
  intro left right equal
  have found : some left = some right := by rw [← char?_ofChar left, equal, char?_ofChar]
  exact Option.some.inj found

theorem mapM_char?_eq_some_iff {points : List CodePoint} {chars : List Char} :
    points.mapM char? = some chars ↔ points = chars.map ofChar := by
  induction points generalizing chars with
  | nil => cases chars <;> simp
  | cons point rest induction =>
    cases chars <;> simp [List.mapM_cons, Option.bind_eq_some_iff, char?_eq_some_iff, induction]

/-- Code points are those of a string, or some characters stand in front of a first half. -/
theorem chars_or_half (points : List CodePoint) :
    (∃ chars : List Char, points = chars.map ofChar) ∨
      ∃ (before : List Char) (half : CodePoint) (rest : List CodePoint),
        isHalf half = true ∧ points = before.map ofChar ++ half :: rest := by
  induction points with
  | nil => exact .inl ⟨[], rfl⟩
  | cons point others induction =>
    cases is_half : isHalf point with
    | true => exact .inr ⟨[], point, others, is_half, rfl⟩
    | false =>
      obtain ⟨char, rfl⟩ := isHalf_eq_false_iff.mp is_half
      rcases induction with ⟨chars, rfl⟩ | ⟨before, half, rest, half_is_half, rfl⟩
      · exact .inl ⟨char :: chars, rfl⟩
      · exact .inr ⟨char :: before, half, rest, half_is_half, rfl⟩

/-- What is encoded is a string. -/
theorem encode_eq_ok_iff {points : List CodePoint} {text : String} :
    encode points = .ok text ↔ points = codePoints text := by
  rw [encode, codePoints, ← mapM_char?_eq_some_iff]
  cases points.mapM char? with
  | none => simp
  | some chars =>
    simp only [Except.ok.injEq, Option.some.injEq]
    exact ⟨fun equal => by rw [← equal, String.toList_ofList],
      fun equal => by rw [equal, String.ofList_toList]⟩

/-- The code point stands for half a character. -/
def IsSurrogate (point : CodePoint) : Prop := 0xD800 ≤ point.val ∧ point.val ≤ 0xDFFF

theorem isHalf_iff {point : CodePoint} : isHalf point = true ↔ IsSurrogate point := by
  simp only [isHalf, isHighHalf, isLowHalf, Bool.or_eq_true, Bool.and_eq_true, decide_eq_true_eq,
    IsSurrogate]
  omega

/-- What is said of code points that cannot be encoded. It names the first half of a character, or
the places of the halves from there to the next character. -/
inductive NotEncoded : List CodePoint → String → Prop where
  | one {before : List Char} {half : CodePoint} {behind : List CodePoint}
    (surrogate : IsSurrogate half) (ends : ∀ next ∈ behind.head?, ¬IsSurrogate next) :
    NotEncoded (before.map ofChar ++ half :: behind)
      ("'utf-8' codec can't encode character '\\u" ++ String.ofList (Text.hex 4 half.val) ++
        "' in position " ++ toString before.length ++ ": surrogates not allowed")
  | several {before : List Char} {halves behind : List CodePoint} (two : 2 ≤ halves.length)
    (surrogates : ∀ half ∈ halves, IsSurrogate half)
    (ends : ∀ next ∈ behind.head?, ¬IsSurrogate next) :
    NotEncoded (before.map ofChar ++ (halves ++ behind))
      ("'utf-8' codec can't encode characters in position " ++ toString before.length ++ "-" ++
        toString (before.length + halves.length - 1) ++ ": surrogates not allowed")

theorem encode_append_half {half : CodePoint} (is_half : isHalf half = true) (before : List Char)
    (rest : List CodePoint) :
    encode (before.map ofChar ++ half :: rest) =
      .error ⟨before.length, half :: rest.takeWhile isHalf⟩ := by
  have front : (before.map ofChar ++ half :: rest).takeWhile (! isHalf ·) = before.map ofChar := by
    rw [List.takeWhile_append_of_pos (by simp [isHalf_ofChar]),
      List.takeWhile_cons_of_neg (by simp [is_half]), List.append_nil]
  have no_string : (before.map ofChar ++ half :: rest).mapM char? = none := by
    refine Option.eq_none_iff_forall_ne_some.mpr fun chars found => ?_
    have member : half ∈ chars.map ofChar := mapM_char?_eq_some_iff.mp found ▸ by simp
    obtain ⟨char, -, rfl⟩ := List.mem_map.mp member
    rw [isHalf_ofChar] at is_half
    cases is_half
  simp only [encode, no_string, front, List.length_map, List.drop_left', List.takeWhile_cons,
    is_half, if_true]

theorem not_surrogate_of_dropWhile {points : List CodePoint} :
    ∀ next ∈ (points.dropWhile isHalf).head?, ¬IsSurrogate next := by
  intro next first
  have stops := List.head?_dropWhile_not isHalf points
  rw [Option.mem_def.mp first] at stops
  rw [← isHalf_iff]
  exact Bool.eq_false_iff.mp stops

/-- Code points that are not encoded are refused with this message. -/
theorem notEncoded_of_encode {points : List CodePoint} {error : EncodingError}
    (refused : encode points = .error error) : NotEncoded points error.message := by
  rcases chars_or_half points with ⟨chars, rfl⟩ | ⟨before, half, rest, is_half, rfl⟩
  · have encoded : encode (chars.map ofChar) = .ok (String.ofList chars) :=
      encode_eq_ok_iff.mpr (by rw [codePoints, String.toList_ofList])
    rw [encoded] at refused
    cases refused
  · obtain rfl := Except.error.inj ((encode_append_half is_half before rest).symm.trans refused)
    have surrogate : IsSurrogate half := isHalf_iff.mp is_half
    have parts : rest.takeWhile isHalf ++ rest.dropWhile isHalf = rest :=
      List.takeWhile_append_dropWhile
    cases others : rest.takeWhile isHalf with
    | nil =>
        rw [others, List.nil_append] at parts
        exact .one surrogate (parts ▸ not_surrogate_of_dropWhile)
    | cons second more =>
        have surrogates : ∀ other ∈ second :: more, IsSurrogate other := by
          intro other member
          rw [← others] at member
          exact isHalf_iff.mp (List.mem_takeWhile_imp member)
        have refusal := @NotEncoded.several before (half :: second :: more) (rest.dropWhile isHalf)
          (by simp) (List.forall_mem_cons.mpr ⟨surrogate, surrogates⟩) not_surrogate_of_dropWhile
        rwa [List.cons_append, ← others, parts, others] at refusal

/-- No half of a pair is among the code points. -/
def Whole (points : List CodePoint) : Prop := ∀ point ∈ points, isHalf point = false

@[simp]
theorem whole_append {left right : List CodePoint} :
    Whole (left ++ right) ↔ Whole left ∧ Whole right :=
  List.forall_mem_append

@[simp]
theorem whole_codePoints (text : String) : Whole (codePoints text) := by
  intro point member
  obtain ⟨char, -, rfl⟩ := List.mem_map.mp member
  exact isHalf_ofChar char

/-- Code points can be encoded exactly if there is no half among them. -/
theorem whole_iff {points : List CodePoint} :
    Whole points ↔ ∃ text, encode points = .ok text := by
  simp only [encode_eq_ok_iff]
  constructor
  · intro whole
    rcases chars_or_half points with ⟨chars, rfl⟩ | ⟨before, half, rest, is_half, rfl⟩
    · exact ⟨String.ofList chars, by rw [codePoints, String.toList_ofList]⟩
    · have no_half := whole half (by simp)
      rw [is_half] at no_half
      cases no_half
  · rintro ⟨text, rfl⟩
    exact whole_codePoints text

end CodePoint

theorem codePoints_injective : Function.Injective codePoints := by
  intro left right equal
  exact String.toList_inj.mp (List.map_injective_iff.mpr CodePoint.ofChar_injective equal)

theorem codePoints_append (left right : String) :
    codePoints (left ++ right) = codePoints left ++ codePoints right := by
  simp [codePoints]

/-- Strings are ordered by their code points. -/
theorem codePoints_lt {left right : String} (less : left < right) :
    codePoints left < codePoints right := by
  have chars_less : left.toList < right.toList := less
  exact List.map_lt (fun _ _ char_less => UInt32.lt_iff_toNat_lt.mp (Char.lt_def.mp char_less))
    chars_less

/-- What shows of a string is its characters. -/
@[simp]
theorem map_shown_codePoints (text : String) :
    (codePoints text).map CodePoint.shown = text.toList := by
  simp [codePoints, Function.comp_def]

namespace CodeText

@[simp]
theorem string?_ofString (text : String) : (ofString text).string? = some text := by
  have found : (codePoints text).mapM CodePoint.char? = some text.toList :=
    CodePoint.mapM_char?_eq_some_iff.mpr rfl
  rw [string?, ofString, found, Option.map_some, String.ofList_toList]

theorem eq_of_points_eq {left right : CodeText} (equal : left.points = right.points) :
    left = right := by
  cases left
  cases right
  cases equal
  rfl

theorem string?_eq_some_iff {text : CodeText} {string : String} :
    text.string? = some string ↔ text = ofString string := by
  refine ⟨fun found => ?_, fun equal => equal ▸ string?_ofString string⟩
  obtain ⟨chars, read, rfl⟩ := Option.map_eq_some_iff.mp found
  refine eq_of_points_eq ?_
  rw [CodePoint.mapM_char?_eq_some_iff.mp read]
  simp only [ofString, codePoints, String.toList_ofList]

theorem mapM_string?_map (strings : List String) :
    (strings.map ofString).mapM string? = some strings := by
  induction strings with
  | nil => rfl
  | cons first rest induction =>
    rw [List.map_cons, List.mapM_cons, string?_ofString, induction]
    rfl

theorem ofString_injective : Function.Injective ofString :=
  fun _ _ equal => codePoints_injective (congrArg points equal)

end CodeText

end WalkFilter
