import Mathlib.Tactic.IntervalCases
import WalkFilter.Json.StringLiteral

/-!
# Spellings of a string

A character of a string may stand for itself, behind a backslash as a letter, or as the number of
its UTF-16 units; a half of a surrogate pair can only be given by its number. Whatever spelling is
chosen for each code point, reading the literal gives the text back.
-/

namespace WalkFilter.Json

/-! ## The spellings -/

/-- A digit of base sixteen in either case. -/
def WritesDigit (value : Nat) (char : Char) : Prop :=
  "0123456789abcdef".toList[value]? = some char ∨ "0123456789ABCDEF".toList[value]? = some char

instance (value : Nat) (char : Char) : Decidable (WritesDigit value char) :=
  inferInstanceAs (Decidable (_ ∨ _))

/-- An escape that gives a UTF-16 unit by four digits of base sixteen. -/
inductive WritesUnit : Nat → List Char → Prop where
  | digits {a b c d : Nat} {first second third fourth : Char} (first_digit : WritesDigit a first)
    (second_digit : WritesDigit b second) (third_digit : WritesDigit c third)
    (fourth_digit : WritesDigit d fourth) :
    WritesUnit (a * 4096 + b * 256 + c * 16 + d) ['\\', 'u', first, second, third, fourth]

/-- The letters that stand for a character behind a backslash. -/
def escapeLetters : List (Char × Char) :=
  [('"', '"'), ('\\', '\\'), ('/', '/'), ('b', '\x08'), ('f', '\x0C'), ('n', '\n'), ('r', '\r'),
    ('t', '\t')]

/-- The spellings of a character in a string. -/
inductive WritesChar (char : Char) : List Char → Prop where
  /-- The character itself; only quotes, backslashes and control characters need an escape. -/
  | itself (not_quote : char ≠ '"') (not_backslash : char ≠ '\\') (printed : 0x20 ≤ char.toNat) :
    WritesChar char [char]
  /-- A backslash and a letter. -/
  | letter {letter : Char} (stands : (letter, char) ∈ escapeLetters) :
    WritesChar char ['\\', letter]
  /-- A single unit. -/
  | unit {text : List Char} (writes : WritesUnit char.toNat text) : WritesChar char text
  /-- Two halves. -/
  | pair {high low : Nat} {first second : List Char} (high_half : 0xD800 ≤ high ∧ high ≤ 0xDBFF)
    (low_half : 0xDC00 ≤ low ∧ low ≤ 0xDFFF)
    (joined : char.toNat = 0x10000 + (high - 0xD800) * 0x400 + (low - 0xDC00))
    (first_writes : WritesUnit high first) (second_writes : WritesUnit low second) :
    WritesChar char (first ++ second)

/-- The spellings of a code point in a string. -/
inductive WritesPoint : CodePoint → List Char → Prop where
  /-- A character in any of its spellings. -/
  | char {char : Char} {text : List Char} (writes : WritesChar char text) :
    WritesPoint (.ofChar char) text
  /-- A half, as a single unit. -/
  | half {half : CodePoint} {text : List Char} (is_half : half.isHalf = true)
    (writes : WritesUnit half.val text) : WritesPoint half text

/-- The spellings of code points in a string: one spelling for each. -/
inductive WritesPoints : List CodePoint → List Char → Prop where
  | nil : WritesPoints [] []
  | cons {point : CodePoint} {points : List CodePoint} {spelling rest : List Char}
    (first : WritesPoint point spelling) (behind : WritesPoints points rest) :
    WritesPoints (point :: points) (spelling ++ rest)

/-- The spellings of a text in a string. -/
def WritesText (text : CodeText) (spelling : List Char) : Prop := WritesPoints text.points spelling

/-- A string without quotes, backslashes and control characters spells itself. -/
theorem writesText_self {text : String}
    (unescaped : ∀ char ∈ text.toList, char ≠ '"' ∧ char ≠ '\\' ∧ 0x20 ≤ char.toNat) :
    WritesText text text.toList := by
  change WritesPoints (text.toList.map CodePoint.ofChar) text.toList
  generalize text.toList = chars at unescaped ⊢
  induction chars with
  | nil => exact .nil
  | cons first rest induction =>
      obtain ⟨⟨not_quote, not_backslash, printed⟩, others⟩ := List.forall_mem_cons.mp unescaped
      exact .cons (.char (.itself not_quote not_backslash printed)) (induction others)

/-! ## Reading them -/

theorem hexValue?_of_writesDigit {value : Nat} {char : Char} (writes : WritesDigit value char) :
    Text.hexValue? char = some value := by
  have bound : value < 16 := by
    rcases writes with found | found
    all_goals
      obtain ⟨inside, -⟩ := List.getElem?_eq_some_iff.mp found
      exact inside
  interval_cases value <;> rcases writes with found | found <;>
    (obtain rfl := Option.some.inj found; rfl)

/-- Puts several units in front of those read after them. -/
def prependUnits (units : List CodePoint) (read : Except Fault (List CodePoint × List Char)) :
    Except Fault (List CodePoint × List Char) :=
  read.map fun (others, rest) => (units ++ others, rest)

@[simp]
theorem prependUnits_nil (read : Except Fault (List CodePoint × List Char)) :
    prependUnits [] read = read := by
  cases read <;> rfl

theorem prependUnits_append (front back : List CodePoint)
    (read : Except Fault (List CodePoint × List Char)) :
    prependUnits (front ++ back) read = prependUnits front (prependUnits back read) := by
  cases read with
  | error fault => rfl
  | ok result => simp [prependUnits, Except.map]

theorem readUnits_itself {char : Char} (not_quote : char ≠ '"') (not_backslash : char ≠ '\\')
    (printed : 0x20 ≤ char.toNat) (rest : List Char) :
    readUnits (char :: rest) = prependUnits [.ofChar char] (readUnits rest) := by
  rw [readUnits.eq_def]
  simp only [if_neg not_quote, if_neg not_backslash, if_neg (Nat.not_lt.mpr printed)]
  rfl

theorem readUnits_letter {letter char : Char} (stands : (letter, char) ∈ escapeLetters)
    (rest : List Char) :
    readUnits ('\\' :: letter :: rest) = prependUnits [.ofChar char] (readUnits rest) := by
  simp only [escapeLetters, List.mem_cons, List.not_mem_nil, or_false, Prod.mk.injEq] at stands
  rcases stands with ⟨rfl, rfl⟩ | ⟨rfl, rfl⟩ | ⟨rfl, rfl⟩ | ⟨rfl, rfl⟩ | ⟨rfl, rfl⟩ | ⟨rfl, rfl⟩ |
    ⟨rfl, rfl⟩ | ⟨rfl, rfl⟩ <;> (rw [readUnits.eq_def]; rfl)

/-- A unit is read once something follows its digits. -/
theorem readUnits_unit {unit : CodePoint} {text : List Char} (writes : WritesUnit unit.val text)
    {rest : List Char} (followed : rest ≠ []) :
    readUnits (text ++ rest) = prependUnits [unit] (readUnits rest) := by
  obtain ⟨next, others, rfl⟩ := List.exists_cons_of_ne_nil followed
  generalize value : unit.val = number at writes
  cases writes with
  | @digits a b c d first second third fourth first_digit second_digit third_digit fourth_digit =>
      have in_range : ((a * 16 + b) * 16 + c) * 16 + d = unit.val := by omega
      have read : unit? first second third fourth = some unit := by
        simp only [unit?, hexValue?_of_writesDigit first_digit,
          hexValue?_of_writesDigit second_digit, hexValue?_of_writesDigit third_digit,
          hexValue?_of_writesDigit fourth_digit]
        refine congrArg some (Fin.ext ?_)
        rw [in_range]
        exact Nat.mod_eq_of_lt unit.isLt
      simp only [List.cons_append, List.nil_append]
      rw [readUnits.eq_def]
      simp only [Char.reduceEq, if_false, if_true, read]
      rfl

/-- Units stand for code points: each for itself, or two halves for the one that they make up. -/
inductive Spells : List CodePoint → List CodePoint → Prop where
  | nil : Spells [] []
  | single {unit : CodePoint} {units points : List CodePoint} (behind : Spells units points) :
    Spells (unit :: units) (unit :: points)
  | pair {high low : CodePoint} {units points : List CodePoint} (is_high : high.isHighHalf = true)
    (is_low : low.isLowHalf = true) (behind : Spells units points) :
    Spells (high :: low :: units) (joinPair high low :: points)

theorem Spells.append {front back front_points back_points : List CodePoint}
    (front_spells : Spells front front_points) (back_spells : Spells back back_points) :
    Spells (front ++ back) (front_points ++ back_points) := by
  induction front_spells with
  | nil => exact back_spells
  | single behind induction => exact .single induction
  | pair is_high is_low behind induction => exact .pair is_high is_low induction

/-- A unit that is not joined with the next one stands for itself. -/
theorem joinHalves_cons {unit : CodePoint} {units points : List CodePoint}
    (spells : Spells units points) (apart : HalvesApart (unit :: points)) :
    joinHalves (unit :: units) = unit :: joinHalves units := by
  cases spells with
  | nil => rfl
  | @single next units points behind =>
    rw [joinHalves, if_neg fun pair => apart.1 (Bool.and_eq_true_iff.mp pair)]
  | @pair high low units points is_high is_low behind =>
    have not_low : high.isLowHalf = false := by
      simp only [CodePoint.isHighHalf, CodePoint.isLowHalf, Bool.and_eq_true, decide_eq_true_eq,
        Bool.and_eq_false_iff, decide_eq_false_iff_not] at is_high ⊢
      omega
    rw [joinHalves, not_low, Bool.and_false, if_neg Bool.false_ne_true]

/-- Units are joined to the code points that they stand for, unless two of these belong together. -/
theorem Spells.joinHalves_eq {units points : List CodePoint} (spells : Spells units points)
    (apart : HalvesApart points) : joinHalves units = points := by
  induction spells with
  | nil => rfl
  | single behind induction => rw [joinHalves_cons behind apart, induction apart.tail]
  | pair is_high is_low behind induction =>
    rw [joinHalves, is_high, is_low, Bool.and_self, if_pos rfl, induction apart.tail]

/-- A spelling is read as units that stand for its code points, whatever is read behind it. -/
structure ReadAs (points : List CodePoint) (spelling : List Char) (units : List CodePoint) :
    Prop where
  /-- The spelling is read as the units. -/
  read : ∀ rest, rest ≠ [] →
    readUnits (spelling ++ rest) = prependUnits units (readUnits rest)
  /-- The units stand for the code points. -/
  spells : Spells units points

theorem readAs_of_writesPoint {point : CodePoint} {spelling : List Char}
    (writes : WritesPoint point spelling) : ∃ units, ReadAs [point] spelling units := by
  cases writes with
  | half is_half writes =>
      exact ⟨_, fun rest followed => readUnits_unit writes followed, .single .nil⟩
  | char writes =>
      cases writes with
      | itself not_quote not_backslash printed =>
          exact ⟨_, fun rest _ => readUnits_itself not_quote not_backslash printed rest,
            .single .nil⟩
      | letter stands => exact ⟨_, fun rest _ => readUnits_letter stands rest, .single .nil⟩
      | unit writes =>
          exact ⟨_, fun rest followed => readUnits_unit writes followed, .single .nil⟩
      | @pair high low first second high_half low_half joined first_writes second_writes =>
          obtain ⟨high, rfl⟩ : ∃ point : CodePoint, point.val = high := ⟨⟨high, by omega⟩, rfl⟩
          obtain ⟨low, rfl⟩ : ∃ point : CodePoint, point.val = low := ⟨⟨low, by omega⟩, rfl⟩
          refine ⟨[high, low], fun rest followed => ?_, ?_⟩
          · have second_followed : second ++ rest ≠ [] := by simp [followed]
            rw [List.append_assoc, readUnits_unit first_writes second_followed,
              readUnits_unit second_writes followed]
            exact (prependUnits_append [high] [low] _).symm
          · have is_high : high.isHighHalf = true := by simpa [CodePoint.isHighHalf] using high_half
            have is_low : low.isLowHalf = true := by simpa [CodePoint.isLowHalf] using low_half
            have char_eq : CodePoint.ofChar _ = joinPair high low :=
              Fin.ext (joined.trans (val_joinPair is_high is_low).symm)
            exact char_eq ▸ .pair is_high is_low .nil

theorem readAs_of_writesPoints {points : List CodePoint} {body : List Char}
    (writes : WritesPoints points body) : ∃ units, ReadAs points body units := by
  induction writes with
  | nil => exact ⟨[], fun rest _ => (prependUnits_nil _).symm, .nil⟩
  | cons first behind induction =>
      obtain ⟨front, front_read⟩ := readAs_of_writesPoint first
      obtain ⟨back, back_read⟩ := induction
      refine ⟨front ++ back, fun rest followed => ?_, front_read.spells.append back_read.spells⟩
      rw [List.append_assoc, front_read.read _ (by simp [followed]), back_read.read _ followed,
        prependUnits_append]

/-- Every spelling of a text is read as the text. -/
theorem readString_of_writesText {text : CodeText} {body : List Char}
    (writes : WritesText text body) (rest : List Char) :
    readString (body ++ '"' :: rest) = .ok (text, rest) := by
  obtain ⟨units, read⟩ := readAs_of_writesPoints writes
  have closing : readUnits ('"' :: rest) = .ok ([], rest) := by
    rw [readUnits.eq_def]
    rfl
  have joined : joinHalves units = text.points := read.spells.joinHalves_eq text.apart
  rw [readString, read.read ('"' :: rest) (by simp), closing]
  simp [prependUnits, Except.map, joined]

end WalkFilter.Json
