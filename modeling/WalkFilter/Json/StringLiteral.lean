import WalkFilter.CodeText
import WalkFilter.Json.Fault

/-!
# JSON string literals

A string literal spells a sequence of code points. A first half of a surrogate pair and a second one
right behind it stand for one character beyond the first plane; a half without its partner stays in
the text.
-/

namespace WalkFilter.Json

/-- What a one-letter escape stands for. -/
def escapeValue? (letter : Char) : Option Char :=
  [('"', '"'), ('\\', '\\'), ('/', '/'), ('b', '\x08'), ('f', '\x0C'), ('n', '\n'), ('r', '\r'),
    ('t', '\t')].lookup letter

/-- The code point that four hexadecimal digits stand for. -/
def unit? (first second third fourth : Char) : Option CodePoint := do
  let a ← Text.hexValue? first
  let b ← Text.hexValue? second
  let c ← Text.hexValue? third
  let d ← Text.hexValue? fourth
  return Fin.ofNat _ (((a * 16 + b) * 16 + c) * 16 + d)

/-- Puts a unit in front of those read after it. -/
def prependUnit (unit : CodePoint) (read : Except Fault (List CodePoint × List Char)) :
    Except Fault (List CodePoint × List Char) :=
  read.map fun (units, rest) => (unit :: units, rest)

/-- Reads the units of a literal after its opening quote, and what follows its closing one. -/
def readUnits : List Char → Except Fault (List CodePoint × List Char)
  | [] => .error .unterminatedString
  | char :: rest =>
    if char = '"' then .ok ([], rest)
    else if char = '\\' then
      match rest with
      | [] => .error .unterminatedString
      | letter :: rest =>
        if letter = 'u' then
          match rest with
          | first :: second :: third :: fourth :: next :: rest =>
            match unit? first second third fourth with
            | none => .error .invalidUnitEscape
            | some unit => prependUnit unit (readUnits (next :: rest))
          | _ => .error .invalidUnitEscape
        else
          match escapeValue? letter with
          | none => .error .invalidEscape
          | some value => prependUnit (.ofChar value) (readUnits rest)
    else if char.toNat < 0x20 then .error .controlCharacter
    else prependUnit (.ofChar char) (readUnits rest)

/-- The code point that two halves stand for. -/
def joinPair (high low : CodePoint) : CodePoint :=
  Fin.ofNat _ (0x10000 + (high.val - 0xD800) * 0x400 + (low.val - 0xDC00))

/-- The code points that units stand for, halves joined in pairs. -/
def joinHalves : List CodePoint → List CodePoint
  | [] => []
  | [unit] => [unit]
  | high :: low :: rest =>
    if CodePoint.isHighHalf high && CodePoint.isLowHalf low then
      joinPair high low :: joinHalves rest
    else high :: joinHalves (low :: rest)

theorem val_joinPair {high low : CodePoint} (is_high : CodePoint.isHighHalf high = true)
    (is_low : CodePoint.isLowHalf low = true) :
    (joinPair high low).val = 0x10000 + (high.val - 0xD800) * 0x400 + (low.val - 0xDC00) := by
  simp only [CodePoint.isHighHalf, CodePoint.isLowHalf, Bool.and_eq_true, decide_eq_true_eq]
    at is_high is_low
  exact Nat.mod_eq_of_lt (by omega)

/-- A pair that is joined is neither half. -/
theorem not_half_joinPair {high low : CodePoint} (is_high : CodePoint.isHighHalf high = true)
    (is_low : CodePoint.isLowHalf low = true) :
    CodePoint.isHighHalf (joinPair high low) = false ∧
      CodePoint.isLowHalf (joinPair high low) = false := by
  have value := val_joinPair is_high is_low
  simp only [CodePoint.isHighHalf, CodePoint.isLowHalf, Bool.and_eq_true, Bool.and_eq_false_iff,
    decide_eq_true_eq, decide_eq_false_iff_not] at is_high is_low ⊢
  omega

/-- What is joined begins with a second half only if the units do. -/
theorem isLowHalf_of_joinHalves {unit point : CodePoint} {units points : List CodePoint}
    (joined : joinHalves (unit :: units) = point :: points)
    (is_low : CodePoint.isLowHalf point = true) : CodePoint.isLowHalf unit = true := by
  cases units with
  | nil =>
    obtain rfl : unit = point := (List.cons.inj joined).1
    exact is_low
  | cons next rest =>
    rw [joinHalves] at joined
    split at joined
    · rename_i pair
      obtain ⟨is_high, next_low⟩ := Bool.and_eq_true_iff.mp pair
      obtain rfl := (List.cons.inj joined).1
      rw [(not_half_joinPair is_high next_low).2] at is_low
      cases is_low
    · obtain rfl := (List.cons.inj joined).1
      exact is_low

theorem halvesApart_joinHalves (units : List CodePoint) : HalvesApart (joinHalves units) := by
  fun_induction joinHalves units with
  | case1 => trivial
  | case2 unit => trivial
  | case3 high low rest pair induction =>
    obtain ⟨is_high, is_low⟩ := Bool.and_eq_true_iff.mp pair
    cases points : joinHalves rest with
    | nil => trivial
    | cons point others =>
      refine ⟨fun ⟨joined_high, _⟩ => ?_, points ▸ induction⟩
      rw [(not_half_joinPair is_high is_low).1] at joined_high
      cases joined_high
  | case4 high low rest no_pair induction =>
    cases points : joinHalves (low :: rest) with
    | nil => trivial
    | cons point others =>
      refine ⟨fun ⟨is_high, point_low⟩ => no_pair ?_, points ▸ induction⟩
      rw [is_high, isLowHalf_of_joinHalves points point_low]
      rfl

/-- Reads a string literal after its opening quote, and what follows its closing one. -/
def readString (text : List Char) : Except Fault (CodeText × List Char) :=
  (readUnits text).map fun read => (⟨joinHalves read.1, halvesApart_joinHalves read.1⟩, read.2)

theorem prependUnit_eq_ok {unit : CodePoint}
    {read : Except Fault (List CodePoint × List Char)} {units : List CodePoint} {rest : List Char}
    (prepended : prependUnit unit read = .ok (units, rest)) :
    ∃ others, read = .ok (others, rest) := by
  cases read with
  | error fault => simp [prependUnit, Except.map] at prepended
  | ok read =>
    simp only [prependUnit, Except.map, Except.ok.injEq, Prod.mk.injEq] at prepended
    exact ⟨read.1, by rw [← prepended.2]⟩

/-- A literal takes at least its closing quote. -/
theorem length_lt_of_readUnits {text rest : List Char} {units : List CodePoint}
    (read : readUnits text = .ok (units, rest)) : rest.length < text.length := by
  fun_induction readUnits text generalizing units <;> simp_all
  all_goals
    obtain ⟨others, tail⟩ := prependUnit_eq_ok read
    grind

/-- A literal takes at least its closing quote. -/
theorem length_lt_of_readString {text rest : List Char} {content : CodeText}
    (read : readString text = .ok (content, rest)) : rest.length < text.length := by
  simp only [readString] at read
  cases units : readUnits text with
  | error fault => simp [units, Except.map] at read
  | ok result =>
    simp only [units, Except.map, Except.ok.injEq, Prod.mk.injEq] at read
    have taken : readUnits text = .ok (result.1, rest) := by rw [units, ← read.2]
    exact length_lt_of_readUnits taken

end WalkFilter.Json
