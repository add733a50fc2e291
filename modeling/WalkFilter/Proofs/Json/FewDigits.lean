import WalkFilter.Proofs.Json.Overlong
import WalkFilter.Text.Integer

/-!
# Integers that are read can be written

An integer of a document or of an option value is read only if it has few digits, so in decimal it
has no more of them than are read again.
-/

namespace WalkFilter

/-- A number with this many digits in front of a few others has one digit more for each of them. -/
theorem foldl_digits_lt {digits : List Nat} (small : ∀ digit ∈ digits, digit < 10) (front : Nat) :
    digits.foldl (fun number digit => number * 10 + digit) front <
      (front + 1) * 10 ^ digits.length := by
  induction digits generalizing front with
  | nil => simp
  | cons digit rest induction =>
      obtain ⟨digit_small, rest_small⟩ := List.forall_mem_cons.mp small
      have longer : front * 10 + digit + 1 ≤ (front + 1) * 10 := by omega
      calc rest.foldl (fun number digit => number * 10 + digit) (front * 10 + digit)
          < (front * 10 + digit + 1) * 10 ^ rest.length := induction rest_small _
        _ ≤ (front + 1) * 10 * 10 ^ rest.length := Nat.mul_le_mul_right _ longer
        _ = (front + 1) * 10 ^ (digit :: rest).length := by
            rw [List.length_cons, Nat.pow_succ', Nat.mul_assoc]

namespace Json

/-- Digits that are few enough to be read stand for a number with few digits. -/
theorem hasFewDigits_of_foldl {digits : List Nat} (small : ∀ digit ∈ digits, digit < 10)
    (fits : digits.length ≤ Text.digitLimit) {value : Int}
    (magnitude : value.natAbs = digits.foldl (fun number digit => number * 10 + digit) 0) :
    HasFewDigits value := by
  have below := foldl_digits_lt small 0
  rw [← magnitude, Nat.zero_add, Nat.one_mul] at below
  have wider : value.natAbs < 10 ^ Text.digitLimit :=
    Nat.lt_of_lt_of_le below (Nat.pow_le_pow_right (by decide) fits)
  exact (Nat.length_toDigits_le_iff (by decide) (by decide)).mpr wider

/-! ## Documents -/

/-- Every integer of the value has few digits. -/
inductive Value.Fits : Value → Prop where
  | null : Fits .null
  | bool (value : Bool) : Fits (.bool value)
  | integer {value : Int} (few : HasFewDigits value) : Fits (.integer value)
  | decimal (text : String) : Fits (.decimal text)
  | string (text : CodeText) : Fits (.string text)
  | array {elements : List Value} (fit : ∀ element ∈ elements, Fits element) :
    Fits (.array elements)
  | object {members : List (CodeText × Value)} (fit : ∀ member ∈ members, Fits member.2) :
    Fits (.object members)

theorem Numeral.fits_value {text rest : List Char} {numeral : Numeral} {value : Value}
    (read : read? text = some (numeral, rest)) (value_eq : numeral.value = .ok value) :
    value.Fits := by
  rw [Numeral.value] at value_eq
  split at value_eq
  · split at value_eq
    · rename_i fits
      obtain rfl := Except.ok.inj value_eq
      obtain ⟨-, unsigned, whole_eq⟩ := text_append_of_read? read
      have small : ∀ digit ∈ numeral.whole.map (·.toNat - 0x30), digit < 10 := by
        refine List.forall_mem_map.mpr fun char member => ?_
        have is_digit := isDigit_of_mem_wholePart (whole_eq ▸ member)
        simp only [Char.isDigit, Bool.and_eq_true, decide_eq_true_eq, ge_iff_le,
          UInt32.le_iff_toNat_le] at is_digit
        have upper : char.toNat ≤ 57 := is_digit.2
        omega
      refine .integer (hasFewDigits_of_foldl small (by rwa [List.length_map]) ?_)
      rw [List.foldl_map]
      split <;> simp [ofDigits]
    · cases value_eq
  · obtain rfl := Except.ok.inj value_eq
    exact .decimal _

/-- The value of a token fits. -/
def Token.Fits (token : Token) : Prop := ∀ value, token = .scalar value → value.Fits

theorem fits_of_mem_literals {name : String} {value : Value} (member : (name, value) ∈ literals) :
    value.Fits := by
  simp only [literals, List.mem_cons, List.not_mem_nil, or_false, Prod.mk.injEq] at member
  rcases member with ⟨-, rfl⟩ | ⟨-, rfl⟩ | ⟨-, rfl⟩ | ⟨-, rfl⟩ | ⟨-, rfl⟩ | ⟨-, rfl⟩ <;> constructor

theorem fits_of_mem_tokens {text : List Char} : ∀ token ∈ tokens text, token.Fits := by
  fun_induction tokens text with
  | case1 => simp
  | case2 char rest gap induction => exact induction
  | case3 char rest no_gap mark stands induction =>
      refine List.forall_mem_cons.mpr ⟨?_, induction⟩
      rintro value rfl
      unfold punctuation? at stands
      split at stands <;> cases stands
  | case4 rest content next read no_gap no_mark induction =>
      exact List.forall_mem_cons.mpr ⟨fun _ => Token.noConfusion, induction⟩
  | case5 | case8 | case9 => exact List.forall_mem_singleton.mpr fun _ => Token.noConfusion
  | case6 char rest no_gap no_quote value next read no_mark induction =>
      refine List.forall_mem_cons.mpr ⟨?_, induction⟩
      rintro _ ⟨⟩
      obtain ⟨literal, found, result_eq⟩ := Option.map_eq_some_iff.mp read
      obtain ⟨rfl, -⟩ := Prod.mk.inj result_eq
      exact fits_of_mem_literals (List.mem_of_find?_eq_some found)
  | case7 char rest no_gap no_quote no_literal numeral next read value value_eq no_mark induction =>
      refine List.forall_mem_cons.mpr ⟨?_, induction⟩
      rintro _ ⟨⟩
      exact Numeral.fits_value read value_eq

namespace Reader

/-- The values of a frame fit. -/
def FrameFits : Frame → Prop
  | .array earlier => ∀ element ∈ earlier, element.Fits
  | .object earlier _ => ∀ member ∈ earlier, member.2.Fits

/-- The values that come before what is expected fit. -/
def ExpectedFits : Expected → Prop
  | .key earlier | .colon earlier _ => ∀ member ∈ earlier, member.2.Fits
  | .after value => value.Fits
  | .value | .elementOrEnd | .keyOrEnd => True

/-- All values that a reader has read fit. -/
structure Fits (reader : Reader) : Prop where
  /-- Those of the open arrays and objects. -/
  frames : ∀ frame ∈ reader.frames, FrameFits frame
  /-- The last one. -/
  expected : ExpectedFits reader.expected

theorem fits_beginValue {frames : List Frame} (frames_fit : ∀ frame ∈ frames, FrameFits frame)
    {token : Token} (token_fits : token.Fits) {next : Reader}
    (taken : beginValue frames token = .ok next) : next.Fits := by
  cases token with
  | scalar value =>
      obtain rfl := Except.ok.inj taken
      exact ⟨frames_fit, token_fits value rfl⟩
  | string content =>
      obtain rfl := Except.ok.inj taken
      exact ⟨frames_fit, .string content⟩
  | openArray | openObject =>
      obtain rfl := Except.ok.inj taken
      exact ⟨frames_fit, trivial⟩
  | closeArray | closeObject | comma | colon | badString | badNumber | stray => cases taken

theorem fits_beginKey {frames : List Frame} (frames_fit : ∀ frame ∈ frames, FrameFits frame)
    {earlier : List (CodeText × Value)} (earlier_fit : ∀ member ∈ earlier, member.2.Fits)
    {token : Token} {next : Reader} (taken : beginKey frames earlier token = .ok next) :
    next.Fits := by
  cases token with
  | string key =>
      obtain rfl := Except.ok.inj taken
      exact ⟨frames_fit, earlier_fit⟩
  | scalar | openArray | openObject | closeArray | closeObject | comma | colon | badString
  | badNumber | stray => cases taken

theorem fits_continueAfter {frames : List Frame} (frames_fit : ∀ frame ∈ frames, FrameFits frame)
    {value : Value} (value_fits : value.Fits) {token : Token} {next : Reader}
    (taken : continueAfter value frames token = .ok next) : next.Fits := by
  unfold continueAfter at taken
  split at taken
  case h_1 earlier others =>
    obtain ⟨earlier_fit, others_fit⟩ := List.forall_mem_cons.mp frames_fit
    obtain rfl := Except.ok.inj taken
    have longer_fits : FrameFits (.array (value :: earlier)) :=
      List.forall_mem_cons.mpr ⟨value_fits, earlier_fit⟩
    exact ⟨List.forall_mem_cons.mpr ⟨longer_fits, others_fit⟩, trivial⟩
  case h_2 earlier others =>
    obtain ⟨earlier_fit, others_fit⟩ := List.forall_mem_cons.mp frames_fit
    obtain rfl := Except.ok.inj taken
    have whole_fits : ∀ element ∈ (value :: earlier).reverse, element.Fits := fun element member =>
      List.forall_mem_cons.mpr ⟨value_fits, earlier_fit⟩ element (List.mem_reverse.mp member)
    exact ⟨others_fit, .array whole_fits⟩
  case h_3 earlier key others =>
    obtain ⟨earlier_fit, others_fit⟩ := List.forall_mem_cons.mp frames_fit
    obtain rfl := Except.ok.inj taken
    have longer_fits : ∀ member ∈ (key, value) :: earlier, member.2.Fits :=
      List.forall_mem_cons.mpr ⟨value_fits, earlier_fit⟩
    exact ⟨others_fit, longer_fits⟩
  case h_4 earlier key others =>
    obtain ⟨earlier_fit, others_fit⟩ := List.forall_mem_cons.mp frames_fit
    obtain rfl := Except.ok.inj taken
    have longer_fits : ∀ member ∈ (key, value) :: earlier, member.2.Fits :=
      List.forall_mem_cons.mpr ⟨value_fits, earlier_fit⟩
    have whole_fits : ∀ member ∈ ((key, value) :: earlier).reverse, member.2.Fits :=
      fun member inside => longer_fits member (List.mem_reverse.mp inside)
    exact ⟨others_fit, .object whole_fits⟩
  case h_5 | h_6 => cases taken

theorem step_elementOrEnd {frames : List Frame} {token : Token} (goes_on : token ≠ .closeArray) :
    step ⟨frames, .elementOrEnd⟩ token = beginValue (.array [] :: frames) token := by
  cases token <;> first | rfl | exact absurd rfl goes_on

theorem step_keyOrEnd {frames : List Frame} {token : Token} (goes_on : token ≠ .closeObject) :
    step ⟨frames, .keyOrEnd⟩ token = beginKey frames [] token := by
  cases token <;> first | rfl | exact absurd rfl goes_on

theorem Fits.step {reader next : Reader} (fits : reader.Fits) {token : Token}
    (token_fits : token.Fits) (taken : reader.step token = .ok next) : next.Fits := by
  obtain ⟨frames, expected⟩ := reader
  obtain ⟨frames_fit, expected_fits⟩ := fits
  have nothing_earlier : ∀ member ∈ ([] : List (CodeText × Value)), member.2.Fits := by simp
  cases expected with
  | value => exact fits_beginValue frames_fit token_fits taken
  | elementOrEnd =>
      have array_fits : ∀ frame ∈ Frame.array [] :: frames, FrameFits frame :=
        List.forall_mem_cons.mpr ⟨List.forall_mem_nil _, frames_fit⟩
      by_cases ends : token = .closeArray
      · subst ends
        obtain rfl := Except.ok.inj taken
        exact ⟨frames_fit, .array (List.forall_mem_nil _)⟩
      · rw [step_elementOrEnd ends] at taken
        exact fits_beginValue array_fits token_fits taken
  | keyOrEnd =>
      by_cases ends : token = .closeObject
      · subst ends
        obtain rfl := Except.ok.inj taken
        exact ⟨frames_fit, .object nothing_earlier⟩
      · rw [step_keyOrEnd ends] at taken
        exact fits_beginKey frames_fit nothing_earlier taken
  | key earlier => exact fits_beginKey frames_fit expected_fits taken
  | colon earlier key =>
      cases token with
      | colon =>
          obtain rfl := Except.ok.inj taken
          have object_fits : FrameFits (.object earlier key) := expected_fits
          exact ⟨List.forall_mem_cons.mpr ⟨object_fits, frames_fit⟩, trivial⟩
      | scalar | string | openArray | openObject | closeArray | closeObject | comma | badString
      | badNumber | stray => cases taken
  | after value => exact fits_continueAfter frames_fit expected_fits taken

theorem Fits.run {reader : Reader} (fits : reader.Fits) {tokens : List Token}
    (tokens_fit : ∀ token ∈ tokens, token.Fits) {value : Value}
    (read : reader.run tokens = .ok value) : value.Fits := by
  induction tokens generalizing reader with
  | nil =>
      obtain ⟨frames, expected⟩ := reader
      cases expected with
      | after last =>
          cases frames with
          | nil =>
              obtain rfl := Except.ok.inj read
              exact fits.expected
          | cons frame frames => cases read
      | value | elementOrEnd | keyOrEnd | key | colon => cases read
  | cons token rest induction =>
      obtain ⟨token_fits, rest_fit⟩ := List.forall_mem_cons.mp tokens_fit
      rw [Reader.run] at read
      split at read
      · rename_i next taken
        exact induction (fits.step token_fits taken) rest_fit read
      · cases read

end Reader

/-- Every integer of a document that is read has few digits. -/
theorem fits_of_parse {text : List Char} {value : Value} (parsed : parse text = .ok value) :
    value.Fits := by
  have start_fits : Reader.start.Fits := ⟨List.forall_mem_nil _, trivial⟩
  rw [parse] at parsed
  split at parsed
  · cases parsed
  · exact start_fits.run fits_of_mem_tokens parsed

end Json

/-! ## Option values -/

namespace Text

theorem digitValue?_lt {char : Char} {value : Nat} (read : digitValue? char = some value) :
    value < 10 := by
  obtain ⟨first, found, rfl⟩ := Option.map_eq_some_iff.mp read
  have in_run := List.find?_some found
  simp only [Bool.and_eq_true, decide_eq_true_eq] at in_run
  omega

theorem digitValues?_lt {text : List Char} {values : List Nat}
    (read : digitValues? text = some values) : ∀ value ∈ values, value < 10 := by
  fun_induction digitValues? text generalizing values with
  | case1 => cases read
  | case2 char =>
      obtain ⟨value, value_read, rfl⟩ := Option.map_eq_some_iff.mp read
      exact List.forall_mem_singleton.mpr (digitValue?_lt value_read)
  | case3 char rest induction | case4 char rest _ _ induction =>
      simp only [Option.bind_eq_bind, Option.bind_eq_some_iff, Option.pure_def,
        Option.some.injEq] at read
      obtain ⟨value, value_read, others, others_read, rfl⟩ := read
      exact List.forall_mem_cons.mpr ⟨digitValue?_lt value_read, induction others_read⟩

theorem hasFewDigits_of_natural? {text : List Char} {number : Nat}
    (read : natural? text = some number) {value : Int} (magnitude : value.natAbs = number) :
    Json.HasFewDigits value := by
  simp only [natural?, Option.bind_eq_bind, Option.bind_eq_some_iff] at read
  obtain ⟨values, values_read, limited⟩ := read
  split at limited
  · rename_i fits
    obtain rfl := Option.some.inj limited
    exact Json.hasFewDigits_of_foldl (digitValues?_lt values_read) fits magnitude
  · cases limited

/-- An option value is read as an integer with few digits. -/
theorem hasFewDigits_of_integer? {text : String} {value : Int}
    (read : integer? text = some value) : Json.HasFewDigits value := by
  unfold integer? at read
  split at read
  · obtain ⟨signed, lifted, rfl⟩ := Option.map_eq_some_iff.mp read
    obtain ⟨number, natural, same⟩ := Option.bind_eq_some_iff.mp lifted
    obtain rfl := Option.some.inj same
    exact hasFewDigits_of_natural? natural (by simp)
  all_goals
    obtain ⟨number, natural, rfl⟩ := Option.map_eq_some_iff.mp read
    exact hasFewDigits_of_natural? natural rfl

end Text

end WalkFilter
