import Mathlib.Tactic.Common
import WalkFilter.Proofs.Except
import WalkFilter.Text.Utf8

/-!
# Decoding encoded text

The bytes that the library gives for a text are decoded to the text, and no others are: a fault is
reported exactly for bytes that are not UTF-8.
-/

namespace WalkFilter.Text.Utf8

theorem toNat_ofNat {number : Nat} (bound : number < 0x100) :
    (UInt8.ofNat number).toNat = number := by
  rw [UInt8.toNat_ofNat']
  omega

/-- The last byte of a character completes its value. -/
theorem decodeFrom_last {begun : Partial} (last : begun.more = 0) {byte : Nat}
    (lower : begun.low.toNat ≤ byte) (upper : byte ≤ begun.high.toNat) (position : Nat)
    (rest : List UInt8) :
    decodeFrom position (some begun) (UInt8.ofNat byte :: rest) =
      (decodeFrom (position + 1) none rest).map
        (Char.ofNat (begun.value * 64 + (byte - 0x80)) :: ·) := by
  have byte_eq := toNat_ofNat (Nat.lt_of_le_of_lt upper begun.high.toNat_lt)
  have inside : ¬(UInt8.ofNat byte < begun.low ∨ begun.high < UInt8.ofNat byte) := by
    rw [UInt8.lt_iff_toNat_lt, UInt8.lt_iff_toNat_lt, byte_eq]
    omega
  rw [decodeFrom, if_neg inside, last, byte_eq]

/-- Any other byte behind the first one adds its bits. -/
theorem decodeFrom_next {begun : Partial} {more : Nat} (next : begun.more = more + 1) {byte : Nat}
    (lower : begun.low.toNat ≤ byte) (upper : byte ≤ begun.high.toNat) (position : Nat)
    (rest : List UInt8) :
    decodeFrom position (some begun) (UInt8.ofNat byte :: rest) =
      decodeFrom (position + 1)
        (some ⟨begun.start, begun.lead, begun.value * 64 + (byte - 0x80), 0x80, 0xBF, more⟩)
        rest := by
  have byte_eq := toNat_ofNat (Nat.lt_of_le_of_lt upper begun.high.toNat_lt)
  have inside : ¬(UInt8.ofNat byte < begun.low ∨ begun.high < UInt8.ofNat byte) := by
    rw [UInt8.lt_iff_toNat_lt, UInt8.lt_iff_toNat_lt, byte_eq]
    omega
  rw [decodeFrom, if_neg inside, next, byte_eq]

theorem decodeFrom_lead {position byte : Nat} {begun : Partial} (beyond : 0x80 ≤ byte)
    (bound : byte < 0x100) (opens : Partial.ofLead? position (UInt8.ofNat byte) = some begun)
    (rest : List UInt8) :
    decodeFrom position none (UInt8.ofNat byte :: rest) =
      decodeFrom (position + 1) (some begun) rest := by
  have not_single : ¬UInt8.ofNat byte < 0x80 := by
    rw [UInt8.lt_iff_toNat_lt, toNat_ofNat bound]
    exact Nat.not_lt.mpr beyond
  rw [decodeFrom, if_neg not_single, opens]

theorem ofLead?_ofNat (start byte : Nat) (bound : byte < 0x100) :
    Partial.ofLead? start (UInt8.ofNat byte) =
      if byte < 0xC2 then none
      else if byte < 0xE0 then some ⟨start, UInt8.ofNat byte, byte - 0xC0, 0x80, 0xBF, 0⟩
      else if byte < 0xF0 then
        some ⟨start, UInt8.ofNat byte, byte - 0xE0, if byte = 0xE0 then 0xA0 else 0x80,
          if byte = 0xED then 0x9F else 0xBF, 1⟩
      else if byte ≤ 0xF4 then
        some ⟨start, UInt8.ofNat byte, byte - 0xF0, if byte = 0xF0 then 0x90 else 0x80,
          if byte = 0xF4 then 0x8F else 0xBF, 2⟩
      else none := by
  simp only [Partial.ofLead?, UInt8.lt_iff_toNat_lt, ← UInt8.toNat_inj, toNat_ofNat bound,
    UInt8.reduceToNat]
  split_ifs <;> first | omega | rfl

variable (point position : Nat) (rest : List UInt8)

theorem decodeFrom_one (upper : point < 0x80) :
    decodeFrom position none (UInt8.ofNat point :: rest) =
      (decodeFrom (position + 1) none rest).map (Char.ofNat point :: ·) := by
  have byte_eq : (UInt8.ofNat point).toNat = point := toNat_ofNat (by omega)
  have single : UInt8.ofNat point < 0x80 := by
    rw [UInt8.lt_iff_toNat_lt, byte_eq]
    exact upper
  rw [decodeFrom, if_pos single, byte_eq]

theorem decodeFrom_two (lower : 0x80 ≤ point) (upper : point < 0x800) :
    decodeFrom position none
        (UInt8.ofNat (point / 64 % 32 + 192) :: UInt8.ofNat (point % 64 + 128) :: rest) =
      (decodeFrom (position + 2) none rest).map (Char.ofNat point :: ·) := by
  have opens := ofLead?_ofNat position (point / 64 % 32 + 192) (by omega)
  rw [if_neg (by omega), if_pos (by omega)] at opens
  have point_eq : (point / 64 % 32 + 192 - 0xC0) * 64 + (point % 64 + 128 - 0x80) = point := by
    omega
  rw [decodeFrom_lead (by omega) (by omega) opens,
    decodeFrom_last rfl (by change 128 ≤ _; omega) (by change _ ≤ 191; omega), point_eq]

/-- The code points of three bytes leave out the surrogates. -/
theorem decodeFrom_three (lower : 0x800 ≤ point)
    (upper : point < 0xD800 ∨ 0xDFFF < point ∧ point < 0x10000) :
    decodeFrom position none
        (UInt8.ofNat (point / 4096 % 16 + 224) :: UInt8.ofNat (point / 64 % 64 + 128) ::
          UInt8.ofNat (point % 64 + 128) :: rest) =
      (decodeFrom (position + 3) none rest).map (Char.ofNat point :: ·) := by
  have opens := ofLead?_ofNat position (point / 4096 % 16 + 224) (by omega)
  rw [if_neg (by omega), if_neg (by omega), if_pos (by omega)] at opens
  have point_eq : ((point / 4096 % 16 + 224 - 0xE0) * 64 + (point / 64 % 64 + 128 - 0x80)) * 64 +
      (point % 64 + 128 - 0x80) = point := by omega
  rw [decodeFrom_lead (by omega) (by omega) opens, decodeFrom_next rfl ?low ?high,
    decodeFrom_last rfl (by change 128 ≤ _; omega) (by change _ ≤ 191; omega), point_eq]
  case low =>
    split_ifs <;> simp only [UInt8.reduceToNat] <;> omega
  case high =>
    split_ifs <;> simp only [UInt8.reduceToNat] <;> omega

theorem decodeFrom_four (lower : 0x10000 ≤ point) (upper : point < 0x110000) :
    decodeFrom position none
        (UInt8.ofNat (point / 262144 % 8 + 240) :: UInt8.ofNat (point / 4096 % 64 + 128) ::
          UInt8.ofNat (point / 64 % 64 + 128) :: UInt8.ofNat (point % 64 + 128) :: rest) =
      (decodeFrom (position + 4) none rest).map (Char.ofNat point :: ·) := by
  have opens := ofLead?_ofNat position (point / 262144 % 8 + 240) (by omega)
  rw [if_neg (by omega), if_neg (by omega), if_neg (by omega), if_pos (by omega)] at opens
  have point_eq :
      (((point / 262144 % 8 + 240 - 0xF0) * 64 + (point / 4096 % 64 + 128 - 0x80)) * 64 +
        (point / 64 % 64 + 128 - 0x80)) * 64 + (point % 64 + 128 - 0x80) = point := by omega
  rw [decodeFrom_lead (by omega) (by omega) opens, decodeFrom_next rfl ?low ?high,
    decodeFrom_next rfl (by change 128 ≤ _; omega) (by change _ ≤ 191; omega),
    decodeFrom_last rfl (by change 128 ≤ _; omega) (by change _ ≤ 191; omega), point_eq]
  case low =>
    split_ifs <;> simp only [UInt8.reduceToNat] <;> omega
  case high =>
    split_ifs <;> simp only [UInt8.reduceToNat] <;> omega

/-- The bytes of a character are read as the character. -/
theorem decodeFrom_utf8EncodeChar (char : Char) : ∃ behind,
    decodeFrom position none (String.utf8EncodeChar char ++ rest) =
      (decodeFrom behind none rest).map (char :: ·) := by
  have valid : char.toNat < 0xD800 ∨ 0xDFFF < char.toNat ∧ char.toNat < 0x110000 := char.valid
  have char_eq : Char.ofNat char.val.toNat = char := Char.ofNat_toNat char
  change char.val.toNat < _ ∨ _ < char.val.toNat ∧ char.val.toNat < _ at valid
  simp only [String.utf8EncodeChar]
  split_ifs
  · have read := decodeFrom_one char.val.toNat position rest (by omega)
    rw [char_eq] at read
    exact ⟨_, read⟩
  · have read := decodeFrom_two char.val.toNat position rest (by omega) (by omega)
    rw [char_eq] at read
    exact ⟨_, read⟩
  · have read := decodeFrom_three char.val.toNat position rest (by omega) (by omega)
    rw [char_eq] at read
    exact ⟨_, read⟩
  · have read := decodeFrom_four char.val.toNat position rest (by omega) (by omega)
    rw [char_eq] at read
    exact ⟨_, read⟩

theorem decodeFrom_utf8 (position : Nat) (text : List Char) :
    decodeFrom position none (text.flatMap String.utf8EncodeChar) = .ok text := by
  induction text generalizing position with
  | nil => rfl
  | cons first rest induction =>
      obtain ⟨behind, read⟩ := decodeFrom_utf8EncodeChar position
        (rest.flatMap String.utf8EncodeChar) first
      rw [List.flatMap_cons, read, induction]
      rfl

theorem toUTF8_toList (text : String) :
    text.toUTF8.data.toList = text.toList.flatMap String.utf8EncodeChar := by
  have bytes_eq : text.toUTF8 = text.toList.utf8Encode := by
    rw [String.toUTF8_eq_toByteArray, ← String.toByteArray_ofList, String.ofList_toList]
  rw [bytes_eq, List.utf8Encode, List.toList_data_toByteArray]

/-- A text is decoded from its bytes. -/
theorem decode_toUTF8 (text : String) : decode text.toUTF8.data.toList = .ok text.toList := by
  rw [toUTF8_toList]
  exact decodeFrom_utf8 0 text.toList

/-! ## What can be decoded -/

/-- A code point is written as the bytes of its character. -/
theorem utf8EncodeChar_ofNat {point : Nat} (valid : point.isValidChar) :
    String.utf8EncodeChar (Char.ofNat point) =
      if point ≤ 0x7F then [UInt8.ofNat point]
      else if point ≤ 0x7FF then
        [UInt8.ofNat (point / 64 % 32 + 192), UInt8.ofNat (point % 64 + 128)]
      else if point ≤ 0xFFFF then
        [UInt8.ofNat (point / 4096 % 16 + 224), UInt8.ofNat (point / 64 % 64 + 128),
          UInt8.ofNat (point % 64 + 128)]
      else
        [UInt8.ofNat (point / 262144 % 8 + 240), UInt8.ofNat (point / 4096 % 64 + 128),
          UInt8.ofNat (point / 64 % 64 + 128), UInt8.ofNat (point % 64 + 128)] := by
  have point_eq : (Char.ofNat point).val.toNat = point := by
    rw [Char.ofNat, dif_pos valid]
    rfl
  rw [String.utf8EncodeChar, point_eq]

section

variable {start value more position : Nat} {lead low high : UInt8} {bytes : List UInt8}
  {text : List Char}

/-- Inside a character there must be a byte in the expected range. -/
theorem exists_byte_of_decodeFrom {begun : Partial}
    (read : decodeFrom position (some begun) bytes = .ok text) :
    ∃ byte rest, bytes = UInt8.ofNat byte :: rest ∧ begun.low.toNat ≤ byte ∧
      byte ≤ begun.high.toNat := by
  cases bytes with
  | nil => cases read
  | cons byte rest =>
      rw [decodeFrom] at read
      split at read
      · cases read
      · rename_i inside
        rw [not_or, UInt8.not_lt, UInt8.not_lt] at inside
        exact ⟨byte.toNat, rest, by rw [UInt8.ofNat_toNat], inside⟩

/-- Where one byte is missing, it completes the character. -/
theorem exists_last_of_decodeFrom
    (read : decodeFrom position (some ⟨start, lead, value, low, high, 0⟩) bytes = .ok text) :
    ∃ byte rest others, bytes = UInt8.ofNat byte :: rest ∧ low.toNat ≤ byte ∧ byte ≤ high.toNat ∧
      text = Char.ofNat (value * 64 + (byte - 0x80)) :: others ∧
      decodeFrom (position + 1) none rest = .ok others := by
  obtain ⟨byte, rest, rfl, lower, upper⟩ := exists_byte_of_decodeFrom read
  rw [decodeFrom_last rfl lower upper] at read
  obtain ⟨others, rest_read, text_eq⟩ := map_eq_ok_iff.mp read
  exact ⟨byte, rest, others, rfl, lower, upper, text_eq.symm, rest_read⟩

/-- Where more bytes are missing, the next one adds its bits. -/
theorem exists_next_of_decodeFrom
    (read : decodeFrom position (some ⟨start, lead, value, low, high, more + 1⟩) bytes =
      .ok text) :
    ∃ byte rest, bytes = UInt8.ofNat byte :: rest ∧ low.toNat ≤ byte ∧ byte ≤ high.toNat ∧
      decodeFrom (position + 1)
        (some ⟨start, lead, value * 64 + (byte - 0x80), 0x80, 0xBF, more⟩) rest = .ok text := by
  obtain ⟨byte, rest, rfl, lower, upper⟩ := exists_byte_of_decodeFrom read
  rw [decodeFrom_next rfl lower upper] at read
  exact ⟨byte, rest, rfl, lower, upper, read⟩

/-- The bytes start with those of a character, and it is the first one read. -/
def StartsWithChar (bytes : List UInt8) (text : List Char) : Prop :=
  ∃ char rest others position, bytes = String.utf8EncodeChar char ++ rest ∧
    text = char :: others ∧ decodeFrom position none rest = .ok others

theorem startsWithChar_two {first : Nat} (lower : 0xC2 ≤ first) (upper : first < 0xE0)
    (read : decodeFrom position (some ⟨start, lead, first - 0xC0, 0x80, 0xBF, 0⟩) bytes =
      .ok text) :
    StartsWithChar (UInt8.ofNat first :: bytes) text := by
  obtain ⟨last, rest, others, rfl, last_lower, last_upper, rfl, rest_read⟩ :=
    exists_last_of_decodeFrom read
  simp only [UInt8.reduceToNat] at last_lower last_upper
  refine ⟨_, rest, others, _, ?_, rfl, rest_read⟩
  have first_eq : ((first - 0xC0) * 64 + (last - 0x80)) / 64 % 32 + 192 = first := by omega
  have last_eq : ((first - 0xC0) * 64 + (last - 0x80)) % 64 + 128 = last := by omega
  rw [utf8EncodeChar_ofNat (.inl (by omega)), if_neg (by omega), if_pos (by omega), first_eq,
    last_eq]
  rfl

/-- Surrogates and overlong forms are shut out by the range of the second byte. -/
theorem startsWithChar_three {first : Nat} (lower : 0xE0 ≤ first) (upper : first < 0xF0)
    (read : decodeFrom position
      (some ⟨start, lead, first - 0xE0, if first = 0xE0 then 0xA0 else 0x80,
        if first = 0xED then 0x9F else 0xBF, 1⟩) bytes = .ok text) :
    StartsWithChar (UInt8.ofNat first :: bytes) text := by
  obtain ⟨second, behind, rfl, second_lower, second_upper, second_read⟩ :=
    exists_next_of_decodeFrom read
  obtain ⟨last, rest, others, rfl, last_lower, last_upper, rfl, rest_read⟩ :=
    exists_last_of_decodeFrom second_read
  simp only [apply_ite UInt8.toNat, UInt8.reduceToNat] at second_lower second_upper
  simp only [UInt8.reduceToNat] at last_lower last_upper
  refine ⟨_, rest, others, _, ?_, rfl, rest_read⟩
  generalize point_eq : ((first - 0xE0) * 64 + (second - 0x80)) * 64 + (last - 0x80) = point
  have valid : point.isValidChar := by
    rw [Nat.isValidChar]
    split_ifs at second_lower second_upper <;> omega
  have bounds : 0x800 ≤ point ∧ point < 0x10000 := by
    split_ifs at second_lower second_upper <;> omega
  have second_bounds : 0x80 ≤ second ∧ second ≤ 0xBF := by
    split_ifs at second_lower second_upper <;> omega
  have first_eq : point / 4096 % 16 + 224 = first := by omega
  have second_eq : point / 64 % 64 + 128 = second := by omega
  have last_eq : point % 64 + 128 = last := by omega
  rw [utf8EncodeChar_ofNat valid, if_neg (by omega), if_neg (by omega), if_pos (by omega),
    first_eq, second_eq, last_eq]
  rfl

/-- Overlong forms and code points beyond the last plane are shut out by the range of the second
byte. -/
theorem startsWithChar_four {first : Nat} (lower : 0xF0 ≤ first) (upper : first ≤ 0xF4)
    (read : decodeFrom position
      (some ⟨start, lead, first - 0xF0, if first = 0xF0 then 0x90 else 0x80,
        if first = 0xF4 then 0x8F else 0xBF, 2⟩) bytes = .ok text) :
    StartsWithChar (UInt8.ofNat first :: bytes) text := by
  obtain ⟨second, behind, rfl, second_lower, second_upper, second_read⟩ :=
    exists_next_of_decodeFrom read
  obtain ⟨third, behind, rfl, third_lower, third_upper, third_read⟩ :=
    exists_next_of_decodeFrom second_read
  obtain ⟨last, rest, others, rfl, last_lower, last_upper, rfl, rest_read⟩ :=
    exists_last_of_decodeFrom third_read
  simp only [apply_ite UInt8.toNat, UInt8.reduceToNat] at second_lower second_upper
  simp only [UInt8.reduceToNat] at third_lower third_upper last_lower last_upper
  refine ⟨_, rest, others, _, ?_, rfl, rest_read⟩
  generalize point_eq :
    (((first - 0xF0) * 64 + (second - 0x80)) * 64 + (third - 0x80)) * 64 + (last - 0x80) = point
  have second_bounds : 0x80 ≤ second ∧ second ≤ 0xBF := by
    split_ifs at second_lower second_upper <;> omega
  have bounds : 0x10000 ≤ point ∧ point < 0x110000 := by
    split_ifs at second_lower second_upper <;> omega
  have first_eq : point / 262144 % 8 + 240 = first := by omega
  have second_eq : point / 4096 % 64 + 128 = second := by omega
  have third_eq : point / 64 % 64 + 128 = third := by omega
  have last_eq : point % 64 + 128 = last := by omega
  rw [utf8EncodeChar_ofNat (.inr (by omega)), if_neg (by omega), if_neg (by omega),
    if_neg (by omega), first_eq, second_eq, third_eq, last_eq]
  rfl

end

theorem startsWithChar_of_decodeFrom {position : Nat} {first : UInt8} {bytes : List UInt8}
    {text : List Char} (read : decodeFrom position none (first :: bytes) = .ok text) :
    StartsWithChar (first :: bytes) text := by
  obtain ⟨byte, bound, rfl⟩ : ∃ byte, byte < 0x100 ∧ first = UInt8.ofNat byte :=
    ⟨first.toNat, first.toNat_lt, by rw [UInt8.ofNat_toNat]⟩
  by_cases single : byte < 0x80
  · rw [decodeFrom_one _ _ _ single] at read
    obtain ⟨others, rest_read, rfl⟩ := map_eq_ok_iff.mp read
    refine ⟨_, bytes, others, _, ?_, rfl, rest_read⟩
    rw [utf8EncodeChar_ofNat (.inl (by omega)), if_pos (by omega)]
    rfl
  · have opens := ofLead?_ofNat position byte bound
    cases begun_eq : Partial.ofLead? position (UInt8.ofNat byte) with
    | none =>
        have not_single : ¬UInt8.ofNat byte < 0x80 := by
          rw [UInt8.lt_iff_toNat_lt, toNat_ofNat bound]
          exact single
        rw [decodeFrom, if_neg not_single, begun_eq] at read
        cases read
    | some begun =>
        rw [decodeFrom_lead (Nat.not_lt.mp single) bound begun_eq] at read
        rw [begun_eq] at opens
        split at opens
        · cases opens
        · split at opens
          · rename_i not_below two
            cases opens
            exact startsWithChar_two (Nat.not_lt.mp not_below) two read
          · split at opens
            · rename_i not_two three
              cases opens
              exact startsWithChar_three (Nat.not_lt.mp not_two) three read
            · split at opens
              · rename_i not_three four
                cases opens
                exact startsWithChar_four (Nat.not_lt.mp not_three) four read
              · cases opens

/-- What is decoded stands for its own bytes. -/
theorem eq_of_decodeFrom {position : Nat} {bytes : List UInt8} {text : List Char}
    (read : decodeFrom position none bytes = .ok text) :
    bytes = text.flatMap String.utf8EncodeChar := by
  induction text generalizing position bytes with
  | nil =>
      cases bytes with
      | nil => rfl
      | cons first rest =>
          obtain ⟨_, _, _, _, -, impossible, -⟩ := startsWithChar_of_decodeFrom read
          cases impossible
  | cons char text induction =>
      cases bytes with
      | nil => cases read
      | cons first rest =>
          obtain ⟨_, rest, _, behind, bytes_eq, text_eq, rest_read⟩ :=
            startsWithChar_of_decodeFrom read
          obtain ⟨rfl, rfl⟩ := List.cons.inj text_eq
          rw [bytes_eq, List.flatMap_cons, induction rest_read]

/-- The bytes are those of some text. -/
def IsUtf8 (bytes : List UInt8) : Prop := ∃ text : String, bytes = text.toUTF8.data.toList

/-- Exactly the bytes of texts are decoded. -/
theorem isUtf8_iff {bytes : List UInt8} : IsUtf8 bytes ↔ ∃ text, decode bytes = .ok text := by
  constructor
  · rintro ⟨text, rfl⟩
    exact ⟨text.toList, decode_toUTF8 text⟩
  · rintro ⟨text, decoded⟩
    refine ⟨String.ofList text, ?_⟩
    rw [toUTF8_toList, String.toList_ofList]
    exact eq_of_decodeFrom decoded

end WalkFilter.Text.Utf8
