import Mathlib.Data.Bool.AllAny
import WalkFilter.Json.Reader
import WalkFilter.Proofs.Json.Numeral
import WalkFilter.Proofs.Json.StringLiteral

/-!
# Layouts of tokens

Tokens are laid out by writing each of them, with spaces and tabs between them. However they are
laid out, cutting the text into tokens gives them back. If the text is broken off at a character
that only a string can hold, the string that holds it is faulty and nothing behind it is read.
-/

namespace WalkFilter.Json

/-- The literals that every JSON text may hold. -/
def commonLiterals : List (String × Value) :=
  [("null", .null), ("true", .bool true), ("false", .bool false)]

/-- The text is the tokens in order, with spaces and tabs around them. -/
inductive Layout : List Token → List Char → Prop where
  | nil : Layout [] []
  | gap {tokens : List Token} {char : Char} {rest : List Char} (blank : char = ' ' ∨ char = '\t')
    (behind : Layout tokens rest) : Layout tokens (char :: rest)
  | mark {token : Token} {tokens : List Token} {char : Char} {rest : List Char}
    (stands : punctuation? char = some token) (behind : Layout tokens rest) :
    Layout (token :: tokens) (char :: rest)
  | string {content : CodeText} {tokens : List Token} {body rest : List Char}
    (writes : WritesText content body) (behind : Layout tokens rest) :
    Layout (.string content :: tokens) ('"' :: (body ++ '"' :: rest))
  | literal {name : String} {value : Value} {tokens : List Token} {rest : List Char}
    (stands : (name, value) ∈ commonLiterals) (behind : Layout tokens rest) :
    Layout (.scalar value :: tokens) (name.toList ++ rest)
  | integer {value : Int} {tokens : List Token} {rest : List Char} (few : HasFewDigits value)
    (ends : EndsNumeral rest) (behind : Layout tokens rest) :
    Layout (.scalar (.integer value) :: tokens) ((toString value).toList ++ rest)

/-! ## The first token -/

@[simp]
theorem tokens_nil : tokens [] = [] := by
  rw [tokens.eq_def]

theorem tokens_gap {char : Char} (blank : char = ' ' ∨ char = '\t') (rest : List Char) :
    tokens (char :: rest) = tokens rest := by
  rw [tokens.eq_def]
  rcases blank with rfl | rfl <;> rfl

theorem tokens_mark {char : Char} {token : Token} (stands : punctuation? char = some token)
    (rest : List Char) : tokens (char :: rest) = token :: tokens rest := by
  have no_gap : isGap char = false := by
    rw [Bool.eq_false_iff]
    intro gap
    simp only [isGap, Bool.or_eq_true, decide_eq_true_eq] at gap
    rcases gap with ((rfl | rfl) | rfl) | rfl <;> cases stands
  rw [tokens.eq_def]
  simp only [no_gap, Bool.false_eq_true, if_false, stands]

theorem tokens_quote (text : List Char) :
    tokens ('"' :: text) =
      match readString text with
      | .ok (content, after) => .string content :: tokens after
      | .error fault => [.badString fault] := by
  have no_gap : isGap '"' = false := rfl
  have no_mark : punctuation? '"' = none := rfl
  rw [tokens.eq_def]
  simp only [no_gap, Bool.false_eq_true, if_false, no_mark, if_true]
  split <;> rename_i read <;> rw [read]

/-- What starts neither with a blank nor with a mark or a quote is a literal or a number. -/
theorem tokens_bare {char : Char} {rest : List Char} (no_gap : isGap char = false)
    (no_mark : punctuation? char = none) (no_quote : char ≠ '"') :
    tokens (char :: rest) =
      match literal? (char :: rest) with
      | some (value, after) => .scalar value :: tokens after
      | none =>
        match Numeral.read? (char :: rest) with
        | some (numeral, after) =>
          match numeral.value with
          | .ok value => .scalar value :: tokens after
          | .error fault => [.badNumber fault]
        | none => [.stray] := by
  rw [tokens.eq_def]
  simp only [no_gap, Bool.false_eq_true, if_false, no_mark, no_quote]
  split
  · rename_i literal
    simp only [literal]
  · rename_i literal
    split
    · rename_i numeral after read
      cases value_eq : numeral.value <;> simp only [literal, read, value_eq]
    · rename_i read
      simp only [literal, read]

theorem tokens_string {content : CodeText} {body : List Char} (writes : WritesText content body)
    (rest : List Char) :
    tokens ('"' :: (body ++ '"' :: rest)) = .string content :: tokens rest := by
  rw [tokens_quote, readString_of_writesText writes]

theorem tokens_literal {name : String} {value : Value} (stands : (name, value) ∈ commonLiterals)
    (rest : List Char) : tokens (name.toList ++ rest) = .scalar value :: tokens rest := by
  simp only [commonLiterals, List.mem_cons, List.not_mem_nil, or_false, Prod.mk.injEq] at stands
  rcases stands with ⟨rfl, rfl⟩ | ⟨rfl, rfl⟩ | ⟨rfl, rfl⟩
  all_goals
    exact tokens_bare rfl rfl (by decide)

/-- An integer starts with a digit, perhaps behind a minus sign. -/
theorem exists_digit_toString (value : Int) : ∃ sign digit others,
    (toString value).toList = sign ++ digit :: others ∧ (sign = [] ∨ sign = ['-']) ∧
      digit.isDigit = true := by
  obtain ⟨digit, others, digits_eq⟩ :=
    List.exists_cons_of_ne_nil (Nat.toDigits_ne_nil (n := value.natAbs) (b := 10))
  have is_digit : digit.isDigit = true :=
    Numeral.isDigit_of_mem_toDigits (by rw [digits_eq]; exact List.mem_cons_self)
  refine ⟨_, digit, others, by rw [toList_toString, digits_eq], ?_, is_digit⟩
  split
  · exact .inr rfl
  · exact .inl rfl

theorem literal?_eq_none {sign rest : List Char} {digit : Char}
    (sign_eq : sign = [] ∨ sign = ['-']) (is_digit : digit.isDigit = true) :
    literal? (sign ++ digit :: rest) = none := by
  rw [literal?, Option.map_eq_none_iff, List.find?_eq_none]
  intro literal member starts
  have starts_with := List.isPrefixOf_iff_prefix.mp starts
  simp only [literals, List.mem_cons, List.not_mem_nil, or_false] at member
  rcases sign_eq with rfl | rfl <;> rcases member with rfl | rfl | rfl | rfl | rfl | rfl
  all_goals
    simp [List.cons_prefix_cons] at starts_with
  all_goals
    obtain ⟨rfl, -⟩ := starts_with
    exact absurd is_digit (by decide)

theorem starts_bare {char : Char} (starts : char = '-' ∨ char.isDigit = true) :
    isGap char = false ∧ punctuation? char = none ∧ char ≠ '"' := by
  rcases starts with rfl | is_digit
  · exact ⟨rfl, rfl, by decide⟩
  · have different : ∀ other : Char, other.isDigit = false → char ≠ other := by
      rintro other no_digit rfl
      rw [is_digit] at no_digit
      cases no_digit
    refine ⟨?_, ?_, different '"' rfl⟩
    · simp [isGap, different ' ' rfl, different '\t' rfl, different '\n' rfl, different '\r' rfl]
    · unfold punctuation?
      split
      all_goals first | rfl | exact absurd is_digit (by decide)

theorem tokens_integer {value : Int} (few : HasFewDigits value) {rest : List Char}
    (ends : EndsNumeral rest) :
    tokens ((toString value).toList ++ rest) = .scalar (.integer value) :: tokens rest := by
  obtain ⟨sign, digit, others, text_eq, sign_eq, is_digit⟩ := exists_digit_toString value
  obtain ⟨first, behind, first_eq, starts⟩ : ∃ first behind,
      (toString value).toList = first :: behind ∧ (first = '-' ∨ first.isDigit = true) := by
    rcases sign_eq with rfl | rfl
    · exact ⟨digit, others, text_eq, .inr is_digit⟩
    · exact ⟨'-', digit :: others, text_eq, .inl rfl⟩
  obtain ⟨no_gap, no_mark, no_quote⟩ := starts_bare starts
  have read := Numeral.read?_toString value ends
  have no_literal : literal? ((toString value).toList ++ rest) = none := by
    rw [text_eq, List.append_assoc]
    exact literal?_eq_none sign_eq is_digit
  rw [first_eq, List.cons_append] at read no_literal ⊢
  rw [tokens_bare no_gap no_mark no_quote, no_literal, read]
  simp only [Numeral.value_toDigits few]

theorem EndsNumeral.append {front behind : List Char} (front_ends : EndsNumeral front)
    (behind_ends : EndsNumeral behind) : EndsNumeral (front ++ behind) := by
  cases front with
  | nil => exact behind_ends
  | cons first rest => exact front_ends

/-- Tokens are read back from every layout of them, and whatever follows is read behind them. -/
theorem tokens_append_of_layout {expected : List Token} {text : List Char}
    (layout : Layout expected text) {behind : List Char} (ends : EndsNumeral behind) :
    tokens (text ++ behind) = expected ++ tokens behind := by
  induction layout with
  | nil => rfl
  | gap blank _ induction => rw [List.cons_append, tokens_gap blank, induction]
  | mark stands _ induction =>
      rw [List.cons_append, tokens_mark stands, induction, List.cons_append]
  | string writes _ induction =>
      rw [List.cons_append, List.append_assoc, List.cons_append, tokens_string writes, induction,
        List.cons_append]
  | literal stands _ induction =>
      rw [List.append_assoc, tokens_literal stands, induction, List.cons_append]
  | integer few rest_ends _ induction =>
      rw [List.append_assoc, tokens_integer few (rest_ends.append ends), induction,
        List.cons_append]

theorem tokens_of_layout {expected : List Token} {text : List Char}
    (layout : Layout expected text) : tokens text = expected := by
  have ends : EndsNumeral [] := by simp [EndsNumeral]
  have read := tokens_append_of_layout layout ends
  rwa [tokens_nil, List.append_nil, List.append_nil] at read

/-! ## Layouts that break off -/

/-- A printable ASCII character. -/
def IsPlain (char : Char) : Prop := 0x20 ≤ char.toNat ∧ char.toNat < 0x7F

instance (char : Char) : Decidable (IsPlain char) :=
  inferInstanceAs (Decidable (_ ∧ _))

theorem not_isPlain {char : Char} (beyond : 0x7F ≤ char.toNat) : ¬IsPlain char :=
  fun plain => absurd plain.2 (Nat.not_lt.mpr beyond)

theorem isPlain_of_all {text : List Char} (all : text.all (IsPlain ·) = true) :
    ∀ char ∈ text, IsPlain char :=
  List.all_iff_forall_prop.mp all

theorem WritesDigit.isPlain {value : Nat} {char : Char} (writes : WritesDigit value char) :
    IsPlain char := by
  rcases writes with found | found
  · exact isPlain_of_all (by decide) char (List.mem_of_getElem? found)
  · exact isPlain_of_all (by decide) char (List.mem_of_getElem? found)

theorem WritesUnit.isPlain {unit : Nat} {text : List Char} (writes : WritesUnit unit text) :
    ∀ char ∈ text, IsPlain char := by
  cases writes with
  | digits first_digit second_digit third_digit fourth_digit =>
      simp only [List.mem_cons, List.not_mem_nil, or_false, forall_eq_or_imp, forall_eq]
      exact ⟨by decide, by decide, first_digit.isPlain, second_digit.isPlain, third_digit.isPlain,
        fourth_digit.isPlain⟩

/-- A spelling is the character itself or in plain characters. -/
theorem WritesChar.eq_or_isPlain {char : Char} {spelling : List Char}
    (writes : WritesChar char spelling) :
    spelling = [char] ∧ 0x20 ≤ char.toNat ∨ ∀ written ∈ spelling, IsPlain written := by
  cases writes with
  | itself not_quote not_backslash printed => exact .inl ⟨rfl, printed⟩
  | @letter letter stands =>
      have letter_plain := (by decide : ∀ escape ∈ escapeLetters, IsPlain escape.1) _ stands
      simp only [List.mem_cons, List.not_mem_nil, or_false, forall_eq_or_imp, forall_eq]
      exact .inr ⟨by decide, letter_plain⟩
  | unit writes => exact .inr writes.isPlain
  | pair high_half low_half joined first_writes second_writes =>
      exact .inr (List.forall_mem_append.mpr ⟨first_writes.isPlain, second_writes.isPlain⟩)

theorem WritesPoint.eq_or_isPlain {point : CodePoint} {spelling : List Char}
    (writes : WritesPoint point spelling) :
    (∃ char, spelling = [char] ∧ 0x20 ≤ char.toNat) ∨ ∀ written ∈ spelling, IsPlain written := by
  cases writes with
  | @char char text writes => exact writes.eq_or_isPlain.imp_left fun itself => ⟨char, itself⟩
  | half is_half writes => exact .inr writes.isPlain

theorem WritesPoints.printed {points : List CodePoint} {body : List Char}
    (writes : WritesPoints points body) : ∀ char ∈ body, 0x20 ≤ char.toNat := by
  induction writes with
  | nil => simp
  | cons first behind induction =>
      refine List.forall_mem_append.mpr ⟨?_, induction⟩
      rcases first.eq_or_isPlain with ⟨char, rfl, printed⟩ | plain
      · exact List.forall_mem_singleton.mpr printed
      · exact fun char member => (plain char member).1

/-- Why a string is faulty that breaks off between two characters: its end is missing, or what
follows a unit by number is. -/
def BreaksOff (fault : Fault) : Prop := fault = .unterminatedString ∨ fault = .invalidUnitEscape

theorem readUnits_of_writesUnit {unit : Nat} {text : List Char} (writes : WritesUnit unit text) :
    readUnits text = .error .invalidUnitEscape := by
  cases writes
  rw [readUnits.eq_def]
  rfl

theorem readUnits_of_writesPoint {point : CodePoint} {spelling : List Char}
    (writes : WritesPoint point spelling) :
    ∃ fault, BreaksOff fault ∧ readUnits spelling = .error fault := by
  have unterminated : readUnits [] = .error .unterminatedString := by
    rw [readUnits.eq_def]
  cases writes with
  | half is_half writes => exact ⟨_, .inr rfl, readUnits_of_writesUnit writes⟩
  | char writes =>
      cases writes with
      | itself not_quote not_backslash printed =>
          refine ⟨_, .inl rfl, ?_⟩
          rw [readUnits_itself not_quote not_backslash printed, unterminated]
          rfl
      | letter stands =>
          refine ⟨_, .inl rfl, ?_⟩
          rw [readUnits_letter stands, unterminated]
          rfl
      | unit writes => exact ⟨_, .inr rfl, readUnits_of_writesUnit writes⟩
      | @pair high low first second high_half low_half joined first_writes second_writes =>
          obtain ⟨high, rfl⟩ : ∃ point : CodePoint, point.val = high := ⟨⟨high, by omega⟩, rfl⟩
          refine ⟨_, .inr rfl, ?_⟩
          have second_nonempty := second_writes
          cases second_nonempty
          rw [readUnits_unit first_writes (by simp), readUnits_of_writesUnit second_writes]
          rfl

/-- A spelled text that breaks off in front of a character beyond the plain ones is faulty. -/
theorem readUnits_of_split {points : List CodePoint} {body front behind : List Char} {char : Char}
    (writes : WritesPoints points body) (beyond : 0x7F ≤ char.toNat)
    (split : body = front ++ char :: behind) :
    ∃ fault, BreaksOff fault ∧ readUnits front = .error fault := by
  induction writes generalizing front with
  | nil => cases front <;> cases split
  | @cons point points spelling rest first others induction =>
      rcases List.append_eq_append_iff.mp split with
        ⟨between, rfl, rest_eq⟩ | ⟨between, spelling_eq, behind_eq⟩
      · obtain ⟨fault, breaks_off, read⟩ := induction rest_eq
        by_cases at_end : between = []
        · rw [at_end, List.append_nil]
          exact readUnits_of_writesPoint first
        · obtain ⟨units, read_as⟩ := readAs_of_writesPoint first
          refine ⟨fault, breaks_off, ?_⟩
          rw [read_as.read between at_end, read]
          rfl
      · cases between with
        | nil =>
            rw [List.append_nil] at spelling_eq
            rw [← spelling_eq]
            exact readUnits_of_writesPoint first
        | cons next between =>
            -- the character belongs to the spelling, which is therefore nothing else
            obtain ⟨rfl, -⟩ := List.cons.inj behind_eq
            have front_eq : front = [] := by
              rcases first.eq_or_isPlain with ⟨written, itself, -⟩ | plain
              · rw [itself] at spelling_eq
                exact (List.append_eq_singleton_iff.mp spelling_eq.symm).elim (·.1)
                  fun whole => by simp at whole
              · exact absurd (plain char (by simp [spelling_eq])) (not_isPlain beyond)
            rw [front_eq, readUnits.eq_def]
            exact ⟨_, .inl rfl, rfl⟩

theorem readString_of_split {content : CodeText} {body front behind : List Char} {char : Char}
    (writes : WritesText content body) (beyond : 0x7F ≤ char.toNat)
    (split : body = front ++ char :: behind) :
    ∃ fault, BreaksOff fault ∧ readString front = .error fault := by
  obtain ⟨fault, breaks_off, read⟩ := readUnits_of_split writes beyond split
  exact ⟨fault, breaks_off, by rw [readString, read]; rfl⟩

/-- The tokens in front of a string are read as before, and the string is faulty. -/
structure BrokenIn (whole : List Token) (front : List Char) (fault : Fault) : Prop where
  /-- What breaks off is a string. -/
  split : ∃ before content behind, whole = before ++ .string content :: behind ∧
    tokens front = before ++ [.badString fault]
  /-- The string has begun. -/
  quote : '"' ∈ front

theorem BrokenIn.cons {whole : List Token} {front spelling : List Char} {fault : Fault}
    {token : Token} (broken : BrokenIn whole front fault)
    (first : tokens (spelling ++ front) = token :: tokens front) :
    BrokenIn (token :: whole) (spelling ++ front) fault where
  split := by
    obtain ⟨before, content, behind, rfl, tokens_eq⟩ := broken.split
    exact ⟨token :: before, content, behind, rfl, by rw [first, tokens_eq]; rfl⟩
  quote := List.mem_append_right spelling broken.quote

/-- A text without a character ends in front of every occurrence of it. -/
theorem exists_eq_append (front : List Char) {rest before behind : List Char} {char : Char}
    (outside : char ∉ front) (split : front ++ rest = before ++ char :: behind) :
    ∃ between, before = front ++ between ∧ rest = between ++ char :: behind := by
  rcases List.append_eq_append_iff.mp split with
    ⟨between, before_eq, rest_eq⟩ | ⟨between, front_eq, behind_eq⟩
  · exact ⟨between, before_eq, rest_eq⟩
  · cases between with
    | nil => exact ⟨[], by simpa using front_eq.symm, by simpa using behind_eq.symm⟩
    | cons first others =>
        obtain ⟨rfl, -⟩ := List.cons.inj behind_eq
        exact absurd (by simp [front_eq]) outside

theorem isPlain_of_punctuation? {char : Char} {token : Token}
    (stands : punctuation? char = some token) : IsPlain char := by
  unfold punctuation? at stands
  split at stands
  all_goals first | decide | cases stands

theorem isPlain_of_literal {name : String} {value : Value}
    (stands : (name, value) ∈ commonLiterals) : ∀ char ∈ name.toList, IsPlain char := by
  simp only [commonLiterals, List.mem_cons, List.not_mem_nil, or_false, Prod.mk.injEq] at stands
  rcases stands with ⟨rfl, rfl⟩ | ⟨rfl, rfl⟩ | ⟨rfl, rfl⟩
  all_goals
    exact isPlain_of_all (by decide)

theorem isPlain_of_mem_toString {value : Int} {char : Char}
    (member : char ∈ (toString value).toList) : IsPlain char := by
  rw [toList_toString] at member
  rcases List.mem_append.mp member with sign | digit
  · split at sign
    · obtain rfl := List.mem_singleton.mp sign
      decide
    · cases sign
  · have is_digit := Numeral.isDigit_of_mem_toDigits digit
    simp only [Char.isDigit, Bool.and_eq_true, decide_eq_true_eq, ge_iff_le,
      UInt32.le_iff_toNat_le] at is_digit
    have lower : 48 ≤ char.toNat := is_digit.1
    have upper : char.toNat ≤ 57 := is_digit.2
    exact ⟨by omega, by omega⟩

theorem brace_mem_of_layout {whole : List Token} {text : List Char} (layout : Layout whole text)
    (opens : .openObject ∈ whole) : '\x7b' ∈ text := by
  induction layout with
  | nil => cases opens
  | gap blank behind induction => exact List.mem_cons_of_mem _ (induction opens)
  | mark stands behind induction =>
      rcases List.mem_cons.mp opens with rfl | inside
      · unfold punctuation? at stands
        split at stands
        all_goals first | exact List.mem_cons_self | cases stands
      · exact List.mem_cons_of_mem _ (induction inside)
  | string writes behind induction =>
      rcases List.mem_cons.mp opens with equal | inside
      · cases equal
      · simp [induction inside]
  | literal stands behind induction =>
      rcases List.mem_cons.mp opens with equal | inside
      · cases equal
      · exact List.mem_append_right _ (induction inside)
  | integer few ends behind induction =>
      rcases List.mem_cons.mp opens with equal | inside
      · cases equal
      · exact List.mem_append_right _ (induction inside)

/-- Besides tabs, a layout holds no control characters. -/
theorem printed_of_mem_layout {whole : List Token} {text : List Char}
    (layout : Layout whole text) : ∀ char ∈ text, char = '\t' ∨ 0x20 ≤ char.toNat := by
  have of_plain {spelling : List Char} (plain : ∀ char ∈ spelling, IsPlain char) :
      ∀ char ∈ spelling, char = '\t' ∨ 0x20 ≤ char.toNat :=
    fun char member => .inr (plain char member).1
  induction layout with
  | nil => simp
  | gap blank behind induction =>
      refine List.forall_mem_cons.mpr ⟨?_, induction⟩
      rcases blank with rfl | rfl
      · exact .inr (by decide)
      · exact .inl rfl
  | mark stands behind induction =>
      exact List.forall_mem_cons.mpr ⟨.inr (isPlain_of_punctuation? stands).1, induction⟩
  | string writes behind induction =>
      refine List.forall_mem_cons.mpr ⟨.inr (by decide), List.forall_mem_append.mpr ⟨?_, ?_⟩⟩
      · exact fun char member => .inr (WritesPoints.printed writes char member)
      · exact List.forall_mem_cons.mpr ⟨.inr (by decide), induction⟩
  | literal stands behind induction =>
      exact List.forall_mem_append.mpr ⟨of_plain (isPlain_of_literal stands), induction⟩
  | integer few ends behind induction =>
      exact List.forall_mem_append.mpr ⟨of_plain fun _ => isPlain_of_mem_toString, induction⟩

theorem EndsNumeral.of_append {front behind : List Char} (ends : EndsNumeral (front ++ behind)) :
    EndsNumeral front := by
  cases front with
  | nil => simp [EndsNumeral]
  | cons first rest => exact ends

/-- A layout that breaks off in front of a character beyond the plain ones is broken in a string:
nowhere else can such a character stand. -/
theorem brokenIn_of_split {whole : List Token} {text front behind : List Char} {char : Char}
    (layout : Layout whole text) (beyond : 0x7F ≤ char.toNat)
    (split : text = front ++ char :: behind) :
    ∃ fault, BreaksOff fault ∧ BrokenIn whole front fault := by
  have outside {spelling : List Char} (plain : ∀ written ∈ spelling, IsPlain written) :
      char ∉ spelling :=
    fun inside => not_isPlain beyond (plain char inside)
  induction layout generalizing front with
  | nil => cases front <;> cases split
  | @gap tokens blank_char rest blank layout_behind induction =>
      have not_blank : char ∉ [blank_char] := by
        rw [List.mem_singleton]
        rintro rfl
        rcases blank with rfl | rfl <;> exact absurd beyond (by decide)
      obtain ⟨between, rfl, rest_eq⟩ := exists_eq_append [blank_char] not_blank split
      obtain ⟨fault, breaks_off, broken⟩ := induction rest_eq
      refine ⟨fault, breaks_off, ?_, List.mem_append_right _ broken.quote⟩
      rw [List.singleton_append, tokens_gap blank]
      exact broken.split
  | @mark token tokens mark rest stands layout_behind induction =>
      have plain : ∀ written ∈ [mark], IsPlain written := by
        simpa using isPlain_of_punctuation? stands
      obtain ⟨between, rfl, rest_eq⟩ := exists_eq_append [mark] (outside plain) split
      obtain ⟨fault, breaks_off, broken⟩ := induction rest_eq
      exact ⟨fault, breaks_off, broken.cons (tokens_mark stands between)⟩
  | @string content tokens body rest writes layout_behind induction =>
      have no_quote : char ∉ ['"'] := outside (isPlain_of_all (by decide))
      obtain ⟨inner, rfl, inner_eq⟩ := exists_eq_append ['"'] no_quote split
      rcases List.append_eq_append_iff.mp inner_eq with
        ⟨between, rfl, rest_eq⟩ | ⟨between, body_eq, behind_eq⟩
      · obtain ⟨between, rfl, after_eq⟩ := exists_eq_append ['"'] no_quote rest_eq
        obtain ⟨fault, breaks_off, broken⟩ := induction after_eq
        have first : Json.tokens (('"' :: body ++ ['"']) ++ between) =
            .string content :: Json.tokens between := by
          simpa using tokens_string writes between
        exact ⟨fault, breaks_off, by simpa using broken.cons first⟩
      · cases between with
        | nil => exact absurd (by simp [(List.cons.inj behind_eq).1]) no_quote
        | cons first others =>
            obtain ⟨rfl, -⟩ := List.cons.inj behind_eq
            obtain ⟨fault, breaks_off, read⟩ := readString_of_split writes beyond body_eq
            refine ⟨fault, breaks_off, ⟨[], _, tokens, rfl, ?_⟩, by simp⟩
            rw [List.singleton_append, tokens_quote, read]
            rfl
  | @literal name value tokens rest stands layout_behind induction =>
      obtain ⟨between, rfl, rest_eq⟩ :=
        exists_eq_append _ (outside (isPlain_of_literal stands)) split
      obtain ⟨fault, breaks_off, broken⟩ := induction rest_eq
      exact ⟨fault, breaks_off, broken.cons (tokens_literal stands between)⟩
  | @integer value tokens rest few ends layout_behind induction =>
      obtain ⟨between, rfl, rest_eq⟩ :=
        exists_eq_append _ (outside fun _ => isPlain_of_mem_toString) split
      obtain ⟨fault, breaks_off, broken⟩ := induction rest_eq
      have ends_between : EndsNumeral between := (rest_eq ▸ ends).of_append
      exact ⟨fault, breaks_off, broken.cons (tokens_integer few ends_between)⟩

end WalkFilter.Json
