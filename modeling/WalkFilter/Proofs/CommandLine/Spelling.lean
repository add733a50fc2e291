import Mathlib.Data.List.TakeWhile
import WalkFilter.Proofs.CommandLine.Reading
import WalkFilter.Proofs.CommandLine.Sorting

/-!
# Spellings of a switch

A switch is named by its long spelling, by an abbreviation of it that fits no other switch, or by
its letter, perhaps behind the letters of flags. Its value is attached to it or stands behind it.
Each spelling is sorted as a word that names the switch, and none is the mark that ends the
switches.
-/

namespace WalkFilter.CommandLine

/-- The text is the long spelling of the switch or abbreviates it and no other. -/
def Switch.LongName (switch : Switch) (name : String) : Prop :=
  name = switch.long ∨
    Switch.all.filter (fun other => name.toList.isPrefixOf other.long.toList) = [switch]

/-- The letters of flags and then of a switch behind a minus sign, with a text attached. -/
def shortWord (flags : List Switch) (switch : Switch) (text : List Char) : String :=
  String.ofList ('-' :: (flags.map Switch.letter ++ switch.letter :: text))

/-! ## Long spellings -/

theorem Switch.long_shape (switch : Switch) : ∃ first rest,
    switch.long.toList = '-' :: '-' :: first :: rest ∧ '=' ∉ switch.long.toList := by
  cases switch <;> exact ⟨_, _, rfl, by decide⟩

/-- An unambiguous name begins like a long spelling and goes on behind the dashes. -/
theorem Switch.LongName.shape {switch : Switch} {name : String} (long : switch.LongName name) :
    ∃ first rest, name.toList = '-' :: '-' :: first :: rest ∧ '=' ∉ name.toList := by
  rcases long with rfl | unique
  · exact switch.long_shape
  · have fits : name.toList <+: switch.long.toList := by
      have member : switch ∈ Switch.all.filter
          (fun other => name.toList.isPrefixOf other.long.toList) := by simp [unique]
      exact List.isPrefixOf_iff_prefix.mp (List.mem_filter.mp member).2
    obtain ⟨first, rest, long_eq, no_sign⟩ := switch.long_shape
    have no_sign_name : '=' ∉ name.toList := fun inside => no_sign (fits.subset inside)
    have ambiguous {text : List Char} (short : text = [] ∨ text = ['-'] ∨ text = ['-', '-']) :
        Switch.all.filter (fun other => text.isPrefixOf other.long.toList) ≠ [switch] := by
      rcases short with rfl | rfl | rfl <;> cases switch <;> decide
    rw [long_eq] at fits
    generalize name.toList = text at fits no_sign_name unique ⊢
    match text with
    | [] => exact absurd unique (ambiguous (by simp))
    | [char] =>
        obtain ⟨rfl, -⟩ := List.cons_prefix_cons.mp fits
        exact absurd unique (ambiguous (by simp))
    | [char, next] =>
        obtain ⟨rfl, behind⟩ := List.cons_prefix_cons.mp fits
        obtain ⟨rfl, -⟩ := List.cons_prefix_cons.mp behind
        exact absurd unique (ambiguous (by simp))
    | char :: next :: third :: others =>
        obtain ⟨rfl, behind⟩ := List.cons_prefix_cons.mp fits
        obtain ⟨rfl, -⟩ := List.cons_prefix_cons.mp behind
        exact ⟨third, others, rfl, no_sign_name⟩

theorem spelled?_eq_none {text : String} (not_long : ∀ switch : Switch, text ≠ switch.long)
    (not_short : ∀ switch : Switch, text ≠ switch.short) : spelled? Switch.all text = none := by
  rw [Option.eq_none_iff_forall_ne_some]
  rintro ⟨switch, long⟩ found
  have same := spelled?_all_iff.mp found
  cases long with
  | false => exact not_short switch same
  | true => exact not_long switch same

/-- A long name that is spelled in full or not at all. -/
theorem Switch.LongName.spelled {switch : Switch} {name : String} (long : switch.LongName name) :
    spelled? Switch.all name = some (switch, true) ∨
      spelled? Switch.all name = none ∧
        Switch.all.filter (fun other => name.toList.isPrefixOf other.long.toList) = [switch] := by
  rcases long with rfl | unique
  · exact .inl (spelled?_all_iff.mpr rfl)
  · by_cases full : name = switch.long
    · exact .inl (spelled?_all_iff.mpr full)
    · refine .inr ⟨spelled?_eq_none ?_ ?_, unique⟩
      · rintro other rfl
        have member : other ∈ Switch.all.filter
            (fun fitting => other.long.toList.isPrefixOf fitting.long.toList) :=
          List.mem_filter.mpr ⟨by cases other <;> decide, by simp⟩
        rw [unique, List.mem_singleton] at member
        exact full (congrArg Switch.long member)
      · rintro other rfl
        obtain ⟨first, rest, name_eq, -⟩ := LongName.shape (.inr unique)
        simp [Switch.short] at name_eq

theorem splitAtEquals_of_not_mem {text : List Char} (no_sign : '=' ∉ text) :
    splitAtEquals text = (text, none) := by
  have all_passed : text.dropWhile (fun char => decide (char ≠ '=')) = [] := by
    rw [List.dropWhile_eq_nil_iff]
    intro char member
    exact decide_eq_true fun same => no_sign (same ▸ member)
  rw [splitAtEquals, all_passed]

/-- A long name alone. -/
theorem sort_longName {switch : Switch} {name : String} (long : switch.LongName name) :
    sort Switch.all name = .ok (.switch switch true none) := by
  obtain ⟨first, rest, name_eq, no_sign⟩ := long.shape
  have dash : name.toList.head? = some '-' := by simp [name_eq]
  rcases long.spelled with found | ⟨unspelled, unique⟩
  · exact sort_of_spelled dash found
  · have longer : name ≠ "-" := by
      rintro rfl
      cases name_eq
    have parts := splitAtEquals_of_not_mem no_sign
    rw [sort_of_unspelled dash unspelled longer (.inl (by rw [parts])), if_pos (by simp [name_eq]),
      sortLong, parts]
    simp only [unique, Option.map_none]

/-- A long name with a value attached. -/
theorem sort_longName_value {switch : Switch} {name : String} (long : switch.LongName name)
    (value : String) :
    sort Switch.all (name ++ "=" ++ value) = .ok (.switch switch true (some value)) := by
  obtain ⟨first, rest, name_eq, no_sign⟩ := long.shape
  have text_eq : (name ++ "=" ++ value).toList = name.toList ++ '=' :: value.toList := by
    simp
  have dash : (name ++ "=" ++ value).toList.head? = some '-' := by
    rw [text_eq, name_eq]
    rfl
  have second : (name ++ "=" ++ value).toList[1]? = some '-' := by
    rw [text_eq, name_eq]
    rfl
  have with_sign : '=' ∈ (name ++ "=" ++ value).toList := by simp
  have unspelled : spelled? Switch.all (name ++ "=" ++ value) = none := by
    refine spelled?_eq_none (fun other same => ?_) fun other same => ?_
    · obtain ⟨-, -, -, without⟩ := other.long_shape
      exact without (same ▸ with_sign)
    · rw [same] at with_sign
      cases other <;> exact absurd with_sign (by decide)
  have longer : name ++ "=" ++ value ≠ "-" := by
    intro same
    rw [same] at with_sign
    exact absurd with_sign (by decide)
  have parts := splitAtEquals_append no_sign value.toList
  rw [← text_eq] at parts
  rcases long.spelled with found | ⟨name_unspelled, unique⟩
  · rw [sort_of_spelled_value dash unspelled longer parts (by rwa [String.ofList_toList]),
      String.ofList_toList]
  · have valueless : spelled? Switch.all
        (String.ofList (splitAtEquals (name ++ "=" ++ value).toList).1) = none := by
      rw [parts, String.ofList_toList, name_unspelled]
    rw [sort_of_unspelled dash unspelled longer (.inr valueless), if_pos second, sortLong, parts]
    simp only [unique, Option.map_some, String.ofList_toList]

/-! ## Short spellings -/

theorem find?_letter (switch : Switch) :
    Switch.all.find? (·.letter = switch.letter) = some switch := by
  cases switch <;> rfl

/-- The letter of a switch with a text behind it. -/
theorem sort_letter {switch : Switch} {next : Char} (no_sign : next ≠ '=') (rest : List Char) :
    sort Switch.all (String.ofList ('-' :: switch.letter :: next :: rest)) =
      .ok (.switch switch false (some (String.ofList (next :: rest)))) := by
  have no_dash : switch.letter ≠ '-' ∧ switch.letter ≠ '=' := by cases switch <;> decide
  have unspelled (others : List Char) :
      spelled? Switch.all (String.ofList ('-' :: switch.letter :: next :: others)) = none := by
    refine spelled?_eq_none (fun other same => ?_) fun other same => ?_
    · obtain ⟨first, behind, long_eq, -⟩ := other.long_shape
      rw [← same, String.toList_ofList] at long_eq
      exact no_dash.1 (List.cons.inj (List.cons.inj long_eq).2).1
    · have chars_eq := congrArg String.toList same
      simp [Switch.short] at chars_eq
  have longer : String.ofList ('-' :: switch.letter :: next :: rest) ≠ "-" := by
    intro same
    have chars_eq := congrArg String.toList same
    simp at chars_eq
  have name_eq : ∃ others,
      (splitAtEquals ('-' :: switch.letter :: next :: rest)).1 =
        '-' :: switch.letter :: next :: others := by
    by_cases sign : '=' ∈ rest
    · obtain ⟨front, behind, rfl, no_sign_front⟩ := List.eq_append_cons_of_mem sign
      have no_sign_name : '=' ∉ '-' :: switch.letter :: next :: front := by
        simp [no_dash.2.symm, no_sign.symm, no_sign_front]
      have parts := splitAtEquals_append no_sign_name behind
      exact ⟨front, by rw [← List.cons_append, ← List.cons_append, ← List.cons_append, parts]⟩
    · have no_sign_text : '=' ∉ '-' :: switch.letter :: next :: rest := by
        simp [no_dash.2.symm, no_sign.symm, sign]
      exact ⟨rest, by rw [splitAtEquals_of_not_mem no_sign_text]⟩
  obtain ⟨others, name_eq⟩ := name_eq
  have found : Switch.all.find? (fun other => some switch.letter = some other.letter) =
      some switch := by
    cases switch <;> rfl
  rw [sort_of_unspelled (by simp) (unspelled rest) longer
    (.inr (by rw [String.toList_ofList, name_eq]; exact unspelled others)),
    if_neg (by simpa using no_dash.1), sortShort, String.toList_ofList]
  simp only [List.getElem?_cons_succ, List.getElem?_cons_zero, found, List.drop_succ_cons,
    List.drop_zero]

theorem sort_short (switch : Switch) :
    sort Switch.all switch.short = .ok (.switch switch false none) :=
  sort_of_spelled (by simp [Switch.short]) (spelled?_all_iff.mpr rfl)

/-- The letters behind a flag: further flags and a switch that takes what is left, if anything
is. -/
theorem ofLetters_flags {flag : Switch} {flags : List Switch} {switch : Switch}
    (are_flags : ∀ other ∈ flag :: flags, other.takesValue = false)
    (takes : switch.takesValue = true) (text : List Char) :
    Cluster.ofLetters Switch.all flag (flags.map Switch.letter ++ switch.letter :: text) =
      .ok ⟨flag :: flags, switch, if text = [] then none else some (String.ofList text)⟩ := by
  obtain ⟨is_flag, others_are_flags⟩ := List.forall_mem_cons.mp are_flags
  induction flags generalizing flag with
  | nil =>
      rw [List.map_nil, List.nil_append, Cluster.ofLetters, if_neg (by simp [is_flag])]
      simp only [find?_letter]
      cases text with
      | nil => rfl
      | cons next rest =>
          rw [Cluster.ofLetters, if_pos takes]
          rfl
  | cons next rest induction =>
      obtain ⟨next_is_flag, rest_are_flags⟩ := List.forall_mem_cons.mp others_are_flags
      rw [List.map_cons, List.cons_append, Cluster.ofLetters, if_neg (by simp [is_flag])]
      simp only [find?_letter]
      rw [if_neg (by simp), induction others_are_flags next_is_flag rest_are_flags]
      rfl

/-- A word in short spelling is sorted as one whose letters spell the flags and the switch. -/
theorem sort_shortWord {flags : List Switch} {switch : Switch} {text : List Char}
    (are_flags : ∀ flag ∈ flags, flag.takesValue = false) (takes : switch.takesValue = true)
    (no_sign : text.head? ≠ some '=') :
    ∃ first attached,
      sort Switch.all (shortWord flags switch text) = .ok (.switch first false attached) ∧
      Cluster.ofWord Switch.all first false attached =
        .ok ⟨flags, switch, if text = [] then none else some (String.ofList text)⟩ := by
  cases flags with
  | nil =>
      cases text with
      | nil => exact ⟨switch, none, sort_short switch, rfl⟩
      | cons next rest =>
          have no_sign_next : next ≠ '=' := by simpa using no_sign
          refine ⟨switch, _, sort_letter no_sign_next rest, ?_⟩
          rw [Cluster.ofWord, String.toList_ofList]
          simp [Cluster.ofLetters, takes]
  | cons flag others =>
      obtain ⟨next, rest, letters_eq, no_sign_next⟩ : ∃ next rest,
          others.map Switch.letter ++ switch.letter :: text = next :: rest ∧ next ≠ '=' := by
        have no_sign_letter (other : Switch) : other.letter ≠ '=' := by cases other <;> decide
        cases others with
        | nil => exact ⟨_, _, rfl, no_sign_letter switch⟩
        | cons second behind => exact ⟨_, _, rfl, no_sign_letter second⟩
      have read := ofLetters_flags are_flags takes text
      refine ⟨flag, some (String.ofList (next :: rest)), ?_, ?_⟩
      · rw [shortWord, List.map_cons, List.cons_append, letters_eq]
        exact sort_letter no_sign_next rest
      · rw [Cluster.ofWord, String.toList_ofList, ← letters_eq]
        exact read

/-! ## The mark that ends the switches -/

theorem Switch.LongName.ne_mark {switch : Switch} {name : String} (long : switch.LongName name) :
    name ≠ "--" := by
  obtain ⟨first, rest, name_eq, -⟩ := long.shape
  rintro rfl
  cases name_eq

theorem longName_value_ne_mark (name value : String) : name ++ "=" ++ value ≠ "--" := by
  intro same
  have with_sign : '=' ∈ (name ++ "=" ++ value).toList := by simp
  rw [same] at with_sign
  exact absurd with_sign (by decide)

theorem shortWord_ne_mark (flags : List Switch) (switch : Switch) (text : List Char) :
    shortWord flags switch text ≠ "--" := by
  have no_dash (other : Switch) : other.letter ≠ '-' := by cases other <;> decide
  intro same
  have chars_eq := congrArg String.toList same
  rw [shortWord, String.toList_ofList] at chars_eq
  have letters_eq := (List.cons.inj chars_eq).2
  cases flags with
  | nil => exact no_dash switch (List.cons.inj letters_eq).1
  | cons flag others => exact no_dash flag (List.cons.inj letters_eq).1

theorem sort_plain {argument : String} (plain : argument.toList.head? ≠ some '-') :
    argument ≠ "--" ∧ sort Switch.all argument = .ok (.plain argument) := by
  refine ⟨?_, by rw [sort, if_pos plain]⟩
  rintro rfl
  exact plain rfl

end WalkFilter.CommandLine
