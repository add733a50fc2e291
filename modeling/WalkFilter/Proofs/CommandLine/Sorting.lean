import Mathlib.Data.List.Basic
import WalkFilter.CommandLine.Word

/-!
# How the scan for verbosity sorts arguments

The scan knows no switch but the one for verbosity. An argument that the whole reading takes for
this switch is the same to the scan, and every other argument names no switch to it.
-/

namespace WalkFilter.CommandLine

/-- The word names the switch for verbosity in front. -/
def Word.asksRecords : Word → Bool
  | .switch first _ _ => first = .verbose
  | _ => false

/-- The word names no switch at all. -/
def Word.inert : Word → Bool
  | .switch _ _ _ => false
  | _ => true

/-- How the scan sees a word of the whole reading: unchanged if it names the switch for verbosity,
and otherwise as a word that names no switch. -/
def Word.SeenAs (word seen : Word) : Prop :=
  if word.asksRecords then seen = word else seen.inert

theorem Word.inert_sortRemainder (argument : String) : (sortRemainder argument).inert = true := by
  rw [sortRemainder]
  split <;> rfl

theorem spelled?_all_iff {text : String} {switch : Switch} {long : Bool} :
    spelled? Switch.all text = some (switch, long) ↔
      text = if long then switch.long else switch.short := by
  constructor
  · intro found
    obtain ⟨other, -, same⟩ := List.exists_of_findSome?_eq_some found
    grind
  · rintro rfl
    cases switch <;> cases long <;> rfl

theorem spelled?_verbose_iff {text : String} {switch : Switch} {long : Bool} :
    spelled? [.verbose] text = some (switch, long) ↔
      switch = .verbose ∧ spelled? Switch.all text = some (.verbose, long) := by
  rw [spelled?_all_iff]
  simp only [spelled?, List.findSome?_cons, List.findSome?_nil]
  have different : Switch.verbose.short ≠ Switch.verbose.long := by decide
  grind

theorem Word.seenAs_of_inert {word seen : Word} (other : word.asksRecords = false)
    (inert : seen.inert = true) : word.SeenAs seen := by
  rw [Word.SeenAs, if_neg (by simp [other])]
  exact inert

theorem Word.seenAs_verbose (long : Bool) (attached : Option String) :
    (Word.switch .verbose long attached).SeenAs (.switch .verbose long attached) := by
  simp [Word.SeenAs, Word.asksRecords]

theorem Word.seenAs_self {word : Word} (inert : word.inert = true) : word.SeenAs word := by
  cases word <;> simp_all [Word.SeenAs, Word.asksRecords, Word.inert]

theorem sortLong_seen {argument : String} {word : Word}
    (sorted : sortLong Switch.all argument = .ok word) :
    ∃ seen, sortLong [.verbose] argument = .ok seen ∧ word.SeenAs seen := by
  rw [sortLong] at sorted ⊢
  generalize splitAtEquals argument.toList = parts at sorted ⊢
  obtain ⟨name, value?⟩ := parts
  simp only at sorted ⊢
  have narrow : [Switch.verbose].filter (fun switch => name.isPrefixOf switch.long.toList) =
      (Switch.all.filter fun switch => name.isPrefixOf switch.long.toList).filter
        (· = .verbose) := by
    rw [List.filter_comm]
    rfl
  rw [narrow]
  split at sorted
  · rename_i none_fits
    obtain rfl := Except.ok.inj sorted
    rw [none_fits]
    exact ⟨_, rfl, Word.seenAs_self (Word.inert_sortRemainder argument)⟩
  · rename_i chosen one_fits
    obtain rfl := Except.ok.inj sorted
    rw [one_fits]
    by_cases asks : chosen = .verbose
    · subst asks
      exact ⟨_, rfl, Word.seenAs_verbose true _⟩
    · rw [List.filter_singleton, decide_eq_false asks]
      exact ⟨_, rfl, Word.seenAs_of_inert (by simpa [Word.asksRecords] using asks)
        (Word.inert_sortRemainder argument)⟩
  · cases sorted

theorem Switch.letter_eq_verbose_iff {switch : Switch} :
    switch.letter = Switch.verbose.letter ↔ switch = .verbose := by
  cases switch <;> decide

theorem sortShort_seen (argument : String) :
    (sortShort Switch.all argument).SeenAs (sortShort [.verbose] argument) := by
  have inert := Word.inert_sortRemainder argument
  rw [sortShort, sortShort, List.find?_singleton]
  cases found : Switch.all.find? fun switch => argument.toList[1]? = some switch.letter with
  | none =>
      rw [if_neg (List.find?_eq_none.mp found .verbose (by decide))]
      exact Word.seenAs_self inert
  | some chosen =>
      have letter : argument.toList[1]? = some chosen.letter := by simpa using List.find?_some found
      simp only [letter, Option.some.injEq, decide_eq_true_eq]
      by_cases asks : chosen = .verbose
      · subst asks
        exact Word.seenAs_verbose false _
      · rw [if_neg fun same => asks (Switch.letter_eq_verbose_iff.mp same)]
        exact Word.seenAs_of_inert (by simpa [Word.asksRecords] using asks) inert

theorem splitAtEquals_eq_append {text name value : List Char}
    (parts : splitAtEquals text = (name, some value)) : text = name ++ '=' :: value := by
  rw [splitAtEquals] at parts
  split at parts
  · cases parts
  · rename_i sign rest after
    obtain ⟨rfl, value_eq⟩ := Prod.mk.inj parts
    obtain rfl := Option.some.inj value_eq
    have stops : sign = '=' := by
      have head := List.head?_dropWhile_not (fun char => decide (char ≠ '=')) text
      rw [after] at head
      simpa using head
    have whole := List.takeWhile_append_dropWhile (p := fun char => decide (char ≠ '=')) (l := text)
    rw [after, stops] at whole
    exact whole.symm

theorem splitAtEquals_append {name : List Char} (valueless : '=' ∉ name) (value : List Char) :
    splitAtEquals (name ++ '=' :: value) = (name, some value) := by
  have passes : ∀ char ∈ name, decide (char ≠ '=') = true := by
    intro char member
    exact decide_eq_true fun same => valueless (same ▸ member)
  rw [splitAtEquals, List.dropWhile_append_of_pos passes, List.takeWhile_append_of_pos passes]
  simp

/-- An argument that spells no switch out, with or without a value, is sorted by its second
character. -/
theorem sort_of_unspelled {known : List Switch} {argument : String}
    (dash : argument.toList.head? = some '-') (unspelled : spelled? known argument = none)
    (longer : argument ≠ "-")
    (valueless : (splitAtEquals argument.toList).2 = none ∨
      spelled? known (String.ofList (splitAtEquals argument.toList).1) = none) :
    sort known argument =
      if argument.toList[1]? = some '-' then sortLong known argument
      else .ok (sortShort known argument) := by
  rw [sort, if_neg (by simp [dash]), unspelled]
  simp only [if_neg longer]
  generalize splitAtEquals argument.toList = parts at valueless ⊢
  obtain ⟨name, value?⟩ := parts
  rcases valueless with absent | unknown
  · obtain rfl : value? = none := absent
    rfl
  · have unknown' : spelled? known (String.ofList name) = none := unknown
    rw [unknown']
    cases value? <;> rfl

theorem spelled?_verbose_eq_none {text : String}
    (other : ∀ long, spelled? Switch.all text ≠ some (.verbose, long)) :
    spelled? [.verbose] text = none := by
  rw [Option.eq_none_iff_forall_ne_some]
  rintro ⟨switch, long⟩ found
  exact other long (spelled?_verbose_iff.mp found).2

/-- The scan passes over another switch that is spelled out with a value. -/
theorem inert_of_spelled {argument : String} {chosen : Switch} {long : Bool} {value : List Char}
    (spelling : argument.toList =
      (if long then chosen.long else chosen.short).toList ++ '=' :: value)
    (other : chosen ≠ .verbose) :
    ∃ seen, (if argument.toList[1]? = some '-' then sortLong [.verbose] argument
      else .ok (sortShort [.verbose] argument)) = .ok seen ∧ seen.inert = true := by
  refine ⟨sortRemainder argument, ?_, Word.inert_sortRemainder argument⟩
  cases long with
  | false =>
      have letter : argument.toList[1]? = some chosen.letter := by
        rw [spelling]
        simp [Switch.short]
      have no_dash : chosen.letter ≠ '-' := by cases chosen <;> decide
      have no_match : chosen.letter ≠ Switch.verbose.letter :=
        fun same => other (Switch.letter_eq_verbose_iff.mp same)
      rw [if_neg (by simpa [letter] using no_dash), sortShort, List.find?_singleton,
        if_neg (by simpa [letter] using no_match)]
  | true =>
      have dash : argument.toList[1]? = some '-' := by
        rw [spelling]
        cases chosen <;> rfl
      have valueless : '=' ∉ chosen.long.toList := by cases chosen <;> decide
      have no_match : chosen.long.toList.isPrefixOf Switch.verbose.long.toList = false := by
        cases chosen <;> first | rfl | exact absurd rfl other
      rw [if_pos dash, sortLong, spelling, if_pos rfl, splitAtEquals_append valueless]
      simp only [List.filter_singleton, no_match]
      rfl

/-- The scan passes over another switch that is spelled out. -/
theorem sort_spelling {chosen : Switch} (other : chosen ≠ .verbose) (long : Bool) :
    ∃ seen, sort [.verbose] (if long then chosen.long else chosen.short) = .ok seen ∧
      seen.inert = true := by
  cases chosen <;> cases long <;> first | exact ⟨_, rfl, rfl⟩ | exact absurd rfl other

theorem sort_of_spelled {known : List Switch} {argument : String} {switch : Switch} {long : Bool}
    (dash : argument.toList.head? = some '-')
    (found : spelled? known argument = some (switch, long)) :
    sort known argument = .ok (.switch switch long none) := by
  rw [sort, if_neg (by simp [dash]), found]

theorem sort_of_spelled_value {known : List Switch} {argument : String} {switch : Switch}
    {long : Bool} {name value : List Char} (dash : argument.toList.head? = some '-')
    (unspelled : spelled? known argument = none) (longer : argument ≠ "-")
    (parts : splitAtEquals argument.toList = (name, some value))
    (found : spelled? known (String.ofList name) = some (switch, long)) :
    sort known argument = .ok (.switch switch long (some (String.ofList value))) := by
  rw [sort, if_neg (by simp [dash]), unspelled]
  simp only [if_neg longer, parts, found]

/-- An argument that spells a switch out with a value. -/
theorem sort_seen_of_value {argument : String} {switch : Switch} {long : Bool}
    {name value : List Char} (dash : argument.toList.head? = some '-')
    (unspelled : spelled? Switch.all argument = none) (longer : argument ≠ "-")
    (parts : splitAtEquals argument.toList = (name, some value))
    (found : spelled? Switch.all (String.ofList name) = some (switch, long)) :
    ∃ seen, sort [.verbose] argument = .ok seen ∧
      (Word.switch switch long (some (String.ofList value))).SeenAs seen := by
  have unseen : spelled? [.verbose] argument = none :=
    spelled?_verbose_eq_none fun long => by simp [unspelled]
  by_cases asks : switch = .verbose
  · subst asks
    have seen := spelled?_verbose_iff.mpr ⟨rfl, found⟩
    exact ⟨_, sort_of_spelled_value dash unseen longer parts seen, Word.seenAs_verbose long _⟩
  · have name_unseen : spelled? [.verbose] (String.ofList name) = none :=
      spelled?_verbose_eq_none fun other same => by
        rw [found] at same
        exact asks (congrArg Prod.fst (Option.some.inj same))
    rw [sort_of_unspelled dash unseen longer (.inr (by rw [parts]; exact name_unseen))]
    have spelling : argument.toList =
        (if long then switch.long else switch.short).toList ++ '=' :: value := by
      rw [splitAtEquals_eq_append parts, ← spelled?_all_iff.mp found, String.toList_ofList]
    obtain ⟨seen, sorted, inert⟩ := inert_of_spelled spelling asks
    exact ⟨seen, sorted, Word.seenAs_of_inert (by simpa [Word.asksRecords] using asks) inert⟩

/-- An argument that is sorted by its second character. -/
theorem sort_seen_of_second {argument : String} {word : Word}
    (sorted : (if argument.toList[1]? = some '-' then sortLong Switch.all argument
      else .ok (sortShort Switch.all argument)) = .ok word) :
    ∃ seen, (if argument.toList[1]? = some '-' then sortLong [.verbose] argument
      else .ok (sortShort [.verbose] argument)) = .ok seen ∧ word.SeenAs seen := by
  split at sorted
  · rename_i two_dashes
    rw [if_pos two_dashes]
    exact sortLong_seen sorted
  · rename_i one_dash
    obtain rfl := Except.ok.inj sorted
    rw [if_neg one_dash]
    exact ⟨_, rfl, sortShort_seen argument⟩

/-- Whatever the whole reading makes of an argument, the scan sees it too. -/
theorem sort_seen {argument : String} {word : Word} (sorted : sort Switch.all argument = .ok word) :
    ∃ seen, sort [.verbose] argument = .ok seen ∧ word.SeenAs seen := by
  by_cases dash : argument.toList.head? = some '-'
  swap
  · rw [sort, if_pos dash] at sorted ⊢
    obtain rfl := Except.ok.inj sorted
    exact ⟨_, rfl, Word.seenAs_self rfl⟩
  cases whole : spelled? Switch.all argument with
  | some found =>
      obtain ⟨switch, long⟩ := found
      rw [sort_of_spelled dash whole] at sorted
      obtain rfl := Except.ok.inj sorted
      by_cases asks : switch = .verbose
      · subst asks
        have seen := spelled?_verbose_iff.mpr ⟨rfl, whole⟩
        exact ⟨_, sort_of_spelled dash seen, Word.seenAs_verbose long none⟩
      · obtain rfl := spelled?_all_iff.mp whole
        obtain ⟨seen, sorted_seen, inert⟩ := sort_spelling asks long
        have other : (Word.switch switch long none).asksRecords = false := by
          simpa [Word.asksRecords] using asks
        exact ⟨seen, sorted_seen, Word.seenAs_of_inert other inert⟩
  | none =>
      have unseen : spelled? [.verbose] argument = none :=
        spelled?_verbose_eq_none fun long => by simp [whole]
      by_cases longer : argument = "-"
      · subst longer
        obtain rfl := Except.ok.inj sorted
        exact ⟨_, rfl, Word.seenAs_self rfl⟩
      cases parts : splitAtEquals argument.toList with
      | mk name value? =>
          cases found : spelled? Switch.all (String.ofList name) with
          | none =>
              have name_unseen : spelled? [.verbose] (String.ofList name) = none :=
                spelled?_verbose_eq_none fun long => by simp [found]
              rw [sort_of_unspelled dash whole longer (.inr (by rw [parts]; exact found))] at sorted
              rw [sort_of_unspelled dash unseen longer (.inr (by rw [parts]; exact name_unseen))]
              exact sort_seen_of_second sorted
          | some chosen =>
              cases value? with
              | none =>
                  have absent := congrArg Prod.snd parts
                  rw [sort_of_unspelled dash whole longer (.inl absent)] at sorted
                  rw [sort_of_unspelled dash unseen longer (.inl absent)]
                  exact sort_seen_of_second sorted
              | some value =>
                  rw [sort_of_spelled_value dash whole longer parts found] at sorted
                  obtain rfl := Except.ok.inj sorted
                  exact sort_seen_of_value dash whole longer parts found

/-- Arguments in front of the mark `--` are sorted one by one. -/
theorem words_cons_eq_ok_iff {known : List Switch} {argument : String} {rest : List String}
    {sorted : List Word} (not_mark : argument ≠ "--") :
    words known (argument :: rest) = .ok sorted ↔
      ∃ first others, sort known argument = .ok first ∧ words known rest = .ok others ∧
        sorted = first :: others := by
  rw [words, if_neg not_mark]
  cases sort known argument with
  | error error => simp [bind, Except.bind]
  | ok first =>
      cases words known rest with
      | error error => simp [bind, Except.bind]
      | ok others => simp [bind, Except.bind, pure, Except.pure, eq_comm]

end WalkFilter.CommandLine
