import Mathlib.Data.List.Basic
import WalkFilter.Proofs.Filter.RawDecision

/-!
# Canonical filters

The groups that a filter can express are told apart by two conditions, and each of them is the group
of a filter that spells out its patterns one by one. Writing down a group in this way and reading it
again changes nothing, in whatever order the patterns are written down.
-/

namespace WalkFilter

namespace Token

/-- The token that gives a label to an operator. -/
def spell (operator : Operator) (label : String) : String :=
  String.singleton operator.symbol ++ label

theorem spell_eq (operator : Operator) (label : String) :
    spell operator label = String.ofList (operator.symbol :: label.toList) := by
  apply String.toList_inj.mp
  simp [spell]

theorem parse?_spell (operator : Operator) (label : String) :
    parse? (some (spell operator label)) = some ⟨operator, label⟩ := by
  rw [spell_eq, parse?_symbol, String.ofList_toList]

/-- A label holds no characters but those of its token. -/
theorem mem_of_parse? {text : String} {token : Token} (parsed : parse? (some text) = some token)
    {char : Char} (member : char ∈ token.label.toList) : char ∈ text.toList := by
  rcases Raw.token_cases text with rfl | ⟨operator, rest, rfl⟩ | ⟨first, rest, unmarked, rfl⟩
  · rw [parse?_empty] at parsed
    cases parsed
  · rw [parse?_symbol] at parsed
    obtain rfl := Option.some.inj parsed
    rw [String.toList_ofList] at member ⊢
    exact List.mem_cons_of_mem _ member
  · rw [parse?_plain unmarked] at parsed
    obtain rfl := Option.some.inj parsed
    exact member

end Token

namespace Raw

theorem bar_not_mem_token {filter : Option String} {token : String}
    (member : token ∈ tokens filter) : '|' ∉ token.toList := by
  cases filter with
  | none => cases member
  | some filter =>
      obtain ⟨piece, inside, rfl⟩ := List.mem_map.mp member
      rw [String.toList_ofList]
      exact Text.not_mem_of_mem_splitOn inside

theorem tokens_of_no_bar {token : String} (no_bar : '|' ∉ token.toList) :
    tokens (some token) = [token] := by
  rw [tokens, List.splitOn_eq_singleton no_bar, List.map_singleton, String.ofList_toList]

/-- Tokens without bars are recovered from the filter that joins them. -/
theorem sameTokens_of_no_bar {pieces : List String}
    (no_bar : ∀ token ∈ pieces, '|' ∉ token.toList) :
    SameTokens pieces (tokens (some ("|".intercalate pieces))) := by
  have split : (pieces.flatMap fun token => tokens (some token)) = pieces := by
    rw [List.flatMap_congr fun token member => tokens_of_no_bar (no_bar token member),
      List.flatMap_singleton']
  have same := sameTokens_intercalate pieces
  rwa [split] at same

end Raw

namespace Group

/-- A filter can express the group: no pattern is empty or holds a bar, and results are limited if
there are end nodes or terminators. -/
structure Expressible (group : Group) : Prop where
  /-- Every pattern can stand in a token. -/
  patterns : ∀ operator, ∀ label ∈ (group.patterns.get operator).labels,
    label ≠ "" ∧ '|' ∉ label.toList
  /-- End nodes and terminators limit results. -/
  limited : group.patterns.endNode.isEmpty = false ∨ group.patterns.terminator.isEmpty = false →
    group.endNodesOnly = true

/-- The tokens that spell out the patterns of the group, and a bare one if results are limited. -/
def canonicalTokens (group : Group) : List String :=
  let spelled (operator : Operator) : List String :=
    (group.patterns.get operator).toList.map (Token.spell operator)
  spelled .deny ++ spelled .allow ++ spelled .endNode ++ spelled .terminator ++
    if group.endNodesOnly then [">"] else []

/-- The filter joins the canonical tokens of the group in some order. -/
def IsCanonical (group : Group) (filter : String) : Prop :=
  ∃ tokens : List String, tokens.Perm group.canonicalTokens ∧ filter = "|".intercalate tokens

theorem mem_canonicalTokens {group : Group} {token : String} :
    token ∈ group.canonicalTokens ↔
      (∃ operator, ∃ label ∈ (group.patterns.get operator).labels,
        Token.spell operator label = token) ∨ group.endNodesOnly = true ∧ token = ">" := by
  have spelled (operator : Operator) :
      token ∈ (group.patterns.get operator).toList.map (Token.spell operator) ↔
        ∃ label ∈ (group.patterns.get operator).labels, Token.spell operator label = token :=
    List.mem_map
  have limited : (token ∈ if group.endNodesOnly then [">"] else []) ↔
      group.endNodesOnly = true ∧ token = ">" := by
    rw [List.mem_ite_nil_right, List.mem_singleton]
  rw [canonicalTokens, List.mem_append, List.mem_append, List.mem_append, List.mem_append,
    spelled, spelled, spelled, spelled, limited]
  constructor
  · rintro ((((member | member) | member) | member) | bare)
    · exact .inl ⟨_, member⟩
    · exact .inl ⟨_, member⟩
    · exact .inl ⟨_, member⟩
    · exact .inl ⟨_, member⟩
    · exact .inr bare
  · rintro (⟨operator, member⟩ | bare)
    · cases operator with
      | deny => exact .inl (.inl (.inl (.inl member)))
      | allow => exact .inl (.inl (.inl (.inr member)))
      | endNode => exact .inl (.inl (.inr member))
      | terminator => exact .inl (.inr member)
    · exact .inr bare

/-- A restricting operator has some pattern. -/
theorem restricting_iff {group : Group} :
    group.patterns.endNode.isEmpty = false ∨ group.patterns.terminator.isEmpty = false ↔
      ∃ operator : Operator, operator.restricts = true ∧
        ∃ label, label ∈ (group.patterns.get operator).labels := by
  rw [Patterns.isEmpty_eq_false_iff, Patterns.isEmpty_eq_false_iff]
  constructor
  · rintro (endNode | terminator)
    · exact ⟨.endNode, rfl, endNode⟩
    · exact ⟨.terminator, rfl, terminator⟩
  · rintro ⟨operator, restricts, member⟩
    cases operator with
    | endNode => exact .inl member
    | terminator => exact .inr member
    | deny | allow => cases restricts

theorem bar_not_mem_canonicalToken {group : Group} (expressible : group.Expressible)
    {token : String} (member : token ∈ group.canonicalTokens) : '|' ∉ token.toList := by
  rcases mem_canonicalTokens.mp member with ⟨operator, label, inside, rfl⟩ | ⟨-, rfl⟩
  · rw [Token.spell_eq, String.toList_ofList, List.mem_cons, not_or]
    exact ⟨by cases operator <;> decide, (expressible.patterns operator label inside).2⟩
  · decide

end Group

/-- The canonical tokens give each operator the patterns of the group. -/
theorem Group.mem_labels_canonicalTokens {group : Group} {operator : Operator} {label : String} :
    label ∈ Raw.labels group.canonicalTokens operator ↔
      label ∈ (group.patterns.get operator).labels := by
  rw [Raw.mem_labels_iff]
  constructor
  · rintro ⟨nonempty, token, member, parsed⟩
    rcases mem_canonicalTokens.mp member with ⟨chosen, given, inside, rfl⟩ | ⟨-, rfl⟩
    · rw [Token.parse?_spell] at parsed
      obtain ⟨rfl, rfl⟩ := Token.mk.inj (Option.some.inj parsed)
      exact inside
    · obtain ⟨-, rfl⟩ := Token.mk.inj (Option.some.inj parsed)
      exact absurd rfl nonempty
  · intro member
    have nonempty : label ≠ "" := by
      rintro rfl
      exact (group.patterns.get operator).empty_not_mem member
    exact ⟨nonempty, _, mem_canonicalTokens.mpr (.inl ⟨operator, label, member, rfl⟩),
      Token.parse?_spell operator label⟩

/-- The canonical tokens limit results exactly if the group does. -/
theorem Group.restricts_canonicalTokens {group : Group} (expressible : group.Expressible) :
    Raw.restricts group.canonicalTokens = group.endNodesOnly := by
  rw [Bool.eq_iff_iff, Raw.restricts_iff]
  constructor
  · rintro ⟨token, member, restricts⟩
    rcases mem_canonicalTokens.mp member with ⟨operator, label, inside, rfl⟩ | ⟨limited, -⟩
    · rw [Token.parse?_spell] at restricts
      exact expressible.limited (restricting_iff.mpr ⟨operator, restricts, label, inside⟩)
    · exact limited
  · intro limited
    exact ⟨">", mem_canonicalTokens.mpr (.inr ⟨limited, rfl⟩), by decide⟩

theorem Group.expressible_ofFilter (filter : Option String) :
    (Group.ofFilter filter).Expressible := by
  rw [Group.ofFilter_eq_build]
  have holds := Builder.holds_build_addTokens (Raw.tokens filter)
  constructor
  · intro operator label member
    obtain ⟨nonempty, token, inside, parsed⟩ := Raw.mem_labels_iff.mp ((holds _ _).mp member)
    exact ⟨nonempty, fun bar => Raw.bar_not_mem_token inside (Token.mem_of_parse? parsed bar)⟩
  · intro restricting
    obtain ⟨operator, restricts, label, member⟩ := Group.restricting_iff.mp restricting
    obtain ⟨-, token, inside, parsed⟩ := Raw.mem_labels_iff.mp ((holds operator label).mp member)
    have limits : Raw.restricts (Raw.tokens filter) = true := by
      apply Raw.restricts_iff.mpr
      exact ⟨token, inside, by rw [parsed]; exact restricts⟩
    rw [Builder.build, Builder.endNodesOnly_addTokens, limits, Bool.or_true]

/-- An expressible group is the group of its canonical filters. -/
theorem Group.ofFilter_canonical {group : Group} (expressible : group.Expressible)
    {filter : String} (canonical : group.IsCanonical filter) :
    Group.ofFilter (some filter) = group := by
  obtain ⟨tokens, perm, rfl⟩ := canonical
  have no_bar : ∀ token ∈ tokens, '|' ∉ token.toList := fun token member =>
    bar_not_mem_canonicalToken expressible (perm.mem_iff.mp member)
  have same := Raw.sameTokens_of_no_bar no_bar
  have collected : ({} : Builder).addTokens group.canonicalTokens =
      ⟨group.patterns, group.endNodesOnly⟩ := by
    apply Builder.eq_of_mem_iff
    · intro operator label
      rw [Builder.mem_addTokens, or_iff_right (Builder.not_mem_initial operator label),
        mem_labels_canonicalTokens]
    · rw [Builder.endNodesOnly_addTokens, restricts_canonicalTokens expressible, Bool.false_or]
  rw [Group.ofFilter_eq_build, ← Builder.addTokens_congr _ same,
    Builder.addTokens_congr _ (.of_perm perm), collected]
  rfl

/-- The groups of filters are the expressible ones, and writing such a group down and reading it
again gives the same group. -/
theorem Group.exists_ofFilter_eq_iff (group : Group) :
    ((∃ filter : String, Group.ofFilter (some filter) = group) ↔ group.Expressible) ∧
      (group.Expressible → ∀ canonical, group.IsCanonical canonical →
        Group.ofFilter (some canonical) = group) ∧
      ∀ filter canonical, (Group.ofFilter (some filter)).IsCanonical canonical →
        Group.ofFilter (some canonical) = Group.ofFilter (some filter) := by
  refine ⟨⟨?_, ?_⟩, ?_, ?_⟩
  · rintro ⟨filter, rfl⟩
    exact expressible_ofFilter (some filter)
  · intro expressible
    exact ⟨_, ofFilter_canonical expressible ⟨group.canonicalTokens, .refl _, rfl⟩⟩
  · intro expressible canonical
    exact ofFilter_canonical expressible
  · intro filter canonical
    exact ofFilter_canonical (expressible_ofFilter (some filter))

/-- Patterns that look like operators, comments and spaces; without the limit no filter expresses
the group. -/
theorem Group.exists_ofFilter_eq_iff_operatorsInPatterns :
    let group : Group :=
      { patterns := ⟨.add "# y" (.add "-x" ∅), .add "+a" (.add " " ∅), .add ">" ∅, ∅⟩
        endNodesOnly := true }
    group.Expressible ∧ group.IsCanonical "+ |>|-# y|>>|++a|--x" ∧
      Group.ofFilter (some "+ |>|-# y|>>|++a|--x") = group ∧
      ¬∃ filter : String, Group.ofFilter (some filter) = { group with endNodesOnly := false } := by
  intro group
  have expressible : group.Expressible := by
    constructor
    · intro operator
      cases operator <;> decide
    · decide
  have canonical : group.IsCanonical "+ |>|-# y|>>|++a|--x" :=
    ⟨["+ ", ">", "-# y", ">>", "++a", "--x"], by decide, by decide⟩
  refine ⟨expressible, canonical, ?_, ?_⟩
  · exact (exists_ofFilter_eq_iff group).2.1 expressible _ canonical
  · intro expressed
    have unlimited := (exists_ofFilter_eq_iff { group with endNodesOnly := false }).1.mp expressed
    exact absurd (unlimited.limited (.inl (by decide))) (by decide)

end WalkFilter
