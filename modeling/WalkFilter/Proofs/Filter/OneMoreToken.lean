import WalkFilter.Proofs.Filter.Canonical
import WalkFilter.Proofs.Filter.Verdict

/-!
# One more token

A token at the end of a filter touches the nodes that carry its label: it makes their rule as strong
as its operator. Two kinds of tokens also reach other nodes. The first label of the allowlist shuts
out what is not allowed, and an end node or a terminator limits all results.
-/

namespace WalkFilter

namespace Operator

/-- The operators in the order in which a group consults them. -/
def precedence : List Operator := [deny, terminator, endNode, allow]

/-- The number of the rule that an operator stands for. -/
def rank (operator : Operator) : Nat := precedence.idxOf operator + 1

end Operator

namespace Patterns

variable {label : String}

theorem hits_add (nonempty : label ≠ "") (patterns : Patterns) (labels : List String) :
    (patterns.add label).hits labels = (patterns.hits labels || labels.contains label) := by
  rw [Bool.eq_iff_iff, Bool.or_eq_true, hits, hits, List.any_eq_true, List.any_eq_true,
    List.contains_iff_mem]
  simp only [LabelSet.contains_iff, mem_add]
  constructor
  · rintro ⟨other, member, old | ⟨rfl, -⟩⟩
    · exact .inl ⟨other, member, old⟩
    · exact .inr member
  · rintro (⟨other, member, old⟩ | member)
    · exact ⟨other, member, .inl old⟩
    · exact ⟨label, member, .inr ⟨rfl, nonempty⟩⟩

theorem hits_of_isEmpty {patterns : Patterns} (isEmpty : patterns.isEmpty = true)
    (labels : List String) : patterns.hits labels = false := by
  rw [hits, List.any_eq_false]
  intro other _ hit
  exact LabelSet.isEmpty_iff.mp isEmpty other (LabelSet.contains_iff.mp hit)

theorem isEmpty_add (nonempty : label ≠ "") (patterns : Patterns) :
    (patterns.add label).isEmpty = false :=
  isEmpty_eq_false_iff.mpr ⟨label, mem_add.mpr (.inr ⟨rfl, nonempty⟩)⟩

end Patterns

namespace Group

/-- The group with one more token. -/
def addToken (group : Group) (token : Token) : Group :=
  (Builder.addToken ⟨group.patterns, group.endNodesOnly⟩ token).build

/-- A bar and a token at the end of a filter add the token to its group. -/
theorem ofFilter_bar_spell {label : String} (no_bar : '|' ∉ label.toList) (filter : String)
    (operator : Operator) :
    ofFilter (some (filter ++ "|" ++ Token.spell operator label)) =
      (ofFilter (some filter)).addToken ⟨operator, label⟩ := by
  have no_bar_token : '|' ∉ (Token.spell operator label).toList := by
    rw [Token.spell_eq, String.toList_ofList, List.mem_cons, not_or]
    exact ⟨by cases operator <;> decide, no_bar⟩
  have added (builder : Builder) : builder.addTokens [Token.spell operator label] =
      builder.addToken ⟨operator, label⟩ := by
    rw [Builder.addTokens, List.foldl_cons, List.foldl_nil, Builder.addLabel, Token.parse?_spell]
  rw [ofFilter_eq_build, ofFilter_eq_build, Raw.tokens_append_bar, Builder.addTokens_append,
    Raw.tokens_of_no_bar no_bar_token, added]
  rfl

variable {group : Group} {operator other : Operator} {label : String} {labels : List String}

/-! ## What the token adds -/

theorem get_addToken (group : Group) (operator other : Operator) (label : String) :
    (group.addToken ⟨operator, label⟩).patterns.get other =
      if other = operator then (group.patterns.get other).add label
      else group.patterns.get other :=
  ByOperator.get_modify ..

theorem hits_addToken_self (nonempty : label ≠ "") :
    ((group.addToken ⟨operator, label⟩).patterns.get operator).hits labels =
      ((group.patterns.get operator).hits labels || labels.contains label) := by
  rw [get_addToken, if_pos rfl, Patterns.hits_add nonempty]

theorem hits_addToken_of_ne (ne : other ≠ operator) :
    ((group.addToken ⟨operator, label⟩).patterns.get other).hits labels =
      (group.patterns.get other).hits labels := by
  rw [get_addToken, if_neg ne]

theorem isEmpty_addToken_of_ne (ne : operator ≠ .allow) :
    (group.addToken ⟨operator, label⟩).patterns.allow.isEmpty = group.patterns.allow.isEmpty := by
  have kept := get_addToken group operator .allow label
  rw [if_neg ne.symm] at kept
  exact congrArg Patterns.isEmpty kept

theorem isEmpty_addToken_allow (nonempty : label ≠ "") :
    (group.addToken ⟨.allow, label⟩).patterns.allow.isEmpty = false :=
  Patterns.isEmpty_add nonempty group.patterns.allow

/-! ## The rule with one more token -/

/-- The rule of an operator applies to a node. -/
def applies (group : Group) (labels : List String) (operator : Operator) : Bool :=
  operator = .allow && group.patterns.allow.isEmpty || (group.patterns.get operator).hits labels

theorem rule_eq_findIdx (group : Group) (labels : List String) :
    group.rule labels = Operator.precedence.findIdx (group.applies labels) + 1 := by
  simp [rule, checks, Operator.precedence, applies, List.findIdx_cons, ByOperator.get]

/-- The rule of the new token also applies to the nodes that carry its label. -/
theorem applies_addToken (nonempty : label ≠ "")
    (selective : operator = .allow → group.patterns.allow.isEmpty = false) :
    (group.addToken ⟨operator, label⟩).applies labels other =
      (group.applies labels other || labels.contains label && other == operator) := by
  have isEmpty : (group.addToken ⟨operator, label⟩).patterns.allow.isEmpty =
      group.patterns.allow.isEmpty := by
    by_cases allows : operator = .allow
    · subst allows
      rw [isEmpty_addToken_allow nonempty, selective rfl]
    · exact isEmpty_addToken_of_ne allows
  rw [applies, applies, isEmpty]
  by_cases same : other = operator
  · subst same
    rw [hits_addToken_self nonempty, Bool.or_assoc, beq_self_eq_true, Bool.and_true]
  · rw [hits_addToken_of_ne same, beq_false_of_ne same, Bool.and_false, Bool.or_false]

/-- One more token makes the rule of a node that carries its label as strong as its operator, unless
it is the first label of the allowlist. -/
theorem rule_addToken (nonempty : label ≠ "")
    (selective : operator = .allow → group.patterns.allow.isEmpty = false)
    (labels : List String) :
    (group.addToken ⟨operator, label⟩).rule labels =
      if label ∈ labels then min (group.rule labels) operator.rank else group.rule labels := by
  have splits : ∀ other ∈ Operator.precedence,
      (group.addToken ⟨operator, label⟩).applies labels other =
        (group.applies labels other || labels.contains label && other == operator) :=
    fun other _ => applies_addToken nonempty selective
  rw [rule_eq_findIdx, findIdx_eq_min splits, rule_eq_findIdx, Operator.rank]
  split
  · rename_i member
    simp only [List.contains_iff_mem.mpr member, Bool.true_and]
    exact (Nat.add_min_add_right ..).symm
  · rename_i absent
    have not_carried : labels.contains label = false :=
      Bool.eq_false_iff.mpr (mt List.contains_iff_mem.mp absent)
    have never : Operator.precedence.findIdx (fun _ => false) = Operator.precedence.length := rfl
    simp only [not_carried, Bool.false_and, never, Nat.min_eq_left List.findIdx_le_length]

/-- The first label of the allowlist shuts out the nodes that were let pass without it. -/
theorem rule_addToken_first (nonempty : label ≠ "") (all : group.patterns.allow.isEmpty = true)
    (labels : List String) :
    (group.addToken ⟨.allow, label⟩).rule labels =
      if label ∉ labels ∧ group.rule labels = 4 then 5 else group.rule labels := by
  have kept (other : Operator) (ne : other ≠ .allow) :
      ((group.addToken ⟨.allow, label⟩).patterns.get other).hits labels =
        (group.patterns.get other).hits labels := hits_addToken_of_ne ne
  have deny := kept .deny (by decide)
  have terminator := kept .terminator (by decide)
  have endNode := kept .endNode (by decide)
  have allow : ((group.addToken ⟨.allow, label⟩).patterns.allow.isEmpty ||
      (group.addToken ⟨.allow, label⟩).patterns.allow.hits labels) = labels.contains label := by
    have grown : (group.addToken ⟨.allow, label⟩).patterns.allow.hits labels =
        (group.patterns.allow.hits labels || labels.contains label) :=
      Patterns.hits_add nonempty group.patterns.allow labels
    rw [isEmpty_addToken_allow nonempty, grown, Patterns.hits_of_isEmpty all, Bool.false_or,
      Bool.false_or]
  have decided := group.decidedBy_rule labels
  apply rule_eq_of_decidedBy
  generalize group.rule labels = rule at decided
  split
  · rename_i shut_out
    obtain ⟨absent, rfl⟩ := shut_out
    have not_carried := Bool.eq_false_iff.mpr (mt List.contains_iff_mem.mp absent)
    cases decided with
    | allow undenied unstopped unended allowed =>
        exact .none (deny.trans undenied) (terminator.trans unstopped) (endNode.trans unended)
          (allow.trans not_carried)
  · rename_i spared
    cases decided with
    | deny hit => exact .deny (deny.trans hit)
    | terminator undenied hit => exact .terminator (deny.trans undenied) (terminator.trans hit)
    | endNode undenied unstopped hit =>
        exact .endNode (deny.trans undenied) (terminator.trans unstopped) (endNode.trans hit)
    | allow undenied unstopped unended allowed =>
        have carried : label ∈ labels := by simpa using spared
        exact .allow (deny.trans undenied) (terminator.trans unstopped) (endNode.trans unended)
          (allow.trans (List.contains_iff_mem.mpr carried))
    | none undenied unstopped unended disallowed => simp [all] at disallowed

/-! ## The decision with one more token -/

theorem verdict_addToken {rule : Nat} (kept : rule = 4 → operator.restricts = false)
    (belowMinLevel : Bool) :
    (group.addToken ⟨operator, label⟩).verdict belowMinLevel rule =
      group.verdict belowMinLevel rule := by
  refine verdict_congr fun allowed => ?_
  have limit : (group.addToken ⟨operator, label⟩).endNodesOnly =
      (group.endNodesOnly || operator.restricts) := rfl
  rw [limit, kept allowed, Bool.or_false]

/-- A denied label takes the nodes that carry it out of the walk. -/
theorem evaluate_addToken_deny (nonempty : label ≠ "") (labels : List String)
    (belowMinLevel : Bool) :
    (group.addToken ⟨.deny, label⟩).evaluate labels belowMinLevel =
      if label ∈ labels then .excludePrune else group.evaluate labels belowMinLevel := by
  rw [evaluate_eq_verdict, rule_addToken nonempty (by simp), verdict_addToken fun _ => rfl]
  split
  · have strongest : min (group.rule labels) (Operator.rank .deny) = 1 :=
      Nat.min_eq_right (Nat.le_add_left 1 _)
    rw [strongest, verdict]
  · rw [evaluate_eq_verdict]

/-- One more allowed label lets the nodes pass that carry it and to which no rule applied. -/
theorem evaluate_addToken_allow (nonempty : label ≠ "")
    (selective : group.patterns.allow.isEmpty = false) (labels : List String)
    (belowMinLevel : Bool) :
    (group.addToken ⟨.allow, label⟩).evaluate labels belowMinLevel =
      if label ∈ labels ∧ group.rule labels = 5 then group.verdict belowMinLevel 4
      else group.evaluate labels belowMinLevel := by
  rw [evaluate_eq_verdict, rule_addToken nonempty fun _ => selective, verdict_addToken fun _ => rfl,
    evaluate_eq_verdict]
  have rank : Operator.rank .allow = 4 := rfl
  have bound := group.rule_le labels
  by_cases carried : label ∈ labels
  · by_cases unruled : group.rule labels = 5
    · rw [if_pos carried, if_pos ⟨carried, unruled⟩, unruled, rank]
      rfl
    · rw [if_pos carried, if_neg (by simp [unruled]), rank, Nat.min_eq_left (by omega)]
  · rw [if_neg carried, if_neg (by simp [carried])]

/-- Where all labels are allowed, the rule for allowed nodes decides about every node that carries
neither a denied label nor a terminator nor an end node. -/
theorem rule_eq_four_iff (all : group.patterns.allow.isEmpty = true) (labels : List String) :
    group.rule labels = 4 ↔ group.patterns.deny.hits labels = false ∧
      group.patterns.terminator.hits labels = false ∧
        group.patterns.endNode.hits labels = false := by
  have decided := group.decidedBy_rule labels
  generalize group.rule labels = rule at decided
  cases decided with
  | deny hit => simp [hit]
  | terminator undenied hit => simp [hit]
  | endNode undenied unstopped hit => simp [hit]
  | allow undenied unstopped unended allowed => simp [undenied, unstopped, unended]
  | none undenied unstopped unended disallowed => simp [all] at disallowed

/-- The first allowed label takes out the nodes that do not carry it and to which no rule but the
one for allowed nodes applied. -/
theorem evaluate_addToken_first (nonempty : label ≠ "")
    (all : group.patterns.allow.isEmpty = true) (labels : List String) (belowMinLevel : Bool) :
    (group.addToken ⟨.allow, label⟩).evaluate labels belowMinLevel =
      if label ∉ labels ∧ group.patterns.deny.hits labels = false ∧
          group.patterns.terminator.hits labels = false ∧
          group.patterns.endNode.hits labels = false then
        .excludePrune
      else group.evaluate labels belowMinLevel := by
  rw [evaluate_eq_verdict, rule_addToken_first nonempty all, verdict_addToken fun _ => rfl,
    evaluate_eq_verdict]
  simp only [rule_eq_four_iff all]
  split <;> rfl

/-- An end node or a terminator limits the results among the nodes that do not carry it and leaves
the walk past them as it is. -/
theorem evaluate_addToken_of_not_mem (nonempty : label ≠ "")
    (restricts : operator.restricts = true) (absent : label ∉ labels) (belowMinLevel : Bool) :
    let extended := group.addToken ⟨operator, label⟩
    (extended.evaluate labels belowMinLevel).continues =
        (group.evaluate labels belowMinLevel).continues ∧
      ((extended.evaluate labels belowMinLevel).includes = true ↔
        (group.evaluate labels belowMinLevel).includes = true ∧
          (group.endNodesOnly = true ∨ group.patterns.terminator.hits labels = true ∨
            group.patterns.endNode.hits labels = true)) := by
  intro extended
  have not_allow : operator = .allow → group.patterns.allow.isEmpty = false := by
    rintro rfl
    cases restricts
  have same : extended.rule labels = group.rule labels := by
    rw [rule_addToken nonempty not_allow, if_neg absent]
  have limits : extended.endNodesOnly = true := by
    have limit : extended.endNodesOnly = (group.endNodesOnly || operator.restricts) := rfl
    rw [limit, restricts, Bool.or_true]
  exact evaluate_of_limited same limits belowMinLevel

/-- An end node or a terminator decides about the nodes that carry it, unless a stronger rule
does. -/
theorem evaluate_addToken_of_mem (nonempty : label ≠ "")
    (restricts : operator.restricts = true) (member : label ∈ labels) (belowMinLevel : Bool) :
    (group.addToken ⟨operator, label⟩).evaluate labels belowMinLevel =
      if group.rule labels < operator.rank then group.evaluate labels belowMinLevel
      else group.verdict belowMinLevel operator.rank := by
  have not_allow : operator = .allow → group.patterns.allow.isEmpty = false := by
    rintro rfl
    cases restricts
  have rank_lt : operator.rank < 4 := by
    cases operator with
    | endNode | terminator => decide
    | deny | allow => cases restricts
  rw [evaluate_eq_verdict, rule_addToken nonempty not_allow, if_pos member,
    verdict_addToken (by omega), evaluate_eq_verdict]
  split
  · rename_i stronger
    rw [Nat.min_eq_left stronger.le]
  · rename_i weaker
    rw [Nat.min_eq_right (Nat.not_lt.mp weaker)]

/-- A token at the end of a filter changes decisions only as its operator says. -/
theorem evaluate_ofFilter_bar_spell {label : String} (nonempty : label ≠ "")
    (no_bar : '|' ∉ label.toList) (filter : String) (labels : List String)
    (belowMinLevel : Bool) :
    let group := ofFilter (some filter)
    let decision := group.evaluate labels belowMinLevel
    let extended (operator : Operator) : Decision :=
      (ofFilter (some (filter ++ "|" ++ Token.spell operator label))).evaluate labels belowMinLevel
    (extended .deny = if label ∈ labels then .excludePrune else decision) ∧
      (group.patterns.allow.isEmpty = false → extended .allow =
        if label ∈ labels ∧ group.rule labels = 5 then group.verdict belowMinLevel 4
        else decision) ∧
      (group.patterns.allow.isEmpty = true → extended .allow =
        if label ∉ labels ∧ group.patterns.deny.hits labels = false ∧
            group.patterns.terminator.hits labels = false ∧
            group.patterns.endNode.hits labels = false then
          .excludePrune
        else decision) ∧
      ∀ operator, operator.restricts = true →
        (label ∉ labels → (extended operator).continues = decision.continues ∧
          ((extended operator).includes = true ↔ decision.includes = true ∧
            (group.endNodesOnly = true ∨ group.patterns.terminator.hits labels = true ∨
              group.patterns.endNode.hits labels = true))) ∧
        (label ∈ labels → extended operator =
          if group.rule labels < operator.rank then decision
          else group.verdict belowMinLevel operator.rank) := by
  intro group decision extended
  have added (operator : Operator) : extended operator =
      (group.addToken ⟨operator, label⟩).evaluate labels belowMinLevel := by
    simp only [extended, ofFilter_bar_spell no_bar, group]
  simp only [added]
  refine ⟨evaluate_addToken_deny nonempty labels belowMinLevel, ?_, ?_, ?_⟩
  · intro selective
    exact evaluate_addToken_allow nonempty selective labels belowMinLevel
  · intro all
    exact evaluate_addToken_first nonempty all labels belowMinLevel
  · intro operator restricts
    constructor
    · intro absent
      exact evaluate_addToken_of_not_mem nonempty restricts absent belowMinLevel
    · intro member
      exact evaluate_addToken_of_mem nonempty restricts member belowMinLevel

/-- A label behind a filter with an allowed label and a terminator. As an end node it stays weaker
than the terminator, and it takes nothing from a walk past nodes without it. -/
theorem evaluate_ofFilter_bar_spell_afterTerminator :
    let filter := "Person|/City"
    let extended (operator : Operator) : Group :=
      ofFilter (some (filter ++ "|" ++ Token.spell operator "Movie"))
    (extended .deny).evaluate ["Person", "Movie"] false = .excludePrune ∧
      (extended .allow).evaluate ["Movie"] false = .excludeContinue ∧
      (extended .endNode).evaluate ["City", "Movie"] false = .includePrune ∧
      (extended .endNode).evaluate ["Movie"] false = .includeContinue ∧
      ((extended .endNode).evaluate ["Person"] false).continues = true := by
  intro filter extended
  have effect (labels : List String) := evaluate_ofFilter_bar_spell
    (by decide : "Movie" ≠ "") (by decide : '|' ∉ "Movie".toList) filter labels false
  have limits : (Operator.restricts .endNode) = true := rfl
  refine ⟨?_, ?_, ?_, ?_, ?_⟩
  · exact (effect ["Person", "Movie"]).1
  · exact ((effect ["Movie"]).2.1 (by decide)).trans (by decide)
  · exact (((effect ["City", "Movie"]).2.2.2 .endNode limits).2 (by decide)).trans (by decide)
  · exact (((effect ["Movie"]).2.2.2 .endNode limits).2 (by decide)).trans (by decide)
  · exact (((effect ["Person"]).2.2.2 .endNode limits).1 (by decide)).1.trans (by decide)

end Group

end WalkFilter
