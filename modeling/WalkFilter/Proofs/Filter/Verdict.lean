import WalkFilter.Proofs.Filter.Precedence

/-!
# The two answers of a rule

Whether a node is a result and whether the walk goes on past it can be read off the number of the
rule that decides. The limit to end nodes and terminators comes into the first answer only, and the
minimum level turns a result into a node that the walk passes through.
-/

namespace WalkFilter

namespace Group

variable {group : Group} {labels : List String} {belowMinLevel : Bool} {rule : Nat}

/-! ## From rules to answers -/

/-- A node is a result if it is deep enough and a rule for results decides, or the rule for allowed
nodes without the limit. -/
theorem includes_verdict_iff :
    (group.verdict belowMinLevel rule).includes = true ↔
      belowMinLevel = false ∧ (rule = 2 ∨ rule = 3 ∨ rule = 4 ∧ group.endNodesOnly = false) := by
  unfold verdict
  split
  · simp [Decision.includes]
  · cases belowMinLevel <;> simp [Decision.includes]
  · cases belowMinLevel <;> simp [Decision.includes]
  · cases belowMinLevel <;> cases group.endNodesOnly <;> simp [Decision.includes]
  · simp_all [Decision.includes]

/-- The walk goes on past end nodes and allowed nodes, and past terminators that come too early. -/
theorem continues_verdict_iff :
    (group.verdict belowMinLevel rule).continues = true ↔
      rule = 3 ∨ rule = 4 ∨ rule = 2 ∧ belowMinLevel = true := by
  unfold verdict
  split
  · simp [Decision.continues]
  · cases belowMinLevel <;> simp [Decision.continues]
  · cases belowMinLevel <;> simp [Decision.continues]
  · cases belowMinLevel <;> cases group.endNodesOnly <;> simp [Decision.continues]
  · simp_all [Decision.continues]

/-- Only the rule for allowed nodes looks at the limit. -/
theorem verdict_congr {other : Group}
    (same : rule = 4 → other.endNodesOnly = group.endNodesOnly) :
    other.verdict belowMinLevel rule = group.verdict belowMinLevel rule := by
  by_cases allowed : rule = 4
  · rw [allowed, verdict, verdict, same allowed]
  · unfold verdict
    split
    · rfl
    · rfl
    · rfl
    · exact absurd rfl allowed
    · rfl

/-- Below the minimum level the walk passes through every node at which it would not be cut off. -/
theorem verdict_below : group.verdict true rule =
    if group.verdict false rule = .excludePrune then .excludePrune else .excludeContinue := by
  unfold verdict
  split
  · rfl
  · rfl
  · rfl
  · cases group.endNodesOnly <;> rfl
  · rfl

/-! ## From labels to rules -/

/-- What there is to know of a node about which the rule with a number decides. -/
inductive DecidedBy (group : Group) (labels : List String) : (rule : Nat) → Prop where
  /-- A label is denied. -/
  | deny (hit : group.patterns.deny.hits labels = true) : DecidedBy group labels 1
  /-- A label is a terminator. -/
  | terminator (undenied : group.patterns.deny.hits labels = false)
    (hit : group.patterns.terminator.hits labels = true) : DecidedBy group labels 2
  /-- A label is an end node. -/
  | endNode (undenied : group.patterns.deny.hits labels = false)
    (unstopped : group.patterns.terminator.hits labels = false)
    (hit : group.patterns.endNode.hits labels = true) : DecidedBy group labels 3
  /-- All labels are allowed, or one of them is. -/
  | allow (undenied : group.patterns.deny.hits labels = false)
    (unstopped : group.patterns.terminator.hits labels = false)
    (unended : group.patterns.endNode.hits labels = false)
    (allowed : (group.patterns.allow.isEmpty || group.patterns.allow.hits labels) = true) :
    DecidedBy group labels 4
  /-- No rule applies. -/
  | none (undenied : group.patterns.deny.hits labels = false)
    (unstopped : group.patterns.terminator.hits labels = false)
    (unended : group.patterns.endNode.hits labels = false)
    (disallowed : (group.patterns.allow.isEmpty || group.patterns.allow.hits labels) = false) :
    DecidedBy group labels 5

theorem rule_eq_of_decidedBy (decided : group.DecidedBy labels rule) :
    group.rule labels = rule := by
  simp only [Group.rule, checks, List.findIdx_cons, List.findIdx_nil]
  cases decided with
  | deny hit => simp [hit]
  | terminator undenied hit => simp [undenied, hit]
  | endNode undenied unstopped hit => simp [undenied, unstopped, hit]
  | allow undenied unstopped unended allowed => simp [undenied, unstopped, unended, allowed]
  | none undenied unstopped unended disallowed =>
      simp [undenied, unstopped, unended, disallowed]

theorem exists_decidedBy (group : Group) (labels : List String) :
    ∃ rule, group.DecidedBy labels rule := by
  cases denied : group.patterns.deny.hits labels with
  | true => exact ⟨1, .deny denied⟩
  | false =>
      cases stopped : group.patterns.terminator.hits labels with
      | true => exact ⟨2, .terminator denied stopped⟩
      | false =>
          cases ended : group.patterns.endNode.hits labels with
          | true => exact ⟨3, .endNode denied stopped ended⟩
          | false =>
              cases allowed : group.patterns.allow.isEmpty || group.patterns.allow.hits labels with
              | true => exact ⟨4, .allow denied stopped ended allowed⟩
              | false => exact ⟨5, .none denied stopped ended allowed⟩

theorem decidedBy_rule (group : Group) (labels : List String) :
    group.DecidedBy labels (group.rule labels) := by
  obtain ⟨rule, decided⟩ := group.exists_decidedBy labels
  rwa [rule_eq_of_decidedBy decided]

theorem rule_le (group : Group) (labels : List String) : group.rule labels ≤ 5 :=
  Nat.succ_le_succ List.findIdx_le_length

/-- The rules for results decide about nodes that are not denied and carry an end node or a
terminator. -/
theorem rule_of_result (group : Group) (labels : List String) :
    group.rule labels = 2 ∨ group.rule labels = 3 ↔
      group.patterns.deny.hits labels = false ∧
        (group.patterns.terminator.hits labels = true ∨
          group.patterns.endNode.hits labels = true) := by
  have decided := group.decidedBy_rule labels
  generalize group.rule labels = rule at decided
  cases decided with
  | deny hit => simp [hit]
  | terminator undenied hit => simp [undenied, hit]
  | endNode undenied unstopped hit => simp [undenied, hit]
  | allow undenied unstopped unended allowed => simp [unstopped, unended]
  | none undenied unstopped unended disallowed => simp [unstopped, unended]

/-- Where the same rule decides, a group with the limit lets the walk go on past the same nodes, and
of the results it keeps the end nodes and terminators. -/
theorem evaluate_of_limited {limited : Group} (same : limited.rule labels = group.rule labels)
    (limits : limited.endNodesOnly = true) (belowMinLevel : Bool) :
    (limited.evaluate labels belowMinLevel).continues =
        (group.evaluate labels belowMinLevel).continues ∧
      ((limited.evaluate labels belowMinLevel).includes = true ↔
        (group.evaluate labels belowMinLevel).includes = true ∧
          (group.endNodesOnly = true ∨ group.patterns.terminator.hits labels = true ∨
            group.patterns.endNode.hits labels = true)) := by
  rw [evaluate_eq_verdict, evaluate_eq_verdict, same]
  constructor
  · rw [Bool.eq_iff_iff, continues_verdict_iff, continues_verdict_iff]
  · have results := group.rule_of_result labels
    have decided := group.decidedBy_rule labels
    rw [includes_verdict_iff, includes_verdict_iff, limits]
    generalize group.rule labels = rule at decided results
    cases decided with
    | deny | none => simp
    | terminator | endNode =>
        have marked := (results.mp (by simp)).2
        simp [marked]
    | allow undenied unstopped unended allowed => simp [unstopped, unended]

end Group

end WalkFilter
