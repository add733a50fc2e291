import Mathlib.Tactic.Common
import WalkFilter.Proofs.Filter.RawDecision

/-!
# The rule that decides

A group consults five rules in a fixed order, and the first that applies decides. The number of this
rule turns unions of labels into minima: a node is treated like its strongest label alone.
-/

namespace WalkFilter

/-- Along a list, one of two conditions is met as early as the earlier of them. -/
theorem findIdx_eq_min {α : Type} {either left right : α → Bool} {list : List α}
    (splits : ∀ entry ∈ list, either entry = (left entry || right entry)) :
    list.findIdx either = min (list.findIdx left) (list.findIdx right) := by
  induction list with
  | nil => rfl
  | cons first rest induction =>
      obtain ⟨first_splits, rest_splits⟩ := List.forall_mem_cons.mp splits
      rw [List.findIdx_cons, List.findIdx_cons, List.findIdx_cons, first_splits,
        induction rest_splits]
      cases left first with
      | true => exact (Nat.zero_min _).symm
      | false =>
          cases right first with
          | true => exact (Nat.min_zero _).symm
          | false => exact (Nat.add_min_add_right ..).symm

theorem Patterns.hits_union {left right both : List String}
    (union : ∀ label, label ∈ both ↔ label ∈ left ∨ label ∈ right) (patterns : Patterns) :
    patterns.hits both = (patterns.hits left || patterns.hits right) := by
  rw [Bool.eq_iff_iff, Bool.or_eq_true]
  simp only [hits, List.any_eq_true, union, or_and_right, exists_or]

namespace Group

variable (group : Group)

/-- The first four rules in their order, each with the nodes that it applies to. -/
def checks : List (List String → Bool) :=
  [group.patterns.deny.hits, group.patterns.terminator.hits, group.patterns.endNode.hits,
    fun labels => group.patterns.allow.isEmpty || group.patterns.allow.hits labels]

/-- The number of the rule that decides about a node: of the first of the four that applies to its
labels, and five if none does. -/
def rule (labels : List String) : Nat := group.checks.findIdx (· labels) + 1

/-- What the rule with a number says. -/
def verdict (belowMinLevel : Bool) : (rule : Nat) → Decision
  | 1 => .excludePrune
  | 2 => if belowMinLevel then .excludeContinue else .includePrune
  | 3 => if belowMinLevel then .excludeContinue else .includeContinue
  | 4 => if group.endNodesOnly || belowMinLevel then .excludeContinue else .includeContinue
  | _ => .excludePrune

/-- A group decides as the rule says whose number it finds. -/
theorem evaluate_eq_verdict (labels : List String) (belowMinLevel : Bool) :
    group.evaluate labels belowMinLevel = group.verdict belowMinLevel (group.rule labels) := by
  simp only [evaluate, rule, checks, List.findIdx_cons, List.findIdx_nil]
  cases group.patterns.deny.hits labels with
  | true => rfl
  | false =>
      cases group.patterns.terminator.hits labels with
      | true => rfl
      | false =>
          cases group.patterns.endNode.hits labels with
          | true => rfl
          | false =>
              cases group.patterns.allow.isEmpty || group.patterns.allow.hits labels <;> rfl

theorem evaluate_eq_of_rule {labels others : List String}
    (same : group.rule labels = group.rule others) (belowMinLevel : Bool) :
    group.evaluate labels belowMinLevel = group.evaluate others belowMinLevel := by
  rw [evaluate_eq_verdict, evaluate_eq_verdict, same]

/-- The rule for the labels of two nodes together is the stronger of their rules. -/
theorem rule_union {left right both : List String}
    (union : ∀ label, label ∈ both ↔ label ∈ left ∨ label ∈ right) :
    group.rule both = min (group.rule left) (group.rule right) := by
  have splits : ∀ check ∈ group.checks, check both = (check left || check right) := by
    rw [checks]
    simp only [List.forall_mem_cons]
    refine ⟨Patterns.hits_union union _, Patterns.hits_union union _, Patterns.hits_union union _,
      ?_, List.forall_mem_nil _⟩
    rw [Patterns.hits_union union]
    cases group.patterns.allow.isEmpty <;> rfl
  rw [rule, findIdx_eq_min splits, rule, rule, Nat.add_min_add_right]

/-- More labels never weaken the rule. -/
theorem rule_le_of_subset {labels more : List String} (subset : labels ⊆ more) :
    group.rule more ≤ group.rule labels := by
  have union : ∀ label, label ∈ more ↔ label ∈ labels ∨ label ∈ more :=
    fun label => ⟨.inr, fun member => member.elim (subset ·) id⟩
  rw [group.rule_union union]
  exact Nat.min_le_left ..

theorem rule_eq_of_mem_iff {labels others : List String}
    (same : ∀ label, label ∈ labels ↔ label ∈ others) : group.rule labels = group.rule others :=
  Nat.le_antisymm (group.rule_le_of_subset fun _ => (same _).mpr)
    (group.rule_le_of_subset fun _ => (same _).mp)

/-- Some label of a node is as strong as all of them. -/
theorem exists_mem_rule_eq {labels : List String} (nonempty : labels ≠ []) :
    ∃ label ∈ labels, group.rule labels = group.rule [label] := by
  induction labels with
  | nil => exact absurd rfl nonempty
  | cons first rest induction =>
      have union : ∀ label, label ∈ first :: rest ↔ label ∈ [first] ∨ label ∈ rest := by simp
      by_cases last : rest = []
      · exact ⟨first, List.mem_cons_self, by rw [last]⟩
      · obtain ⟨label, member, rule_eq⟩ := induction last
        rw [group.rule_union union, rule_eq]
        rcases Nat.le_total (group.rule [first]) (group.rule [label]) with stronger | weaker
        · exact ⟨first, List.mem_cons_self, Nat.min_eq_left stronger⟩
        · exact ⟨label, List.mem_cons_of_mem first member, Nat.min_eq_right weaker⟩

theorem rule_eq_one_of_subset {labels more : List String} (subset : labels ⊆ more)
    (denied : group.rule labels = 1) : group.rule more = 1 :=
  Nat.le_antisymm (denied ▸ group.rule_le_of_subset subset) (Nat.le_add_left ..)

/-- The decision about a node is the one about its strongest label. -/
theorem evaluate_of_strongest :
    (∀ labels below, group.evaluate labels below = group.verdict below (group.rule labels)) ∧
      (∀ left right both, (∀ label, label ∈ both ↔ label ∈ left ∨ label ∈ right) →
        group.rule both = min (group.rule left) (group.rule right) ∧
          ∀ below, group.evaluate both below =
            group.evaluate (if group.rule left ≤ group.rule right then left else right) below) ∧
      (∀ labels, labels ≠ [] →
        ∃ label ∈ labels, ∀ below, group.evaluate labels below = group.evaluate [label] below) ∧
      (∀ labels others, (∀ label, label ∈ labels ↔ label ∈ others) →
        ∀ below, group.evaluate labels below = group.evaluate others below) ∧
      ∀ labels more, labels ⊆ more → group.rule labels = 1 →
        group.rule more = 1 ∧ ∀ below, group.evaluate more below = .excludePrune := by
  refine ⟨group.evaluate_eq_verdict, ?_, ?_, ?_, ?_⟩
  · intro left right both union
    have rule_eq := group.rule_union union
    refine ⟨rule_eq, group.evaluate_eq_of_rule ?_⟩
    rw [rule_eq]
    split
    · rename_i stronger
      exact Nat.min_eq_left stronger
    · rename_i weaker
      exact Nat.min_eq_right (Nat.le_of_not_le weaker)
  · intro labels nonempty
    obtain ⟨label, member, rule_eq⟩ := group.exists_mem_rule_eq nonempty
    exact ⟨label, member, group.evaluate_eq_of_rule rule_eq⟩
  · intro labels others same
    exact group.evaluate_eq_of_rule (group.rule_eq_of_mem_iff same)
  · intro labels more subset denied
    have still_denied := group.rule_eq_one_of_subset subset denied
    refine ⟨still_denied, fun below => ?_⟩
    rw [evaluate_eq_verdict, still_denied, verdict]

/-- A group in which one label has two roles: the terminator among the labels decides, and with a
denied label the denylist does. -/
theorem evaluate_of_strongest_twoRoles :
    let group : Group :=
      { patterns :=
          ⟨.add "Secret" ∅, .add "Town" (.add "Secret" ∅), .add "Person" ∅, .add "Person" ∅⟩
        endNodesOnly := true }
    let left := ["Town", "Person", "Town"]
    let right := ["Street"]
    let both := ["Street", "Person", "Street", "Town"]
    group.rule left = 2 ∧ group.rule right = 5 ∧ group.rule both = min 2 5 ∧
      group.evaluate both false = .includePrune ∧
      (∃ label ∈ both, ∀ below, group.evaluate both below = group.evaluate [label] below) ∧
      group.evaluate ["Person", "Street", "Town"] true = group.evaluate both true ∧
      group.evaluate ("Secret" :: both) true = .excludePrune := by
  intro group left right both
  obtain ⟨-, of_union, of_nonempty, of_same, of_denied⟩ := group.evaluate_of_strongest
  have left_rule : group.rule left = 2 := by decide
  have right_rule : group.rule right = 5 := by decide
  have union : ∀ label, label ∈ both ↔ label ∈ left ∨ label ∈ right := by
    intro label
    simp only [both, left, right, List.mem_cons, List.not_mem_nil, or_false]
    tauto
  have same : ∀ label, label ∈ ["Person", "Street", "Town"] ↔ label ∈ both := by
    intro label
    simp only [both, List.mem_cons, List.not_mem_nil, or_false]
    tauto
  obtain ⟨rule_eq, evaluate_eq⟩ := of_union left right both union
  rw [left_rule, right_rule] at rule_eq
  refine ⟨left_rule, right_rule, rule_eq, ?_, of_nonempty both (by decide),
    of_same _ both same true, ?_⟩
  · rw [evaluate_eq, left_rule, right_rule]
    decide
  · exact (of_denied ["Secret"] _ (by simp) (by decide)).2 true

end Group

end WalkFilter
