import Mathlib.Data.List.Forall2
import WalkFilter.Node.Sample
import WalkFilter.Proofs.Filter.Verdict

/-!
# The minimum level

Raising the minimum level puts results off and does nothing else: where a node comes to lie below
the level, the walk passes through it, unless it would be cut off there at any level.
-/

namespace WalkFilter

/-- The first level is not above the second; without a level every depth is deep enough. -/
def NotAbove (lower upper : Option Int) : Prop :=
  ∀ level ∈ lower, ∃ other ∈ upper, level ≤ other

/-- The depth is deep enough for the first level, but not for the second. -/
def Between (lower upper : Option Int) (depth : Int) : Prop :=
  (∀ level ∈ lower, level ≤ depth) ∧ ∃ level ∈ upper, depth < level

/-- How two evaluations of a node are related if the second has the higher minimum level. -/
structure Postponed (lower upper : Option Int) (early late : Evaluation) : Prop where
  /-- The node is the same. -/
  sample : late.sample = early.sample
  /-- The evaluations are the same, unless the depth lies between the levels. -/
  outside : ¬Between lower upper early.sample.depth → late = early
  /-- Between the levels the walk passes through every node at which it is not cut off. -/
  between : Between lower upper early.sample.depth → late.decision =
    if early.decision = .excludePrune then .excludePrune else .excludeContinue
  /-- A walk that goes on still does. -/
  continues : early.decision.continues = true → late.decision.continues = true
  /-- No node becomes a result. -/
  includes : late.decision.includes = true → early.decision.includes = true

/-- Outside the levels nothing changes. -/
theorem Postponed.of_outside {lower upper : Option Int} {early late : Evaluation}
    (outside : ¬Between lower upper early.sample.depth) (same : late = early) :
    Postponed lower upper early late where
  sample := congrArg Evaluation.sample same
  outside _ := same
  between inside := absurd inside outside
  continues goes_on := same ▸ goes_on
  includes included := same ▸ included

namespace Group

variable {group : Group} {minLevel lower upper : Option Int} {sample : Sample}

/-! ## One evaluation -/

theorem belowMinLevel_iff :
    (group.evaluateSample minLevel sample).belowMinLevel = true ↔
      ∃ level ∈ minLevel, sample.depth < level := by
  simp [evaluateSample, isBelow, Option.any_eq_true]

theorem belowMinLevel_eq_false_iff :
    (group.evaluateSample minLevel sample).belowMinLevel = false ↔
      ∀ level ∈ minLevel, level ≤ sample.depth := by
  rw [← Bool.not_eq_true, belowMinLevel_iff]
  simp

/-- The level comes into an evaluation only by whether the node is below it. -/
theorem evaluateSample_eq {belowMinLevel : Bool}
    (below : (group.evaluateSample minLevel sample).belowMinLevel = belowMinLevel) :
    group.evaluateSample minLevel sample =
      ⟨sample, belowMinLevel, group.evaluate sample.labels.toList belowMinLevel⟩ := by
  subst below
  rfl

theorem evaluate_below (group : Group) (labels : List String) :
    group.evaluate labels true =
      if group.evaluate labels false = .excludePrune then .excludePrune
      else .excludeContinue := by
  rw [evaluate_eq_verdict, evaluate_eq_verdict, verdict_below]

/-- Whether a node is cut off without being a result does not depend on the level. -/
theorem evaluate_eq_excludePrune_iff (group : Group) (labels : List String)
    (belowMinLevel : Bool) :
    group.evaluate labels belowMinLevel = .excludePrune ↔
      group.evaluate labels false = .excludePrune := by
  cases belowMinLevel with
  | false => rfl
  | true =>
      rw [evaluate_below]
      split <;> simp_all

/-! ## Two levels -/

theorem postponed_evaluateSample (notAbove : NotAbove lower upper) (group : Group)
    (sample : Sample) :
    Postponed lower upper (group.evaluateSample lower sample)
      (group.evaluateSample upper sample) := by
  cases early : (group.evaluateSample lower sample).belowMinLevel with
  | true =>
      obtain ⟨level, level_mem, short⟩ := belowMinLevel_iff.mp early
      obtain ⟨other, other_mem, le⟩ := notAbove level level_mem
      have late : (group.evaluateSample upper sample).belowMinLevel = true :=
        belowMinLevel_iff.mpr ⟨other, other_mem, lt_of_lt_of_le short le⟩
      refine .of_outside ?_ (by rw [evaluateSample_eq early, evaluateSample_eq late])
      rintro ⟨deep_enough, -⟩
      exact absurd (deep_enough level level_mem) (not_le.mpr short)
  | false =>
      cases late : (group.evaluateSample upper sample).belowMinLevel with
      | false =>
          refine .of_outside ?_ (by rw [evaluateSample_eq early, evaluateSample_eq late])
          rintro ⟨-, level, level_mem, short⟩
          exact absurd (belowMinLevel_eq_false_iff.mp late level level_mem) (not_le.mpr short)
      | true =>
          have inside : Between lower upper sample.depth :=
            ⟨belowMinLevel_eq_false_iff.mp early, belowMinLevel_iff.mp late⟩
          have decided := group.evaluate_below sample.labels.toList
          rw [evaluateSample_eq early, evaluateSample_eq late]
          refine ⟨rfl, fun outside => absurd inside outside, fun _ => decided, ?_, ?_⟩
          · intro goes_on
            simp only [decided]
            split
            · rename_i cut_off
              simp only [cut_off] at goes_on
              cases goes_on
            · rfl
          · intro included
            simp only [decided] at included
            split at included <;> cases included

/-! ## All depths and levels -/

/-- As the depth grows, the decision changes at the minimum level if it changes at all. -/
theorem exists_level_of_decision_ne {labels : NodeLabels} {depth deeper : Int} (le : depth ≤ deeper)
    (changes : (group.evaluateSample minLevel ⟨labels, depth⟩).decision ≠
      (group.evaluateSample minLevel ⟨labels, deeper⟩).decision) :
    ∃ level ∈ minLevel, depth < level ∧ level ≤ deeper := by
  cases above : (group.evaluateSample minLevel ⟨labels, depth⟩).belowMinLevel with
  | true =>
      obtain ⟨level, member, short⟩ := belowMinLevel_iff.mp above
      refine ⟨level, member, short, not_lt.mp fun still_short => changes ?_⟩
      have below : (group.evaluateSample minLevel ⟨labels, deeper⟩).belowMinLevel = true :=
        belowMinLevel_iff.mpr ⟨level, member, still_short⟩
      rw [evaluateSample_eq above, evaluateSample_eq below]
  | false =>
      have deep_enough := belowMinLevel_eq_false_iff.mp above
      have below : (group.evaluateSample minLevel ⟨labels, deeper⟩).belowMinLevel = false :=
        belowMinLevel_eq_false_iff.mpr fun level member => (deep_enough level member).trans le
      exact absurd (by rw [evaluateSample_eq above, evaluateSample_eq below]) changes

theorem excludes_of_below {level : Int} (member : level ∈ minLevel)
    (short : sample.depth < level) :
    (group.evaluateSample minLevel sample).decision.includes = false := by
  have below : (group.evaluateSample minLevel sample).belowMinLevel = true :=
    belowMinLevel_iff.mpr ⟨level, member, short⟩
  rw [evaluateSample_eq below, evaluate_below]
  split <;> rfl

/-- A node that is cut off without being a result is so at every depth and every level. -/
theorem decision_eq_excludePrune {labels : NodeLabels} {depth other_depth : Int}
    {other : Option Int}
    (cut_off : (group.evaluateSample minLevel ⟨labels, depth⟩).decision = .excludePrune) :
    (group.evaluateSample other ⟨labels, other_depth⟩).decision = .excludePrune :=
  (evaluate_eq_excludePrune_iff group _ _).mpr ((evaluate_eq_excludePrune_iff group _ _).mp cut_off)

/-- Evaluations at a higher minimum level are those at a lower one with some results put off. -/
theorem evaluateSamples_postponed (group : Group) :
    (∀ minLevel samples, (group.evaluateSamples minLevel samples).map (·.sample) = samples) ∧
      (∀ lower upper samples, NotAbove lower upper → List.Forall₂ (Postponed lower upper)
        (group.evaluateSamples lower samples) (group.evaluateSamples upper samples)) ∧
      (∀ minLevel labels depth deeper, depth ≤ deeper →
        (group.evaluateSample minLevel ⟨labels, depth⟩).decision ≠
          (group.evaluateSample minLevel ⟨labels, deeper⟩).decision →
        ∃ level ∈ minLevel, depth < level ∧ level ≤ deeper) ∧
      (∀ minLevel sample, ∀ level ∈ minLevel, sample.depth < level →
        (group.evaluateSample minLevel sample).decision.includes = false) ∧
      ∀ minLevel other labels depth other_depth,
        (group.evaluateSample minLevel ⟨labels, depth⟩).decision = .excludePrune →
        (group.evaluateSample other ⟨labels, other_depth⟩).decision = .excludePrune := by
  refine ⟨group.map_sample_evaluateSamples, ?_, ?_, ?_, ?_⟩
  · intro lower upper samples notAbove
    rw [evaluateSamples, evaluateSamples, List.forall₂_map_left_iff, List.forall₂_map_right_iff,
      List.forall₂_same]
    intro sample _
    exact postponed_evaluateSample notAbove group sample
  · intro minLevel labels depth deeper le changes
    exact exists_level_of_decision_ne le changes
  · intro minLevel sample level member short
    exact excludes_of_below member short
  · intro minLevel other labels depth other_depth cut_off
    exact decision_eq_excludePrune cut_off

/-- A terminator just above and on the level: above it, both answers change. -/
theorem evaluateSamples_postponed_terminator :
    let group : Group := ofFilter (some "/City|-Secret")
    let city : NodeLabels := .ofList ["City"]
    let secret : NodeLabels := .ofList ["City", "Secret"]
    NotAbove none (some 2) ∧
      List.Forall₂ (Postponed none (some 2)) (group.evaluateSamples none [⟨city, 1⟩, ⟨city, 2⟩])
        (group.evaluateSamples (some 2) [⟨city, 1⟩, ⟨city, 2⟩]) ∧
      (∃ level ∈ some (2 : Int), 1 < level ∧ level ≤ 2) ∧
      (group.evaluateSample (some 2) ⟨city, 1⟩).decision.includes = false ∧
      (group.evaluateSample (some 2) ⟨secret, 1⟩).decision = .excludePrune := by
  intro group city secret
  obtain ⟨-, of_levels, of_depths, of_below, of_cut_off⟩ := group.evaluateSamples_postponed
  have notAbove : NotAbove none (some 2) := fun level member => nomatch member
  refine ⟨notAbove, of_levels none (some 2) _ notAbove, ?_, ?_, ?_⟩
  · exact of_depths (some 2) city 1 2 (by decide) (by decide)
  · exact of_below (some 2) ⟨city, 1⟩ 2 rfl (by decide)
  · exact of_cut_off none (some 2) secret 0 1 (by decide)

end Group

end WalkFilter
