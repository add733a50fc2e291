import Mathlib.Data.List.DropRight
import WalkFilter.Proofs.Filter.RawDecision
import WalkFilter.Proofs.Filter.SourceTokens
import WalkFilter.Workbench

/-!
# Histories of a builder

Whatever a builder goes through, its patterns are the labels of all tokens that it was given, in
whatever order and portions. The limit on results is different: an explicit one cancels what the
tokens before it did, so only that one and the tokens behind it count.
-/

namespace WalkFilter

/-- The tokens of filter files in order, up to the first file that cannot be read. -/
def pathTokens (files : Files) : List Path → List String
  | [] => []
  | path :: rest =>
    match files.readLines .filter path with
    | .error _ => []
    | .ok lines => lines.flatMap lineTokens ++ pathTokens files rest

theorem Builder.builder_loadFilters (files : Files) (builder : Builder) (paths : List Path) :
    (builder.loadFilters files paths).builder = builder.addTokens (pathTokens files paths) := by
  induction paths generalizing builder with
  | nil => rfl
  | cons path rest induction =>
      rw [loadFilters, Files.readFilters, pathTokens]
      cases files.readLines .filter path with
      | error error => rfl
      | ok lines =>
          simp only [Except.map]
          rw [induction, addFilters_eq_addTokens, tokens_filtersOfLines, addTokens_append]

/-- The groups are equal, and looking things up by one finds what is kept under the other. -/
structure Group.Interchangeable (left right : Group) : Prop where
  /-- The groups are equal. -/
  equal : left = right
  /-- Both serve as the same key. -/
  same_key : ∀ {Name : Type} (name : Name), ∃ key,
    Workbench.lookupKey name (.group left) = .ok key ∧
      Workbench.lookupKey name (.group right) = .ok key

theorem Group.Interchangeable.of_eq {left right : Group} (equal : left = right) :
    left.Interchangeable right := by
  subst equal
  exact ⟨rfl, fun name => ⟨.group left, rfl, rfl⟩⟩

namespace Operation

variable {files : Files} {builder : Builder}

/-- The limit that the operation sets explicitly, if it does. -/
def limit? : Operation → Option Bool
  | setEndNodesOnly value => some value
  | addLabels _ | addLabel _ | loadFilters _ | build => none

/-- The tokens that the operation adds. -/
def tokens (files : Files) : Operation → List String
  | addLabels filter => Raw.tokens filter
  | addLabel token => token.toList
  | loadFilters paths => pathTokens files paths
  | setEndNodesOnly _ | build => []

/-- The tokens that a history of operations adds. -/
def tokensOf (files : Files) (operations : List Operation) : List String :=
  operations.flatMap (tokens files)

/-- The operations behind the last explicit limit. -/
def sinceLimit (operations : List Operation) : List Operation :=
  operations.rtakeWhile (·.limit?.isNone)

/-- The limit that is set last. -/
def lastLimit? (operations : List Operation) : Option Bool :=
  (operations.filterMap limit?).getLast?

/-! ## One operation -/

theorem builder_apply_of_limit {operation : Operation} {value : Bool}
    (sets : operation.limit? = some value) :
    (operation.apply files builder).builder = builder.setEndNodesOnly value ∧
      operation.tokens files = [] := by
  cases operation with
  | setEndNodesOnly chosen =>
      obtain rfl := Option.some.inj sets
      exact ⟨rfl, rfl⟩
  | addLabels _ | addLabel _ | loadFilters _ | build => cases sets

theorem builder_apply_of_no_limit {operation : Operation} (sets_none : operation.limit? = none) :
    (operation.apply files builder).builder = builder.addTokens (operation.tokens files) := by
  cases operation with
  | addLabels filter => exact Builder.addLabels_eq_addTokens builder filter
  | addLabel token => cases token <;> rfl
  | loadFilters paths => exact Builder.builder_loadFilters files builder paths
  | setEndNodesOnly value => cases sets_none
  | build => rfl

theorem mem_apply {operation : Operation} {operator : Operator} {label : String} :
    label ∈ ((operation.apply files builder).builder.patterns.get operator).labels ↔
      label ∈ (builder.patterns.get operator).labels ∨
        label ∈ Raw.labels (operation.tokens files) operator := by
  cases sets : operation.limit? with
  | none => rw [builder_apply_of_no_limit sets, Builder.mem_addTokens]
  | some value =>
      obtain ⟨applied, no_tokens⟩ := builder_apply_of_limit sets
      rw [applied, no_tokens, Raw.mem_labels_iff]
      simp [Builder.setEndNodesOnly]

/-! ## A whole history -/

theorem runAll_append (left right : List Operation) :
    runAll files builder (left ++ right) = runAll files (runAll files builder left) right :=
  List.foldl_append

theorem mem_runAll {operations : List Operation} {operator : Operator} {label : String} :
    label ∈ ((runAll files builder operations).patterns.get operator).labels ↔
      label ∈ (builder.patterns.get operator).labels ∨
        label ∈ Raw.labels (tokensOf files operations) operator := by
  induction operations generalizing builder with
  | nil => simp [runAll, tokensOf, Raw.mem_labels_iff]
  | cons first rest induction =>
      rw [tokensOf, List.flatMap_cons, Raw.mem_labels_append, ← or_assoc, ← mem_apply]
      exact induction

theorem endNodesOnly_runAll (operations : List Operation) :
    (runAll files builder operations).endNodesOnly =
      (Raw.restricts (tokensOf files (sinceLimit operations)) ||
        (lastLimit? operations).getD builder.endNodesOnly) := by
  -- The last operation tells whether the stretch behind the last limit grows or starts anew.
  induction operations using List.reverseRecOn with
  | nil => simp [runAll, tokensOf, sinceLimit, lastLimit?, Raw.restricts]
  | append_singleton front last induction =>
      have applied : runAll files builder (front ++ [last]) =
          (last.apply files (runAll files builder front)).builder := runAll_append front [last]
      rw [applied, sinceLimit, List.rtakeWhile_concat, lastLimit?, List.filterMap_append]
      cases sets : last.limit? with
      | some value =>
          rw [(builder_apply_of_limit sets).1]
          simp [sets, tokensOf, Raw.restricts, Builder.setEndNodesOnly]
      | none =>
          have no_limit : [last].filterMap limit? = [] := by simp [sets]
          rw [builder_apply_of_no_limit sets, Builder.endNodesOnly_addTokens, induction,
            if_pos Option.isNone_none, no_limit, List.append_nil, tokensOf, tokensOf,
            List.flatMap_append, Raw.restricts_append, List.flatMap_singleton, ← sinceLimit,
            ← lastLimit?, Bool.or_right_comm]

theorem runAll_of_no_limit {operations : List Operation}
    (set_none : ∀ operation ∈ operations, operation.limit? = none) :
    runAll files builder operations = builder.addTokens (tokensOf files operations) := by
  induction operations generalizing builder with
  | nil => rfl
  | cons first rest induction =>
      obtain ⟨first_none, rest_none⟩ := List.forall_mem_cons.mp set_none
      rw [tokensOf, List.flatMap_cons, Builder.addTokens_append,
        ← builder_apply_of_no_limit first_none]
      exact induction rest_none

/-! ## Regrouping -/

/-- Two stretches without an explicit limit that add the same tokens, in any order, number and
portions. -/
structure SameStretch (files : Files) (left right : List Operation) : Prop where
  /-- No limit is set explicitly. -/
  left_none : ∀ operation ∈ left, operation.limit? = none
  /-- No limit is set explicitly. -/
  right_none : ∀ operation ∈ right, operation.limit? = none
  /-- The tokens are the same. -/
  same : SameTokens (tokensOf files left) (tokensOf files right)

/-- The histories set the same limits, and between two of them they add the same tokens. -/
inductive Regrouped (files : Files) : List Operation → List Operation → Prop where
  | stretch {left right : List Operation} (same : SameStretch files left right) :
    Regrouped files left right
  | limit {left right left_rest right_rest : List Operation} (same : SameStretch files left right)
    (value : Bool) (behind : Regrouped files left_rest right_rest) :
    Regrouped files (left ++ .setEndNodesOnly value :: left_rest)
      (right ++ .setEndNodesOnly value :: right_rest)

theorem SameStretch.runAll_eq {left right : List Operation} (same : SameStretch files left right)
    (builder : Builder) : runAll files builder left = runAll files builder right := by
  rw [runAll_of_no_limit same.left_none, runAll_of_no_limit same.right_none,
    Builder.addTokens_congr builder same.same]

theorem Regrouped.runAll_eq {left right : List Operation} (regrouped : Regrouped files left right)
    (builder : Builder) : runAll files builder left = runAll files builder right := by
  induction regrouped generalizing builder with
  | stretch same => exact same.runAll_eq builder
  | limit same value behind induction =>
      rw [runAll_append, runAll_append, same.runAll_eq builder]
      exact induction _

/-- A call with two filters joined by a bar is as good as two calls. -/
theorem runAll_bar (builder : Builder) (left right : String) (before after : List Operation) :
    runAll files builder (before ++ .addLabels (some (left ++ "|" ++ right)) :: after) =
      runAll files builder
        (before ++ .addLabels (some left) :: .addLabels (some right) :: after) := by
  have joined (builder : Builder) : builder.addLabels (some (left ++ "|" ++ right)) =
      (builder.addLabels (some left)).addLabels (some right) := by
    simp only [Builder.addLabels_eq_addTokens, Raw.tokens_append_bar, Builder.addTokens_append]
  rw [runAll_append, runAll_append]
  exact congrArg (runAll files · after) (joined _)

/-- What a builder builds after any history: the labels of all tokens, and the limit as it was set
last or by a token behind that. Regrouping the tokens between two explicit limits makes no
difference. -/
theorem build_runAll (files : Files) (filter : Option String) (operations : List Operation) :
    let history := addLabels filter :: operations
    let group := (runAll files (.ofFilter filter) operations).build
    group.Holds (tokensOf files history) ∧
      (group.endNodesOnly = true ↔
        Raw.restricts (tokensOf files (sinceLimit history)) = true ∨
          lastLimit? history = some true) ∧
      (∀ other_filter others, Regrouped files history (addLabels other_filter :: others) →
        group.Interchangeable (runAll files (.ofFilter other_filter) others).build) ∧
      ∀ before after left right,
        operations = before ++ addLabels (some (left ++ "|" ++ right)) :: after →
        group.Interchangeable (runAll files (.ofFilter filter)
          (before ++ addLabels (some left) :: addLabels (some right) :: after)).build := by
  intro history group
  have group_eq : group = (runAll files {} history).build := rfl
  refine ⟨?_, ?_, ?_, ?_⟩
  · intro operator label
    rw [group_eq]
    exact mem_runAll.trans (or_iff_right (Builder.not_mem_initial operator label))
  · rw [group_eq, Builder.build, endNodesOnly_runAll, Bool.or_eq_true]
    cases lastLimit? history <;> simp
  · intro other_filter others regrouped
    have same := regrouped.runAll_eq {}
    exact .of_eq (congrArg Builder.build same)
  · rintro before after left right rfl
    exact .of_eq (congrArg Builder.build (runAll_bar _ left right before after))

/-- Tokens on either side of an explicit limit, in two orders and portions. -/
theorem build_runAll_twoPortions :
    let files : Files := fun _ => .missing
    let operations := [setEndNodesOnly true, addLabel (some "+a|b"), build,
      addLabels (some "-Secret|Town|-Secret")]
    let others := [addLabel (some "City"), setEndNodesOnly true, addLabels (some "Town"),
      addLabel none, addLabel (some "-Secret"), build, addLabel (some "+a|b")]
    let group := (runAll files (.ofFilter (some ">Person|City")) operations).build
    "a|b" ∈ group.patterns.allow.labels ∧ group.endNodesOnly = true ∧
      group.Interchangeable (runAll files (.ofFilter (some "City||>Person")) others).build := by
  intro files operations others group
  have built := build_runAll files (some ">Person|City") operations
  have front : SameStretch files [addLabels (some ">Person|City")]
      [addLabels (some "City||>Person"), addLabel (some "City")] :=
    ⟨by decide, by decide, by decide⟩
  have back : SameStretch files operations.tail (others.drop 2) :=
    ⟨by decide, by decide, by decide⟩
  refine ⟨(built.1 .allow "a|b").mpr (by decide), built.2.1.mpr (.inr (by decide)), ?_⟩
  exact built.2.2.1 _ _ (.limit front true (.stretch back))

end Operation

end WalkFilter
