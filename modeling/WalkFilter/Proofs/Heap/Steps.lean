import WalkFilter.Proofs.Heap.Sound

/-!
# Steps of the heap

What each step does: work on a builder changes that builder alone and has the value it would have
without a heap, and making builders and groups changes no object that is there.
-/

namespace WalkFilter

namespace Heap

variable {Name : Type} {heap old new : Heap Name} {changed : Reference → Prop}

/-! ## Single changes -/

theorem leads_setEndNodesOnly {builder : BuilderAddress} (sound : heap.Sound)
    (live : heap.builders.Live builder) (value : Bool) :
    heap.Leads (heap.setEndNodesOnly builder value) (heap.Owns builder) := by
  have matcher_eq (other : BuilderAddress) (operator : Operator) :
      (heap.setEndNodesOnly builder value).builderMatcher other operator =
        heap.builderMatcher other operator := by
    by_cases same : other = builder
    · subst same
      rw [builderMatcher, setEndNodesOnly, Store.get_put_self live, builderMatcher]
    · rw [builderMatcher, setEndNodesOnly, Store.get_put_of_ne same, builderMatcher]
  have live_iff {other : BuilderAddress} :
      (heap.setEndNodesOnly builder value).builders.Live other ↔ heap.builders.Live other :=
    Store.live_put
  have ref_live {reference : Reference} (here : heap.Live reference) :
      (heap.setEndNodesOnly builder value).Live reference := by
    cases reference with
    | builder other => exact live_iff.mpr here
    | matcher address | group address => exact here
  refine ⟨⟨fun _ => ref_live, ?_, fun _ => matcher_eq _, fun _ _ => rfl⟩, ?_, rfl⟩
  · intro reference here unchanged
    cases reference with
    | matcher address | group address => rfl
    | builder other =>
        refine congrArg Object.builder (builder_eq (fun operator => ?_) ?_)
        · rw [matcher_eq, patterns_builder]
          rfl
        · rw [setEndNodesOnly, Store.get_put_of_ne unchanged, Heap.builder]
  · refine
      { sound with
        named_live := fun named => ref_live (sound.named_live named)
        builderMatcher_live := fun here operator => ?_
        builderMatcher_open := fun here operator => ?_
        builderMatcher_inj := fun here there same => ?_
        builderMatcher_unnamed := fun here operator name => ?_ }
    · rw [matcher_eq]
      exact sound.builderMatcher_live (live_iff.mp here) operator
    · rw [matcher_eq]
      exact sound.builderMatcher_open (live_iff.mp here) operator
    · rw [matcher_eq, matcher_eq] at same
      exact sound.builderMatcher_inj (live_iff.mp here) (live_iff.mp there) same
    · rw [matcher_eq]
      exact sound.builderMatcher_unnamed (live_iff.mp here) operator name

theorem builderMatcher_pushBuilder (heap : Heap Name) (cell : BuilderCell) (operator : Operator) :
    (heap.pushBuilder cell).1.builderMatcher heap.builders.fresh operator =
      cell.matchers.get operator := by
  rw [builderMatcher, pushBuilder, Store.get_push_fresh]

theorem groupMatcher_pushGroup (heap : Heap Name) (cell : GroupCell) (operator : Operator) :
    (heap.pushGroup cell).1.groupMatcher heap.groups.fresh operator =
      cell.matchers.get operator := by
  rw [groupMatcher, pushGroup, Store.get_push_fresh]

/-- One more builder, with open matchers that nobody knows. -/
theorem leads_pushBuilder (cell : BuilderCell) (sound : heap.Sound)
    (live : ∀ operator, heap.memory.matchers.Live (cell.matchers.get operator))
    (is_open : ∀ operator, (heap.memory.read (cell.matchers.get operator)).frozen = false)
    (inj : ∀ {operator choice}, cell.matchers.get choice = cell.matchers.get operator →
      choice = operator)
    (unowned : ∀ {other}, heap.builders.Live other → ∀ choice operator,
      heap.builderMatcher other choice ≠ cell.matchers.get operator)
    (unnamed : ∀ operator name, heap.names name ≠ some (.matcher (cell.matchers.get operator))) :
    heap.Leads (heap.pushBuilder cell).1 Nothing := by
  have old_matcher {other : BuilderAddress} (here : heap.builders.Live other)
      (operator : Operator) : (heap.pushBuilder cell).1.builderMatcher other operator =
        heap.builderMatcher other operator := by
    rw [builderMatcher, pushBuilder, Store.get_push_of_live here, builderMatcher]
  have new_matcher := builderMatcher_pushBuilder heap cell
  have ref_live {reference : Reference} (here : heap.Live reference) :
      (heap.pushBuilder cell).1.Live reference := by
    cases reference with
    | builder other => exact Store.live_push_of_live here
    | matcher address | group address => exact here
  refine ⟨⟨fun _ => ref_live, ?_, old_matcher, fun _ _ => rfl⟩, ?_, rfl⟩
  · intro reference here unchanged
    cases reference with
    | matcher address | group address => rfl
    | builder other =>
        refine congrArg Object.builder (builder_eq (fun operator => ?_) ?_)
        · rw [old_matcher here, patterns_builder]
          rfl
        · rw [pushBuilder, Store.get_push_of_live here, Heap.builder]
  · refine
      { sound with
        named_live := fun named => ref_live (sound.named_live named)
        builderMatcher_live := fun here operator => ?_
        builderMatcher_open := fun here operator => ?_
        builderMatcher_inj := fun here there same => ?_
        builderMatcher_unnamed := fun here operator name => ?_ }
    · rcases Store.live_push_cases here with rfl | before
      · rw [new_matcher]
        exact live operator
      · rw [old_matcher before]
        exact sound.builderMatcher_live before operator
    · rcases Store.live_push_cases here with rfl | before
      · rw [new_matcher]
        exact is_open operator
      · rw [old_matcher before]
        exact sound.builderMatcher_open before operator
    · -- A matcher of the new builder is neither another one of it nor one of an old builder.
      rcases Store.live_push_cases here with rfl | before <;>
        rcases Store.live_push_cases there with rfl | other_before
      · rw [new_matcher, new_matcher] at same
        exact ⟨rfl, inj same⟩
      · rw [new_matcher, old_matcher other_before] at same
        exact absurd same (unowned other_before _ _)
      · rw [new_matcher, old_matcher before] at same
        exact absurd same.symm (unowned before _ _)
      · rw [old_matcher before, old_matcher other_before] at same
        exact sound.builderMatcher_inj before other_before same
    · rcases Store.live_push_cases here with rfl | before
      · rw [new_matcher]
        exact unnamed operator name
      · rw [old_matcher before]
        exact sound.builderMatcher_unnamed before operator name

/-- One more group, with frozen matchers. -/
theorem leads_pushGroup (cell : GroupCell) (sound : heap.Sound)
    (live : ∀ operator, heap.memory.matchers.Live (cell.matchers.get operator))
    (frozen : ∀ operator, (heap.memory.read (cell.matchers.get operator)).frozen = true) :
    heap.Leads (heap.pushGroup cell).1 Nothing := by
  have old_matcher {other : GroupAddress} (here : heap.groups.Live other) (operator : Operator) :
      (heap.pushGroup cell).1.groupMatcher other operator = heap.groupMatcher other operator := by
    rw [groupMatcher, pushGroup, Store.get_push_of_live here, groupMatcher]
  have new_matcher := groupMatcher_pushGroup heap cell
  have ref_live {reference : Reference} (here : heap.Live reference) :
      (heap.pushGroup cell).1.Live reference := by
    cases reference with
    | group other => exact Store.live_push_of_live here
    | matcher address | builder address => exact here
  refine ⟨⟨fun _ => ref_live, ?_, fun _ _ => rfl, old_matcher⟩, ?_, rfl⟩
  · intro reference here unchanged
    cases reference with
    | matcher address | builder address => rfl
    | group other =>
        refine congrArg Object.group (group_eq (fun operator => ?_) ?_)
        · rw [old_matcher here, patterns_group]
          rfl
        · rw [pushGroup, Store.get_push_of_live here, Heap.group, Group.ofMatchers]
  · refine
      { sound with
        named_live := fun named => ref_live (sound.named_live named)
        groupMatcher_live := fun here operator => ?_
        groupMatcher_frozen := fun here operator => ?_ }
    · rcases Store.live_push_cases here with rfl | before
      · rw [new_matcher]
        exact live operator
      · rw [old_matcher before]
        exact sound.groupMatcher_live before operator
    · rcases Store.live_push_cases here with rfl | before
      · rw [new_matcher]
        exact frozen operator
      · rw [old_matcher before]
        exact sound.groupMatcher_frozen before operator

/-! ## Work on a builder -/

/-- A step on a builder that has the given result and changes nothing but the builder. -/
structure Works (heap : Heap Name) (builder : BuilderAddress) (value : Builder)
    (refusal : Option Refusal) (result : Heap Name × Option Refusal) : Prop where
  /-- Nothing but the builder changes. -/
  leads : heap.Leads result.1 (heap.Owns builder)
  /-- The builder is as given. -/
  builder : result.1.builder builder = value
  /-- The step is refused as given. -/
  refusal : result.2 = refusal

variable {builder : BuilderAddress}

theorem Works.andThen {result : Heap Name × Option Refusal}
    {next : Heap Name → Heap Name × Option Refusal} {value other : Builder}
    {refusal : Option Refusal} (live : heap.builders.Live builder)
    (first : heap.Works builder value none result)
    (second : ∀ {new : Heap Name}, new.Sound → new.builders.Live builder →
      new.builder builder = value → new.Works builder other refusal (next new)) :
    heap.Works builder other refusal (andThen result next) := by
  obtain ⟨new, refused⟩ := result
  obtain rfl : refused = none := first.refusal
  have later := second first.leads.sound (first.leads.live (.builder builder) live) first.builder
  refine ⟨first.leads.trans later.leads fun {reference} _ owns => ?_, later.builder, later.refusal⟩
  cases reference with
  | matcher address =>
      obtain ⟨operator, same⟩ := owns
      exact ⟨operator, (first.leads.builderMatcher live operator).symm.trans same⟩
  | builder address | group address => exact owns

theorem works_nothing (sound : heap.Sound) (builder : BuilderAddress)
    (refusal : Option Refusal) :
    heap.Works builder (heap.builder builder) refusal (heap, refusal) :=
  ⟨.refl sound _, rfl, rfl⟩

theorem setEndNodesOnly_works (sound : heap.Sound) (live : heap.builders.Live builder)
    (value : Bool) :
    heap.Works builder ((heap.builder builder).setEndNodesOnly value) none
      (heap.setEndNodesOnly builder value, none) := by
  have leads := leads_setEndNodesOnly sound live value
  refine ⟨leads, builder_eq (fun operator => ?_) ?_, rfl⟩
  · rw [leads.builderMatcher live, Builder.setEndNodesOnly, patterns_builder]
    rfl
  · rw [setEndNodesOnly, Store.get_put_self live, Builder.setEndNodesOnly]

/-- A pattern that is added to a matcher of a builder shows in that matcher and that builder. -/
theorem addPattern_works (sound : heap.Sound) (live : heap.builders.Live builder)
    (operator : Operator) (label : String) :
    heap.Works builder
      { heap.builder builder with
        patterns := (heap.builder builder).patterns.modify operator (·.add label) }
      none (heap.addPattern (heap.builderMatcher builder operator) (some label)) := by
  have matcher_live := sound.builderMatcher_live live operator
  have added := Matcher.add_of_open (sound.builderMatcher_open live operator) label
  have leads := leads_addPattern sound matcher_live (some label)
  refine ⟨(Leads.refl sound _).trans leads fun {reference} here shows => ?_,
    builder_eq (fun choice => ?_) rfl, ?_⟩
  · cases reference with
    | matcher address => exact ⟨operator, shows.symm⟩
    | builder address =>
        obtain ⟨choice, same⟩ := shows
        exact (sound.builderMatcher_inj live here same).1
    | group address => exact shows
  · rw [ByOperator.get_modify, leads.builderMatcher live, patterns_builder]
    split
    · rename_i same
      subst same
      exact congrArg Matcher.patterns (Memory.read_add_self sound.separate matcher_live added)
    · rename_i other
      have ne : heap.builderMatcher builder choice ≠ heap.builderMatcher builder operator :=
        fun same => other (sound.builderMatcher_inj live live same).2
      exact congrArg Matcher.patterns (Memory.read_add_of_ne sound.separate matcher_live
        (sound.builderMatcher_live live choice) ne)
  · rw [addPattern, Memory.add, added]
    rfl

theorem addToken_works (sound : heap.Sound) (live : heap.builders.Live builder) (token : Token) :
    heap.Works builder ((heap.builder builder).addToken token) none
      (heap.addToken builder token) := by
  obtain ⟨operator, label⟩ := token
  have add {new : Heap Name} (new_sound : new.Sound) (new_live : new.builders.Live builder)
      (value : new.builder builder = { heap.builder builder with
        endNodesOnly := (heap.builder builder).endNodesOnly || operator.restricts }) :
      new.Works builder ((heap.builder builder).addToken ⟨operator, label⟩) none
        (new.addPattern (new.builderMatcher builder operator) (some label)) := by
    have works := addPattern_works new_sound new_live operator label
    rwa [value] at works
  rw [addToken]
  cases restricts : operator.restricts with
  | true =>
      rw [restricts, Bool.or_true] at add
      exact (setEndNodesOnly_works sound live true).andThen live add
  | false =>
      rw [restricts, Bool.or_false] at add
      exact add sound live rfl

theorem addLabel_works (sound : heap.Sound) (live : heap.builders.Live builder)
    (token : Option String) :
    heap.Works builder ((heap.builder builder).addLabel token) none
      (heap.addLabel builder token) := by
  rw [addLabel, Builder.addLabel]
  cases Token.parse? token with
  | none => exact works_nothing sound builder none
  | some token => exact addToken_works sound live token

theorem addTokens_works (sound : heap.Sound) (live : heap.builders.Live builder)
    (tokens : List String) :
    heap.Works builder ((heap.builder builder).addTokens tokens) none
      (heap.addTokens builder tokens) := by
  induction tokens generalizing heap with
  | nil => exact works_nothing sound builder none
  | cons token rest induction =>
      refine (addLabel_works sound live (some token)).andThen live
        fun new_sound new_live value => ?_
      have works := induction new_sound new_live
      rwa [value] at works

theorem addLabels_works (sound : heap.Sound) (live : heap.builders.Live builder)
    (filter : Option String) :
    heap.Works builder ((heap.builder builder).addLabels filter) none
      (heap.addLabels builder filter) :=
  addTokens_works sound live (Text.pieces '|' (filter.getD ""))

theorem addFilters_works (sound : heap.Sound) (live : heap.builders.Live builder)
    (filters : List String) :
    heap.Works builder ((heap.builder builder).addFilters filters) none
      (heap.addFilters builder filters) := by
  induction filters generalizing heap with
  | nil => exact works_nothing sound builder none
  | cons filter rest induction =>
      refine (addLabels_works sound live (some filter)).andThen live
        fun new_sound new_live value => ?_
      have works := induction new_sound new_live
      rwa [value] at works

theorem loadFilters_works (files : Files) (sound : heap.Sound)
    (live : heap.builders.Live builder) (paths : List Path) :
    let loaded := (heap.builder builder).loadFilters files paths
    heap.Works builder loaded.builder (loaded.error.map .unreadable)
      (heap.loadFilters files builder paths) := by
  induction paths generalizing heap with
  | nil => exact works_nothing sound builder none
  | cons path rest induction =>
      rw [loadFilters, Builder.loadFilters]
      cases files.readFilters path with
      | error error => exact works_nothing sound builder (some (.unreadable error))
      | ok filters =>
          refine (addFilters_works sound live filters).andThen live
            fun new_sound new_live value => ?_
          have works := induction new_sound new_live
          rwa [value] at works

/-! ## New builders -/

/-- A step that makes a builder, unknown to everyone, and changes no object that is there. -/
structure Opens (heap : Heap Name) (value : Builder) (result : Heap Name × BuilderAddress) :
    Prop where
  /-- No object changes. -/
  leads : heap.Leads result.1 Nothing
  /-- The builder was not there before. -/
  dead : ¬heap.builders.Live result.2
  /-- Its matchers were not there before. -/
  matchers_dead : ∀ operator, ¬heap.memory.matchers.Live (result.1.builderMatcher result.2 operator)
  /-- The builder is there. -/
  live : result.1.builders.Live result.2
  /-- It is as given. -/
  builder : result.1.builder result.2 = value

theorem makeBuilder_opens (sound : heap.Sound) : heap.Opens {} heap.makeBuilder := by
  have made := Memory.forEach_yields Memory.make ⟨{}, {}, {}, {}⟩ (fun _ => {}) sound.separate
    fun separate _ operator => by cases operator <;> exact Memory.make_yields separate {}
  have dead := Memory.not_live_forEach_make heap.memory ⟨{}, {}, {}, {}⟩
  have grown := leads_grown sound made.separate made.grown
  have pushed := leads_pushBuilder ⟨_, false⟩ grown.sound made.live
    (fun operator => congrArg Matcher.frozen (made.read operator))
    (fun same => Memory.forEach_make_inj same)
    (fun live choice operator same => dead operator (same ▸ sound.builderMatcher_live live choice))
    (fun operator name named => dead operator (sound.named_live named))
  have matcher_eq (operator : Operator) :
      heap.makeBuilder.1.builderMatcher heap.makeBuilder.2 operator =
        (heap.memory.forEach Memory.make ⟨{}, {}, {}, {}⟩).2.get operator :=
    builderMatcher_pushBuilder _ _ operator
  refine ⟨grown.trans pushed fun _ => id, Store.not_live_fresh, fun operator => ?_,
    Store.live_push_fresh, builder_eq (fun operator => ?_) ?_⟩
  · rw [matcher_eq]
    exact dead operator
  · rw [matcher_eq]
    have empty := congrArg Matcher.patterns (made.read operator)
    cases operator <;> exact empty
  · rw [makeBuilder, pushBuilder, Store.get_push_fresh]

/-- Work on a new builder goes unnoticed. -/
theorem Opens.works {value other : Builder} {refusal : Option Refusal}
    {result : Heap Name × BuilderAddress} {worked : Heap Name × Option Refusal}
    (opens : heap.Opens value result)
    (works : result.1.Works result.2 other refusal worked) :
    heap.Opens other (worked.1, result.2) where
  leads := by
    refine opens.leads.trans works.leads fun {reference} here owns => ?_
    cases reference with
    | matcher address =>
        obtain ⟨operator, rfl⟩ := owns
        exact opens.matchers_dead operator here
    | builder address =>
        subst owns
        exact opens.dead here
    | group address => exact owns
  dead := opens.dead
  matchers_dead operator := by
    rw [works.leads.builderMatcher opens.live]
    exact opens.matchers_dead operator
  live := works.leads.live (.builder _) opens.live
  builder := works.builder

/-- A new builder that starts from a filter. -/
theorem addLabels_makeBuilder_opens (sound : heap.Sound) (filter : Option String) :
    let added := heap.makeBuilder.1.addLabels heap.makeBuilder.2 filter
    heap.Opens (.ofFilter filter) (added.1, heap.makeBuilder.2) ∧ added.2 = none := by
  have opens := makeBuilder_opens sound
  have works := addLabels_works opens.leads.sound opens.live filter
  rw [opens.builder] at works
  exact ⟨opens.works works, works.refusal⟩

/-! ## New groups -/

/-- A step that makes a group and changes no object that is there. -/
structure Creates (heap : Heap Name) (value : Group) (result : Heap Name × GroupAddress) :
    Prop where
  /-- No object changes. -/
  leads : heap.Leads result.1 Nothing
  /-- The group was not there before. -/
  dead : ¬heap.groups.Live result.2
  /-- The group is there. -/
  live : result.1.groups.Live result.2
  /-- It is as given. -/
  group : result.1.group result.2 = value

theorem Creates.after {middle : Heap Name} {value : Group} {result : Heap Name × GroupAddress}
    (creates : middle.Creates value result) (leads : heap.Leads middle Nothing) :
    heap.Creates value result where
  leads := leads.trans creates.leads fun _ => id
  dead live := creates.dead (leads.live (.group _) live)
  live := creates.live
  group := creates.group

theorem makeGroup_creates {matchers : ByOperator (Option MatcherAddress)} (sound : heap.Sound)
    (live : ∀ operator, ∀ address ∈ matchers.get operator, heap.memory.matchers.Live address)
    (endNodesOnly : Bool) :
    heap.Creates
      (.ofMatchers (matchers.map fun given => given.elim {} heap.memory.read) endNodesOnly)
      (heap.makeGroup matchers endNodesOnly) := by
  have yields {new : Memory} (separate : new.Separate) (grown : heap.memory.Extends new)
      (operator : Operator) :
      new.Yields ((matchers.get operator).elim {} heap.memory.read).freeze
        (new.secure (matchers.get operator)) := by
    have given_live (address : MatcherAddress) (given : address ∈ matchers.get operator) :
        new.matchers.Live address := grown.live (live operator address given)
    have yields := Memory.secure_yields separate given_live
    cases given : matchers.get operator with
    | none => rwa [given] at yields
    | some address =>
        rw [given] at yields
        rwa [Option.elim_some, ← grown.read (live operator address given)]
  have secured := Memory.forEach_yields Memory.secure matchers _ sound.separate yields
  have grown := leads_grown sound secured.separate secured.grown
  have pushed := leads_pushGroup ⟨_, endNodesOnly⟩ grown.sound secured.live
    fun operator => congrArg Matcher.frozen (secured.read operator)
  refine ⟨grown.trans pushed fun _ => id, Store.not_live_fresh, Store.live_push_fresh,
    group_eq (fun operator => ?_) ?_⟩
  · rw [Group.patterns_ofMatchers, ByOperator.get_map]
    have same := congrArg Matcher.patterns (secured.read operator)
    rwa [← groupMatcher_pushGroup { heap with memory := _ } ⟨_, endNodesOnly⟩] at same
  · rw [makeGroup, pushGroup, Store.get_push_fresh, Group.ofMatchers]

theorem build_creates (sound : heap.Sound) (live : heap.builders.Live builder) :
    heap.Creates (heap.builder builder).build (heap.build builder) := by
  have yields {new : Memory} (separate : new.Separate) (grown : heap.memory.Extends new)
      (operator : Operator) :
      new.Yields (heap.memory.read (heap.builderMatcher builder operator)).freeze
        (new.freeze (heap.builderMatcher builder operator)) := by
    have matcher_live := sound.builderMatcher_live live operator
    have yields := Memory.freeze_yields separate (grown.live matcher_live)
    rwa [grown.read matcher_live] at yields
  have frozen := Memory.forEach_yields Memory.freeze (heap.builders.get builder).matchers _
    sound.separate yields
  have grown := leads_grown sound frozen.separate frozen.grown
  -- The group takes the four frozen matchers over as they are.
  have created := makeGroup_creates grown.sound
    (fun operator address given => by
      rw [ByOperator.get_map] at given
      obtain rfl := Option.some.inj given
      exact frozen.live operator) (heap.builders.get builder).endNodesOnly
  have after := created.after grown
  refine ⟨after.leads, after.dead, after.live, after.group.trans ?_⟩
  refine Group.eq_of_get (fun operator => ?_) rfl
  rw [Group.patterns_ofMatchers, ByOperator.get_map, ByOperator.get_map, Option.elim_some,
    frozen.read operator]
  exact (patterns_builder builder operator).symm

theorem operate_works (files : Files) (sound : heap.Sound) (live : heap.builders.Live builder)
    (operation : Operation) :
    let loaded := operation.apply files (heap.builder builder)
    heap.Works builder loaded.builder (loaded.error.map .unreadable)
      (heap.operate files builder operation) := by
  cases operation with
  | addLabels filter => exact addLabels_works sound live filter
  | addLabel token => exact addLabel_works sound live token
  | loadFilters paths => exact loadFilters_works files sound live paths
  | setEndNodesOnly value => exact setEndNodesOnly_works sound live value
  | build =>
      have created := build_creates sound live
      have kept : (heap.build builder).1.object (.builder builder) =
          heap.object (.builder builder) :=
        created.leads.object live id
      exact ⟨(Leads.refl sound _).trans created.leads fun _ => False.elim,
        Object.builder.inj kept, rfl⟩

end Heap

end WalkFilter
