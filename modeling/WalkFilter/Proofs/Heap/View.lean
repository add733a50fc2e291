import WalkFilter.Proofs.Heap.Steps

/-!
# What the names show

What the names stand for on a sound heap is a workbench. As long as no object has two names, an
action does to the heap what it does to that workbench: although the objects of the heap refer to
one another, each of them can be reasoned about as a value.
-/

namespace WalkFilter

/-- The name that an action gives to a new object. -/
def Action.target? {Name : Type} : Action Name → Option Name
  | .newMatcher target _ | .freeze _ target | .newBuilder target _ | .build _ target
  | .groupOfFilter target _ | .groupOfMatchers target _ _ => some target
  | .addToMatcher _ _ | .operate _ _ | .addToGroup _ _ _ | .changeField _ _ _
  | .evaluate _ _ _ => none

/-- The name to which a move gives a meaning. -/
def Move.target? {Name : Type} : Move Name → Option Name
  | .act action => action.target?
  | .share _ target | .take _ _ target => some target

namespace Heap

variable {Name : Type} {heap old middle new : Heap Name} {changed : Reference → Prop}

/-! ## Looking up names -/

theorem matcher?_view (heap : Heap Name) (name : Name) :
    heap.view.matcher? name = (heap.matcher? name).map heap.memory.read := by
  rw [Workbench.matcher?, view, matcher?]
  rcases heap.names name with _ | _ | _ | _ <;> rfl

theorem builder?_view (heap : Heap Name) (name : Name) :
    heap.view.builder? name = (heap.builder? name).map heap.builder := by
  rw [Workbench.builder?, view, builder?]
  rcases heap.names name with _ | _ | _ | _ <;> rfl

theorem group?_view (heap : Heap Name) (name : Name) :
    heap.view.group? name = (heap.group? name).map heap.group := by
  rw [Workbench.group?, view, group?]
  rcases heap.names name with _ | _ | _ | _ <;> rfl

theorem matcher?_eq_some_iff {name : Name} {matcher : MatcherAddress} :
    heap.matcher? name = some matcher ↔ heap.names name = some (.matcher matcher) := by
  rw [matcher?]
  rcases heap.names name with _ | _ | _ | _ <;> simp

theorem builder?_eq_some_iff {name : Name} {builder : BuilderAddress} :
    heap.builder? name = some builder ↔ heap.names name = some (.builder builder) := by
  rw [builder?]
  rcases heap.names name with _ | _ | _ | _ <;> simp

theorem group?_eq_some_iff {name : Name} {group : GroupAddress} :
    heap.group? name = some group ↔ heap.names name = some (.group group) := by
  rw [group?]
  rcases heap.names name with _ | _ | _ | _ <;> simp

theorem matcherOrEmpty?_view (heap : Heap Name) (given : Option Name) :
    heap.view.matcherOrEmpty? given =
      (heap.matcherOrMissing? given).map fun found => found.elim {} heap.memory.read := by
  cases given with
  | none => rfl
  | some name =>
      rw [Workbench.matcherOrEmpty?, matcher?_view, matcherOrMissing?, Option.map_map]
      rfl

theorem matchers?_view (heap : Heap Name) (names : ByOperator (Option Name)) :
    heap.view.matchers? names =
      (heap.matchers? names).map (·.map fun found => found.elim {} heap.memory.read) := by
  simp only [Workbench.matchers?, matchers?, matcherOrEmpty?_view]
  cases heap.matcherOrMissing? names.deny <;> cases heap.matcherOrMissing? names.allow <;>
    cases heap.matcherOrMissing? names.endNode <;>
    cases heap.matcherOrMissing? names.terminator <;> rfl

theorem matchers?_get {names : ByOperator (Option Name)}
    {found : ByOperator (Option MatcherAddress)} (matchers : heap.matchers? names = some found)
    (operator : Operator) :
    heap.matcherOrMissing? (names.get operator) = some (found.get operator) := by
  simp only [matchers?, Option.bind_eq_bind, Option.bind_eq_some_iff, Option.pure_def,
    Option.some.injEq] at matchers
  obtain ⟨deny, deny_found, allow, allow_found, endNode, endNode_found, terminator,
    terminator_found, rfl⟩ := matchers
  cases operator with
  | deny => exact deny_found
  | allow => exact allow_found
  | endNode => exact endNode_found
  | terminator => exact terminator_found

theorem live_of_matchers? {names : ByOperator (Option Name)}
    {found : ByOperator (Option MatcherAddress)} (sound : heap.Sound)
    (matchers : heap.matchers? names = some found) (operator : Operator) (matcher : MatcherAddress)
    (given : matcher ∈ found.get operator) : heap.memory.matchers.Live matcher := by
  have looked_up := matchers?_get matchers operator
  rw [Option.mem_def.mp given] at looked_up
  cases name : names.get operator with
  | none =>
      rw [name] at looked_up
      cases looked_up
  | some name =>
      simp only [name, matcherOrMissing?, Option.map_eq_some_iff] at looked_up
      obtain ⟨other, other_found, same⟩ := looked_up
      obtain rfl := Option.some.inj same
      exact sound.named_live (matcher?_eq_some_iff.mp other_found)

/-- The matchers of a group are as its value says: frozen. -/
theorem matcher_group (sound : heap.Sound) {group : GroupAddress} (live : heap.groups.Live group)
    (operator : Operator) :
    (heap.group group).matcher operator = heap.memory.read (heap.groupMatcher group operator) := by
  have frozen := sound.groupMatcher_frozen live operator
  rw [Group.matcher, patterns_group, ← frozen]

/-! ## What the names show after a step -/

/-- No object has two names. -/
def OneName (heap : Heap Name) : Prop :=
  ∀ name other reference, heap.names name = some reference →
    heap.names other = some reference → name = other

/-- An object that may be given a name: no builder counts it as its own. -/
structure Public (heap : Heap Name) (reference : Reference) : Prop where
  /-- The object is there. -/
  live : heap.Live reference
  /-- It is no matcher of a builder. -/
  unowned : ∀ {builder}, heap.builders.Live builder → ∀ operator,
    reference ≠ .matcher (heap.builderMatcher builder operator)

theorem Opens.isPublic {value : Builder} {result : Heap Name × BuilderAddress}
    (opens : heap.Opens value result) : result.1.Public (.builder result.2) :=
  ⟨opens.live, fun _ _ => nofun⟩

theorem Creates.isPublic {value : Group} {result : Heap Name × GroupAddress}
    (creates : heap.Creates value result) : result.1.Public (.group result.2) :=
  ⟨creates.live, fun _ _ => nofun⟩

/-- An object that was not there before has no name yet. -/
theorem unnamed_of_leads {reference : Reference} (sound : old.Sound)
    (leads : old.Leads new changed) (dead : ¬old.Live reference) (name : Name) :
    new.names name ≠ some reference := by
  rw [leads.names]
  exact fun named => dead (sound.named_live named)

theorem view_leads_nothing (sound : old.Sound) (leads : old.Leads new Nothing) :
    new.view = old.view := by
  funext name
  rw [view, leads.names, view]
  cases named : old.names name with
  | none => rfl
  | some reference => exact congrArg some (leads.object (sound.named_live named) id)

/-- A step that changes no objects but some and gives a new meaning to one name at most. -/
structure Frames (heap : Heap Name) (changed : Reference → Prop) (target : Option Name)
    (new : Heap Name) : Prop where
  /-- The heap stays sound. -/
  sound : new.Sound
  /-- Only some objects change. -/
  keeps : heap.Keeps new changed
  /-- Only one name may come to stand for another object. -/
  names : ∀ name, target ≠ some name → new.names name = heap.names name

/-- Such a step that does to a workbench what is given, unless an object has two names. -/
structure Performs (heap : Heap Name) (changed : Reference → Prop) (target : Option Name)
    (shown : Workbench Name × Option Refusal) (result : Heap Name × Option Refusal) : Prop
    extends Frames heap changed target result.1 where
  /-- Still no object has two names. -/
  one_name : heap.OneName → result.1.OneName
  /-- The objects under their names are as given. -/
  view : heap.OneName → result.1.view = shown.1
  /-- The step is refused as given. -/
  refusal : result.2 = shown.2

variable {target : Option Name}

theorem frames_nothing (sound : heap.Sound) : heap.Frames changed target heap :=
  ⟨sound, .refl heap changed, fun _ _ => rfl⟩

theorem performs_nothing (sound : heap.Sound) (refusal : Option Refusal) :
    heap.Performs changed target (heap.view, refusal) (heap, refusal) :=
  ⟨frames_nothing sound, id, fun _ => rfl, rfl⟩

/-- A refused pattern changes nothing. -/
theorem addPattern_of_error {matcher : MatcherAddress} {label : Option String}
    {error : MatcherError} (refused : (heap.memory.read matcher).add label = .error error) :
    heap.addPattern matcher label = (heap, some (.matcher error)) := by
  rw [addPattern, Memory.add_error refused]
  rfl

/-- Nothing is added to a matcher that is frozen, refused or not. -/
theorem addPattern_of_frozen {matcher : MatcherAddress} {label : Option String} {result : Matcher}
    (frozen : (heap.memory.read matcher).frozen = true)
    (added : (heap.memory.read matcher).add label = .ok result) :
    heap.addPattern matcher label = (heap, none) := by
  rw [addPattern, Memory.add_of_frozen frozen, Memory.add, added]
  rfl

theorem andThen_of_none {result : Heap Name × Option Refusal}
    {next : Heap Name → Heap Name × Option Refusal} (accepted : result.2 = none) :
    andThen result next = next result.1 := by
  obtain ⟨heap, refusal⟩ := result
  cases accepted
  rfl

variable [DecidableEq Name]

theorem names_bind_self (heap : Heap Name) (target : Name) (reference : Reference) :
    (heap.bind target reference).names target = some reference :=
  if_pos rfl

theorem names_bind_of_ne {name target : Name} (ne : name ≠ target) (reference : Reference) :
    (heap.bind target reference).names name = heap.names name :=
  if_neg ne

theorem object_bind (heap : Heap Name) (target : Name) (reference other : Reference) :
    (heap.bind target reference).object other = heap.object other := by
  cases other <;> rfl

theorem view_bind (heap : Heap Name) (target : Name) (reference : Reference) :
    (heap.bind target reference).view = heap.view.place target (heap.object reference) := by
  funext name
  have object : (heap.bind target reference).object = heap.object :=
    funext (object_bind heap target reference)
  rw [view, object, Workbench.place]
  by_cases same : name = target
  · rw [same, names_bind_self, if_pos rfl, Option.map_some]
  · rw [names_bind_of_ne same, if_neg same, view]

theorem keeps_bind (heap : Heap Name) (target : Name) (reference : Reference) :
    heap.Keeps (heap.bind target reference) Nothing where
  live other live := by cases other <;> exact live
  object _ _ := object_bind heap target reference _
  builderMatcher _ _ := rfl
  groupMatcher _ _ := rfl

theorem names_bind_cases {name target : Name} {reference found : Reference}
    (named : (heap.bind target reference).names name = some found) :
    name = target ∧ found = reference ∨ heap.names name = some found := by
  by_cases same : name = target
  · rw [same, names_bind_self] at named
    exact .inl ⟨same, (Option.some.inj named).symm⟩
  · rw [names_bind_of_ne same] at named
    exact .inr named

theorem sound_bind {reference : Reference} (sound : heap.Sound) (given : heap.Public reference)
    (target : Name) : (heap.bind target reference).Sound := by
  refine
    { sound with
      named_live := fun {name found} named => ?_
      builderMatcher_unnamed := fun live operator name named => ?_ }
  · apply (keeps_bind heap target reference).live
    rcases names_bind_cases named with ⟨-, rfl⟩ | before
    · exact given.live
    · exact sound.named_live before
  · rcases names_bind_cases named with ⟨-, same⟩ | before
    · exact given.unowned live operator same.symm
    · exact sound.builderMatcher_unnamed live operator name before

theorem oneName_bind {reference : Reference} (one_name : heap.OneName)
    (unnamed : ∀ name, heap.names name ≠ some reference) (target : Name) :
    (heap.bind target reference).OneName := by
  intro name other found named other_named
  rcases names_bind_cases named with ⟨rfl, rfl⟩ | before <;>
    rcases names_bind_cases other_named with ⟨rfl, same⟩ | other_before
  · rfl
  · exact absurd other_before (unnamed _)
  · exact absurd (same ▸ before) (unnamed _)
  · exact one_name _ _ _ before other_before

/-- Giving a name to an object that may have one changes no object. -/
theorem frames_bind {name : Name} {reference : Reference} (leads : heap.Leads new Nothing)
    (given : new.Public reference) :
    heap.Frames changed (some name) (new.bind name reference) where
  sound := sound_bind leads.sound given name
  keeps := (Keeps.refl heap changed).trans
    (leads.toKeeps.trans (keeps_bind new name reference) fun _ => id) fun _ => False.elim
  names other ne := by
    have other_ne : other ≠ name := fun same => ne (congrArg some same.symm)
    rw [names_bind_of_ne other_ne, leads.names]

/-- A step shows under one name at most if it changes nothing that other names stand for. -/
theorem view_leads {name : Name} {reference : Reference} (sound : old.Sound)
    (one_name : old.OneName) (leads : old.Leads new changed)
    (named : old.names name = some reference)
    (only : ∀ {other found}, old.names other = some found → changed found → found = reference) :
    new.view = old.view.place name (new.object reference) := by
  funext other
  rw [view, leads.names, Workbench.place]
  by_cases same : other = name
  · rw [same, named, if_pos rfl, Option.map_some]
  · rw [if_neg same, view]
    cases other_named : old.names other with
    | none => rfl
    | some found =>
        have unchanged : ¬changed found := by
          intro changes
          obtain rfl := only other_named changes
          exact same (one_name _ _ _ other_named named)
        exact congrArg some (leads.object (sound.named_live other_named) unchanged)

theorem performs_bind {name : Name} {reference : Reference} {object : Object} (sound : heap.Sound)
    (leads : heap.Leads new Nothing) (dead : ¬heap.Live reference) (given : new.Public reference)
    (now : new.object reference = object) :
    heap.Performs changed (some name) (heap.view.place name object, none)
      (new.bind name reference, none) where
  toFrames := frames_bind leads given
  one_name one_name := by
    have still : new.OneName := by
      rw [OneName, leads.names]
      exact one_name
    exact oneName_bind still (unnamed_of_leads sound leads dead) name
  view _ := by rw [view_bind, view_leads_nothing sound leads, now]
  refusal := rfl

/-- A matcher that was made last is given a name. -/
theorem performs_made {name : Name} {matcher : Matcher} {made : Memory × MatcherAddress}
    (sound : heap.Sound) (yields : heap.memory.Yields matcher made)
    (fresh : made.2 = heap.memory.matchers.fresh) :
    heap.Performs changed (some name) (heap.view.place name (.matcher matcher), none)
      ({ heap with memory := made.1 }.bind name (.matcher made.2), none) := by
  have leads := leads_grown sound yields.separate yields.grown
  have dead : ¬heap.memory.matchers.Live made.2 := fresh ▸ Store.not_live_fresh
  refine performs_bind sound leads dead ⟨yields.live, fun live operator same => dead ?_⟩
    (congrArg Object.matcher yields.read)
  rw [Reference.matcher.inj same]
  exact sound.builderMatcher_live live operator

theorem performs_leads {name : Name} {reference : Reference} {object : Object}
    {refusal : Option Refusal} {result : Heap Name × Option Refusal} (sound : heap.Sound)
    (leads : heap.Leads result.1 changed) (named : heap.names name = some reference)
    (only : ∀ {other found}, heap.names other = some found → changed found → found = reference)
    (now : result.1.object reference = object) (refused : result.2 = refusal) :
    heap.Performs changed target (heap.view.place name object, refusal) result where
  sound := leads.sound
  keeps := leads.toKeeps
  names other _ := congrFun leads.names other
  one_name one_name := by
    rw [OneName, leads.names]
    exact one_name
  view one_name := now ▸ view_leads sound one_name leads named only
  refusal := refused

/-! ## Actions -/

/-- The objects that an action may change: the matcher that it adds to, or the builder that it works
on and the matchers of this builder. -/
def Subject (heap : Heap Name) : Action Name → Reference → Prop
  | .addToMatcher name _, reference => ∃ matcher,
    heap.names name = some (.matcher matcher) ∧ reference = .matcher matcher
  | .operate name _, reference => ∃ builder,
    heap.names name = some (.builder builder) ∧ heap.Owns builder reference
  | _, _ => False

theorem performs_addToMatcher {name : Name} {matcher : MatcherAddress} {label : Option String}
    {result : Matcher} (sound : heap.Sound) (named : heap.names name = some (.matcher matcher))
    (added : (heap.memory.read matcher).add label = .ok result) :
    heap.Performs (heap.Subject (.addToMatcher name label)) target
      (heap.view.place name (.matcher result), none) (heap.addPattern matcher label) := by
  have live := sound.named_live named
  have leads : heap.Leads (heap.addPattern matcher label).1
      (heap.Subject (.addToMatcher name label)) :=
    (Leads.refl sound _).trans (leads_addPattern sound live label) fun {reference} here shows => by
      cases reference with
      | matcher address => exact ⟨matcher, named, congrArg Reference.matcher shows⟩
      | builder address =>
          obtain ⟨operator, rfl⟩ := shows
          exact absurd named (sound.builderMatcher_unnamed here operator name)
      | group address => exact shows.elim
  refine performs_leads sound leads named ?_ ?_ ?_
  · rintro other found - ⟨address, address_named, rfl⟩
    exact Option.some.inj (address_named.symm.trans named)
  · exact congrArg Object.matcher (Memory.read_add_self sound.separate live added)
  · rw [addPattern, Memory.add, added]
    rfl

theorem performs_operate {name : Name} {builder : BuilderAddress} {operation : Operation}
    (files : Files) (sound : heap.Sound) (named : heap.names name = some (.builder builder)) :
    let loaded := operation.apply files (heap.builder builder)
    heap.Performs (heap.Subject (.operate name operation)) target
      (heap.view.place name (.builder loaded.builder), loaded.error.map .unreadable)
      (heap.operate files builder operation) := by
  have live := sound.named_live named
  have works := operate_works files sound live operation
  have leads : heap.Leads (heap.operate files builder operation).1
      (heap.Subject (.operate name operation)) :=
    (Leads.refl sound _).trans works.leads fun _ owns => ⟨builder, named, owns⟩
  refine performs_leads sound leads named ?_ (congrArg Object.builder works.builder) works.refusal
  rintro other found other_named ⟨address, address_named, owns⟩
  obtain rfl := Reference.builder.inj (Option.some.inj (address_named.symm.trans named))
  cases found with
  | matcher found =>
      obtain ⟨operator, rfl⟩ := owns
      exact absurd other_named (sound.builderMatcher_unnamed live operator other)
  | builder found => exact congrArg Reference.builder owns
  | group found => exact owns.elim

/-- An action does to a sound heap what it does to the workbench of its names, unless an object has
two of them. -/
theorem performs_act (files : Files) (sound : heap.Sound) (action : Action Name) :
    heap.Performs (heap.Subject action) action.target? (heap.view.act files action)
      (heap.act files action) := by
  cases action with
  | newMatcher target labels =>
      exact performs_made sound (Memory.make_yields sound.separate (.ofList labels)) rfl
  | addToMatcher name label =>
      rw [act, Workbench.act, matcher?_view]
      cases found : heap.matcher? name with
      | none => exact performs_nothing sound _
      | some matcher =>
          cases added : (heap.memory.read matcher).add label with
          | error error =>
              simp only [Option.map_some, added, addPattern_of_error added]
              exact performs_nothing sound _
          | ok result =>
              simp only [Option.map_some, added]
              exact performs_addToMatcher sound (matcher?_eq_some_iff.mp found) added
  | freeze name target =>
      rw [act, Workbench.act, matcher?_view]
      cases found : heap.matcher? name with
      | none => exact performs_nothing sound _
      | some matcher =>
          have live := sound.named_live (matcher?_eq_some_iff.mp found)
          exact performs_made sound (Memory.freeze_yields sound.separate live) Memory.freeze_fresh
  | newBuilder target filter =>
      obtain ⟨opens, accepted⟩ := addLabels_makeBuilder_opens sound filter
      rw [act, Workbench.act, andThen_of_none accepted]
      exact performs_bind sound opens.leads opens.dead opens.isPublic
        (congrArg Object.builder opens.builder)
  | operate name operation =>
      rw [act, Workbench.act, builder?_view]
      cases found : heap.builder? name with
      | none => exact performs_nothing sound _
      | some builder => exact performs_operate files sound (builder?_eq_some_iff.mp found)
  | build name target =>
      rw [act, Workbench.act, builder?_view]
      cases found : heap.builder? name with
      | none => exact performs_nothing sound _
      | some builder =>
          have created := build_creates sound (sound.named_live (builder?_eq_some_iff.mp found))
          exact performs_bind sound created.leads created.dead created.isPublic
            (congrArg Object.group created.group)
  | groupOfFilter target filter =>
      obtain ⟨opens, accepted⟩ := addLabels_makeBuilder_opens sound filter
      rw [act, Workbench.act, andThen_of_none accepted]
      have created := (build_creates opens.leads.sound opens.live).after opens.leads
      rw [opens.builder] at created
      exact performs_bind sound created.leads created.dead created.isPublic
        (congrArg Object.group created.group)
  | groupOfMatchers target names endNodesOnly =>
      rw [act, Workbench.act, matchers?_view]
      cases found : heap.matchers? names with
      | none => exact performs_nothing sound _
      | some matchers =>
          have created := makeGroup_creates sound (live_of_matchers? sound found) endNodesOnly
          exact performs_bind sound created.leads created.dead created.isPublic
            (congrArg Object.group created.group)
  | addToGroup name operator label =>
      rw [act, Workbench.act, group?_view]
      cases found : heap.group? name with
      | none => exact performs_nothing sound _
      | some group =>
          have live : heap.groups.Live group := sound.named_live (group?_eq_some_iff.mp found)
          cases added : (heap.memory.read (heap.groupMatcher group operator)).add label with
          | error error =>
              simp only [Option.map_some, matcher_group sound live, added,
                addPattern_of_error added]
              exact performs_nothing sound _
          | ok result =>
              have frozen := sound.groupMatcher_frozen live operator
              simp only [Option.map_some, matcher_group sound live, added,
                addPattern_of_frozen frozen added]
              exact performs_nothing sound _
  | changeField name change field =>
      rw [act, Workbench.act, group?_view]
      cases heap.group? name <;> exact performs_nothing sound _
  | evaluate name labels belowMinLevel =>
      rw [act, Workbench.act, group?_view]
      cases heap.group? name <;> exact performs_nothing sound _

/-- The names show what they would show if objects were values. -/
theorem view_actAll (files : Files) (actions : List (Action Name)) :
    (({} : Heap Name).actAll files actions).view =
      Workbench.actAll files (fun _ => none) actions := by
  have run {heap : Heap Name} (sound : heap.Sound) (one_name : heap.OneName) :
      (heap.actAll files actions).view = heap.view.actAll files actions := by
    induction actions generalizing heap with
    | nil => rfl
    | cons action rest induction =>
        have first := performs_act files sound action
        have later := induction first.sound (first.one_name one_name)
        rwa [first.view one_name] at later
  exact run sound_empty fun _ _ _ named => nomatch named

end Heap

end WalkFilter
