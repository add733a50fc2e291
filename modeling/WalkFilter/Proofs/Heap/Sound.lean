import WalkFilter.Heap
import WalkFilter.Proofs.Filter.RawTokens
import WalkFilter.Proofs.Heap.Memory

/-!
# Sound heaps

The matchers of a builder are open and known to that builder only; the matchers of a group are
frozen and may be known to anyone. This file states it as an invariant, and describes a step by the
objects that it may change.
-/

namespace WalkFilter

namespace Heap

variable {Name : Type}

/-- There is an object at the end of the reference. -/
def Live (heap : Heap Name) : Reference → Prop
  | .matcher address => heap.memory.matchers.Live address
  | .builder address => heap.builders.Live address
  | .group address => heap.groups.Live address

/-- No two owners get in each other's way. -/
structure Sound (heap : Heap Name) : Prop where
  /-- An open matcher has a set of its own. -/
  separate : heap.memory.Separate
  /-- A name stands for an object. -/
  named_live : ∀ {name reference}, heap.names name = some reference → heap.Live reference
  /-- The matchers of a builder exist. -/
  builderMatcher_live : ∀ {builder}, heap.builders.Live builder → ∀ operator,
    heap.memory.matchers.Live (heap.builderMatcher builder operator)
  /-- The matchers of a builder are open. -/
  builderMatcher_open : ∀ {builder}, heap.builders.Live builder → ∀ operator,
    (heap.memory.read (heap.builderMatcher builder operator)).frozen = false
  /-- A matcher belongs to one builder and operator at most. -/
  builderMatcher_inj : ∀ {builder other operator choice}, heap.builders.Live builder →
    heap.builders.Live other →
    heap.builderMatcher other choice = heap.builderMatcher builder operator →
    other = builder ∧ choice = operator
  /-- The matchers of a builder have no names. -/
  builderMatcher_unnamed : ∀ {builder}, heap.builders.Live builder → ∀ operator name,
    heap.names name ≠ some (.matcher (heap.builderMatcher builder operator))
  /-- The matchers of a group exist. -/
  groupMatcher_live : ∀ {group}, heap.groups.Live group → ∀ operator,
    heap.memory.matchers.Live (heap.groupMatcher group operator)
  /-- The matchers of a group are frozen. -/
  groupMatcher_frozen : ∀ {group}, heap.groups.Live group → ∀ operator,
    (heap.memory.read (heap.groupMatcher group operator)).frozen = true

theorem sound_empty : ({} : Heap Name).Sound where
  separate := Memory.separate_empty
  named_live named := nomatch named
  builderMatcher_live live := absurd live (Nat.not_lt_zero _)
  builderMatcher_open live := absurd live (Nat.not_lt_zero _)
  builderMatcher_inj live := absurd live (Nat.not_lt_zero _)
  builderMatcher_unnamed live := absurd live (Nat.not_lt_zero _)
  groupMatcher_live live := absurd live (Nat.not_lt_zero _)
  groupMatcher_frozen live := absurd live (Nat.not_lt_zero _)

/-- Every object is still there, and as it was unless it is one of those that may change. -/
structure Keeps (old new : Heap Name) (changed : Reference → Prop) : Prop where
  /-- The object is still there. -/
  live : ∀ reference, old.Live reference → new.Live reference
  /-- It is as it was. -/
  object : ∀ {reference}, old.Live reference → ¬changed reference →
    new.object reference = old.object reference
  /-- A builder keeps its matchers. -/
  builderMatcher : ∀ {builder}, old.builders.Live builder → ∀ operator,
    new.builderMatcher builder operator = old.builderMatcher builder operator
  /-- A group keeps its matchers. -/
  groupMatcher : ∀ {group}, old.groups.Live group → ∀ operator,
    new.groupMatcher group operator = old.groupMatcher group operator

/-- A step that keeps the heap sound and the names as they are. -/
structure Leads (old new : Heap Name) (changed : Reference → Prop) : Prop
    extends Keeps old new changed where
  /-- Owners still do not get in each other's way. -/
  sound : new.Sound
  /-- The names stand for the same objects. -/
  names : new.names = old.names

/-- No object changes. -/
def Nothing : Reference → Prop := fun _ => False

/-- The objects in which a pattern shows that is added to a matcher: the matcher, and a builder that
it belongs to. -/
def Shows (heap : Heap Name) (matcher : MatcherAddress) : Reference → Prop
  | .matcher address => address = matcher
  | .builder address => ∃ operator, heap.builderMatcher address operator = matcher
  | .group _ => False

/-- The objects that work on a builder may change: the builder and its matchers. -/
def Owns (heap : Heap Name) (builder : BuilderAddress) : Reference → Prop
  | .matcher address => ∃ operator, heap.builderMatcher builder operator = address
  | .builder address => address = builder
  | .group _ => False

variable {heap old middle new : Heap Name} {changed more : Reference → Prop}

/-! ## Values -/

theorem patterns_builder (builder : BuilderAddress) (operator : Operator) :
    (heap.builder builder).patterns.get operator =
      (heap.memory.read (heap.builderMatcher builder operator)).patterns :=
  ByOperator.get_map ..

theorem patterns_group (group : GroupAddress) (operator : Operator) :
    (heap.group group).patterns.get operator =
      (heap.memory.read (heap.groupMatcher group operator)).patterns := by
  rw [Heap.group, Group.patterns_ofMatchers, ByOperator.get_map, groupMatcher]

theorem builder_eq {builder : BuilderAddress} {value : Builder}
    (patterns : ∀ operator, (heap.memory.read (heap.builderMatcher builder operator)).patterns =
      value.patterns.get operator)
    (limit : (heap.builders.get builder).endNodesOnly = value.endNodesOnly) :
    heap.builder builder = value := by
  refine Builder.eq_of_get (fun operator => ?_) limit
  rw [patterns_builder, patterns]

theorem group_eq {group : GroupAddress} {value : Group}
    (patterns : ∀ operator, (heap.memory.read (heap.groupMatcher group operator)).patterns =
      value.patterns.get operator)
    (limit : (heap.groups.get group).endNodesOnly = value.endNodesOnly) :
    heap.group group = value := by
  refine Group.eq_of_get (fun operator => ?_) limit
  rw [patterns_group, patterns]

/-! ## Courses of steps -/

theorem Keeps.refl (heap : Heap Name) (changed : Reference → Prop) : heap.Keeps heap changed where
  live _ live := live
  object _ _ := rfl
  builderMatcher _ _ := rfl
  groupMatcher _ _ := rfl

theorem Keeps.trans (first : old.Keeps middle changed) (second : middle.Keeps new more)
    (covered : ∀ {reference}, old.Live reference → more reference → changed reference) :
    old.Keeps new changed where
  live reference live := second.live reference (first.live reference live)
  object live unchanged :=
    (second.object (first.live _ live) fun more => unchanged (covered live more)).trans
      (first.object live unchanged)
  builderMatcher live operator :=
    (second.builderMatcher (first.live (.builder _) live) operator).trans
      (first.builderMatcher live operator)
  groupMatcher live operator :=
    (second.groupMatcher (first.live (.group _) live) operator).trans
      (first.groupMatcher live operator)

theorem Leads.refl (sound : heap.Sound) (changed : Reference → Prop) :
    heap.Leads heap changed :=
  ⟨.refl heap changed, sound, rfl⟩

theorem Leads.trans (first : old.Leads middle changed) (second : middle.Leads new more)
    (covered : ∀ {reference}, old.Live reference → more reference → changed reference) :
    old.Leads new changed :=
  ⟨first.toKeeps.trans second.toKeeps covered, second.sound, second.names.trans first.names⟩

/-! ## Steps of the memory -/

theorem leads_memory {memory : Memory} (sound : heap.Sound) (separate : memory.Separate)
    (live : ∀ {address}, heap.memory.matchers.Live address → memory.matchers.Live address)
    (frozen : ∀ {address}, heap.memory.matchers.Live address →
      (memory.read address).frozen = (heap.memory.read address).frozen)
    (read : ∀ {address}, heap.memory.matchers.Live address → ¬changed (.matcher address) →
      memory.read address = heap.memory.read address)
    (owner : ∀ {builder operator}, heap.builders.Live builder →
      changed (.matcher (heap.builderMatcher builder operator)) → changed (.builder builder))
    (part : ∀ {group operator}, heap.groups.Live group →
      ¬changed (.matcher (heap.groupMatcher group operator))) :
    heap.Leads { heap with memory } changed := by
  refine ⟨⟨?_, ?_, fun _ _ => rfl, fun _ _ => rfl⟩, ?_, rfl⟩
  · intro reference here
    cases reference with
    | matcher address => exact live here
    | builder address | group address => exact here
  · intro reference here unchanged
    cases reference with
    | matcher address => exact congrArg Object.matcher (read here unchanged)
    | builder address =>
        refine congrArg Object.builder (builder_eq (fun operator => ?_) rfl)
        have kept := read (sound.builderMatcher_live here operator)
          fun touched => unchanged (owner here touched)
        exact (congrArg Matcher.patterns kept).trans (patterns_builder address operator).symm
    | group address =>
        refine congrArg Object.group (group_eq (fun operator => ?_) rfl)
        have kept := read (sound.groupMatcher_live here operator) (part here)
        exact (congrArg Matcher.patterns kept).trans (patterns_group address operator).symm
  · refine
      { sound with
        separate
        named_live := ?_
        builderMatcher_live := ?_
        builderMatcher_open := ?_
        groupMatcher_live := ?_
        groupMatcher_frozen := ?_ }
    · intro name reference named
      have before := sound.named_live named
      cases reference with
      | matcher address => exact live before
      | builder address | group address => exact before
    · intro builder here operator
      exact live (sound.builderMatcher_live here operator)
    · intro builder here operator
      exact (frozen (sound.builderMatcher_live here operator)).trans
        (sound.builderMatcher_open here operator)
    · intro group here operator
      exact live (sound.groupMatcher_live here operator)
    · intro group here operator
      exact (frozen (sound.groupMatcher_live here operator)).trans
        (sound.groupMatcher_frozen here operator)

/-- Making matchers changes no object. -/
theorem leads_grown {memory : Memory} (sound : heap.Sound) (separate : memory.Separate)
    (grown : heap.memory.Extends memory) : heap.Leads { heap with memory } Nothing :=
  leads_memory sound separate grown.live (fun live => congrArg Matcher.frozen (grown.read live))
    (fun live _ => grown.read live) (fun _ => id) (fun _ => id)

/-- Adding a pattern changes an open matcher and a builder that it belongs to. -/
theorem leads_addPattern {matcher : MatcherAddress} (sound : heap.Sound)
    (live : heap.memory.matchers.Live matcher) (label : Option String) :
    heap.Leads (heap.addPattern matcher label).1 (heap.Shows matcher) := by
  cases frozen : (heap.memory.read matcher).frozen with
  | true =>
      rw [addPattern, Memory.add_of_frozen frozen]
      exact .refl sound _
  | false =>
      refine leads_memory sound (Memory.separate_add sound.separate) Memory.live_add.mpr
        (fun _ => Memory.frozen_add) (fun other_live ne => ?_) (fun _ shows => ?_)
        fun {_ operator} group_live shows => ?_
      · exact Memory.read_add_of_ne sound.separate live other_live ne
      · exact ⟨_, shows⟩
      · have part_frozen := sound.groupMatcher_frozen group_live operator
        rw [shows, frozen] at part_frozen
        cases part_frozen

end Heap

end WalkFilter
