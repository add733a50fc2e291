import WalkFilter.Heap.Memory

/-!
# Matchers keep to themselves

Frozen matchers may share a set of patterns, but an open matcher never shares its own. So what is
added to one matcher is seen in that matcher only, and neither making nor freezing matchers is seen
in those that exist already.
-/

namespace WalkFilter

namespace Matcher

variable {matcher changed : Matcher} {label : Option String}

theorem frozen_of_add (added : matcher.add label = .ok changed) :
    changed.frozen = matcher.frozen := by
  simp only [add] at added
  split at added
  · cases added
    rfl
  · split at added
    · cases added
    · cases added
      rfl

theorem eq_of_add_of_frozen (added : matcher.add label = .ok changed)
    (frozen : matcher.frozen = true) : changed = matcher := by
  simp only [add, frozen, if_true] at added
  split at added
  · cases added
    rfl
  · cases added

theorem add_of_frozen {label : String} (frozen : matcher.frozen = true) (nonempty : label ≠ "") :
    matcher.add (some label) = .error (.frozen label) := by
  simp [add, frozen, nonempty]

theorem add_of_open (is_open : matcher.frozen = false) (label : String) :
    matcher.add (some label) = .ok { matcher with patterns := matcher.patterns.add label } := by
  by_cases empty : label = ""
  · simp [add, Patterns.add, empty]
  · simp [add, is_open, empty]

/-- A pattern is refused exactly if the matcher is frozen and the pattern is not empty. -/
theorem add_eq_error_iff {error : MatcherError} :
    matcher.add label = .error error ↔
      matcher.frozen = true ∧ ∃ text, text ≠ "" ∧ label = some text ∧ error = .frozen text := by
  constructor
  · intro refused
    simp only [add] at refused
    split at refused
    · cases refused
    · rename_i nonempty
      split at refused
      · rename_i frozen
        cases refused
        cases label with
        | none => exact absurd rfl nonempty
        | some text => exact ⟨frozen, text, nonempty, rfl, rfl⟩
      · cases refused
  · rintro ⟨frozen, text, nonempty, rfl, rfl⟩
    exact add_of_frozen frozen nonempty

theorem key_of_frozen (frozen : matcher.frozen = true) : matcher.key = .ok matcher.patterns :=
  if_pos frozen

theorem freeze_of_frozen (frozen : matcher.frozen = true) : matcher.freeze = matcher := by
  cases matcher
  cases frozen
  rfl

end Matcher

namespace Memory

/-- Every matcher refers to a set, and no other refers to that of an open one. -/
structure Separate (memory : Memory) : Prop where
  /-- There is a set for every matcher. -/
  bounded : ∀ {address}, memory.matchers.Live address →
    memory.patterns.Live (memory.matchers.get address).patterns
  /-- The set of an open matcher is its own. -/
  owned : ∀ {address other}, memory.matchers.Live address → memory.matchers.Live other →
    (memory.read address).frozen = false →
    (memory.matchers.get other).patterns = (memory.matchers.get address).patterns → other = address

/-- Every matcher of the first memory is in the second one as it was. -/
structure Extends (old new : Memory) : Prop where
  /-- The matcher is still there. -/
  live : ∀ {address}, old.matchers.Live address → new.matchers.Live address
  /-- It has the same patterns and is frozen if it was. -/
  read : ∀ {address}, old.matchers.Live address → new.read address = old.read address

variable {memory : Memory} {address other : MatcherAddress}

theorem separate_empty : ({} : Memory).Separate where
  bounded live := absurd live (Nat.not_lt_zero _)
  owned live := absurd live (Nat.not_lt_zero _)

theorem Extends.refl (memory : Memory) : memory.Extends memory := ⟨id, fun _ => rfl⟩

theorem Extends.trans {old middle new : Memory} (first : old.Extends middle)
    (second : middle.Extends new) : old.Extends new where
  live live := second.live (first.live live)
  read live := (second.read (first.live live)).trans (first.read live)

/-! ## Making matchers -/

/-- A step that makes or finds a matcher with the given patterns and leaves the others alone. -/
structure Yields (memory : Memory) (matcher : Matcher) (result : Memory × MatcherAddress) :
    Prop where
  /-- Open matchers still have their own sets. -/
  separate : result.1.Separate
  /-- The matchers before are as they were. -/
  grown : memory.Extends result.1
  /-- There is a matcher. -/
  live : result.1.matchers.Live result.2
  /-- It is as given. -/
  read : result.1.read result.2 = matcher

/-- One more matcher, with a new set or with that of a frozen matcher. -/
theorem yields_push (new : Memory) {cell : MatcherCell} (separate : memory.Separate)
    (matchers : new.matchers = memory.matchers.push cell)
    (live : ∀ {set}, memory.patterns.Live set → new.patterns.Live set)
    (get : ∀ {set}, memory.patterns.Live set → new.patterns.get set = memory.patterns.get set)
    (bounded : new.patterns.Live cell.patterns)
    (unshared : ∀ {address}, memory.matchers.Live address →
      (memory.matchers.get address).patterns = cell.patterns →
      (memory.read address).frozen = true ∧ cell.frozen = true) :
    memory.Yields ⟨new.patterns.get cell.patterns, cell.frozen⟩ (new, memory.matchers.fresh) := by
  have old_cell {address : MatcherAddress} (old : memory.matchers.Live address) :
      new.matchers.get address = memory.matchers.get address := by
    rw [matchers, Store.get_push_of_live old]
  have new_cell : new.matchers.get memory.matchers.fresh = cell := by
    rw [matchers, Store.get_push_fresh]
  have old_read {address : MatcherAddress} (old : memory.matchers.Live address) :
      new.read address = memory.read address := by
    rw [read, read, old_cell old, get (separate.bounded old)]
  have cases {address : MatcherAddress} (here : new.matchers.Live address) :
      address = memory.matchers.fresh ∨ memory.matchers.Live address := by
    rw [matchers] at here
    exact Store.live_push_cases here
  refine ⟨⟨?_, ?_⟩, ⟨?_, old_read⟩, ?_, ?_⟩
  · intro address here
    rcases cases here with rfl | old
    · rwa [new_cell]
    · rw [old_cell old]
      exact live (separate.bounded old)
  · intro address other here there is_open same
    rcases cases here with rfl | old <;> rcases cases there with rfl | other_old
    · rfl
    · rw [new_cell, old_cell other_old] at same
      rw [read, new_cell, (unshared other_old same).2] at is_open
      cases is_open
    · rw [new_cell, old_cell old] at same
      rw [old_read old, (unshared old same.symm).1] at is_open
      cases is_open
    · rw [old_cell old, old_cell other_old] at same
      rw [old_read old] at is_open
      exact separate.owned old other_old is_open same
  · intro address old
    rw [matchers]
    exact Store.live_push_of_live old
  · rw [matchers]
    exact Store.live_push_fresh
  · rw [read, new_cell]

theorem make_yields (separate : memory.Separate) (matcher : Matcher) :
    memory.Yields matcher (memory.make matcher) := by
  have made := yields_push (memory.make matcher).1 separate rfl
    Store.live_push_of_live Store.get_push_of_live Store.live_push_fresh
    fun live same => absurd same (Store.ne_fresh (separate.bounded live))
  rwa [make, Store.get_push_fresh] at made

theorem freeze_yields (separate : memory.Separate) (live : memory.matchers.Live address) :
    memory.Yields (memory.read address).freeze (memory.freeze address) := by
  rw [freeze]
  split
  · rename_i frozen
    rw [Matcher.freeze_of_frozen frozen]
    refine yields_push { memory with matchers := _ } separate rfl id (fun _ => rfl)
      (separate.bounded live) fun other same => ?_
    refine ⟨?_, frozen⟩
    rw [← Bool.not_eq_false]
    intro is_open
    obtain rfl := separate.owned other live is_open same.symm
    rw [frozen] at is_open
    cases is_open
  · exact make_yields separate _

theorem freeze_fresh : (memory.freeze address).2 = memory.matchers.fresh := by
  rw [freeze]
  split <;> rfl

theorem secure_yields {given : Option MatcherAddress} (separate : memory.Separate)
    (live : ∀ address ∈ given, memory.matchers.Live address) :
    memory.Yields (given.elim {} memory.read).freeze (memory.secure given) := by
  cases given with
  | none => exact make_yields separate _
  | some address =>
      have address_live := live address rfl
      rw [secure]
      split
      · rename_i frozen
        exact ⟨separate, .refl memory, address_live, (Matcher.freeze_of_frozen frozen).symm⟩
      · exact freeze_yields separate address_live

/-! ## One matcher for each operator -/

/-- A step that makes or finds a matcher for each operator and leaves the others alone. -/
structure YieldsAll (memory : Memory) (matchers : Operator → Matcher)
    (result : Memory × ByOperator MatcherAddress) : Prop where
  /-- Open matchers still have their own sets. -/
  separate : result.1.Separate
  /-- The matchers before are as they were. -/
  grown : memory.Extends result.1
  /-- There is a matcher for each operator. -/
  live : ∀ operator, result.1.matchers.Live (result.2.get operator)
  /-- Each is as given. -/
  read : ∀ operator, result.1.read (result.2.get operator) = matchers operator

theorem forEach_yields {α : Type} (step : Memory → α → Memory × MatcherAddress)
    (values : ByOperator α) (matchers : Operator → Matcher) (separate : memory.Separate)
    (yields : ∀ {new : Memory}, new.Separate → memory.Extends new → ∀ operator,
      new.Yields (matchers operator) (step new (values.get operator))) :
    memory.YieldsAll matchers (memory.forEach step values) := by
  have deny := yields separate (.refl memory) .deny
  have allow := yields deny.separate deny.grown .allow
  have allow_grown := deny.grown.trans allow.grown
  have endNode := yields allow.separate allow_grown .endNode
  have endNode_grown := allow_grown.trans endNode.grown
  have terminator := yields endNode.separate endNode_grown .terminator
  -- A matcher that is made early is still the same after the later steps.
  have after_endNode := terminator.grown
  have after_allow := endNode.grown.trans after_endNode
  have after_deny := allow.grown.trans after_allow
  refine ⟨terminator.separate, endNode_grown.trans terminator.grown, ?_, ?_⟩
  · intro operator
    cases operator with
    | deny => exact after_deny.live deny.live
    | allow => exact after_allow.live allow.live
    | endNode => exact after_endNode.live endNode.live
    | terminator => exact terminator.live
  · intro operator
    cases operator with
    | deny => exact (after_deny.read deny.live).trans deny.read
    | allow => exact (after_allow.read allow.live).trans allow.read
    | endNode => exact (after_endNode.read endNode.live).trans endNode.read
    | terminator => exact terminator.read

theorem not_live_forEach_make (memory : Memory) (matchers : ByOperator Matcher)
    (operator : Operator) :
    ¬memory.matchers.Live ((memory.forEach make matchers).2.get operator) := by
  cases operator <;> simp [forEach, make, ByOperator.get, Store.Live, Store.fresh, Store.push]

theorem forEach_make_inj {matchers : ByOperator Matcher} {operator choice : Operator}
    (same : (memory.forEach make matchers).2.get operator =
      (memory.forEach make matchers).2.get choice) : operator = choice := by
  cases operator <;> cases choice <;>
    simp [forEach, make, ByOperator.get, Store.fresh, Store.push] at same ⊢

/-! ## Adding patterns -/

theorem add_error {label : Option String} {error : MatcherError}
    (refused : (memory.read address).add label = .error error) :
    memory.add address label = (memory, some error) := by
  rw [add, refused]

theorem add_of_frozen {label : Option String} (frozen : (memory.read address).frozen = true) :
    (memory.add address label).1 = memory := by
  rw [add]
  split
  · rfl
  · rename_i matcher added
    obtain rfl := Matcher.eq_of_add_of_frozen added frozen
    simp only [read, Store.put_get]

variable {label : Option String} {matcher : Matcher}

theorem live_add :
    (memory.add address label).1.matchers.Live other ↔ memory.matchers.Live other := by
  rw [add]
  split <;> rfl

theorem frozen_add :
    ((memory.add address label).1.read other).frozen = (memory.read other).frozen := by
  rw [add]
  split <;> rfl

theorem separate_add (separate : memory.Separate) : (memory.add address label).1.Separate := by
  rw [add]
  split
  · exact separate
  · exact ⟨fun live => Store.live_put.mpr (separate.bounded live), separate.owned⟩

theorem read_add_self (separate : memory.Separate) (live : memory.matchers.Live address)
    (added : (memory.read address).add label = .ok matcher) :
    (memory.add address label).1.read address = matcher := by
  rw [add, added]
  simp only [read, Store.get_put_self (separate.bounded live)]
  have frozen := Matcher.frozen_of_add added
  cases matcher
  cases frozen
  rfl

/-- What is added to an open matcher is seen nowhere else. -/
theorem read_add_of_ne (separate : memory.Separate) (live : memory.matchers.Live address)
    (other_live : memory.matchers.Live other) (ne : other ≠ address) :
    (memory.add address label).1.read other = memory.read other := by
  cases frozen : (memory.read address).frozen with
  | true => rw [add_of_frozen frozen]
  | false =>
      rw [add]
      split
      · rfl
      · have unshared : (memory.matchers.get other).patterns ≠
            (memory.matchers.get address).patterns :=
          fun same => ne (separate.owned live other_live frozen same)
        simp only [read, Store.get_put_of_ne unshared]

end Memory

end WalkFilter
