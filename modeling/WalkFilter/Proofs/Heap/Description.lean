import WalkFilter.Proofs.Heap.Isolation
import WalkFilter.Proofs.Report.Description

/-!
# Groups are determined by their descriptions

Groups are compared through the matchers that they refer to, and they serve as keys through the keys
of these matchers. As the matchers of a group are frozen, every group is a key. Two groups are equal
exactly if they are described alike, and a group that is made from the description of another is
equal to it.
-/

namespace WalkFilter

namespace Heap

variable {Name : Type} {heap : Heap Name} {left right group : GroupAddress}

/-! ## Comparing objects -/

/-- Groups are equal objects exactly if they are the same as values. -/
theorem equalGroups_iff : heap.equalGroups left right = true ↔ heap.group left = heap.group right := by
  have agree (operator : Operator) :
      (heap.memory.read (heap.groupMatcher left operator)).agrees
          (heap.memory.read (heap.groupMatcher right operator)) = true ↔
        (heap.group left).patterns.get operator = (heap.group right).patterns.get operator := by
    rw [Matcher.agrees, decide_eq_true_iff, patterns_group, patterns_group]
  simp only [equalGroups, Bool.and_eq_true, agree, beq_iff_eq, and_assoc]
  constructor
  · rintro ⟨deny, allow, endNode, terminator, limit⟩
    refine Group.eq_of_get (fun operator => ?_) limit
    cases operator with
    | deny => exact deny
    | allow => exact allow
    | endNode => exact endNode
    | terminator => exact terminator
  · intro same
    rw [same]
    exact ⟨rfl, rfl, rfl, rfl, congrArg Group.endNodesOnly same⟩

/-- Every group is a key, since its matchers are frozen. -/
theorem groupKey_eq_ok (sound : heap.Sound) (live : heap.groups.Live group) :
    heap.groupKey group = .ok (heap.group group) := by
  have key (operator : Operator) :
      (heap.memory.read (heap.groupMatcher group operator)).key =
        .ok ((heap.group group).patterns.get operator) := by
    rw [Matcher.key_of_frozen (sound.groupMatcher_frozen live operator), patterns_group]
  simp only [groupKey, key]
  rfl

/-! ## Groups made from descriptions -/

/-- Makes a group of open matchers with the patterns that a description lists. -/
def makeDescribed (heap : Heap Name) (description : Report.Description) :
    Heap Name × GroupAddress :=
  let made := heap.memory.forEach Memory.make description.matchers
  makeGroup { heap with memory := made.1 } (made.2.map some) description.endNodesOnly

theorem makeDescribed_creates (sound : heap.Sound) (description : Report.Description) :
    heap.Creates (.ofMatchers description.matchers description.endNodesOnly)
      (heap.makeDescribed description) := by
  have made := Memory.forEach_yields Memory.make description.matchers _ sound.separate
    fun separate _ operator => Memory.make_yields separate (description.matchers.get operator)
  have grown := leads_grown sound made.separate made.grown
  have created := makeGroup_creates grown.sound
    (fun operator address given => by
      rw [ByOperator.get_map] at given
      obtain rfl := Option.some.inj given
      exact made.live operator) description.endNodesOnly
  have after := created.after grown
  refine ⟨after.leads, after.dead, after.live, after.group.trans ?_⟩
  refine Group.eq_of_get (fun operator => ?_) rfl
  rw [Group.patterns_ofMatchers, Group.patterns_ofMatchers, ByOperator.get_map, ByOperator.get_map,
    Option.elim_some, made.read operator]

/-! ## Groups however obtained -/

/-- How two groups compare: they are told apart by their descriptions and by nothing else. -/
structure Compared (heap : Heap Name) (left right : GroupAddress) : Prop where
  /-- They are equal exactly if they are described by the same members. -/
  members : heap.equalGroups left right = true ↔
    Report.groupMembers (heap.group left) = Report.groupMembers (heap.group right)
  /-- They are described by the same members exactly if the lines on them are the same text. -/
  lines : Report.groupMembers (heap.group left) = Report.groupMembers (heap.group right) ↔
    Report.filterJson (heap.group left) = Report.filterJson (heap.group right)
  /-- Equal groups have the same key. -/
  keys : heap.equalGroups left right = true → heap.groupKey left = heap.groupKey right
  /-- Equal groups decide alike about every node. -/
  decisions : heap.equalGroups left right = true → ∀ labels belowMinLevel,
    (heap.group left).evaluate labels belowMinLevel =
      (heap.group right).evaluate labels belowMinLevel

/-- A group is a key, and the line on it tells how to make an equal group. -/
structure Reproducible (heap : Heap Name) (group : GroupAddress) : Prop where
  /-- The group is a key. -/
  key : ∃ key, heap.groupKey group = .ok key
  /-- The line on it is read as a description, and the group that is made from it is equal. -/
  remade : ∃ description,
    Report.Description.ofLine? (Report.filterJson (heap.group group)) = some description ∧
      let made := heap.makeDescribed description
      made.1.groups.Live made.2 ∧ made.1.equalGroups made.2 group = true

theorem compared (sound : heap.Sound) (left_live : heap.groups.Live left)
    (right_live : heap.groups.Live right) : heap.Compared left right where
  members := by rw [equalGroups_iff, Report.groupMembers_inj]
  lines := by rw [Report.groupMembers_inj, Report.filterJson_inj]
  keys equal := by
    rw [groupKey_eq_ok sound left_live, groupKey_eq_ok sound right_live, equalGroups_iff.mp equal]
  decisions equal labels belowMinLevel := by rw [equalGroups_iff.mp equal]

theorem reproducible (sound : heap.Sound) (live : heap.groups.Live group) :
    heap.Reproducible group where
  key := ⟨_, groupKey_eq_ok sound live⟩
  remade := by
    have created := makeDescribed_creates sound (.ofGroup (heap.group group))
    have kept : (heap.makeDescribed (.ofGroup (heap.group group))).1.object (.group group) =
        heap.object (.group group) := created.leads.object live id
    refine ⟨_, Report.ofLine?_filterJson _, created.live, equalGroups_iff.mpr ?_⟩
    rw [created.group, Object.group.inj kept, Report.ofMatchers_ofGroup]

variable [DecidableEq Name]

/-- Throughout every history of moves, however its groups were made, each of them is a key and can
be made again from the line on it, and any two of them are equal exactly if they are described by
the same members, which is to say if the lines on them are the same. -/
theorem determined_moveAll (files : Files) (moves : List (Move Name)) :
    let heap := ({} : Heap Name).moveAll files moves
    (∀ group, heap.groups.Live group → heap.Reproducible group) ∧
      ∀ left right, heap.groups.Live left → heap.groups.Live right → heap.Compared left right := by
  intro heap
  have sound : heap.Sound := (keeps_moveAll files sound_empty moves).1
  exact ⟨fun group => reproducible sound, fun left right => compared sound⟩

/-- A group of an open and a frozen matcher with odd patterns, one with the frozen matcher in both
places, made after a pattern was added to the open one, and the group of a filter. -/
theorem determined_moveAll_oddPatterns :
    let moves : List (Move String) := [
      .act (.newMatcher "open" [some "a|b", some ">\n\"", some "😀"]), .act (.freeze "open" "frozen"),
      .act (.groupOfMatchers "mixed" ⟨some "open", none, some "frozen", none⟩ false),
      .act (.addToMatcher "open" (some "later")),
      .act (.groupOfMatchers "same" ⟨some "frozen", none, some "frozen", none⟩ false),
      .act (.groupOfFilter "other" (some "-a|b"))]
    let heap := ({} : Heap String).moveAll (fun _ => .missing) moves
    heap.Reproducible ⟨0⟩ ∧
      Report.filterJson (heap.group ⟨0⟩) = Report.filterJson (heap.group ⟨1⟩) ∧
      Report.filterJson (heap.group ⟨0⟩) ≠ Report.filterJson (heap.group ⟨2⟩) := by
  intro moves heap
  obtain ⟨reproducible, compared⟩ := determined_moveAll (fun _ => .missing) moves
  have live_mixed : heap.groups.Live ⟨0⟩ := by decide +kernel
  have live_same : heap.groups.Live ⟨1⟩ := by decide +kernel
  have live_other : heap.groups.Live ⟨2⟩ := by decide +kernel
  have same : heap.Compared ⟨0⟩ ⟨1⟩ := compared _ _ live_mixed live_same
  have other : heap.Compared ⟨0⟩ ⟨2⟩ := compared _ _ live_mixed live_other
  have equal : heap.equalGroups ⟨0⟩ ⟨1⟩ = true := by decide +kernel
  have unequal : ¬heap.equalGroups ⟨0⟩ ⟨2⟩ = true := by decide +kernel
  exact ⟨reproducible _ live_mixed, same.lines.mp (same.members.mp equal),
    fun lines => unequal (other.members.mpr (other.lines.mpr lines))⟩

end Heap

end WalkFilter
