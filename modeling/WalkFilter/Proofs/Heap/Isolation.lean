import WalkFilter.Proofs.Heap.View

/-!
# Groups stay as they are

Whatever happens to matchers, builders and other groups, a group keeps the patterns and the limit it
was made with. It cannot be changed through itself either, nor through a frozen matcher that it took
over from its caller.
-/

namespace WalkFilter

namespace Heap

variable {Name : Type} {heap : Heap Name} {files : Files}

/-- Objects other than groups. -/
def Mutable : Reference → Prop
  | .matcher _ | .builder _ => True
  | .group _ => False

/-- The objects that a move may change. -/
def Concerns (heap : Heap Name) : Move Name → Reference → Prop
  | .act action, reference => heap.Subject action reference
  | .share _ _, _ | .take _ _ _, _ => False

/-- No move changes a group. -/
theorem mutable_of_concerns {move : Move Name} {reference : Reference}
    (concerns : heap.Concerns move reference) : Mutable reference := by
  cases reference with
  | matcher address | builder address => trivial
  | group address =>
      cases move with
      | share name target | take name operator target => exact concerns
      | act action =>
          cases action with
          | addToMatcher name label =>
              obtain ⟨matcher, -, same⟩ := concerns
              cases same
          | operate name operation =>
              obtain ⟨builder, -, owns⟩ := concerns
              exact owns
          | newMatcher | freeze | newBuilder | build | groupOfFilter | groupOfMatchers
          | addToGroup | changeField | evaluate => exact concerns

theorem addPattern_refused {matcher : MatcherAddress} {label : String}
    (frozen : (heap.memory.read matcher).frozen = true) (nonempty : label ≠ "") :
    heap.addPattern matcher (some label) = (heap, some (.matcher (.frozen label))) :=
  addPattern_of_error (Matcher.add_of_frozen frozen nonempty)

/-- A frozen matcher may have any name: it is no matcher of a builder. -/
theorem isPublic_of_frozen {matcher : MatcherAddress} (sound : heap.Sound)
    (live : heap.memory.matchers.Live matcher)
    (frozen : (heap.memory.read matcher).frozen = true) : heap.Public (.matcher matcher) where
  live := live
  unowned builder_live operator same := by
    have is_open := sound.builderMatcher_open builder_live operator
    rw [← Reference.matcher.inj same, frozen] at is_open
    cases is_open

variable [DecidableEq Name]

/-- A move changes no objects but those that it concerns. -/
theorem frames_move (files : Files) (sound : heap.Sound) (move : Move Name) :
    heap.Frames (heap.Concerns move) move.target? (heap.move files move).1 := by
  cases move with
  | act action => exact (performs_act files sound action).toFrames
  | share name target =>
      rw [Heap.move]
      cases named : heap.names name with
      | none => exact frames_nothing sound
      | some reference =>
          refine frames_bind (.refl sound _) ⟨sound.named_live named, ?_⟩
          intro builder live operator same
          exact sound.builderMatcher_unnamed live operator name (same ▸ named)
  | take name operator target =>
      rw [Heap.move]
      cases found : heap.group? name with
      | none => exact frames_nothing sound
      | some group =>
          have live : heap.groups.Live group := sound.named_live (group?_eq_some_iff.mp found)
          exact frames_bind (.refl sound _) (isPublic_of_frozen sound
            (sound.groupMatcher_live live operator) (sound.groupMatcher_frozen live operator))

/-- Attempts to change a group fail, and a move changes nothing but what it concerns. -/
structure Isolates (files : Files) (heap : Heap Name) : Prop where
  /-- The matchers of a group are frozen. -/
  frozen : ∀ group, heap.groups.Live group → ∀ operator,
    (heap.memory.read (heap.groupMatcher group operator)).frozen = true
  /-- No pattern can be added to a matcher of a group. -/
  refuses_pattern : ∀ name group, heap.names name = some (.group group) →
    ∀ operator label, label ≠ "" → heap.act files (.addToGroup name operator (some label)) =
      (heap, some (.matcher (.frozen label)))
  /-- Nor can it be added under a name that the matcher has. -/
  refuses_shared : ∀ name group operator, heap.groups.Live group →
    heap.names name = some (.matcher (heap.groupMatcher group operator)) →
    ∀ label, label ≠ "" → heap.act files (.addToMatcher name (some label)) =
      (heap, some (.matcher (.frozen label)))
  /-- No field of a group can be assigned or deleted. -/
  refuses_change : ∀ name group, heap.names name = some (.group group) → ∀ change field,
    heap.act files (.changeField name change field) = (heap, some (.fixedField change field))
  /-- A move changes no object but those that it concerns. -/
  others : ∀ move reference, heap.Live reference → ¬heap.Concerns move reference →
    (heap.move files move).1.object reference = heap.object reference
  /-- A move gives a new meaning to one name at most. -/
  other_names : ∀ move name, move.target? ≠ some name →
    (heap.move files move).1.names name = heap.names name

theorem isolates_of_sound (files : Files) (sound : heap.Sound) : heap.Isolates files where
  frozen _ live := sound.groupMatcher_frozen live
  refuses_pattern _ group named operator _ nonempty := by
    have live : heap.groups.Live group := sound.named_live named
    rw [act, group?_eq_some_iff.mpr named]
    exact addPattern_refused (sound.groupMatcher_frozen live operator) nonempty
  refuses_shared _ _ operator live named _ nonempty := by
    rw [act, matcher?_eq_some_iff.mpr named]
    exact addPattern_refused (sound.groupMatcher_frozen live operator) nonempty
  refuses_change _ _ named change field := by
    rw [act, group?_eq_some_iff.mpr named]
  others move _ live other := (frames_move files sound move).keeps.object live other
  other_names move name other := (frames_move files sound move).names name other

/-- A history of moves keeps the heap sound and changes no group. -/
theorem keeps_moveAll (files : Files) (sound : heap.Sound) (moves : List (Move Name)) :
    (heap.moveAll files moves).Sound ∧ heap.Keeps (heap.moveAll files moves) Mutable := by
  induction moves generalizing heap with
  | nil => exact ⟨sound, .refl heap Mutable⟩
  | cons move rest induction =>
      have first := frames_move files sound move
      obtain ⟨rest_sound, rest_keeps⟩ := induction first.sound
      have kept := (Keeps.refl heap Mutable).trans first.keeps fun _ => mutable_of_concerns
      exact ⟨rest_sound, kept.trans rest_keeps fun _ => id⟩

theorem moveAll_act (files : Files) (heap : Heap Name) (actions : List (Action Name)) :
    heap.moveAll files (actions.map .act) = heap.actAll files actions :=
  List.foldl_map

/-- Groups are isolated throughout every history of moves. A group that is there at some time, as it
is when it has just been made, is still there later, with the same matchers, the same patterns and
the same limit. If all moves are actions, the names show what they would show if objects were
values. -/
theorem isolates_moveAll (files : Files) (before after : List (Move Name)) :
    let heap := ({} : Heap Name).moveAll files before
    let later := heap.moveAll files after
    later.Isolates files ∧
      (∀ group, heap.groups.Live group → later.groups.Live group ∧
        later.group group = heap.group group ∧
        ∀ operator, later.groupMatcher group operator = heap.groupMatcher group operator) ∧
      ∀ actions, before = actions.map .act →
        heap.view = Workbench.actAll files (fun _ => none) actions := by
  intro heap later
  have sound : heap.Sound := (keeps_moveAll files sound_empty before).1
  obtain ⟨later_sound, keeps⟩ := keeps_moveAll files sound after
  refine ⟨isolates_of_sound files later_sound, ?_, ?_⟩
  · intro group live
    have kept : later.object (.group group) = heap.object (.group group) := keeps.object live id
    exact ⟨keeps.live (.group group) live, Object.group.inj kept, keeps.groupMatcher live⟩
  · intro actions only_acts
    have heap_eq : heap = ({} : Heap Name).actAll files actions := by
      rw [← moveAll_act, ← only_acts]
    rw [heap_eq, view_actAll]

/-- Patterns are added to an open matcher behind a group, under two names of it, to a frozen matcher
taken from a group, and to a builder whose group gives its name to the next one. -/
theorem isolates_moveAll_takenMatcher :
    let files : Files := fun _ => .missing
    let before : List (Move String) := [.act (.newMatcher "open" [some "a"]),
      .act (.freeze "open" "frozen"),
      .act (.groupOfMatchers "mixed" ⟨some "open", some "frozen", none, some "frozen"⟩ true),
      .act (.newBuilder "builder" (some ">a")), .act (.build "builder" "built"),
      .take "built" .endNode "taken"]
    let after : List (Move String) := [.share "open" "other",
      .act (.addToMatcher "open" (some "b")), .act (.addToMatcher "other" (some "c")),
      .act (.addToMatcher "taken" (some "b")),
      .act (.operate "builder" (.addLabels (some "-b|>b"))), .act (.build "builder" "built")]
    let heap := ({} : Heap String).moveAll files before
    let later := heap.moveAll files after
    later.group ⟨0⟩ = heap.group ⟨0⟩ ∧ later.group ⟨1⟩ = heap.group ⟨1⟩ ∧
      later.names "built" = some (.group ⟨2⟩) ∧
      later.act files (.addToMatcher "taken" (some "b")) =
        (later, some (.matcher (.frozen "b"))) := by
  intro files before after heap later
  have isolated := isolates_moveAll files before after
  have isolates : later.Isolates files := isolated.1
  have live_mixed : heap.groups.Live ⟨0⟩ := by decide +kernel
  have live_built : heap.groups.Live ⟨1⟩ := by decide +kernel
  have taken : later.names "taken" = some (.matcher (later.groupMatcher ⟨1⟩ .endNode)) := by
    decide +kernel
  have refused := isolates.refuses_shared "taken" ⟨1⟩ .endNode (isolated.2.1 _ live_built).1 taken
    "b" (by decide)
  exact ⟨(isolated.2.1 _ live_mixed).2.1, (isolated.2.1 _ live_built).2.1, by decide +kernel,
    refused⟩

end Heap

end WalkFilter
