import WalkFilter.Proofs.CodeText
import WalkFilter.Proofs.Heap.Isolation

/-!
# Matchers hold what they were given

However many matchers there are and whatever names they share, an open matcher holds the labels that
it was made with and those that were added to it since. A frozen one holds what its origin held when
it was frozen, whatever happens later. All that can be asked about a matcher follows from the list of
its patterns.
-/

namespace WalkFilter

namespace Matcher

/-! ## Questions to a matcher -/

/-- Whatever is asked about a matcher, the answer follows from the list of its patterns. -/
structure Consistent (matcher : Matcher) : Prop where
  /-- No pattern is empty. -/
  nonempty : "" ∉ matcher.toList
  /-- The patterns are listed in the order of their code points, each once. -/
  ascending : (matcher.toList.map codePoints).Pairwise (· < ·)
  /-- The size is the length of the list. -/
  size : matcher.size = matcher.toList.length
  /-- The matcher is empty if its size is zero. -/
  isEmpty : matcher.isEmpty = true ↔ matcher.size = 0
  /-- It contains what it lists. -/
  contains : ∀ label, matcher.contains label = true ↔ label ∈ matcher.toList
  /-- It accepts a single label if it contains it. -/
  accepts_singleton : ∀ label, matcher.accepts [label] = matcher.contains label
  /-- It accepts labels if it lists one of them. -/
  accepts : ∀ labels, matcher.accepts labels = true ↔ ∃ label ∈ labels, label ∈ matcher.toList
  /-- It is a key if it is frozen. -/
  key : (∃ key, matcher.key = .ok key) ↔ matcher.frozen = true
  /-- Otherwise it tells that it is none. -/
  key_error : ∀ error, matcher.key = .error error ↔ error = .unhashable ∧ matcher.frozen = false

/-- How two matchers compare: by what they list, frozen or not. -/
structure Compares (left right : Matcher) : Prop where
  /-- They are equal if they list the same. -/
  agrees : left.agrees right = true ↔ left.toList = right.toList
  /-- This is to say that they list the same labels. -/
  labels : left.agrees right = true ↔ ∀ label, label ∈ left.toList ↔ label ∈ right.toList
  /-- Equal frozen matchers are the same key. -/
  keys : left.frozen = true → right.frozen = true → left.agrees right = true → left.key = right.key

theorem consistent (matcher : Matcher) : matcher.Consistent where
  nonempty := matcher.patterns.empty_not_mem
  ascending := matcher.patterns.labels.ascending.map codePoints fun _ _ => codePoints_lt
  size := rfl
  isEmpty := List.isEmpty_iff_length_eq_zero
  contains _ := LabelSet.contains_iff
  accepts_singleton label := by simp [accepts, Patterns.hits, contains]
  accepts labels := by
    rw [accepts, Patterns.hits, List.any_eq_true]
    simp only [LabelSet.contains_iff]
    rfl
  key := by
    rw [key]
    cases matcher.frozen <;> simp
  key_error error := by
    rw [key]
    cases matcher.frozen <;> simp [eq_comm]

theorem compares (left right : Matcher) : left.Compares right := by
  have labels_iff : left.agrees right = true ↔
      ∀ label, label ∈ left.toList ↔ label ∈ right.toList := by
    rw [agrees, decide_eq_true_iff]
    constructor
    · intro same label
      rw [toList, same, toList]
    · intro same
      exact Patterns.eq_of_labels (LabelSet.eq_of_mem_iff same)
  refine ⟨?_, labels_iff, ?_⟩
  · constructor
    · intro same
      rw [toList, toList, of_decide_eq_true same]
    · intro same
      rw [labels_iff, same]
      exact fun _ => Iff.rfl
  · intro left_frozen right_frozen same
    rw [key_of_frozen left_frozen, key_of_frozen right_frozen, of_decide_eq_true same]

variable {matcher changed : Matcher} {label : Option String}

/-- An open matcher gains the pattern that is added to it. -/
theorem mem_add_of_open (is_open : matcher.frozen = false)
    (added : matcher.add label = .ok changed) {text : String} :
    text ∈ changed.patterns.labels ↔
      text ∈ matcher.patterns.labels ∨ text ≠ "" ∧ label = some text := by
  have added_text : matcher.add (some (label.getD "")) = .ok changed := added
  rw [add_of_open is_open] at added_text
  cases added_text
  rw [Patterns.mem_add]
  cases label with
  | none => simp
  | some other =>
      rw [Option.getD_some, Option.some.injEq]
      grind

/-- A matcher made from a list holds the labels in it. -/
theorem mem_ofList {labels : List (Option String)} {label : String} :
    label ∈ (ofList labels).patterns.labels ↔ label ≠ "" ∧ some label ∈ labels := by
  rw [ofList, Patterns.mem_foldl_add]
  exact or_iff_right (LabelSet.not_mem_empty label)

end Matcher

namespace Heap

variable {Name : Type} {heap later : Heap Name} {address : MatcherAddress} {files : Files}

/-! ## Single moves -/

/-- An object with a name belongs to no builder. -/
theorem public_of_named (sound : heap.Sound) {name : Name} {reference : Reference}
    (named : heap.names name = some reference) : heap.Public reference where
  live := sound.named_live named
  unowned live operator same := sound.builderMatcher_unnamed live operator name (same ▸ named)

/-- A matcher that belongs to no builder has never belonged to one. -/
theorem public_of_keeps {changed : Reference → Prop}
    (live : heap.memory.matchers.Live address) (keeps : heap.Keeps later changed)
    (given : later.Public (.matcher address)) : heap.Public (.matcher address) where
  live := live
  unowned {builder} builder_live operator same := by
    rw [← keeps.builderMatcher builder_live operator] at same
    exact given.unowned (keeps.live (.builder builder) builder_live) operator same

theorem addPattern_eq_some_iff {label : Option String} {refusal : Refusal} :
    (heap.addPattern address label).2 = some refusal ↔
      ∃ error, (heap.memory.read address).add label = .error error ∧ refusal = .matcher error := by
  rw [addPattern, Memory.add]
  cases (heap.memory.read address).add label <;> simp [eq_comm]

variable [DecidableEq Name]

/-- The labels that a move adds to a matcher. -/
def hands (heap : Heap Name) (address : MatcherAddress) : Move Name → List (Option String)
  | .act (.addToMatcher name label) => if heap.matcher? name = some address then [label] else []
  | _ => []

/-- The labels that a history of moves adds to a matcher, under any of its names. -/
def handed (files : Files) (address : MatcherAddress) :
    Heap Name → List (Move Name) → List (Option String)
  | _, [] => []
  | heap, move :: rest =>
    heap.hands address move ++ handed files address (heap.move files move).1 rest

/-- What a move makes of a matcher that belongs to no builder: it adds labels to it, if any. -/
theorem move_cases (files : Files) (sound : heap.Sound) (given : heap.Public (.matcher address))
    (move : Move Name) :
    (heap.hands address move = [] ∧
      (heap.move files move).1.memory.read address = heap.memory.read address) ∨
    ∃ label, heap.hands address move = [label] ∧
      (heap.move files move).1.memory = (heap.memory.add address label).1 := by
  by_cases concerns : heap.Concerns move (.matcher address)
  · cases move with
    | share | take => exact concerns.elim
    | act action =>
        cases action with
        | addToMatcher name label =>
            obtain ⟨matcher, named, same⟩ := concerns
            obtain rfl := Reference.matcher.inj same
            have found := matcher?_eq_some_iff.mpr named
            refine .inr ⟨label, if_pos found, ?_⟩
            rw [move, act, found]
            rfl
        | operate name operation =>
            obtain ⟨builder, named, operator, same⟩ := concerns
            exact absurd (congrArg Reference.matcher same).symm
              (given.unowned (sound.named_live named) operator)
        | newMatcher | freeze | newBuilder | build | groupOfFilter | groupOfMatchers | addToGroup
        | changeField | evaluate => exact concerns.elim
  · have kept := (frames_move files sound move).keeps.object given.live concerns
    refine .inl ⟨?_, Object.matcher.inj kept⟩
    cases move with
    | share | take => rfl
    | act action =>
        cases action with
        | addToMatcher name label =>
            refine if_neg fun found => concerns ⟨address, matcher?_eq_some_iff.mp found, rfl⟩
        | newMatcher | operate | freeze | newBuilder | build | groupOfFilter | groupOfMatchers
        | addToGroup | changeField | evaluate => rfl

/-- An open matcher gains the labels that a move adds to it. -/
theorem mem_patterns_move (files : Files) (sound : heap.Sound)
    (given : heap.Public (.matcher address)) (is_open : (heap.memory.read address).frozen = false)
    (move : Move Name) :
    let after := (heap.move files move).1.memory.read address
    after.frozen = false ∧ ∀ label, label ∈ after.patterns.labels ↔
      label ∈ (heap.memory.read address).patterns.labels ∨
        label ≠ "" ∧ some label ∈ heap.hands address move := by
  intro after
  rcases move_cases files sound given move with ⟨hands_eq, read_eq⟩ | ⟨label, hands_eq, memory_eq⟩
  · refine ⟨(congrArg Matcher.frozen read_eq).trans is_open, fun label => ?_⟩
    rw [hands_eq, show after = heap.memory.read address from read_eq]
    simp
  · have after_eq : after = (heap.memory.add address label).1.read address :=
      congrArg (Memory.read · address) memory_eq
    have added : (heap.memory.read address).add label = .ok _ :=
      Matcher.add_of_open is_open (label.getD "")
    refine ⟨?_, fun text => ?_⟩
    · rw [after_eq, Memory.frozen_add, is_open]
    · rw [after_eq, Memory.read_add_self sound.separate given.live added,
        Matcher.mem_add_of_open is_open added, hands_eq, List.mem_singleton, @eq_comm _ label]

/-! ## Histories of moves -/

theorem moveAll_cons (files : Files) (heap : Heap Name) (move : Move Name)
    (rest : List (Move Name)) :
    heap.moveAll files (move :: rest) = (heap.move files move).1.moveAll files rest := rfl

/-- A frozen matcher stays as it is. -/
theorem read_moveAll_of_frozen (files : Files) (sound : heap.Sound)
    (live : heap.memory.matchers.Live address) (frozen : (heap.memory.read address).frozen = true)
    (moves : List (Move Name)) :
    (heap.moveAll files moves).memory.read address = heap.memory.read address := by
  induction moves generalizing heap with
  | nil => rfl
  | cons move rest induction =>
      have first := frames_move files sound move
      have kept : (heap.move files move).1.memory.read address = heap.memory.read address := by
        rcases move_cases files sound (isPublic_of_frozen sound live frozen) move with
          ⟨-, read_eq⟩ | ⟨label, -, memory_eq⟩
        · exact read_eq
        · rw [memory_eq, Memory.add_of_frozen frozen]
      rw [moveAll_cons, induction first.sound (first.keeps.live (.matcher address) live)
        (kept ▸ frozen), kept]

/-- An open matcher holds what it held and the labels that were added to it since. -/
theorem mem_patterns_moveAll (files : Files) (sound : heap.Sound)
    (live : heap.memory.matchers.Live address) (is_open : (heap.memory.read address).frozen = false)
    (moves : List (Move Name)) (given : (heap.moveAll files moves).Public (.matcher address)) :
    let after := (heap.moveAll files moves).memory.read address
    after.frozen = false ∧ ∀ label, label ∈ after.patterns.labels ↔
      label ∈ (heap.memory.read address).patterns.labels ∨
        label ≠ "" ∧ some label ∈ handed files address heap moves := by
  induction moves generalizing heap with
  | nil => exact ⟨is_open, fun label => by simp [handed, moveAll]⟩
  | cons move rest induction =>
      have first := frames_move files sound move
      have keeps := (keeps_moveAll files sound (move :: rest)).2
      obtain ⟨still_open, first_holds⟩ := mem_patterns_move files sound
        (public_of_keeps live keeps given) is_open move
      obtain ⟨later_open, later_holds⟩ := induction first.sound
        (first.keeps.live (.matcher address) live) still_open given
      refine ⟨later_open, fun label => (later_holds label).trans ?_⟩
      rw [first_holds, handed, List.mem_append, or_assoc, ← and_or_left]

/-! ## Matchers in a history -/

/-- Adding a label under a name of a matcher is refused if the matcher is frozen and the label is not
empty, whether it is a pattern already or not. Then nothing changes, and otherwise no other matcher
does. -/
structure Adds (files : Files) (heap : Heap Name) (name : Name) (matcher : MatcherAddress)
    (label : Option String) : Prop where
  /-- When and how it is refused. -/
  refusal : ∀ refusal, (heap.act files (.addToMatcher name label)).2 = some refusal ↔
    (heap.memory.read matcher).frozen = true ∧
      ∃ text, text ≠ "" ∧ label = some text ∧ refusal = .matcher (.frozen text)
  /-- A refusal changes nothing. -/
  unchanged : (heap.act files (.addToMatcher name label)).2 ≠ none →
    (heap.act files (.addToMatcher name label)).1 = heap
  /-- No other matcher changes. -/
  others : ∀ other, heap.memory.matchers.Live other → other ≠ matcher →
    (heap.act files (.addToMatcher name label)).1.memory.read other = heap.memory.read other

/-- A matcher that is made from a list is new. As long as it can be got hold of, it is open and holds
the labels of the list and those that were added to it since, but for absent and empty ones. -/
structure Constructs (files : Files) (heap : Heap Name) (target : Name)
    (labels : List (Option String)) (after : List (Move Name)) : Prop where
  /-- It was not there before. -/
  dead : ¬heap.memory.matchers.Live heap.memory.matchers.fresh
  /-- It has the name. -/
  named : (heap.act files (.newMatcher target labels)).1.names target =
    some (.matcher heap.memory.matchers.fresh)
  /-- It holds what it was given. -/
  holds : let made := (heap.act files (.newMatcher target labels)).1
    let later := made.moveAll files after
    let matcher := later.memory.read heap.memory.matchers.fresh
    (∃ name, later.names name = some (.matcher heap.memory.matchers.fresh)) →
      matcher.frozen = false ∧ ∀ label, label ∈ matcher.toList ↔
        label ≠ "" ∧ (some label ∈ labels ∨
          some label ∈ handed files heap.memory.matchers.fresh made after)

/-- A frozen copy is new, and it holds what its origin holds now, whatever happens later. -/
structure Copies (files : Files) (heap : Heap Name) (name target : Name) (origin : MatcherAddress)
    (after : List (Move Name)) : Prop where
  /-- It was not there before. -/
  dead : ¬heap.memory.matchers.Live heap.memory.matchers.fresh
  /-- It has the name. -/
  named : (heap.act files (.freeze name target)).1.names target =
    some (.matcher heap.memory.matchers.fresh)
  /-- It is frozen and holds what its origin holds. -/
  holds : ((heap.act files (.freeze name target)).1.moveAll files after).memory.read
    heap.memory.matchers.fresh = ⟨(heap.memory.read origin).patterns, true⟩

theorem adds (files : Files) (sound : heap.Sound) {name : Name}
    (named : heap.names name = some (.matcher address)) (label : Option String) :
    heap.Adds files name address label := by
  have act_eq : heap.act files (.addToMatcher name label) = heap.addPattern address label := by
    rw [act, matcher?_eq_some_iff.mpr named]
  constructor
  · intro refusal
    rw [act_eq, addPattern_eq_some_iff]
    constructor
    · rintro ⟨error, refused, rfl⟩
      obtain ⟨frozen, text, nonempty, rfl, rfl⟩ := Matcher.add_eq_error_iff.mp refused
      exact ⟨frozen, text, nonempty, rfl, rfl⟩
    · rintro ⟨frozen, text, nonempty, rfl, rfl⟩
      exact ⟨.frozen text, Matcher.add_of_frozen frozen nonempty, rfl⟩
  · rw [act_eq]
    intro refused
    obtain ⟨refusal, some_eq⟩ := Option.ne_none_iff_exists'.mp refused
    obtain ⟨error, added, -⟩ := addPattern_eq_some_iff.mp some_eq
    rw [addPattern_of_error added]
  · rw [act_eq]
    intro other other_live other_ne
    exact Memory.read_add_of_ne sound.separate (sound.named_live named) other_live other_ne

theorem constructs (files : Files) (sound : heap.Sound) (target : Name)
    (labels : List (Option String)) (after : List (Move Name)) :
    heap.Constructs files target labels after where
  dead := Store.not_live_fresh
  named := names_bind_self ..
  holds := by
    intro made later matcher named
    have yields := Memory.make_yields sound.separate (.ofList labels)
    have made_sound : made.Sound := (frames_move files sound (.act (.newMatcher target labels))).sound
    have live : made.memory.matchers.Live heap.memory.matchers.fresh := yields.live
    have read_eq : made.memory.read heap.memory.matchers.fresh = .ofList labels := yields.read
    obtain ⟨name, named⟩ := named
    obtain ⟨is_open, holds⟩ := mem_patterns_moveAll files made_sound live
      (congrArg Matcher.frozen read_eq) after
      (public_of_named (keeps_moveAll files made_sound after).1 named)
    refine ⟨is_open, fun label => (holds label).trans ?_⟩
    rw [read_eq, Matcher.mem_ofList, ← and_or_left]

theorem copies (files : Files) (sound : heap.Sound) {name : Name}
    (named : heap.names name = some (.matcher address)) (target : Name)
    (after : List (Move Name)) : heap.Copies files name target address after := by
  have made_eq : (heap.act files (.freeze name target)).1 =
      { heap with memory := (heap.memory.freeze address).1 }.bind target
        (.matcher heap.memory.matchers.fresh) := by
    rw [act, matcher?_eq_some_iff.mpr named, ← Memory.freeze_fresh]
  have made_sound := (frames_move files sound (.act (.freeze name target))).sound
  have yields := Memory.freeze_yields sound.separate (sound.named_live named)
  have live := yields.live
  have read_eq := yields.read
  rw [Memory.freeze_fresh] at live read_eq
  refine ⟨Store.not_live_fresh, ?_, ?_⟩
  · rw [made_eq]
    exact names_bind_self ..
  · rw [move, made_eq] at made_sound
    rw [made_eq]
    exact (read_moveAll_of_frozen files made_sound live (congrArg Matcher.frozen read_eq) after).trans
      read_eq

/-- Matchers throughout a history of moves, whatever names they share and whatever builders and
groups there are beside them. All that can be asked about a matcher follows from its list of
patterns, and matchers compare by these lists. At any time, patterns are added to a matcher under one
of its names, matchers are made, and frozen copies are made of matchers. -/
theorem matchers_moveAll (files : Files) (before : List (Move Name)) :
    let heap := ({} : Heap Name).moveAll files before
    (∀ matcher, (heap.memory.read matcher).Consistent) ∧
    (∀ left right, (heap.memory.read left).Compares (heap.memory.read right)) ∧
    (∀ name matcher, heap.names name = some (.matcher matcher) → ∀ label,
      heap.Adds files name matcher label) ∧
    (∀ target labels after, heap.Constructs files target labels after) ∧
    ∀ name origin, heap.names name = some (.matcher origin) → ∀ target after,
      heap.Copies files name target origin after := by
  intro heap
  have sound : heap.Sound := (keeps_moveAll files sound_empty before).1
  refine ⟨fun _ => Matcher.consistent _, fun _ _ => Matcher.compares _ _, ?_, ?_, ?_⟩
  · intro name matcher named
    exact adds files sound named
  · exact constructs files sound
  · intro name origin named
    exact copies files sound named

/-- An open matcher with two names, of which one is given to another matcher later, and a frozen copy of
a frozen copy of it. -/
theorem matchers_moveAll_sharedNames :
    let files : Files := fun _ => .missing
    let labels := [some "b", none, some "", some "a", some "b"]
    let made := (({} : Heap String).act files (.newMatcher "open" labels)).1
    let copied : List (Move String) := [.share "open" "other", .act (.freeze "open" "frozen")]
    let later : List (Move String) := [.act (.addToMatcher "other" (some "c")),
      .act (.addToMatcher "again" (some "c")), .act (.newMatcher "open" []),
      .act (.addToMatcher "open" (some "d"))]
    let heap := made.moveAll files copied
    (heap.act files (.addToMatcher "frozen" (some "a"))).2 = some (.matcher (.frozen "a")) ∧
      ((heap.act files (.freeze "frozen" "again")).1.moveAll files later).memory.read ⟨2⟩ =
        ⟨(heap.memory.read ⟨1⟩).patterns, true⟩ ∧
      ∀ label, label ∈ ((made.moveAll files (copied ++ later)).memory.read ⟨0⟩).toList ↔
        label ≠ "" ∧ (some label ∈ labels ∨ label = "c") := by
  intro files labels made copied later heap
  obtain ⟨-, -, -, constructs, -⟩ := @matchers_moveAll String _ files []
  obtain ⟨-, -, adds, -, copies⟩ :=
    matchers_moveAll files (.act (.newMatcher "open" labels) :: copied)
  have frozen_named : heap.names "frozen" = some (.matcher ⟨1⟩) := by decide +kernel
  have is_frozen : (heap.memory.read ⟨1⟩).frozen = true := by decide +kernel
  have still_named : (made.moveAll files (copied ++ later)).names "other" = some (.matcher ⟨0⟩) := by
    decide +kernel
  have handed_eq : handed files ⟨0⟩ made (copied ++ later) = [some "c"] := by decide +kernel
  have holds := ((constructs "open" labels (copied ++ later)).holds ⟨"other", still_named⟩).2
  refine ⟨?_, (copies "frozen" ⟨1⟩ frozen_named "again" later).holds, fun label => ?_⟩
  · exact ((adds "frozen" ⟨1⟩ frozen_named (some "a")).refusal _).mpr
      ⟨is_frozen, "a", by decide, rfl, rfl⟩
  · have given : label ∈ ((made.moveAll files (copied ++ later)).memory.read ⟨0⟩).toList ↔
        label ≠ "" ∧ (some label ∈ labels ∨ some label ∈ handed files ⟨0⟩ made (copied ++ later)) :=
      holds label
    rw [handed_eq, List.mem_singleton, Option.some.injEq] at given
    exact given

end Heap

end WalkFilter
