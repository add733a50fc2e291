import WalkFilter.CommandLine.Settings
import WalkFilter.Proofs.CommandLine.Reading
import WalkFilter.Proofs.Filter.SourceTokens

/-!
# What a command line leaves behind

Once every piece of a command line has taken effect, the settings and the builder can be read off
the pieces: lists keep all values in order, of a single setting the last value counts, flags are set
if they are given, and the builder has received the tokens of all filters in order.
-/

namespace WalkFilter

namespace CommandLine

/-- The values given to a switch in order. -/
def valuesOf (switch : Switch) (items : List Item) : List String :=
  items.filterMap fun
    | .use other value => if other = switch then value else none
    | .extra _ => none

/-- The reading of the last value, or a default if there is no value. -/
def lastRead {α : Type} (read : String → Option α) (values : List String) (default : α) : α :=
  (values.getLast?.bind read).getD default

/-- The tokens of all filters that are given, in order. -/
def tokensOf (files : Files) (items : List Item) : List String :=
  items.flatMap fun
    | .use .labelFilter (some value) => sourceTokens files (.inline value)
    | .use .filterFile (some value) => sourceTokens files (.file (Path.ofText value))
    | _ => []

/-- The switch can make something of the value. -/
def Switch.accepts (switch : Switch) (value : String) : Prop :=
  match switch with
  | .depth | .minLevel => (Text.integer? value).isSome
  | .format => (Format.ofName? value).isSome
  | _ => True

@[simp]
theorem valuesOf_append (switch : Switch) (left right : List Item) :
    valuesOf switch (left ++ right) = valuesOf switch left ++ valuesOf switch right :=
  List.filterMap_append

@[simp]
theorem tokensOf_append (files : Files) (left right : List Item) :
    tokensOf files (left ++ right) = tokensOf files left ++ tokensOf files right :=
  List.flatMap_append

theorem lastRead_append {α : Type} {read : String → Option α} {left right : List String}
    {default : α} (readable : ∀ value ∈ right, (read value).isSome) :
    lastRead read (left ++ right) default = lastRead read right (lastRead read left default) := by
  cases last : right.getLast? with
  | none => simp [lastRead, List.getLast?_append, last]
  | some value =>
      have known := readable value (List.mem_of_getLast? last)
      obtain ⟨result, read_eq⟩ := Option.isSome_iff_exists.mp known
      simp [lastRead, List.getLast?_append, last, read_eq]

/-- How the state after some pieces of a command line can be read off the state before them. -/
structure Follows (files : Files) (before : Progress) (items : List Item) (after : Progress) :
    Prop where
  /-- The builder has received the tokens of all filters. -/
  builder : after.builder = before.builder.addTokens (tokensOf files items)
  /-- The nodes are kept in order. -/
  nodes : after.settings.nodes = before.settings.nodes ++ valuesOf .node items
  /-- The file named last counts. -/
  nodesFile : after.settings.nodesFile =
    ((valuesOf .nodesFile items).getLast?.map Path.ofText).or before.settings.nodesFile
  /-- The depth given last counts. -/
  depth : after.settings.depth =
    lastRead Text.integer? (valuesOf .depth items) before.settings.depth
  /-- The minimum level given last counts. -/
  minLevel : after.settings.minLevel =
    lastRead Text.integer? (valuesOf .minLevel items) before.settings.minLevel
  /-- The format given last counts. -/
  format : after.settings.format =
    lastRead Format.ofName? (valuesOf .format items) before.settings.format
  /-- Flags are set if they are given. -/
  endNodesOnly : after.settings.endNodesOnly =
    (before.settings.endNodesOnly || given .endNodesOnly items)
  /-- Flags are set if they are given. -/
  explain : after.settings.explain = (before.settings.explain || given .explain items)
  /-- Flags are set if they are given. -/
  verbose : after.settings.verbose = (before.settings.verbose || given .verbose items)
  /-- Every value can be used. -/
  accepted : ∀ switch, ∀ value ∈ valuesOf switch items, switch.accepts value

namespace Follows

variable {files : Files} {first middle last : Progress} {left right : List Item}

theorem refl (files : Files) (progress : Progress) : Follows files progress [] progress := by
  constructor <;> simp [tokensOf, valuesOf, lastRead, given, Builder.addTokens]

/-- What follows in two stages follows at once. -/
theorem trans (front : Follows files first left middle) (back : Follows files middle right last) :
    Follows files first (left ++ right) last where
  builder := by rw [back.builder, front.builder, tokensOf_append, Builder.addTokens_append]
  nodes := by rw [back.nodes, front.nodes, valuesOf_append, List.append_assoc]
  nodesFile := by
    rw [back.nodesFile, front.nodesFile, valuesOf_append, List.getLast?_append, Option.map_or,
      Option.or_assoc]
  depth := by
    rw [back.depth, front.depth, valuesOf_append, lastRead_append (back.accepted .depth)]
  minLevel := by
    rw [back.minLevel, front.minLevel, valuesOf_append, lastRead_append (back.accepted .minLevel)]
  format := by
    rw [back.format, front.format, valuesOf_append, lastRead_append (back.accepted .format)]
  endNodesOnly := by rw [back.endNodesOnly, front.endNodesOnly, given_append, Bool.or_assoc]
  explain := by rw [back.explain, front.explain, given_append, Bool.or_assoc]
  verbose := by rw [back.verbose, front.verbose, given_append, Bool.or_assoc]
  accepted switch value member := by
    rw [valuesOf_append] at member
    rcases List.mem_append.mp member with member | member
    · exact front.accepted switch value member
    · exact back.accepted switch value member

end Follows

namespace Progress

variable {files : Files} {progress after : Progress}

/-- A source is added and noted, or it cannot be read and nothing changes but the records. -/
theorem addSource_cases {source : FilterSource} {note : Settings → Settings}
    {ending : Option Ending} (stepped : progress.addSource files source note = (after, ending)) :
    (∃ builder, progress.builder.addSource files source = .ok builder ∧ ending = none ∧
      after.builder = builder ∧ after.settings = note progress.settings) ∨
    ∃ error, progress.builder.addSource files source = .error error ∧
      ending = some (.unreadable error) ∧ after.builder = progress.builder ∧
      after.settings = progress.settings := by
  rw [addSource] at stepped
  split at stepped
  · rename_i error failed
    obtain ⟨rfl, rfl⟩ := Prod.mk.inj stepped
    exact .inr ⟨error, failed, rfl, rfl, rfl⟩
  · rename_i builder added
    obtain ⟨rfl, rfl⟩ := Prod.mk.inj stepped
    exact .inl ⟨builder, added, rfl, rfl, rfl⟩

/-- An integer is set, or the value is refused and nothing changes. -/
theorem setInteger_cases {switch : Switch} {value : String} {change : Int → Settings → Settings}
    {ending : Option Ending} (stepped : progress.setInteger switch value change = (after, ending)) :
    (∃ number, Text.integer? value = some number ∧ ending = none ∧
      after = progress.modifySettings (change number)) ∨
    ending = some (.usage (.notInteger switch value)) ∧ after = progress := by
  rw [setInteger] at stepped
  split at stepped
  · rename_i number read
    obtain ⟨rfl, rfl⟩ := Prod.mk.inj stepped
    exact .inl ⟨number, read, rfl, rfl⟩
  · obtain ⟨rfl, rfl⟩ := Prod.mk.inj stepped
    exact .inr ⟨rfl, rfl⟩

private theorem value_of_supplied {switch : Switch} {value : Option String}
    (supplied : (Item.use switch value).Supplied) (takes : switch.takesValue = true) :
    ∃ text, value = some text :=
  Option.isSome_iff_exists.mp (supplied.trans takes)

/-- One piece that takes effect: a left-over argument, a filter, a value, a number or a flag. -/
theorem follows_step {item : Item} (supplied : item.Supplied)
    (took : progress.step files item = (after, none)) : Follows files progress [item] after := by
  cases item with
  | extra argument =>
      obtain ⟨rfl, -⟩ := Prod.mk.inj took
      constructor <;> simp [tokensOf, valuesOf, lastRead, given, Builder.addTokens]
  | use switch value =>
      cases switch
      case help | version => cases (Prod.mk.inj took).2
      case labelFilter | filterFile =>
        obtain ⟨text, rfl⟩ := value_of_supplied supplied rfl
        simp only [step, use, Option.getD_some] at took
        rcases addSource_cases took with ⟨builder, added, -, rfl, noted⟩ | ⟨error, -, ended, -⟩
        · have built := Builder.addSource_eq_addTokens added
          constructor <;>
            simp [built, noted, tokensOf, valuesOf, lastRead, given, Switch.accepts]
        · cases ended
      case node | nodesFile =>
        obtain ⟨text, rfl⟩ := value_of_supplied supplied rfl
        obtain ⟨rfl, -⟩ := Prod.mk.inj took
        constructor <;>
          simp [modifySettings, tokensOf, valuesOf, lastRead, given, Switch.accepts,
            Builder.addTokens]
      case depth | minLevel =>
        obtain ⟨text, rfl⟩ := value_of_supplied supplied rfl
        rcases setInteger_cases took with ⟨number, read, -, rfl⟩ | ⟨ended, -⟩
        · rw [Option.getD_some] at read
          constructor <;>
            simp [read, modifySettings, tokensOf, valuesOf, lastRead, given, Switch.accepts,
              Builder.addTokens]
        · cases ended
      case format =>
        obtain ⟨text, rfl⟩ := value_of_supplied supplied rfl
        simp only [step, use, Option.getD_some] at took
        split at took
        · rename_i chosen read
          obtain ⟨rfl, -⟩ := Prod.mk.inj took
          constructor <;>
            simp [read, modifySettings, tokensOf, valuesOf, lastRead, given, Switch.accepts,
              Builder.addTokens]
        · cases (Prod.mk.inj took).2
      case endNodesOnly | explain | verbose =>
        obtain rfl := Option.not_isSome_iff_eq_none.mp (Bool.eq_false_iff.mp supplied)
        obtain ⟨rfl, -⟩ := Prod.mk.inj took
        constructor <;>
          simp [modifySettings, tokensOf, valuesOf, lastRead, given, Builder.addTokens]

/-- A whole command line that takes effect. -/
theorem follows_run {items : List Item} (supplied : ∀ item ∈ items, item.Supplied)
    (took : progress.run files items = (after, none)) : Follows files progress items after := by
  induction items generalizing progress with
  | nil =>
      obtain ⟨rfl, -⟩ := Prod.mk.inj took
      exact .refl files progress
  | cons item rest induction =>
      rw [run] at took
      split at took
      · rename_i middle stepped
        have front := follows_step (supplied item List.mem_cons_self) stepped
        exact front.trans (induction (fun other member => supplied other (.tail _ member)) took)
      · cases (Prod.mk.inj took).2

end Progress

/-- The pieces of a command line in order. -/
def itemsOf (arguments : List String) : List Item :=
  (Reading.ofArguments Switch.all arguments).items

theorem supplied_itemsOf (arguments : List String) : ∀ item ∈ itemsOf arguments, item.Supplied := by
  rw [itemsOf, Reading.ofArguments]
  split
  · simp
  · exact Reading.supplied_ofWords Switch.all _

/-- A command line that is accepted was read to its end, and all of it has taken effect. -/
theorem follows_parse {files : Files} {arguments : List String}
    (accepted : (parse files arguments).ending = none) :
    (Reading.ofArguments Switch.all arguments).error = none ∧
      Follows files {} (itemsOf arguments) (parse files arguments).progress := by
  rw [parse] at accepted ⊢
  split at accepted
  · simp at accepted
  · rename_i progress took
    simp only [itemsOf]
    refine ⟨?_, Progress.follows_run (supplied_itemsOf arguments) took⟩
    cases failed : (Reading.ofArguments Switch.all arguments).error with
    | none => rfl
    | some error => simp [failed, finalEnding] at accepted

end CommandLine

end WalkFilter
