import WalkFilter.Proofs.CommandLine.JsonReport
import WalkFilter.Proofs.CommandLine.Scan
import WalkFilter.Proofs.CommandLine.Spelling

/-!
# Reordered command lines

Filters, flags and settings commute on the command line: as long as the nodes keep their order, and
so do the values of each single setting, a run that succeeds prints the same report.
-/

namespace WalkFilter.CommandLine

/-! ## Options in long spelling -/

/-- An option in long spelling other than those for help and version. -/
structure LongOption where
  /-- The switch. -/
  switch : Switch
  /-- The value attached to it. -/
  value : Option String
  /-- A value is attached exactly if the switch takes one. -/
  fits : value.isSome = switch.takesValue
  /-- Neither help nor version is asked for. -/
  works : switch ≠ .help ∧ switch ≠ .version
  /-- The value is not the mark that ends the switches. -/
  unmarked : value ≠ some "--"
deriving DecidableEq

namespace LongOption

/-- The option as an argument. -/
def argument (option : LongOption) : String :=
  match option.value with
  | none => option.switch.long
  | some value => option.switch.long ++ "=" ++ value

/-- The option as a word. -/
def word (option : LongOption) : Word := .switch option.switch true option.value

/-- The option as a piece of a command line. -/
def item (option : LongOption) : Item := .use option.switch option.value

variable (option : LongOption) (options : List LongOption)

theorem sort_argument : sort Switch.all option.argument = .ok option.word := by
  have long : option.switch.LongName option.switch.long := .inl rfl
  rw [argument, word]
  cases option.value with
  | none => exact sort_longName long
  | some value => exact sort_longName_value long value

theorem argument_ne_mark : option.argument ≠ "--" := by
  have long : option.switch.LongName option.switch.long := .inl rfl
  rw [argument]
  cases option.value with
  | none => exact long.ne_mark
  | some value => exact longName_value_ne_mark _ value

theorem words_map_argument :
    words Switch.all (options.map argument) = .ok (options.map word) := by
  induction options with
  | nil => rfl
  | cons first rest induction =>
      exact (words_cons_eq_ok_iff first.argument_ne_mark).mpr
        ⟨_, _, first.sort_argument, induction, rfl⟩

/-- The word of an option holds its switch alone, with its value. -/
theorem ofWord_eq_ok : Cluster.ofWord Switch.all option.switch true option.value =
    .ok ⟨[], option.switch, option.value⟩ := by
  have fits := option.fits
  cases value_eq : option.value with
  | none => rfl
  | some value =>
      have takes : option.switch.takesValue = true := by rw [← fits, value_eq]; rfl
      simp [Cluster.ofWord, takes]

theorem ofWords_map_word :
    Reading.ofWords Switch.all (options.map word) = ⟨options.map item, none⟩ := by
  induction options with
  | nil => rfl
  | cons first rest induction =>
      have satisfied : ¬(Cluster.mk [] first.switch first.value).needsValue = true := by
        rw [Cluster.needsValue, ← first.fits]
        cases first.value <;> simp
      rw [List.map_cons, word, Reading.ofWords, first.ofWord_eq_ok]
      simp only [if_neg satisfied, induction]
      rfl

theorem ofArguments_map_argument :
    Reading.ofArguments Switch.all (options.map argument) = ⟨options.map item, none⟩ := by
  rw [Reading.ofArguments, words_map_argument]
  exact ofWords_map_word options

theorem itemsOf_map_argument : itemsOf (options.map argument) = options.map item := by
  rw [itemsOf, ofArguments_map_argument]

/-- The scan for verbosity lets options in long spelling pass. -/
theorem exists_wantsRecords : ∃ verbose, wantsRecords (options.map argument) = .ok verbose := by
  obtain ⟨seen, seen_sorted, sees⟩ := words_seen (words_map_argument options)
  have complete : (Reading.ofWords Switch.all (options.map word)).error = none := by
    rw [ofWords_map_word]
  have seen_complete := (complete_seen_iff sees complete).mpr (by
    intro cluster member begins switch inside
    obtain ⟨first, long, attached, word_mem, read⟩ := mem_clusters.mp member
    obtain ⟨option, -, same⟩ := List.mem_map.mp word_mem
    obtain ⟨rfl, rfl, rfl⟩ := Word.switch.inj same
    rw [option.ofWord_eq_ok] at read
    obtain rfl := Except.ok.inj read
    obtain rfl := List.mem_singleton.mp inside
    simpa [Cluster.switches] using begins)
  refine ⟨(Reading.ofWords [.verbose] seen).items.contains (.use .verbose none), ?_⟩
  simp only [wantsRecords, Reading.ofArguments, seen_sorted, seen_complete]

end LongOption

/-! ## What stops a command line -/

namespace Progress

variable (files : Files)

theorem extras_use (progress : Progress) (switch : Switch) (value : String) :
    (progress.use files switch value).1.extras = progress.extras := by
  cases switch
  case labelFilter | filterFile =>
    simp only [use, addSource]
    split <;> rfl
  case depth | minLevel =>
    simp only [use, setInteger]
    split <;> rfl
  case format =>
    simp only [use]
    split <;> rfl
  case help | version | endNodesOnly | node | nodesFile | explain | verbose => rfl

theorem extras_run_uses (progress : Progress) (options : List LongOption) :
    (progress.run files (options.map LongOption.item)).1.extras = progress.extras := by
  induction options generalizing progress with
  | nil => rfl
  | cons first rest induction =>
      have first_extras : (progress.step files first.item).1.extras = progress.extras :=
        extras_use files progress first.switch (first.value.getD "")
      rw [List.map_cons, run]
      split
      · rename_i next stepped
        rw [stepped] at first_extras
        rw [induction]
        exact first_extras
      · rename_i next ending stepped
        rw [stepped] at first_extras
        exact first_extras

end Progress

/-- Options in long spelling are accepted if each of them is. -/
theorem accepted_iff (files : Files) (options : List LongOption) :
    (parse files (options.map LongOption.argument)).ending = none ↔
      ∀ option ∈ options, option.item.ending files = none := by
  have extras := Progress.extras_run_uses files {} options
  have took := Progress.run_eq_none_iff files {} (options.map LongOption.item)
  rw [List.forall_mem_map] at took
  rw [← took, parse, LongOption.ofArguments_map_argument]
  split
  · rename_i progress ending ran
    rw [ran]
  · rename_i progress ran
    rw [ran] at extras ⊢
    have extras_nil : progress.extras = [] := extras
    simp [finalEnding, extras_nil]

theorem not_given_notice (options : List LongOption) :
    given .help (options.map LongOption.item) = false ∧
      given .version (options.map LongOption.item) = false := by
  have not_given {switch : Switch} (differs : ∀ option : LongOption, option.switch ≠ switch) :
      given switch (options.map LongOption.item) = false := by
    rw [Bool.eq_false_iff]
    intro used
    obtain ⟨value, member⟩ := given_iff.mp used
    obtain ⟨option, -, same⟩ := List.mem_map.mp member
    exact differs option (Item.use.inj same).1
  exact ⟨not_given fun option => option.works.1, not_given fun option => option.works.2⟩

/-! ## Reordering -/

/-- The switches whose values must keep their order. -/
def orderedSwitches : List Switch := [.node, .nodesFile, .depth, .minLevel, .format]

/-- The options are the same in another order, which keeps that of the nodes and, for each single
setting, that of its values. -/
structure Rearranged (options permuted : List LongOption) : Prop where
  /-- The options are the same. -/
  perm : options.Perm permuted
  /-- Nodes and the values of each setting keep their order. -/
  order : ∀ switch ∈ orderedSwitches,
    permuted.filter (·.switch = switch) = options.filter (·.switch = switch)

theorem valuesOf_map_item (switch : Switch) (options : List LongOption) :
    valuesOf switch (options.map LongOption.item) =
      (options.filter (·.switch = switch)).filterMap (·.value) := by
  rw [valuesOf, List.filterMap_map, List.filterMap_filter]
  simp only [decide_eq_true_eq]
  rfl

namespace Rearranged

variable {options permuted : List LongOption} (rearranged : Rearranged options permuted)

include rearranged

theorem items_perm :
    (options.map LongOption.item).Perm (permuted.map LongOption.item) :=
  rearranged.perm.map LongOption.item

theorem given_eq (switch : Switch) :
    given switch (permuted.map LongOption.item) = given switch (options.map LongOption.item) :=
  rearranged.items_perm.any_eq.symm

theorem valuesOf_eq {switch : Switch} (ordered : switch ∈ orderedSwitches) :
    valuesOf switch (permuted.map LongOption.item) =
      valuesOf switch (options.map LongOption.item) := by
  rw [valuesOf_map_item, valuesOf_map_item, rearranged.order switch ordered]

theorem tokens_perm (files : Files) :
    (tokensOf files (options.map LongOption.item)).Perm
      (tokensOf files (permuted.map LongOption.item)) :=
  rearranged.items_perm.flatMap_right _

theorem accepted {files : Files}
    (accepted : (parse files (options.map LongOption.argument)).ending = none) :
    (parse files (permuted.map LongOption.argument)).ending = none := by
  rw [accepted_iff] at accepted ⊢
  exact fun option member => accepted option (rearranged.perm.mem_iff.mpr member)

end Rearranged

/-- The work behind the settings does not look at the filters as they were given. -/
theorem Settings.perform_forget (files : Files) (settings : Settings) (builder : Builder) :
    settings.perform files builder =
      { settings with labelFilters := none, filterFiles := none }.perform files builder := rfl

/-- Reordered options lead to the same builder and, but for the list of filters, to the same
settings. -/
theorem Rearranged.perform_eq {options permuted : List LongOption}
    (rearranged : Rearranged options permuted) {files : Files}
    (accepted : (parse files (options.map LongOption.argument)).ending = none) :
    (parse files (permuted.map LongOption.argument)).progress.settings.perform files
        (parse files (permuted.map LongOption.argument)).progress.builder =
      (parse files (options.map LongOption.argument)).progress.settings.perform files
        (parse files (options.map LongOption.argument)).progress.builder := by
  obtain ⟨-, follows⟩ := follows_parse accepted
  obtain ⟨-, permuted_follows⟩ := follows_parse (rearranged.accepted accepted)
  rw [LongOption.itemsOf_map_argument] at follows permuted_follows
  generalize (parse files (options.map LongOption.argument)).progress = before at follows ⊢
  generalize (parse files (permuted.map LongOption.argument)).progress = after
    at permuted_follows ⊢
  have builder_eq : after.builder = before.builder := by
    rw [permuted_follows.builder, follows.builder]
    exact (Builder.addTokens_congr _ (.of_perm (rearranged.tokens_perm files))).symm
  have nodes_eq : after.settings.nodes = before.settings.nodes := by
    rw [permuted_follows.nodes, follows.nodes, rearranged.valuesOf_eq (by decide)]
  have nodesFile_eq : after.settings.nodesFile = before.settings.nodesFile := by
    rw [permuted_follows.nodesFile, follows.nodesFile, rearranged.valuesOf_eq (by decide)]
  have depth_eq : after.settings.depth = before.settings.depth := by
    rw [permuted_follows.depth, follows.depth, rearranged.valuesOf_eq (by decide)]
  have minLevel_eq : after.settings.minLevel = before.settings.minLevel := by
    rw [permuted_follows.minLevel, follows.minLevel, rearranged.valuesOf_eq (by decide)]
  have format_eq : after.settings.format = before.settings.format := by
    rw [permuted_follows.format, follows.format, rearranged.valuesOf_eq (by decide)]
  have endNodesOnly_eq : after.settings.endNodesOnly = before.settings.endNodesOnly := by
    rw [permuted_follows.endNodesOnly, follows.endNodesOnly, rearranged.given_eq]
  have explain_eq : after.settings.explain = before.settings.explain := by
    rw [permuted_follows.explain, follows.explain, rearranged.given_eq]
  have verbose_eq : after.settings.verbose = before.settings.verbose := by
    rw [permuted_follows.verbose, follows.verbose, rearranged.given_eq]
  rw [Settings.perform_forget, Settings.perform_forget files before.settings, builder_eq, nodes_eq,
    nodesFile_eq, depth_eq, minLevel_eq, format_eq, endNodesOnly_eq, explain_eq, verbose_eq]

/-- If the options of a command line are reordered, but neither the nodes nor the values of any
single setting among themselves, a run that succeeds still succeeds and prints the same report. -/
theorem run_rearranged {files : Files} {channel : Channel} {options permuted : List LongOption}
    (rearranged : Rearranged options permuted)
    (succeeds : (run files channel (options.map LongOption.argument)).exitCode = 0) :
    (run files channel (permuted.map LongOption.argument)).exitCode = 0 ∧
      (run files channel (permuted.map LongOption.argument)).stdout =
        (run files channel (options.map LongOption.argument)).stdout := by
  obtain ⟨shown, course, runs⟩ := exists_course files (options.map LongOption.argument)
  rw [runs] at succeeds ⊢
  cases course with
  | scanRefused | refused | unreadable | failed => cases succeeds
  | noticed log notice scanned asked =>
      obtain ⟨no_help, no_version⟩ := not_given_notice options
      rw [← LongOption.itemsOf_map_argument] at no_help no_version
      rcases given_of_notice asked with help | version
      · rw [no_help] at help
        cases help
      · rw [no_version] at version
        cases version
  | reported log scanned accepted performed =>
      obtain ⟨verbose, permuted_scanned⟩ := LongOption.exists_wantsRecords permuted
      have permuted_accepted := rearranged.accepted accepted
      rw [← rearranged.perform_eq accepted] at performed
      obtain ⟨permuted_log, permuted_run⟩ :=
        exists_run_eq_writeReport permuted_scanned permuted_accepted performed channel
      obtain ⟨rfl, text, rfl, -⟩ := exists_text_of_writeReport succeeds
      simp only [permuted_run, writeReport_codePoints]
      exact ⟨trivial, trivial⟩

/-- A node, two filters and a flag in two orders. -/
theorem run_rearranged_filtersBehindNode :
    let node : LongOption := ⟨.node, some "Person|City", rfl, by decide, by decide⟩
    let file : LongOption := ⟨.filterFile, some "filters", rfl, by decide, by decide⟩
    let filter : LongOption := ⟨.labelFilter, some "-Country", rfl, by decide, by decide⟩
    let explain : LongOption := ⟨.explain, none, rfl, by decide, by decide⟩
    (run (everywhere ">Person") .working
      ([explain, file, filter, node].map LongOption.argument)).exitCode = 0 ∧
    (run (everywhere ">Person") .working
        ([node, filter, explain, file].map LongOption.argument)).stdout =
      (run (everywhere ">Person") .working
        ([explain, file, filter, node].map LongOption.argument)).stdout := by
  intro node file filter explain
  have rearranged : Rearranged [explain, file, filter, node] [node, filter, explain, file] :=
    ⟨by decide, by decide⟩
  have succeeds : (run (everywhere ">Person") .working
      ([explain, file, filter, node].map LongOption.argument)).exitCode = 0 := by
    decide +kernel
  exact ⟨succeeds, (run_rearranged rearranged succeeds).2⟩

end WalkFilter.CommandLine
