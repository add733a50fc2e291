import WalkFilter.Proofs.CommandLine.Course
import WalkFilter.Proofs.CommandLine.Spelling

/-!
# The order of filters

Filters and filter files reach the builder in the order of the command line, however each of them is
spelled and whatever stands between them. A command line that ends early leaves behind the filters
in front of the piece that ended it.
-/

namespace WalkFilter.CommandLine

/-- An option that adds filters. -/
inductive FilterOption where
  /-- A filter. -/
  | label (filter : String)
  /-- The name of a filter file. -/
  | file (name : String)
deriving DecidableEq, Repr

namespace FilterOption

/-- The switch of the option. -/
def switch : FilterOption → Switch
  | label _ => .labelFilter
  | file _ => .filterFile

/-- The value of the option. -/
def value : FilterOption → String
  | label filter => filter
  | file name => name

/-- The filter, unless the option names a file. -/
def label? : FilterOption → Option String
  | label filter => some filter
  | file _ => none

/-- The path of the file, if the option names one. -/
def path? : FilterOption → Option Path
  | label _ => none
  | file name => some (Path.ofText name)

/-- Adds the filters of the option to a builder. -/
def addTo (files : Files) (builder : Builder) : FilterOption → Builder
  | label filter => builder.addLabels (some filter)
  | file name => (builder.loadFilters files [Path.ofText name]).builder

theorem takesValue_switch (option : FilterOption) : option.switch.takesValue = true := by
  cases option <;> rfl

/-- The ways to spell an option. -/
inductive Spelling (option : FilterOption) : List String → Prop where
  /-- A long name and the value behind it. -/
  | longApart {name : String} (long : option.switch.LongName name)
    (plain : option.value.toList.head? ≠ some '-') : Spelling option [name, option.value]
  /-- A long name with the value attached. -/
  | longAttached {name : String} (long : option.switch.LongName name)
    (unmarked : option.value ≠ "--") : Spelling option [name ++ "=" ++ option.value]
  /-- The letter, perhaps behind the letters of flags, and the value behind it. -/
  | shortApart {flags : List Switch} (are_flags : ∀ flag ∈ flags, flag.takesValue = false)
    (plain : option.value.toList.head? ≠ some '-') :
    Spelling option [shortWord flags option.switch [], option.value]
  /-- The letter, perhaps behind the letters of flags, with the value attached. -/
  | shortAttached {flags : List Switch} (are_flags : ∀ flag ∈ flags, flag.takesValue = false)
    (nonempty : option.value ≠ "") (no_sign : option.value.toList.head? ≠ some '=') :
    Spelling option [shortWord flags option.switch option.value.toList]

end FilterOption

/-- The switches that an argument names. -/
def namedSwitches (argument : String) : List Switch :=
  match sort Switch.all argument with
  | .error _ => []
  | .ok word => ((word.cluster? Switch.all).map Cluster.switches).getD []

/-- Some options for filters are spelled in the arguments in this order. Between them stands
anything but the mark that ends the switches and arguments that name a switch for filters. -/
inductive Interleaves : List FilterOption → List String → Prop where
  | nil : Interleaves [] []
  | filter {option : FilterOption} {options : List FilterOption} {spelled rest : List String}
    (spells : option.Spelling spelled) (behind : Interleaves options rest) :
    Interleaves (option :: options) (spelled ++ rest)
  | other {options : List FilterOption} {argument : String} {rest : List String}
    (not_mark : argument ≠ "--")
    (names_none : .labelFilter ∉ namedSwitches argument ∧ .filterFile ∉ namedSwitches argument)
    (behind : Interleaves options rest) : Interleaves options (argument :: rest)

/-! ## From arguments to words -/

/-- Some options for filters are given by the words in this order. -/
inductive GivenBy : List FilterOption → List Word → Prop where
  | nil : GivenBy [] []
  | attached {option : FilterOption} {options : List FilterOption} {rest : List Word}
    {first : Switch} {long : Bool} {text : Option String} {flags : List Switch}
    (read : Cluster.ofWord Switch.all first long text =
      .ok ⟨flags, option.switch, some option.value⟩)
    (behind : GivenBy options rest) : GivenBy (option :: options) (.switch first long text :: rest)
  | apart {option : FilterOption} {options : List FilterOption} {rest : List Word}
    {first : Switch} {long : Bool} {text : Option String} {flags : List Switch}
    (read : Cluster.ofWord Switch.all first long text = .ok ⟨flags, option.switch, none⟩)
    (behind : GivenBy options rest) :
    GivenBy (option :: options) (.switch first long text :: .plain option.value :: rest)
  | other {options : List FilterOption} {word : Word} {rest : List Word}
    (names_none : ∀ cluster, word.cluster? Switch.all = some cluster →
      .labelFilter ∉ cluster.switches ∧ .filterFile ∉ cluster.switches)
    (behind : GivenBy options rest) : GivenBy options (word :: rest)

/-- A word with the value behind it. -/
theorem givenBy_of_apart {option : FilterOption} {options : List FilterOption}
    {argument : String} {rest : List String} {sorted : List Word} {first : Switch} {long : Bool}
    {text : Option String} {flags : List Switch} (not_mark : argument ≠ "--")
    (names : sort Switch.all argument = .ok (.switch first long text))
    (read : Cluster.ofWord Switch.all first long text = .ok ⟨flags, option.switch, none⟩)
    (plain : option.value.toList.head? ≠ some '-')
    (rest_given : ∀ others, words Switch.all rest = .ok others → GivenBy options others)
    (sorts : words Switch.all (argument :: option.value :: rest) = .ok sorted) :
    GivenBy (option :: options) sorted := by
  obtain ⟨value_not_mark, value_sorts⟩ := sort_plain plain
  obtain ⟨_, behind, argument_sorts, behind_sorts, rfl⟩ :=
    (words_cons_eq_ok_iff not_mark).mp sorts
  obtain rfl := Except.ok.inj (names.symm.trans argument_sorts)
  obtain ⟨_, others, value_sorts', rest_sorts, rfl⟩ :=
    (words_cons_eq_ok_iff value_not_mark).mp behind_sorts
  obtain rfl := Except.ok.inj (value_sorts.symm.trans value_sorts')
  exact .apart read (rest_given others rest_sorts)

/-- A word with the value attached. -/
theorem givenBy_of_attached {option : FilterOption} {options : List FilterOption}
    {argument : String} {rest : List String} {sorted : List Word} {first : Switch} {long : Bool}
    {text : Option String} {flags : List Switch} (not_mark : argument ≠ "--")
    (names : sort Switch.all argument = .ok (.switch first long text))
    (read : Cluster.ofWord Switch.all first long text =
      .ok ⟨flags, option.switch, some option.value⟩)
    (rest_given : ∀ others, words Switch.all rest = .ok others → GivenBy options others)
    (sorts : words Switch.all (argument :: rest) = .ok sorted) :
    GivenBy (option :: options) sorted := by
  obtain ⟨_, others, argument_sorts, rest_sorts, rfl⟩ := (words_cons_eq_ok_iff not_mark).mp sorts
  obtain rfl := Except.ok.inj (names.symm.trans argument_sorts)
  exact .attached read (rest_given others rest_sorts)

/-- One option, however it is spelled. -/
theorem FilterOption.Spelling.givenBy {option : FilterOption} {options : List FilterOption}
    {spelled rest : List String} {sorted : List Word} (spells : option.Spelling spelled)
    (rest_given : ∀ others, words Switch.all rest = .ok others → GivenBy options others)
    (sorts : words Switch.all (spelled ++ rest) = .ok sorted) :
    GivenBy (option :: options) sorted := by
  have takes := option.takesValue_switch
  cases spells with
  | longApart long plain =>
      exact givenBy_of_apart long.ne_mark (sort_longName long) rfl plain rest_given sorts
  | longAttached long unmarked =>
      have read : Cluster.ofWord Switch.all option.switch true (some option.value) =
          .ok ⟨[], option.switch, some option.value⟩ := by
        simp [Cluster.ofWord, takes]
      exact givenBy_of_attached (longName_value_ne_mark _ _) (sort_longName_value long _) read
        rest_given sorts
  | shortApart are_flags plain =>
      have no_sign : ([] : List Char).head? ≠ some '=' := by simp
      obtain ⟨first, text, names, read⟩ := sort_shortWord are_flags takes no_sign
      exact givenBy_of_apart (shortWord_ne_mark _ _ _) names read plain rest_given sorts
  | shortAttached are_flags nonempty no_sign =>
      obtain ⟨first, text, names, read⟩ := sort_shortWord are_flags takes no_sign
      rw [if_neg (by simpa using nonempty), String.ofList_toList] at read
      exact givenBy_of_attached (shortWord_ne_mark _ _ _) names read rest_given sorts

theorem Interleaves.givenBy {options : List FilterOption} {arguments : List String}
    {sorted : List Word} (interleaves : Interleaves options arguments)
    (sorts : words Switch.all arguments = .ok sorted) : GivenBy options sorted := by
  induction interleaves generalizing sorted with
  | nil =>
      obtain rfl := Except.ok.inj sorts
      exact .nil
  | filter spells behind induction => exact spells.givenBy (fun _ => induction) sorts
  | other not_mark names_none behind induction =>
      obtain ⟨word, others, argument_sorts, rest_sorts, rfl⟩ :=
        (words_cons_eq_ok_iff not_mark).mp sorts
      refine .other (fun cluster spells => ?_) (induction rest_sorts)
      simpa [namedSwitches, argument_sorts, spells] using names_none

/-! ## From words to pieces -/

/-- The option for filters that a piece of a command line is, if it is one. -/
def Item.filterOption? : Item → Option FilterOption
  | .use .labelFilter value => some (.label (value.getD ""))
  | .use .filterFile value => some (.file (value.getD ""))
  | _ => none

/-- The options for filters among the pieces of a command line. -/
def filterOptions (items : List Item) : List FilterOption :=
  items.filterMap Item.filterOption?

@[simp]
theorem filterOptions_append (left right : List Item) :
    filterOptions (left ++ right) = filterOptions left ++ filterOptions right :=
  List.filterMap_append

theorem filterOptions_cons (item : Item) (rest : List Item) :
    filterOptions (item :: rest) = item.filterOption?.toList ++ filterOptions rest := by
  rw [filterOptions, List.filterMap_cons]
  cases item.filterOption? <;> rfl

/-- Only a use of a switch for filters is such an option. -/
theorem exists_of_filterOption? {item : Item} {option : FilterOption}
    (found : item.filterOption? = some option) :
    ∃ value, item = .use option.switch value ∧ option.value = value.getD "" := by
  unfold Item.filterOption? at found
  split at found
  · obtain rfl := Option.some.inj found
    exact ⟨_, rfl, rfl⟩
  · obtain rfl := Option.some.inj found
    exact ⟨_, rfl, rfl⟩
  · cases found

theorem filterOption?_flag {flag : Switch} (is_flag : flag.takesValue = false)
    (value : Option String) : (Item.use flag value).filterOption? = none := by
  cases flag <;> first | rfl | cases is_flag

theorem filterOption?_other {switch : Switch} (other : switch ≠ .labelFilter ∧ switch ≠ .filterFile)
    (value : Option String) : (Item.use switch value).filterOption? = none := by
  cases switch <;> simp_all [Item.filterOption?]

/-- Only the last switch of a proper cluster can add filters. -/
theorem filterOptions_items {cluster : Cluster} (proper : cluster.Proper) (value : Option String) :
    filterOptions (cluster.items value) = (Item.use cluster.last value).filterOption?.toList := by
  have no_flag : filterOptions (cluster.flags.map (Item.use · none)) = [] := by
    rw [filterOptions, List.filterMap_map, List.filterMap_eq_nil_iff]
    exact fun flag member => filterOption?_flag (proper.flags flag member) none
  rw [Cluster.items, filterOptions_append, no_flag, List.nil_append, filterOptions,
    List.filterMap_cons]
  cases (Item.use cluster.last value).filterOption? <;> rfl

theorem filterOptions_items_option {cluster : Cluster} (proper : cluster.Proper)
    {option : FilterOption} (last_eq : cluster.last = option.switch) :
    filterOptions (cluster.items (some option.value)) = [option] := by
  rw [filterOptions_items proper, last_eq]
  cases option <;> rfl

theorem filterOptions_items_other {cluster : Cluster} (proper : cluster.Proper)
    (names_none : .labelFilter ∉ cluster.switches ∧ .filterFile ∉ cluster.switches)
    (value : Option String) : filterOptions (cluster.items value) = [] := by
  have last_mem : cluster.last ∈ cluster.switches := by simp [Cluster.switches]
  have other : cluster.last ≠ .labelFilter ∧ cluster.last ≠ .filterFile :=
    ⟨fun same => names_none.1 (same ▸ last_mem), fun same => names_none.2 (same ▸ last_mem)⟩
  rw [filterOptions_items proper, filterOption?_other other]
  rfl

/-- The pieces hold the first of the options, and all of them unless there is an error. -/
structure Reading.Begins (reading : Reading) (options : List FilterOption) : Prop where
  /-- The pieces hold the options in order. -/
  front : filterOptions reading.items <+: options
  /-- No option is missing from a complete reading. -/
  complete : reading.error = none → filterOptions reading.items = options

namespace Reading.Begins

variable {reading : Reading} {options : List FilterOption} {items : List Item}

theorem addOption {option : FilterOption} (begins : reading.Begins options)
    (items_eq : filterOptions items = [option]) :
    (reading.addItems items).Begins (option :: options) where
  front := by
    rw [items_addItems, filterOptions_append, items_eq]
    exact List.cons_prefix_cons.mpr ⟨rfl, begins.front⟩
  complete complete := by
    rw [items_addItems, filterOptions_append, items_eq, begins.complete complete]
    rfl

theorem addOthers (begins : reading.Begins options) (items_eq : filterOptions items = []) :
    (reading.addItems items).Begins options where
  front := by
    rw [items_addItems, filterOptions_append, items_eq]
    exact begins.front
  complete complete := by
    rw [items_addItems, filterOptions_append, items_eq, begins.complete complete]
    rfl

theorem ofError (error : UsageError) (options : List FilterOption) :
    (Reading.mk [] (some error)).Begins options where
  front := List.nil_prefix
  complete complete := by cases complete

end Reading.Begins

theorem GivenBy.begins {options : List FilterOption} {sorted : List Word}
    (given_by : GivenBy options sorted) :
    (Reading.ofWords Switch.all sorted).Begins options := by
  fun_induction Reading.ofWords Switch.all sorted generalizing options with
  | case1 =>
      cases given_by
      exact ⟨List.prefix_rfl, fun _ => rfl⟩
  | case2 text rest induction | case3 text rest induction | case4 rest induction =>
      cases given_by with
      | other names_none behind => exact (induction behind).addOthers rfl
  | case5 => exact .ofError _ options
  | case6 first long text cluster read needs value rest induction =>
      have proper := (Cluster.ofWord_spec read).1
      cases given_by with
      | attached other_read behind =>
          obtain rfl := Except.ok.inj (read.symm.trans other_read)
          simp [Cluster.needsValue] at needs
      | apart other_read behind =>
          obtain rfl := Except.ok.inj (read.symm.trans other_read)
          exact (induction behind).addOption (filterOptions_items_option proper rfl)
      | other names_none behind =>
          have cluster_eq : (Word.switch first long text).cluster? Switch.all = some cluster := by
            simp [Word.cluster?, read, Except.toOption]
          -- The word taken as the value is plain, so it spells no option itself.
          cases behind with
          | other _ behind =>
              exact (induction behind).addOthers
                (filterOptions_items_other proper (names_none cluster cluster_eq) _)
  | case7 => exact .ofError _ options
  | case8 first long text rest cluster read satisfied induction =>
      have proper := (Cluster.ofWord_spec read).1
      cases given_by with
      | attached other_read behind =>
          obtain rfl := Except.ok.inj (read.symm.trans other_read)
          exact (induction behind).addOption (filterOptions_items_option proper rfl)
      | @apart option _ _ _ _ _ _ other_read behind =>
          obtain rfl := Except.ok.inj (read.symm.trans other_read)
          simp [Cluster.needsValue, option.takesValue_switch] at satisfied
      | other names_none behind =>
          have cluster_eq : (Word.switch first long text).cluster? Switch.all = some cluster := by
            simp [Word.cluster?, read, Except.toOption]
          exact (induction behind).addOthers
            (filterOptions_items_other proper (names_none cluster cluster_eq) _)

/-- The pieces of a command line hold the first of its options for filters, and all of them unless
there is an error in reading. -/
theorem Interleaves.begins {options : List FilterOption} {arguments : List String}
    (interleaves : Interleaves options arguments) :
    (Reading.ofArguments Switch.all arguments).Begins options := by
  rw [Reading.ofArguments]
  split
  · exact .ofError _ options
  · rename_i sorted sorts
    exact (interleaves.givenBy sorts).begins

/-! ## From pieces to the builder -/

/-- The values as settings list them: not at all if there is none. -/
def listed {α : Type} (values : List α) : Option (List α) :=
  if values.isEmpty then none else some values

theorem appendValue_listed {α : Type} (values : List α) (value : α) :
    appendValue (listed values) value = listed (values ++ [value]) := by
  cases values <;> rfl

/-- The filters of some options are in the builder, and the settings list their values. Every file
among them could be read. -/
structure TakenIn (files : Files) (options : List FilterOption) (progress : Progress) : Prop where
  /-- The builder has received the filters of each option in order. -/
  builder : progress.builder = options.foldl (FilterOption.addTo files) {}
  /-- The filters are listed. -/
  labelFilters : progress.settings.labelFilters = listed (options.filterMap (·.label?))
  /-- The files are listed. -/
  filterFiles : progress.settings.filterFiles = listed (options.filterMap (·.path?))
  /-- Each file is there to be read. -/
  readable : ∀ path ∈ options.filterMap (·.path?), ∃ filters, files.readFilters path = .ok filters

namespace TakenIn

variable {files : Files} {options : List FilterOption} {progress after : Progress}

theorem nil (files : Files) : TakenIn files [] {} := ⟨rfl, rfl, rfl, by simp⟩

theorem addLabel (taken_in : TakenIn files options progress) {filter : String}
    (builder_eq : after.builder = progress.builder.addLabels (some filter))
    (settings_eq : after.settings = { progress.settings with
      labelFilters := appendValue progress.settings.labelFilters filter }) :
    TakenIn files (options ++ [.label filter]) after where
  builder := by
    rw [builder_eq, taken_in.builder, List.foldl_append]
    rfl
  labelFilters := by
    rw [settings_eq, List.filterMap_append]
    exact (congrArg (appendValue · filter) taken_in.labelFilters).trans (appendValue_listed _ _)
  filterFiles := by
    rw [settings_eq, List.filterMap_append]
    exact taken_in.filterFiles.trans (congrArg listed (List.append_nil _).symm)
  readable := by
    simpa [FilterOption.path?] using taken_in.readable

theorem addFile (taken_in : TakenIn files options progress) {name : String}
    (added : progress.builder.addSource files (.file (Path.ofText name)) = .ok after.builder)
    (settings_eq : after.settings = { progress.settings with
      filterFiles := appendValue progress.settings.filterFiles (Path.ofText name) }) :
    TakenIn files (options ++ [.file name]) after where
  builder := by
    rw [Builder.loadFilters_of_addSource added, taken_in.builder, List.foldl_append]
    rfl
  labelFilters := by
    rw [settings_eq, List.filterMap_append]
    exact taken_in.labelFilters.trans (congrArg listed (List.append_nil _).symm)
  filterFiles := by
    rw [settings_eq, List.filterMap_append]
    exact (congrArg (appendValue · (Path.ofText name)) taken_in.filterFiles).trans
      (appendValue_listed _ _)
  readable := by
    obtain ⟨filters, read, -⟩ := map_eq_ok_iff.mp added
    rw [List.filterMap_append]
    exact List.forall_mem_append.mpr
      ⟨taken_in.readable, List.forall_mem_singleton.mpr ⟨filters, read⟩⟩

/-- A piece that adds no filters leaves the builder and the lists alone. -/
theorem step_other (taken_in : TakenIn files options progress) {item : Item}
    (other : item.filterOption? = none) : TakenIn files options (progress.step files item).1 := by
  obtain ⟨builder_eq, labelFilters_eq, filterFiles_eq, readable⟩ := taken_in
  cases item with
  | extra argument => exact ⟨builder_eq, labelFilters_eq, filterFiles_eq, readable⟩
  | use switch value =>
      cases switch
      case labelFilter | filterFile => cases other
      case depth | minLevel =>
        simp only [Progress.step, Progress.use, Progress.setInteger]
        split <;> exact ⟨builder_eq, labelFilters_eq, filterFiles_eq, readable⟩
      case format =>
        simp only [Progress.step, Progress.use]
        split <;> exact ⟨builder_eq, labelFilters_eq, filterFiles_eq, readable⟩
      case help | version | endNodesOnly | node | nodesFile | explain | verbose =>
        exact ⟨builder_eq, labelFilters_eq, filterFiles_eq, readable⟩

/-- A piece that takes effect adds its filters behind those that were taken in before. -/
theorem step (taken_in : TakenIn files options progress) {item : Item}
    (took : progress.step files item = (after, none)) :
    TakenIn files (options ++ item.filterOption?.toList) after := by
  cases found : item.filterOption? with
  | none =>
      have kept := taken_in.step_other found
      rw [took] at kept
      simpa using kept
  | some option =>
      obtain ⟨value, rfl, value_eq⟩ := exists_of_filterOption? found
      cases option with
      | label filter =>
          obtain rfl : filter = value.getD "" := value_eq
          obtain ⟨rfl, -⟩ := Prod.mk.inj took
          exact taken_in.addLabel rfl rfl
      | file name =>
          obtain rfl : name = value.getD "" := value_eq
          rcases Progress.addSource_cases took with
            ⟨builder, added, -, rfl, settings_eq⟩ | ⟨error, -, ended, -⟩
          · exact taken_in.addFile added settings_eq
          · cases ended

/-- A piece that ends the command line adds nothing. -/
theorem step_ended (taken_in : TakenIn files options progress) {item : Item} {ending : Ending}
    (ended : progress.step files item = (after, some ending)) : TakenIn files options after := by
  cases found : item.filterOption? with
  | none =>
      have kept := taken_in.step_other found
      rw [ended] at kept
      exact kept
  | some option =>
      obtain ⟨value, rfl, -⟩ := exists_of_filterOption? found
      cases option with
      | label filter => cases (Prod.mk.inj ended).2
      | file name =>
          rcases Progress.addSource_cases ended with
            ⟨builder, -, took, -⟩ | ⟨error, -, -, builder_eq, settings_eq⟩
          · cases took
          · obtain ⟨held, labelFilters_eq, filterFiles_eq, readable⟩ := taken_in
            exact ⟨builder_eq.trans held, settings_eq ▸ labelFilters_eq,
              settings_eq ▸ filterFiles_eq, readable⟩

/-- Pieces that all take effect add their filters in order. -/
theorem run {items : List Item} (taken_in : TakenIn files options progress)
    (took : progress.run files items = (after, none)) :
    TakenIn files (options ++ filterOptions items) after := by
  induction items generalizing options progress with
  | nil =>
      obtain ⟨rfl, -⟩ := Prod.mk.inj took
      simpa [filterOptions] using taken_in
  | cons item rest induction =>
      rw [Progress.run] at took
      split at took
      · rename_i middle stepped
        have whole := induction (taken_in.step stepped) took
        rwa [List.append_assoc, ← filterOptions_cons] at whole
      · cases (Prod.mk.inj took).2

/-- Pieces that do not all take effect add the filters in front of the one that ends them. -/
theorem run_ended {items : List Item} {ending : Ending} (taken_in : TakenIn files options progress)
    (ended : progress.run files items = (after, some ending)) :
    ∃ before item behind, items = before ++ item :: behind ∧
      (∀ other ∈ before, other.ending files = none) ∧ item.ending files = some ending ∧
      TakenIn files (options ++ filterOptions before) after := by
  obtain ⟨before, item, behind, middle, items_eq, took, ends⟩ :=
    Progress.exists_step_of_run_ended ended
  refine ⟨before, item, behind, items_eq, ?_, ?_, (taken_in.run took).step_ended ends⟩
  · exact (Progress.run_eq_none_iff files progress before).mp (by rw [took])
  · rw [← Progress.step_ending files middle item, ends]

end TakenIn

/-- What is left of a command line when it ends early: the piece that ends it is in front, or there
is nothing left and it is refused as a whole. -/
inductive StoppedAt (files : Files) (ending : Ending) : List Item → Prop where
  | piece {item : Item} {rest : List Item} (ends : item.ending files = some ending) :
    StoppedAt files ending (item :: rest)
  | refused {error : UsageError} (refusal : ending = .usage error) : StoppedAt files ending []

/-- If the arguments interleave some options for filters with anything else, the pieces of the
command line hold these options in order. A command line that is accepted leaves all of them in the
builder and in the settings; one that ends early leaves those in front of the piece that ended
it. -/
theorem parse_interleaved {files : Files} {options : List FilterOption} {arguments : List String}
    (interleaves : Interleaves options arguments) :
    (Reading.ofArguments Switch.all arguments).Begins options ∧
    ((parse files arguments).ending = none →
      TakenIn files options (parse files arguments).progress) ∧
    ∀ ending, (parse files arguments).ending = some ending →
      ∃ before behind, itemsOf arguments = before ++ behind ∧
        (∀ item ∈ before, item.ending files = none) ∧ StoppedAt files ending behind ∧
        TakenIn files (filterOptions before) (parse files arguments).progress := by
  have begins := interleaves.begins
  rw [itemsOf, parse]
  generalize Reading.ofArguments Switch.all arguments = reading at begins ⊢
  refine ⟨begins, ?_⟩
  split
  · rename_i progress found ended
    constructor
    · intro accepted
      cases accepted
    · intro ending same
      obtain rfl := Option.some.inj same
      obtain ⟨before, item, behind, items_eq, pass, ends, taken_in⟩ :=
        (TakenIn.nil files).run_ended ended
      exact ⟨before, item :: behind, items_eq, pass, .piece ends, taken_in⟩
  · rename_i progress took
    have taken_in := (TakenIn.nil files).run took
    rw [List.nil_append] at taken_in
    constructor
    · intro accepted
      have read_whole : reading.error = none := by
        cases failed : reading.error with
        | none => rfl
        | some error => simp [failed, finalEnding] at accepted
      rwa [begins.complete read_whole] at taken_in
    · intro ending ended
      have pass := (Progress.run_eq_none_iff files {} reading.items).mp (by rw [took])
      refine ⟨reading.items, [], (List.append_nil _).symm, pass, ?_, taken_in⟩
      simp only at ended
      unfold finalEnding at ended
      split at ended
      · exact .refused (Option.some.inj ended).symm
      · cases ended
      · exact .refused (Option.some.inj ended).symm

/-- A filter under an abbreviated name, a file behind a flag in one word, and a filter that starts
with a minus sign. -/
theorem parse_interleaved_threeSpellings :
    (parse (everywhere "/Company") ["--label-f=>Person", "-n", "Person", "-xFfilters",
      "-l-City"]).ending = none ∧
    TakenIn (everywhere "/Company") [.label ">Person", .file "filters", .label "-City"]
      (parse (everywhere "/Company") ["--label-f=>Person", "-n", "Person", "-xFfilters",
        "-l-City"]).progress := by
  have name : (FilterOption.label ">Person").switch.LongName "--label-f" := .inr (by decide)
  have flag : ∀ flag ∈ [Switch.explain], flag.takesValue = false := by decide
  have no_flag : ∀ flag ∈ ([] : List Switch), flag.takesValue = false := by decide
  have abbreviated : (FilterOption.label ">Person").Spelling ["--label-f=>Person"] :=
    .longAttached name (by decide)
  have clustered : (FilterOption.file "filters").Spelling ["-xFfilters"] :=
    .shortAttached flag (by decide) (by decide)
  have attached : (FilterOption.label "-City").Spelling ["-l-City"] :=
    .shortAttached no_flag (by decide) (by decide)
  have interleaves : Interleaves [.label ">Person", .file "filters", .label "-City"]
      ["--label-f=>Person", "-n", "Person", "-xFfilters", "-l-City"] :=
    .filter abbreviated (.other (by decide) (by decide +kernel)
      (.other (by decide) (by decide +kernel) (.filter clustered (.filter attached .nil))))
  have accepted : (parse (everywhere "/Company") ["--label-f=>Person", "-n", "Person",
      "-xFfilters", "-l-City"]).ending = none := by
    decide +kernel
  exact ⟨accepted, (parse_interleaved interleaves).2.1 accepted⟩

end WalkFilter.CommandLine
