import Mathlib.Data.List.Forall2
import WalkFilter.Proofs.CommandLine.Reported
import WalkFilter.Proofs.CommandLine.Scan
import WalkFilter.Proofs.CommandLine.Spelling
import WalkFilter.Proofs.Filter.Verdict
import WalkFilter.Proofs.Report.Lines

/-!
# The limit to end nodes

The limit to end nodes and terminators leaves the walk alone: it goes on past the same nodes, and of
the results those are kept that carry an end node or a terminator. The switch for the limit can
stand wherever a switch can. The run then ends in the same way, and a report has the same rows but
for the results that the limit takes away.
-/

namespace WalkFilter

/-! ## The limit of a group -/

namespace Group

/-- The group with the limit to end nodes and terminators. -/
def limit (group : Group) : Group := { group with endNodesOnly := true }

variable {group : Group} {labels : List String}

/-- The results of a group that has the limit carry an end node or a terminator. -/
theorem hits_of_includes (limits : group.endNodesOnly = true) {belowMinLevel : Bool}
    (result : (group.evaluate labels belowMinLevel).includes = true) :
    group.patterns.terminator.hits labels = true ∨ group.patterns.endNode.hits labels = true := by
  rw [evaluate_eq_verdict, includes_verdict_iff, limits] at result
  have decided : group.rule labels = 2 ∨ group.rule labels = 3 := by simpa using result.2
  exact (group.rule_of_result labels |>.mp decided).2

/-- Past a node the walk goes on with the limit as it does without, and the node is a result if it
was one and carries an end node or a terminator. -/
theorem evaluate_limit (group : Group) (labels : List String) (belowMinLevel : Bool) :
    (group.limit.evaluate labels belowMinLevel).continues =
        (group.evaluate labels belowMinLevel).continues ∧
      ((group.limit.evaluate labels belowMinLevel).includes = true ↔
        (group.evaluate labels belowMinLevel).includes = true ∧
          (group.patterns.terminator.hits labels = true ∨
            group.patterns.endNode.hits labels = true)) := by
  have same : group.limit.rule labels = group.rule labels := rfl
  obtain ⟨continues, includes⟩ := evaluate_of_limited same rfl belowMinLevel
  refine ⟨continues, includes.trans (and_congr_right fun result => ?_)⟩
  constructor
  · rintro (limits | carried)
    · exact hits_of_includes limits result
    · exact carried
  · exact .inr

end Group

/-- What the limit makes of a row of a report, given the patterns of the group. -/
structure LimitedRow (patterns : ByOperator Patterns) (row limited : Evaluation) : Prop where
  /-- The row is about the same node. -/
  sample : limited.sample = row.sample
  /-- The node is below the minimum level as before. -/
  belowMinLevel : limited.belowMinLevel = row.belowMinLevel
  /-- The walk goes on as before. -/
  continues : limited.decision.continues = row.decision.continues
  /-- Of the results those are kept that carry an end node or a terminator. -/
  includes : limited.decision.includes = true ↔ row.decision.includes = true ∧
    (patterns.terminator.hits row.sample.labels.toList = true ∨
      patterns.endNode.hits row.sample.labels.toList = true)

theorem Group.evaluateSamples_limit (group : Group) (minLevel : Option Int)
    (samples : List Sample) :
    List.Forall₂ (LimitedRow group.patterns) (group.evaluateSamples minLevel samples)
      (group.limit.evaluateSamples minLevel samples) := by
  rw [evaluateSamples, evaluateSamples, List.forall₂_map_left_iff, List.forall₂_map_right_iff,
    List.forall₂_same]
  intro sample _
  obtain ⟨continues, includes⟩ := group.evaluate_limit sample.labels.toList
    (minLevel.any (isBelow sample.depth ·))
  exact ⟨rfl, rfl, continues, includes⟩

namespace CommandLine

/-! ## The limit in the settings -/

/-- The settings with the limit to end nodes and terminators. -/
def Settings.limit (settings : Settings) : Settings := { settings with endNodesOnly := true }

namespace Progress

/-- The same progress with the limit in its settings. -/
def limit (progress : Progress) : Progress := progress.modifySettings Settings.limit

@[simp]
theorem settings_limit (progress : Progress) : progress.limit.settings = progress.settings.limit :=
  rfl

@[simp]
theorem builder_limit (progress : Progress) : progress.limit.builder = progress.builder := rfl

variable (files : Files) (progress : Progress)

/-- No piece looks at the limit. -/
theorem step_limit (item : Item) : progress.limit.step files item =
    ((progress.step files item).1.limit, (progress.step files item).2) := by
  cases item with
  | extra argument => rfl
  | use switch value =>
      cases switch
      case labelFilter | filterFile =>
        simp only [step, use, addSource, builder_limit]
        split <;> rfl
      case depth | minLevel =>
        simp only [step, use, setInteger]
        split <;> rfl
      case format =>
        simp only [step, use]
        split <;> rfl
      case help | version | endNodesOnly | node | nodesFile | explain | verbose => rfl

theorem run_limit (items : List Item) : progress.limit.run files items =
    ((progress.run files items).1.limit, (progress.run files items).2) := by
  induction items generalizing progress with
  | nil => rfl
  | cons item rest induction =>
      rw [run, run, step_limit]
      rcases progress.step files item with ⟨next, _ | ending⟩
      · exact induction next
      · rfl

/-- With the switch for the limit among them, pieces end in the same way, and if they all take
effect, the limit is all that the switch adds. -/
theorem run_insert (front back : List Item) :
    (progress.run files (front ++ .use .endNodesOnly none :: back)).2 =
        (progress.run files (front ++ back)).2 ∧
      ((progress.run files (front ++ back)).2 = none →
        (progress.run files (front ++ .use .endNodesOnly none :: back)).1 =
          (progress.run files (front ++ back)).1.limit) := by
  induction front generalizing progress with
  | nil =>
      have limited : progress.run files (.use .endNodesOnly none :: back) =
          ((progress.run files back).1.limit, (progress.run files back).2) :=
        run_limit files progress back
      rw [List.nil_append, List.nil_append, limited]
      exact ⟨rfl, fun _ => rfl⟩
  | cons item rest induction =>
      rw [List.cons_append, List.cons_append, run, run]
      rcases progress.step files item with ⟨next, _ | ending⟩
      · exact induction next
      · exact ⟨rfl, fun took => by cases took⟩

end Progress

/-! ## The switch for the limit on the command line -/

/-- In front of the mark that ends the switches, arguments are sorted one after the other. -/
theorem words_append {known : List Switch} {before : List String} (no_mark : "--" ∉ before)
    (behind : List String) :
    words known (before ++ behind) =
      (words known before).bind fun front => (words known behind).map (front ++ ·) := by
  induction before with
  | nil =>
      rw [List.nil_append]
      cases words known behind <;> rfl
  | cons argument rest induction =>
      rw [List.mem_cons, not_or] at no_mark
      obtain ⟨not_mark, rest_no_mark⟩ := no_mark
      rw [List.cons_append, words, words, if_neg (Ne.symm not_mark), if_neg (Ne.symm not_mark),
        induction rest_no_mark]
      cases sort known argument with
      | error error => rfl
      | ok first =>
          cases words known rest with
          | error error => rfl
          | ok front => cases words known behind <;> rfl

namespace Reading

theorem addItems_addItems (front items : List Item) (reading : Reading) :
    (reading.addItems items).addItems front = reading.addItems (front ++ items) := by
  simp [addItems]

/-- Behind words that can be read to their end, reading starts anew. -/
theorem ofWords_append {known : List Switch} {front : List Word}
    (complete : (ofWords known front).error = none) (back : List Word) :
    ofWords known (front ++ back) = (ofWords known back).addItems (ofWords known front).items := by
  fun_induction ofWords known front with
  | case1 => rfl
  | case2 text rest induction | case3 text rest induction | case4 rest induction =>
      rw [List.cons_append, ofWords, induction complete, addItems_addItems]
      rfl
  | case5 => cases complete
  | case6 switch long attached cluster read needs value rest induction =>
      rw [List.cons_append, List.cons_append, ofWords, read]
      simp only [if_pos needs]
      rw [induction complete, addItems_addItems]
      rfl
  | case7 => cases complete
  | case8 switch long attached rest cluster read satisfied induction =>
      rw [List.cons_append, ofWords, read]
      simp only [if_neg satisfied]
      rw [induction complete, addItems_addItems]
      rfl

theorem ofWords_limit (known : List Switch) (long : Bool) (back : List Word) :
    ofWords known (.switch .endNodesOnly long none :: back) =
      (ofWords known back).addItems [.use .endNodesOnly none] := by
  rw [ofWords]
  rfl

/-- The scan for verbosity passes over a word that names no switch. -/
theorem ofWords_insert_inert {front : List Word}
    (all_verbose : ∀ switch long attached, .switch switch long attached ∈ front →
      switch = .verbose)
    {word : Word} (inert : word.inert = true) (back : List Word) :
    (ofWords [.verbose] (front ++ word :: back)).error =
        (ofWords [.verbose] (front ++ back)).error ∧
      (.use .verbose none ∈ (ofWords [.verbose] (front ++ word :: back)).items ↔
        .use .verbose none ∈ (ofWords [.verbose] (front ++ back)).items) := by
  induction front with
  | nil =>
      cases word with
      | plain | unknown | endOfSwitches => simp [ofWords, addItems]
      | switch => cases inert
  | cons first rest induction =>
      have behind := induction fun switch long attached member =>
        all_verbose switch long attached (.tail _ member)
      cases first with
      | plain | unknown | endOfSwitches => simpa [ofWords, addItems] using behind
      | switch first long attached =>
          obtain rfl := all_verbose first long attached List.mem_cons_self
          rw [List.cons_append, List.cons_append, ofWords, ofWords]
          cases read : Cluster.ofWord [.verbose] .verbose long attached with
          | error error => exact ⟨rfl, .rfl⟩
          | ok cluster =>
              have satisfied := Cluster.satisfied_of_flags (by simp [Switch.takesValue]) rfl read
              simp [satisfied, addItems, behind]

end Reading

/-- The text is a spelling of the switch without a value. -/
def Switch.NamedBy (switch : Switch) (text : String) : Prop :=
  text = switch.short ∨ switch.LongName text

theorem Switch.NamedBy.sort {switch : Switch} {text : String} (named : switch.NamedBy text) :
    ∃ long, CommandLine.sort Switch.all text = .ok (.switch switch long none) := by
  rcases named with rfl | long
  · exact ⟨false, sort_short switch⟩
  · exact ⟨true, sort_longName long⟩

theorem Switch.NamedBy.ne_mark {switch : Switch} {text : String} (named : switch.NamedBy text) :
    text ≠ "--" := by
  rcases named with rfl | long
  · cases switch <;> decide
  · exact long.ne_mark

section

variable {before : List String} {flag : String} (named : Switch.endNodesOnly.NamedBy flag)
  (no_mark : "--" ∉ before)

/-- An argument that is not the mark is put into the words at its place. -/
theorem words_insert {known : List Switch} {argument : String} {word : Word}
    (not_mark : argument ≠ "--") (sorts : sort known argument = .ok word)
    (no_mark : "--" ∉ before) (behind : List String) :
    words known (before ++ argument :: behind) =
      (words known before).bind fun front =>
        (words known behind).map fun back => front ++ word :: back := by
  rw [words_append no_mark, words, if_neg not_mark, sorts]
  cases words known before with
  | error error => rfl
  | ok front => cases words known behind <;> rfl

include named no_mark

/-- With the switch for the limit put in, the same pieces are read, and the switch among them. -/
theorem Reading.ofArguments_insert
    (complete : (ofArguments Switch.all before).error = none) (behind : List String) :
    (∃ error, ofArguments Switch.all (before ++ behind) = ⟨[], some error⟩ ∧
        ofArguments Switch.all (before ++ flag :: behind) = ⟨[], some error⟩) ∨
      ∃ items reading, ofArguments Switch.all (before ++ behind) = addItems items reading ∧
        ofArguments Switch.all (before ++ flag :: behind) =
          (addItems [.use .endNodesOnly none] reading).addItems items := by
  obtain ⟨long, sorts⟩ := named.sort
  rw [ofArguments, ofArguments, words_append no_mark, words_insert named.ne_mark sorts no_mark]
  rw [ofArguments] at complete
  cases sorted : words Switch.all before with
  | error error =>
      rw [sorted] at complete
      cases complete
  | ok front =>
      rw [sorted] at complete
      cases words Switch.all behind with
      | error error => exact .inl ⟨error, rfl, rfl⟩
      | ok back =>
          refine .inr ⟨(ofWords Switch.all front).items, ofWords Switch.all back, ?_, ?_⟩
          · exact ofWords_append complete back
          · rw [← ofWords_limit]
            exact ofWords_append complete _

/-- The switch for the limit is nothing to the scan for verbosity. -/
theorem wantsRecords_insert (complete : (Reading.ofArguments Switch.all before).error = none)
    (behind : List String) :
    wantsRecords (before ++ flag :: behind) = wantsRecords (before ++ behind) := by
  obtain ⟨long, sorts⟩ := named.sort
  obtain ⟨word, word_sorts, word_seen⟩ := sort_seen sorts
  have inert : word.inert = true := by simpa [Word.SeenAs, Word.asksRecords] using word_seen
  cases sorted : words Switch.all before with
  | error error => simp [Reading.ofArguments, sorted] at complete
  | ok full =>
      obtain ⟨front, front_sorts, sees⟩ := words_seen sorted
      have all_verbose : ∀ switch long attached, .switch switch long attached ∈ front →
          switch = .verbose := fun switch long attached member => ((mem_seen_iff sees).mp member).1
      rw [wantsRecords, wantsRecords, Reading.ofArguments, Reading.ofArguments,
        words_insert named.ne_mark word_sorts no_mark, words_append no_mark, front_sorts]
      cases words [.verbose] behind with
      | error error => rfl
      | ok back =>
          obtain ⟨error_eq, mem_iff⟩ := Reading.ofWords_insert_inert all_verbose inert back
          simp only [Except.bind, Except.map, error_eq, List.contains_eq_mem, mem_iff]

end

/-- Reading goes on as before. -/
theorem parse_insert (files : Files) {before : List String} {flag : String}
    (named : Switch.endNodesOnly.NamedBy flag) (no_mark : "--" ∉ before)
    (complete : (Reading.ofArguments Switch.all before).error = none) (behind : List String) :
    (parse files (before ++ flag :: behind)).ending = (parse files (before ++ behind)).ending ∧
      ((parse files (before ++ behind)).ending = none →
        (parse files (before ++ flag :: behind)).progress =
          (parse files (before ++ behind)).progress.limit) := by
  rw [parse, parse]
  rcases Reading.ofArguments_insert named no_mark complete behind with
    ⟨error, plain, limited⟩ | ⟨items, reading, plain, limited⟩
  · rw [plain, limited]
    exact ⟨rfl, fun accepted => by cases accepted⟩
  · rw [plain, limited]
    obtain ⟨ending_eq, progress_eq⟩ := Progress.run_insert files {} items reading.items
    simp only [Reading.addItems, List.singleton_append]
    generalize ({} : Progress).run files (items ++ .use .endNodesOnly none :: reading.items) =
      limited_run at ending_eq progress_eq ⊢
    generalize ({} : Progress).run files (items ++ reading.items) = plain_run
      at ending_eq progress_eq ⊢
    obtain ⟨progress, ending⟩ := plain_run
    obtain ⟨limited_progress, limited_ending⟩ := limited_run
    obtain rfl : limited_ending = ending := ending_eq
    cases limited_ending with
    | none =>
        obtain rfl : limited_progress = progress.limit := progress_eq rfl
        exact ⟨rfl, fun _ => rfl⟩
    | some ending => exact ⟨rfl, fun accepted => by cases accepted⟩

/-! ## Runs with and without the limit -/

/-- The group that a command line makes. -/
def Parsed.group (parsed : Parsed) : Group :=
  parsed.progress.settings.group parsed.progress.builder

/-- A run over these files prints a report on the samples. -/
structure ReportsOn (files : Files) (arguments : List String) (samples : List Sample) : Prop where
  /-- The scan for verbosity lets the command line pass. -/
  scanned : ∃ verbose, wantsRecords arguments = .ok verbose
  /-- The command line is accepted. -/
  accepted : (parse files arguments).ending = none
  /-- The settings make sense together. -/
  valid : (parse files arguments).progress.settings.validate = .ok ()
  /-- The samples are those to report on. -/
  read : (parse files arguments).progress.settings.samples files = .ok samples

/-- How a run and the run with the limit are related. -/
inductive LimitedRun (files : Files) (channel : Channel) (arguments : List String) :
    (plain limited : Outcome) → Prop where
  /-- There is no report, and the exit code and the text on standard output are the same. -/
  | unreported {plain limited : Outcome} (no_report : ∀ samples, ¬ReportsOn files arguments samples)
    (exitCode : limited.exitCode = plain.exitCode) (stdout : limited.stdout = plain.stdout) :
    LimitedRun files channel arguments plain limited
  /-- There are two reports on the same samples, both are written or neither can be encoded, and the
  limit only takes results away. -/
  | reported {samples : List Sample} (log limited_log : String)
    (reports : ReportsOn files arguments samples)
    (exitCode : (writeReport channel limited_log ((parse files arguments).progress.settings.report
        (parse files arguments).group.limit samples)).exitCode =
      (writeReport channel log ((parse files arguments).progress.settings.report
        (parse files arguments).group samples)).exitCode)
    (rows : List.Forall₂ (LimitedRow (parse files arguments).group.patterns)
      ((parse files arguments).group.evaluateSamples
        (some (parse files arguments).progress.settings.minLevel) samples)
      ((parse files arguments).group.limit.evaluateSamples
        (some (parse files arguments).progress.settings.minLevel) samples)) :
    LimitedRun files channel arguments
      (writeReport channel log
        ((parse files arguments).progress.settings.report (parse files arguments).group samples))
      (writeReport channel limited_log
        ((parse files arguments).progress.settings.report (parse files arguments).group.limit
          samples))

/-- Whether a report can be encoded does not depend on the group, but only on the labels of the
nodes, and only in a text report. -/
theorem Settings.whole_report_iff (settings : Settings) (group : Group) (samples : List Sample) :
    CodePoint.Whole (settings.report group samples) ↔
      (settings.format = .text → ∀ sample ∈ samples, ∀ label ∈ sample.labels.texts.toList,
        CodePoint.Whole label.points) := by
  have filter_whole : CodePoint.Whole
      (if settings.explain then Report.describeFilter settings.format group else []) := by
    split
    · cases settings.format with
      | text => exact Report.whole_filterText Report.Drawing.isFaithful_barred group
      | json => exact CodePoint.whole_codePoints _
    · exact List.forall_mem_nil _
  rw [Settings.report, CodePoint.whole_append, and_iff_right filter_whole]
  cases settings.format with
  | json => simp [Report.describeEvaluations]
  | text =>
      rw [Report.describeEvaluations,
        Report.whole_evaluationsText_iff Report.Drawing.isFaithful_barred]
      simp only [Report.shownLabels, Report.labelPoints, Group.evaluateSamples,
        List.forall_mem_flatMap, List.forall_mem_map, true_implies]
      rfl

theorem Settings.whole_report_congr (settings : Settings) (group other : Group)
    (samples : List Sample) :
    CodePoint.Whole (settings.report group samples) ↔
      CodePoint.Whole (settings.report other samples) := by
  rw [whole_report_iff, whole_report_iff]

/-- Reports that can both be encoded, or neither, are written with the same exit code. -/
theorem exitCode_writeReport {left right : List CodePoint}
    (same : CodePoint.Whole left ↔ CodePoint.Whole right) (channel : Channel)
    (log other_log : String) :
    (writeReport channel log left).exitCode = (writeReport channel other_log right).exitCode := by
  rw [CodePoint.whole_iff, CodePoint.whole_iff] at same
  cases left_encoded : CodePoint.encode left <;> cases right_encoded : CodePoint.encode right <;>
    cases channel <;> simp_all [writeReport]

theorem Settings.group_limit (settings : Settings) (builder : Builder) :
    settings.limit.group builder = (settings.group builder).limit := by
  have limited : settings.limit.group builder = (builder.setEndNodesOnly true).build := rfl
  rw [limited, group]
  split <;> rfl

/-- With the limit the work fails in the same way, or reports on the group with the limit. -/
theorem Settings.perform_limit (files : Files) (settings : Settings) (builder : Builder) :
    (settings.limit.perform files builder).2 =
      settings.validate.bind fun _ =>
        match settings.samples files with
        | .error error => .error (.nodes error)
        | .ok samples => .ok (settings.report (settings.group builder).limit samples) := by
  rw [perform_result, group_limit]
  rfl

/-- Runs are related if the scan for verbosity says the same and reading leads to the same, but for
the limit. -/
theorem limitedRun_of_parse {files : Files} {channel : Channel} {arguments limited : List String}
    (scan : wantsRecords limited = wantsRecords arguments)
    (ending : (parse files limited).ending = (parse files arguments).ending)
    (progress : (parse files arguments).ending = none →
      (parse files limited).progress = (parse files arguments).progress.limit) :
    LimitedRun files channel arguments (run files channel arguments)
      (run files channel limited) := by
  cases scanned : wantsRecords arguments with
  | error error =>
      have no_report : ∀ samples, ¬ReportsOn files arguments samples := by
        intro samples reports
        obtain ⟨verbose, passed⟩ := reports.scanned
        rw [scanned] at passed
        cases passed
      exact .unreported no_report (by simp [run, scan, scanned]) (by simp [run, scan, scanned])
  | ok verbose =>
      cases ended : (parse files arguments).ending with
      | some found =>
          have no_report : ∀ samples, ¬ReportsOn files arguments samples := by
            intro samples reports
            rw [reports.accepted] at ended
            cases ended
          rw [run, run, scan, scanned]
          simp only [runParsed, ending, ended]
          cases found <;> cases channel <;> exact .unreported no_report rfl rfl
      | none =>
          obtain ⟨log, plain_eq⟩ := exists_log_of_accepted scanned ended channel
          obtain ⟨limited_log, limited_eq⟩ :=
            exists_log_of_accepted (scan.trans scanned) (ending.trans ended) channel
          rw [Settings.perform_result] at plain_eq
          rw [progress ended, Progress.settings_limit, Progress.builder_limit,
            Settings.perform_limit] at limited_eq
          rw [plain_eq, limited_eq]
          cases valid : (parse files arguments).progress.settings.validate with
          | error error =>
              refine .unreported (fun samples reports => ?_) rfl rfl
              rw [reports.valid] at valid
              cases valid
          | ok _ =>
              cases read : (parse files arguments).progress.settings.samples files with
              | error error =>
                  refine .unreported (fun samples reports => ?_) rfl rfl
                  rw [reports.read] at read
                  cases read
              | ok samples =>
                  have encodable := (parse files arguments).progress.settings.whole_report_congr
                    (parse files arguments).group.limit (parse files arguments).group samples
                  exact .reported log limited_log ⟨⟨verbose, scanned⟩, ended, valid, read⟩
                    (exitCode_writeReport encodable channel limited_log log)
                    (Group.evaluateSamples_limit _ _ samples)

/-- The limit never alters the walk. Of one builder, the group with the limit lets the walk go on
past the same nodes as the group without it, and of the results it keeps those that carry an end
node or a terminator. On a command line the switch for the limit can be put in wherever a switch can
stand, and all that changes in the report is that results without an end node or a terminator are
results no longer. -/
theorem limit_keeps_walk :
    (∀ (builder : Builder) (labels : List String) (belowMinLevel : Bool),
      let plain := (builder.setEndNodesOnly false).build
      let limited := (builder.setEndNodesOnly true).build
      (limited.evaluate labels belowMinLevel).continues =
          (plain.evaluate labels belowMinLevel).continues ∧
        ((limited.evaluate labels belowMinLevel).includes = true ↔
          (plain.evaluate labels belowMinLevel).includes = true ∧
            (plain.patterns.terminator.hits labels = true ∨
              plain.patterns.endNode.hits labels = true))) ∧
    ∀ (files : Files) (channel : Channel) (before behind : List String) (flag : String),
      Switch.endNodesOnly.NamedBy flag → "--" ∉ before →
      (Reading.ofArguments Switch.all before).error = none →
      LimitedRun files channel (before ++ behind) (run files channel (before ++ behind))
        (run files channel (before ++ flag :: behind)) := by
  refine ⟨fun builder => (builder.setEndNodesOnly false).build.evaluate_limit, ?_⟩
  intro files channel before behind flag named no_mark complete
  obtain ⟨ending, progress⟩ := parse_insert files named no_mark complete behind
  exact limitedRun_of_parse (wantsRecords_insert named no_mark complete behind) ending progress

/-- The switch for the limit between a node and a filter that names no end node. -/
theorem limit_keeps_walk_betweenNodeAndFilter :
    Switch.endNodesOnly.NamedBy "-E" ∧ "--" ∉ ["-n", "Person"] ∧
      (Reading.ofArguments Switch.all ["-n", "Person"]).error = none ∧
      LimitedRun (fun _ => .missing) .working ["-n", "Person", "-l", "+Person|-City"]
        (run (fun _ => .missing) .working ["-n", "Person", "-l", "+Person|-City"])
        (run (fun _ => .missing) .working ["-n", "Person", "-E", "-l", "+Person|-City"]) := by
  have named : Switch.endNodesOnly.NamedBy "-E" := .inl (by decide)
  have no_mark : "--" ∉ ["-n", "Person"] := by decide
  have complete : (Reading.ofArguments Switch.all ["-n", "Person"]).error = none := by
    decide +kernel
  exact ⟨named, no_mark, complete, limit_keeps_walk.2 (fun _ => .missing) .working ["-n", "Person"]
    ["-l", "+Person|-City"] "-E" named no_mark complete⟩

end CommandLine

end WalkFilter
