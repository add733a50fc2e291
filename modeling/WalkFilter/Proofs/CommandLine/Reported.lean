import WalkFilter.Proofs.CommandLine.Course
import WalkFilter.Proofs.Json.FewDigits
import WalkFilter.Proofs.Node.Acceptance
import WalkFilter.Proofs.Report.Request

/-!
# What a command line asks to report

What a report is asked for can be read off the pieces of the command line: nodes given inline come
first, then those of the file named last, and the filter has the tokens of all filters. This file
shows that the work behind the settings makes the report on this request, or says what fails first.
-/

namespace WalkFilter

/-- The labels listed between commas are those between the commas. -/
theorem NodeLabels.ofList_labelList (text : String) :
    NodeLabels.ofList (labelList text).toList =
      .ofTexts ((Raw.labelsBetweenCommas text).map CodeText.ofString) := by
  refine congrArg NodeLabels.mk (LabelSet.eq_of_mem_iff fun label => ?_)
  have listed (other : String) :
      other ∈ (labelList text).toList ↔ other ∈ Raw.labelsBetweenCommas text := by
    rw [labelList_eq_ofList]
    exact LabelSet.mem_ofList
  simp only [LabelSet.mem_ofList, List.mem_map, listed]

/-- A depth that stands on a line has few digits, and so has the default. -/
theorem Raw.Node.OfLine.hasFewDigits {default : Int} {line : String} {node : Raw.Node}
    (described : node.OfLine default line) (default_few : Json.HasFewDigits default) :
    Json.HasFewDigits node.depth := by
  obtain ⟨members, parsed, of_members⟩ := described
  rcases of_members.depth with given | ⟨-, depth_eq⟩
  · obtain ⟨before, after, rfl, -⟩ := Json.member?_eq_some_iff.mp given
    cases Json.fits_of_parse parsed with
    | object fit =>
        cases fit ("depth", .integer node.depth) (by simp) with
        | integer few => exact few
  · rw [depth_eq]
    exact default_few

theorem Raw.InFile.hasFewDigits {files : Files} {default : Int} {path : Path}
    {nodes : List Raw.Node} (in_file : Raw.InFile files default path nodes)
    (default_few : Json.HasFewDigits default) :
    ∀ node ∈ nodes, Json.HasFewDigits node.depth := by
  obtain ⟨lines, -, described⟩ := in_file
  intro node member
  obtain ⟨line, of_line⟩ := exists_of_mem_of_forall₂ described.flip member
  exact Raw.Node.OfLine.hasFewDigits of_line default_few

namespace CommandLine

/-- The depth of nodes that give none. -/
def depthOf (items : List Item) : Int := lastRead Text.integer? (valuesOf .depth items) 0

/-- The least depth of a result. -/
def minLevelOf (items : List Item) : Int := lastRead Text.integer? (valuesOf .minLevel items) 0

/-- Results are limited by a switch or by a token. -/
def restrictedOf (files : Files) (items : List Item) : Bool :=
  given .endNodesOnly items || Raw.restricts (tokensOf files items)

/-- The nodes given inline. -/
def inlineNodes (items : List Item) : List Raw.Node :=
  (valuesOf .node items).map fun value =>
    ⟨(Raw.labelsBetweenCommas value).map CodeText.ofString, depthOf items⟩

/-- The nodes of the file named last, or none if no file is named. -/
def FileNodes (files : Files) (items : List Item) (nodes : List Raw.Node) : Prop :=
  match (valuesOf .nodesFile items).getLast? with
  | none => nodes = []
  | some name => Raw.InFile files (depthOf items) (Path.ofText name) nodes

/-- What the pieces ask to report if the file named last holds the nodes. -/
def requestOf (files : Files) (items : List Item) (fileNodes : List Raw.Node) : Raw.Request where
  tokens := tokensOf files items
  restricted := restrictedOf files items
  minLevel := minLevelOf items
  explained := given .explain items
  nodes := inlineNodes items ++ fileNodes

/-- The format given last, or text if none is given. -/
def formatOf (items : List Item) : Format :=
  if (valuesOf .format items).getLast? = some "json" then .json else .text

theorem hasFewDigits_depthOf (items : List Item) : Json.HasFewDigits (depthOf items) := by
  rw [depthOf, lastRead]
  cases read : (valuesOf .depth items).getLast?.bind Text.integer? with
  | none => decide
  | some depth =>
      obtain ⟨value, -, value_read⟩ := Option.bind_eq_some_iff.mp read
      exact Text.hasFewDigits_of_integer? value_read

theorem hasFewDigits_of_fileNodes {files : Files} {items : List Item} {fileNodes : List Raw.Node}
    (in_file : FileNodes files items fileNodes) :
    ∀ node ∈ inlineNodes items ++ fileNodes, Json.HasFewDigits node.depth := by
  have depth_few := hasFewDigits_depthOf items
  refine List.forall_mem_append.mpr ⟨List.forall_mem_map.mpr fun _ _ => depth_few, ?_⟩
  unfold FileNodes at in_file
  split at in_file
  · rw [in_file]
    exact List.forall_mem_nil _
  · exact Raw.InFile.hasFewDigits in_file depth_few

namespace Settings

variable {files : Files} {settings : Settings} {builder : Builder}

/-- The work behind the settings comes to a report if they make sense together and the samples can
be read. -/
theorem perform_result (files : Files) (settings : Settings) (builder : Builder) :
    (settings.perform files builder).2 =
      settings.validate.bind fun _ =>
        match settings.samples files with
        | .error error => .error (.nodes error)
        | .ok samples => .ok (settings.report (settings.group builder) samples) := by
  rw [perform]
  cases settings.validate with
  | error error => rfl
  | ok _ => cases settings.samples files <;> rfl

theorem perform_eq_report {samples : List Sample} (valid : settings.validate = .ok ())
    (read : settings.samples files = .ok samples) :
    (settings.perform files builder).2 =
      .ok (settings.report (settings.group builder) samples) := by
  rw [perform_result, valid, read]
  rfl

theorem perform_eq_ok {report : List CodePoint}
    (performed : (settings.perform files builder).2 = .ok report) :
    settings.validate = .ok () ∧ ∃ samples, settings.samples files = .ok samples ∧
      report = settings.report (settings.group builder) samples := by
  rw [perform_result] at performed
  cases valid : settings.validate with
  | error error =>
      rw [valid] at performed
      cases performed
  | ok _ =>
      cases read : settings.samples files with
      | error reason =>
          rw [valid, read] at performed
          cases performed
      | ok samples =>
          rw [valid, read] at performed
          exact ⟨rfl, samples, rfl, (Except.ok.inj performed).symm⟩

/-- The work fails because the settings make no sense together, or because the nodes cannot be
read. -/
theorem perform_eq_error {error : RunError}
    (failed : (settings.perform files builder).2 = .error error) :
    settings.validate = .error error ∨
      settings.validate = .ok () ∧ ∃ reason, settings.samples files = .error reason ∧
        error = .nodes reason := by
  rw [perform_result] at failed
  cases valid : settings.validate with
  | error found =>
      rw [valid] at failed
      exact .inl (congrArg _ (Except.error.inj failed))
  | ok _ =>
      cases read : settings.samples files with
      | error reason =>
          rw [valid, read] at failed
          exact .inr ⟨rfl, reason, rfl, (Except.error.inj failed).symm⟩
      | ok samples =>
          rw [valid, read] at failed
          cases failed

end Settings

/-- On a command line that is accepted, a run shows what the work behind the settings comes to. -/
theorem exists_log_of_accepted {files : Files} {arguments : List String} {verbose : Bool}
    (scanned : wantsRecords arguments = .ok verbose)
    (accepted : (parse files arguments).ending = none) (channel : Channel) :
    ∃ log, run files channel arguments =
      match ((parse files arguments).progress.settings.perform files
        (parse files arguments).progress.builder).2 with
      | .error error => ⟨1, "", log ++ errorLine error.message⟩
      | .ok report => writeReport channel log report := by
  rw [run, scanned]
  simp only [runParsed, accepted]
  exact ⟨_, rfl⟩

/-- A run whose work is done ends by writing the report. -/
theorem exists_run_eq_writeReport {files : Files} {arguments : List String} {verbose : Bool}
    {report : List CodePoint} (scanned : wantsRecords arguments = .ok verbose)
    (accepted : (parse files arguments).ending = none)
    (performed : ((parse files arguments).progress.settings.perform files
      (parse files arguments).progress.builder).2 = .ok report) (channel : Channel) :
    ∃ log, run files channel arguments = writeReport channel log report := by
  obtain ⟨log, run_eq⟩ := exists_log_of_accepted scanned accepted channel
  rw [performed] at run_eq
  exact ⟨log, run_eq⟩

/-- The code points of a string are written as the string. -/
theorem writeReport_codePoints (log text : String) :
    writeReport .working log (codePoints text) = ⟨0, text, log⟩ := by
  simp only [writeReport, CodePoint.encode_eq_ok_iff.mpr rfl]

/-- A report that is written completely is the code points of a string. -/
theorem exists_text_of_writeReport {channel : Channel} {log : String} {report : List CodePoint}
    (succeeds : (writeReport channel log report).exitCode = 0) :
    channel = .working ∧ ∃ text, report = codePoints text ∧
      writeReport channel log report = ⟨0, text, log⟩ := by
  cases encoded : CodePoint.encode report with
  | error error => simp [writeReport, encoded] at succeeds
  | ok text =>
      cases channel with
      | broken => simp [writeReport, encoded] at succeeds
      | working =>
          obtain rfl := CodePoint.encode_eq_ok_iff.mp encoded
          exact ⟨rfl, text, rfl, writeReport_codePoints log text⟩

namespace Follows

variable {files : Files} {items : List Item} {progress : Progress}

theorem group_holds (follows : Follows files {} items progress) :
    (progress.settings.group progress.builder).Holds (tokensOf files items) := by
  have holds := Builder.holds_build_addTokens (tokensOf files items)
  rw [Settings.group, follows.builder]
  split
  · exact holds
  · exact holds

theorem group_endNodesOnly (follows : Follows files {} items progress) :
    (progress.settings.group progress.builder).endNodesOnly = restrictedOf files items := by
  have collected := Builder.endNodesOnly_addTokens {} (tokensOf files items)
  have flag : progress.settings.endNodesOnly = given .endNodesOnly items := by
    rw [follows.endNodesOnly, Bool.false_or]
  rw [Settings.group, follows.builder, flag, restrictedOf]
  cases given .endNodesOnly items with
  | false => exact collected
  | true => rfl

theorem format_eq (follows : Follows files {} items progress) :
    progress.settings.format = formatOf items := by
  rw [follows.format, lastRead, formatOf]
  cases last : (valuesOf .format items).getLast? with
  | none => rfl
  | some name =>
      have accepted := follows.accepted .format name (List.mem_of_getLast? last)
      obtain ⟨format, named⟩ := Option.isSome_iff_exists.mp accepted
      obtain rfl : format.name = name := by simpa using List.find?_some named
      rw [Option.bind_some, named]
      cases format <;> rfl

/-- The report that the settings make is the one that the pieces ask for. -/
theorem isReport (follows : Follows files {} items progress) {fileNodes : List Raw.Node}
    (in_file : FileNodes files items fileNodes) :
    (requestOf files items fileNodes).IsReport (formatOf items)
      (progress.settings.report (progress.settings.group progress.builder)
        ((inlineNodes items ++ fileNodes).map Raw.Node.sample)) := by
  have served : (requestOf files items fileNodes).IsServedBy
      (progress.settings.group progress.builder) :=
    ⟨follows.group_holds, follows.group_endNodesOnly⟩
  have report := served.isReport (hasFewDigits_of_fileNodes in_file) (formatOf items)
  have explain : progress.settings.explain = given .explain items := by
    rw [follows.explain, Bool.false_or]
  have minLevel : progress.settings.minLevel = minLevelOf items := follows.minLevel
  rw [Settings.report, explain, follows.format_eq, minLevel]
  exact report

/-- The samples can be read off the pieces: inline nodes, and behind them the file named last. -/
theorem samples_eq (follows : Follows files {} items progress) :
    progress.settings.samples files =
      match (valuesOf .nodesFile items).getLast? with
      | none => .ok ((inlineNodes items).map Raw.Node.sample)
      | some name => (files.readNodes (.integer (depthOf items)) (Path.ofText name)).map
          ((inlineNodes items).map Raw.Node.sample ++ ·) := by
  have depth : progress.settings.depth = depthOf items := follows.depth
  have inline : (progress.settings.nodes.map fun labels =>
      ({ labels := .ofList (labelList labels).toList, depth := progress.settings.depth } :
        Sample)) = (inlineNodes items).map Raw.Node.sample := by
    rw [follows.nodes, depth, inlineNodes, List.map_map]
    simp only [NodeLabels.ofList_labelList]
    rfl
  rw [Settings.samples, inline, follows.nodesFile, Option.or_none, depth]
  cases (valuesOf .nodesFile items).getLast? with
  | none => rfl
  | some name => rfl

/-- If the samples can be read, they are the nodes given inline and those of the file. -/
theorem samples_eq_ok (follows : Follows files {} items progress) {samples : List Sample}
    (read : progress.settings.samples files = .ok samples) :
    ∃ nodes, FileNodes files items nodes ∧
      samples = (inlineNodes items ++ nodes).map Raw.Node.sample := by
  rw [follows.samples_eq] at read
  unfold FileNodes
  cases last : (valuesOf .nodesFile items).getLast? with
  | none =>
      rw [last] at read
      refine ⟨[], rfl, ?_⟩
      rw [List.append_nil]
      exact (Except.ok.inj read).symm
  | some name =>
      rw [last] at read
      obtain ⟨file_samples, file_read, rfl⟩ := map_eq_ok_iff.mp read
      obtain ⟨nodes, in_file, rfl⟩ := Files.inFile_of_readNodes file_read
      exact ⟨nodes, in_file, List.map_append.symm⟩

/-- If the samples cannot be read, the file named last is to blame. -/
theorem samples_eq_error (follows : Follows files {} items progress) {error : ListingError}
    (failed : progress.settings.samples files = .error error) :
    ∃ name, (valuesOf .nodesFile items).getLast? = some name ∧
      files.readNodes (.integer (depthOf items)) (Path.ofText name) = .error error := by
  rw [follows.samples_eq] at failed
  cases last : (valuesOf .nodesFile items).getLast? with
  | none =>
      rw [last] at failed
      cases failed
  | some name =>
      rw [last] at failed
      exact ⟨name, rfl, map_eq_error_iff.mp failed⟩

end Follows

end CommandLine

end WalkFilter
