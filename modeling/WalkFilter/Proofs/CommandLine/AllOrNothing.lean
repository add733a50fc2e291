import WalkFilter.Proofs.CommandLine.Reported

/-!
# All or nothing

A run prints a whole report or none. Where it fails, it prints nothing and gives the message about
what failed first; and on a broken standard output exactly the runs that would have succeeded are
lost.
-/

namespace WalkFilter.CommandLine

/-- The pieces name neither a node nor a file of nodes, and no filter is to be explained. -/
def NothingToDo (items : List Item) : Prop :=
  valuesOf .node items = [] ∧ valuesOf .nodesFile items = [] ∧ given .explain items = false

/-- The command line is accepted, there is something to do, and the depth is not negative. -/
structure MakesSense (files : Files) (arguments : List String) : Prop where
  /-- The whole reading accepts the command line. -/
  accepted : (parse files arguments).ending = none
  /-- There is a node to evaluate, a file of nodes to read or a filter to explain. -/
  something : ¬NothingToDo (itemsOf arguments)
  /-- The depth of nodes that give none is not negative. -/
  nonnegative : 0 ≤ depthOf (itemsOf arguments)

/-- What fails first behind the refusals, with the message about it. -/
inductive FirstFailure (files : Files) (arguments : List String) : String → Prop where
  /-- A filter file cannot be read, and all pieces in front of it take effect. -/
  | filterFile {before behind : List Item} {name message : String}
    (place : itemsOf arguments = before ++ .use .filterFile (some name) :: behind)
    (earlier : (({} : Progress).run files before).2 = none)
    (unreadable : Raw.Unreadable files "Filter" (Path.ofText name) message) :
    FirstFailure files arguments message
  /-- The command line is accepted, but there is nothing to do. -/
  | nothingToDo (accepted : (parse files arguments).ending = none)
    (nothing : NothingToDo (itemsOf arguments)) :
    FirstFailure files arguments
      "Nothing to do: specify nodes with -n/--node or -N/--nodes-file, or use -x/--explain"
  /-- There is something to do, but the depth is negative. -/
  | negativeDepth (accepted : (parse files arguments).ending = none)
    (something : ¬NothingToDo (itemsOf arguments)) (negative : depthOf (itemsOf arguments) < 0) :
    FirstFailure files arguments "--depth cannot be negative"
  /-- The file of nodes cannot be read. -/
  | nodesFile {name message : String} (sense : MakesSense files arguments)
    (named : (valuesOf .nodesFile (itemsOf arguments)).getLast? = some name)
    (unreadable : Raw.Unreadable files "Nodes" (Path.ofText name) message) :
    FirstFailure files arguments message
  /-- A line of the file of nodes fails a check, which is told with the number of the line. -/
  | nodesLine {name line reason : String} {lines before : List String} {flaw : NodeFlaw}
    (sense : MakesSense files arguments)
    (named : (valuesOf .nodesFile (itemsOf arguments)).getLast? = some name)
    (readable : files.readLines .nodes (Path.ofText name) = .ok lines)
    (stops : Raw.StopsAt (.integer (depthOf (itemsOf arguments))) lines before line flaw)
    (given : Raw.GivesReason flaw reason) :
    FirstFailure files arguments
      ((Path.ofText name).text ++ ":" ++ toString (before.length + 1) ++ ": " ++ reason)
  /-- A line of the file of nodes holds an integer with more digits than are read. -/
  | nodesDigits {name line : String} {lines before : List String} {count : Nat}
    (sense : MakesSense files arguments)
    (named : (valuesOf .nodesFile (itemsOf arguments)).getLast? = some name)
    (readable : files.readLines .nodes (Path.ofText name) = .ok lines)
    (stops : Raw.StopsAt (.integer (depthOf (itemsOf arguments))) lines before line
      (.notJson (.tooManyDigits count))) :
    FirstFailure files arguments
      ("Exceeds the limit (4300 digits) for integer string conversion: value has " ++
        toString count ++ " digits; use sys.set_int_max_str_digits() to increase the limit")
  /-- The report holds half a character, so it cannot be encoded. -/
  | unencodable {fileNodes : List Raw.Node} {report : List CodePoint} {message : String}
    (sense : MakesSense files arguments)
    (in_file : FileNodes files (itemsOf arguments) fileNodes)
    (is_report : (requestOf files (itemsOf arguments) fileNodes).IsReport
      (formatOf (itemsOf arguments)) report)
    (refused : CodePoint.NotEncoded report message) : FirstFailure files arguments message

/-- The action for help or version fires: the scan lets the command line pass, and the reading ends
at such a request. -/
def Notices (files : Files) (arguments : List String) : Prop :=
  (∃ verbose, wantsRecords arguments = .ok verbose) ∧
    ((parse files arguments).ending = some .help ∨ (parse files arguments).ending = some .version)

theorem Settings.validate_eq_error {settings : Settings} {error : RunError}
    (invalid : settings.validate = .error error) :
    (settings.nodes = [] ∧ settings.nodesFile = none ∧ settings.explain = false) ∧
        error = .nothingToDo ∨
      ¬(settings.nodes = [] ∧ settings.nodesFile = none ∧ settings.explain = false) ∧
        settings.depth < 0 ∧ error = .negativeDepth := by
  rw [validate] at invalid
  split at invalid
  · rename_i nothing
    exact .inl ⟨nothing, (Except.error.inj invalid).symm⟩
  · rename_i something
    split at invalid
    · rename_i negative
      exact .inr ⟨something, negative, (Except.error.inj invalid).symm⟩
    · cases invalid

theorem Settings.validate_eq_ok {settings : Settings} (valid : settings.validate = .ok ()) :
    ¬(settings.nodes = [] ∧ settings.nodesFile = none ∧ settings.explain = false) ∧
      0 ≤ settings.depth := by
  rw [validate] at valid
  split at valid
  · cases valid
  · rename_i something
    split at valid
    · cases valid
    · rename_i nonnegative
      exact ⟨something, Int.not_lt.mp nonnegative⟩

theorem Follows.nothingToDo_iff {files : Files} {items : List Item} {progress : Progress}
    (follows : Follows files {} items progress) :
    progress.settings.nodes = [] ∧ progress.settings.nodesFile = none ∧
      progress.settings.explain = false ↔ NothingToDo items := by
  rw [follows.nodes, follows.nodesFile, follows.explain, NothingToDo, List.nil_append,
    Option.or_none, Option.map_eq_none_iff, List.getLast?_eq_none_iff, Bool.false_or]

theorem makesSense_of_valid {files : Files} {arguments : List String}
    (accepted : (parse files arguments).ending = none)
    (valid : (parse files arguments).progress.settings.validate = .ok ()) :
    MakesSense files arguments where
  accepted := accepted
  something := by
    rw [← (follows_parse accepted).2.nothingToDo_iff]
    exact (Settings.validate_eq_ok valid).1
  nonnegative := by
    have depth : (parse files arguments).progress.settings.depth = depthOf (itemsOf arguments) :=
      (follows_parse accepted).2.depth
    rw [← depth]
    exact (Settings.validate_eq_ok valid).2

/-- A filter file that ends the command line is what fails first. -/
theorem firstFailure_of_unreadable {files : Files} {arguments : List String} {error : ReadError}
    (ended : (parse files arguments).ending = some (.unreadable error)) :
    FirstFailure files arguments error.message := by
  obtain ⟨before, item, behind, place, earlier, value, rfl, unreadable⟩ :=
    ends_of_parse ended fun error => Ending.noConfusion
  have supplied : (Item.use .filterFile value).Supplied :=
    supplied_itemsOf arguments _ (by rw [place]; simp)
  obtain ⟨name, rfl⟩ : ∃ name, value = some name := Option.isSome_iff_exists.mp supplied
  exact .filterFile place earlier (Files.unreadable_of_readLines unreadable)

/-- A list of nodes that is not read is what fails first if the settings make sense. -/
theorem firstFailure_of_readNodes {files : Files} {arguments : List String} {name : String}
    {error : ListingError} (sense : MakesSense files arguments)
    (named : (valuesOf .nodesFile (itemsOf arguments)).getLast? = some name)
    (failed : files.readNodes (.integer (depthOf (itemsOf arguments))) (Path.ofText name) =
      .error error) :
    FirstFailure files arguments error.message := by
  rcases Files.error_of_readNodes failed with
    ⟨error, unreadable, rfl⟩ | ⟨lines, before, line, flaw, readable, first, rfl⟩
  · exact .nodesFile sense named (Files.unreadable_of_readLines unreadable)
  · by_cases digits : ∃ count, flaw = .notJson (.tooManyDigits count)
    · obtain ⟨count, rfl⟩ := digits
      exact .nodesDigits sense named readable first.stopsAt
    · have not_digits := not_exists.mp digits
      rw [ListingError.ofFlaw_eq_line not_digits]
      exact .nodesLine sense named readable first.stopsAt
        (Raw.givesReason_iff.mpr ⟨not_digits, rfl⟩)

/-- Work that fails is what fails first on a command line that is accepted. -/
theorem firstFailure_of_failed {files : Files} {arguments : List String} {error : RunError}
    (accepted : (parse files arguments).ending = none)
    (failed : ((parse files arguments).progress.settings.perform files
      (parse files arguments).progress.builder).2 = .error error) :
    FirstFailure files arguments error.message := by
  obtain ⟨-, follows⟩ := follows_parse accepted
  have depth : (parse files arguments).progress.settings.depth = depthOf (itemsOf arguments) :=
    follows.depth
  rcases Settings.perform_eq_error failed with invalid | ⟨valid, reason, unread, rfl⟩
  · rcases Settings.validate_eq_error invalid with ⟨nothing, rfl⟩ | ⟨something, negative, rfl⟩
    · exact .nothingToDo accepted (follows.nothingToDo_iff.mp nothing)
    · rw [follows.nothingToDo_iff] at something
      rw [depth] at negative
      exact .negativeDepth accepted something negative
  · obtain ⟨name, named, not_read⟩ := follows.samples_eq_error unread
    exact firstFailure_of_readNodes (makesSense_of_valid accepted valid) named not_read

/-- The command line is refused, by the scan for verbosity or by the whole reading. -/
def Refused (files : Files) (arguments : List String) : Prop :=
  (∃ error, wantsRecords arguments = .error error) ∨
    ∃ error, (parse files arguments).ending = some (.usage error)

theorem not_refused {files : Files} {arguments : List String} {verbose : Bool}
    (scanned : wantsRecords arguments = .ok verbose)
    (not_usage : ∀ error, (parse files arguments).ending ≠ some (.usage error)) :
    ¬Refused files arguments := by
  rintro (⟨error, scan_refused⟩ | ⟨error, refused⟩)
  · rw [scanned] at scan_refused
    cases scan_refused
  · exact not_usage error refused

/-- How the runs of one command line on a working and on a broken standard output are related. -/
structure AllOrNothing (files : Files) (arguments : List String) (working broken : Outcome) :
    Prop where
  /-- There are three exit codes. -/
  exitCode : working.exitCode = 0 ∨ working.exitCode = 1 ∨ working.exitCode = 2
  /-- Refusals have an exit code of their own. -/
  refused : working.exitCode = 2 ↔ Refused files arguments
  /-- A run that does not succeed prints nothing. -/
  silent : working.exitCode ≠ 0 → working.stdout = ""
  /-- A run that fails ends with the message about what failed first. -/
  failure : working.exitCode = 1 → ∃ log message, FirstFailure files arguments message ∧
    working.stderr = log ++ ("Error: " ++ message ++ "\n")
  /-- A run that succeeds prints the whole report that the command line asks for. -/
  report : working.exitCode = 0 → ∃ fileNodes, FileNodes files (itemsOf arguments) fileNodes ∧
    (requestOf files (itemsOf arguments) fileNodes).IsReport (formatOf (itemsOf arguments))
      (codePoints working.stdout)
  /-- Exactly the runs that succeed are lost on a broken standard output. -/
  lost : broken.exitCode = 141 ↔ working.exitCode = 0
  /-- All other runs are the same on a broken standard output. -/
  kept : working.exitCode ≠ 0 →
    broken.exitCode = working.exitCode ∧ broken.stderr = working.stderr

theorem errorLine_eq (message : String) : errorLine message = "Error: " ++ message ++ "\n" := by
  simp [errorLine, unlines, String.join]

namespace AllOrNothing

variable {files : Files} {arguments : List String}

/-- A run that shows a refusal. -/
theorem of_refusal (refused : Refused files arguments) (stderr : String) :
    AllOrNothing files arguments ⟨2, "", stderr⟩ ⟨2, "", stderr⟩ where
  exitCode := .inr (.inr rfl)
  refused := iff_of_true rfl refused
  silent _ := rfl
  failure fails := by cases fails
  report succeeds := by cases succeeds
  lost := by simp
  kept _ := ⟨rfl, rfl⟩

/-- A run that fails behind the refusals. -/
theorem of_failure {message : String} (not_refused : ¬Refused files arguments)
    (first : FirstFailure files arguments message) (log : String) :
    AllOrNothing files arguments ⟨1, "", log ++ errorLine message⟩
      ⟨1, "", log ++ errorLine message⟩ where
  exitCode := .inr (.inl rfl)
  refused := iff_of_false (by simp) not_refused
  silent _ := rfl
  failure _ := ⟨log, message, first, by rw [errorLine_eq]⟩
  report succeeds := by cases succeeds
  lost := by simp
  kept _ := ⟨rfl, rfl⟩

/-- A run that prints the report that the command line asks for. -/
theorem of_report {fileNodes : List Raw.Node} {text : String}
    (not_refused : ¬Refused files arguments)
    (in_file : FileNodes files (itemsOf arguments) fileNodes)
    (is_report : (requestOf files (itemsOf arguments) fileNodes).IsReport
      (formatOf (itemsOf arguments)) (codePoints text)) (log : String) :
    AllOrNothing files arguments ⟨0, text, log⟩ ⟨141, "", log⟩ where
  exitCode := .inl rfl
  refused := iff_of_false (by simp) not_refused
  silent fails := absurd rfl fails
  failure fails := by cases fails
  report _ := ⟨fileNodes, in_file, is_report⟩
  lost := by simp
  kept fails := absurd rfl fails

/-- A run whose work is done writes its report, unless it cannot be encoded. -/
theorem of_performed {report : List CodePoint} (not_refused : ¬Refused files arguments)
    (accepted : (parse files arguments).ending = none)
    (performed : ((parse files arguments).progress.settings.perform files
      (parse files arguments).progress.builder).2 = .ok report) (log : String) :
    AllOrNothing files arguments (writeReport .working log report)
      (writeReport .broken log report) := by
  obtain ⟨-, follows⟩ := follows_parse accepted
  obtain ⟨valid, samples, read, rfl⟩ := Settings.perform_eq_ok performed
  obtain ⟨nodes, in_file, rfl⟩ := follows.samples_eq_ok read
  have is_report := follows.isReport in_file
  cases encoded : CodePoint.encode ((parse files arguments).progress.settings.report
      ((parse files arguments).progress.settings.group (parse files arguments).progress.builder)
      ((inlineNodes (itemsOf arguments) ++ nodes).map Raw.Node.sample)) with
  | error error =>
      simp only [writeReport, encoded]
      exact .of_failure not_refused (.unencodable (makesSense_of_valid accepted valid) in_file
        is_report (CodePoint.notEncoded_of_encode encoded)) log
  | ok text =>
      simp only [writeReport, encoded]
      rw [CodePoint.encode_eq_ok_iff.mp encoded] at is_report
      exact .of_report not_refused in_file is_report log

end AllOrNothing

/-- Unless it prints help or version, a run writes a whole report or prints nothing, and it fails on
a broken standard output exactly if it would have succeeded on a working one. -/
theorem allOrNothing_run {files : Files} {arguments : List String}
    (no_notice : ¬Notices files arguments) :
    AllOrNothing files arguments (run files .working arguments) (run files .broken arguments) := by
  obtain ⟨shown, course, runs⟩ := exists_course files arguments
  rw [runs, runs]
  cases course with
  | scanRefused refused => exact .of_refusal (.inl ⟨_, refused⟩) _
  | refused log refused => exact .of_refusal (.inr ⟨_, refused⟩) _
  | noticed log notice scanned asked => exact absurd ⟨⟨_, scanned⟩, asked⟩ no_notice
  | unreadable log scanned ended =>
      have read : ¬Refused files arguments := not_refused scanned fun error => by simp [ended]
      exact .of_failure read (firstFailure_of_unreadable ended) log
  | failed log scanned accepted failed =>
      have read : ¬Refused files arguments := not_refused scanned fun error => by simp [accepted]
      exact .of_failure read (firstFailure_of_failed accepted failed) log
  | reported log scanned accepted performed =>
      have read : ¬Refused files arguments := not_refused scanned fun error => by simp [accepted]
      exact .of_performed read accepted performed log

/-- A file whose second line is no node. -/
def listInSecondLine : Files := everywhere "\x7b\x7d\n[]\n"

/-- A file with a node whose label is half a character. -/
def halfCharacter : Files := everywhere "\x7b\"labels\": [\"\\ud83d\"]\x7d"

/-- The arguments for a report on one node. -/
def personArguments : List String := ["-n", "Person", "-l", ">Person"]

/-- The report on one node, line by line. -/
def personReport : List String :=
  ["---------------------------------------------------------",
    "| Labels | Depth | Below min level | Result  | Walk     |",
    "---------------------------------------------------------",
    "| Person |     0 | no              | include | continue |",
    "---------------------------------------------------------",
    "1 node evaluated, 1 included"]

theorem not_notices_of_accepted {files : Files} {arguments : List String}
    (accepted : (parse files arguments).ending = none) : ¬Notices files arguments := by
  rintro ⟨-, help | version⟩
  · rw [accepted] at help
    cases help
  · rw [accepted] at version
    cases version

theorem perform_personArguments :
    ((parse listInSecondLine personArguments).progress.settings.perform listInSecondLine
      (parse listInSecondLine personArguments).progress.builder).2 =
        .ok (codePoints (String.join (personReport.map (· ++ "\n")))) := by
  rw [← terminated_map_codePoints]
  decide +kernel

/-- A list whose second line is no node, a node given inline, and a label that cannot be encoded. -/
theorem allOrNothing_run_threeEndings :
    (¬Notices listInSecondLine ["-N", "nodes.jsonl"] ∧
      (run listInSecondLine .working ["-N", "nodes.jsonl"]).stderr =
        "Error: nodes.jsonl:2: expected a JSON object\n" ∧
      AllOrNothing listInSecondLine ["-N", "nodes.jsonl"]
        (run listInSecondLine .working ["-N", "nodes.jsonl"])
        (run listInSecondLine .broken ["-N", "nodes.jsonl"])) ∧
    (¬Notices listInSecondLine personArguments ∧
      (run listInSecondLine .working personArguments).exitCode = 0 ∧
      (run listInSecondLine .working personArguments).stdout =
        String.join (personReport.map (· ++ "\n")) ∧
      AllOrNothing listInSecondLine personArguments
        (run listInSecondLine .working personArguments)
        (run listInSecondLine .broken personArguments)) ∧
    (¬Notices halfCharacter ["-N", "nodes.jsonl"] ∧
      (run halfCharacter .working ["-N", "nodes.jsonl"]).stderr =
        "Error: 'utf-8' codec can't encode character '\\ud83d' in position 176: " ++
          "surrogates not allowed\n" ∧
      AllOrNothing halfCharacter ["-N", "nodes.jsonl"]
        (run halfCharacter .working ["-N", "nodes.jsonl"])
        (run halfCharacter .broken ["-N", "nodes.jsonl"])) := by
  have bad_line : ¬Notices listInSecondLine ["-N", "nodes.jsonl"] :=
    not_notices_of_accepted (by decide +kernel)
  have accepted : (parse listInSecondLine personArguments).ending = none := by decide +kernel
  have inline : ¬Notices listInSecondLine personArguments := not_notices_of_accepted accepted
  have half : ¬Notices halfCharacter ["-N", "nodes.jsonl"] :=
    not_notices_of_accepted (by decide +kernel)
  have scanned : wantsRecords personArguments = .ok false := by decide +kernel
  obtain ⟨log, run_eq⟩ :=
    exists_run_eq_writeReport scanned accepted perform_personArguments .working
  rw [writeReport_codePoints] at run_eq
  exact ⟨⟨bad_line, by decide +kernel, allOrNothing_run bad_line⟩,
    ⟨inline, by rw [run_eq], by rw [run_eq], allOrNothing_run inline⟩,
    ⟨half, by decide +kernel, allOrNothing_run half⟩⟩

end WalkFilter.CommandLine
