import WalkFilter.Proofs.CommandLine.Reported

/-!
# JSON reports

A run that succeeds with the JSON format prints a line on the filter, if it is asked for, and one
line for each node. What each line is read as can be said from the command line and the files it
names.
-/

namespace WalkFilter.CommandLine

/-- A command line that asks for help or version names the switch for it. -/
theorem given_of_notice {files : Files} {arguments : List String}
    (asked : (parse files arguments).ending = some .help ∨
      (parse files arguments).ending = some .version) :
    given .help (itemsOf arguments) = true ∨ given .version (itemsOf arguments) = true := by
  rcases asked with help | version
  · obtain ⟨before, item, behind, items_eq, -, value, rfl⟩ :=
      ends_of_parse help fun error => Ending.noConfusion
    exact .inl (given_iff.mpr ⟨value, by rw [items_eq]; simp⟩)
  · obtain ⟨before, item, behind, items_eq, -, value, rfl⟩ :=
      ends_of_parse version fun error => Ending.noConfusion
    exact .inr (given_iff.mpr ⟨value, by rw [items_eq]; simp⟩)

/-- What a run prints that succeeds without help or version is the whole report that its command
line asks for. -/
theorem isReport_stdout {files : Files} {arguments : List String}
    (succeeds : (run files .working arguments).exitCode = 0)
    (no_notice : ¬((parse files arguments).ending = some .help ∨
      (parse files arguments).ending = some .version)) :
    ∃ fileNodes, FileNodes files (itemsOf arguments) fileNodes ∧
      (requestOf files (itemsOf arguments) fileNodes).IsReport (formatOf (itemsOf arguments))
        (codePoints (run files .working arguments).stdout) := by
  obtain ⟨shown, course, runs⟩ := exists_course files arguments
  rw [runs] at succeeds ⊢
  cases course with
  | scanRefused | refused | unreadable | failed => cases succeeds
  | noticed log notice scanned asked => exact absurd asked no_notice
  | reported log scanned accepted performed =>
      obtain ⟨-, follows⟩ := follows_parse accepted
      obtain ⟨-, samples, read, rfl⟩ := Settings.perform_eq_ok performed
      obtain ⟨nodes, in_file, rfl⟩ := follows.samples_eq_ok read
      obtain ⟨-, text, report_eq, written⟩ := exists_text_of_writeReport succeeds
      have is_report := follows.isReport in_file
      rw [report_eq] at is_report
      refine ⟨nodes, in_file, ?_⟩
      simp only [written]
      exact is_report

/-- A run that succeeds with the JSON format, without help or version, prints exactly the JSON lines
that its command line and the files it names ask for. -/
theorem stdout_of_json {files : Files} {arguments : List String}
    (succeeds : (run files .working arguments).exitCode = 0)
    (json : (valuesOf .format (itemsOf arguments)).getLast? = some "json")
    (no_help : given .help (itemsOf arguments) = false)
    (no_version : given .version (itemsOf arguments) = false) :
    ∃ fileNodes lines, FileNodes files (itemsOf arguments) fileNodes ∧
      (requestOf files (itemsOf arguments) fileNodes).JsonLines lines ∧
      (run files .working arguments).stdout = String.join (lines.map (· ++ "\n")) := by
  have no_notice : ¬((parse files arguments).ending = some .help ∨
      (parse files arguments).ending = some .version) := by
    intro asked
    rcases given_of_notice asked with help | version
    · rw [no_help] at help
      cases help
    · rw [no_version] at version
      cases version
  obtain ⟨fileNodes, in_file, report⟩ := isReport_stdout succeeds no_notice
  rw [formatOf, if_pos json] at report
  generalize stdout_eq : codePoints (run files .working arguments).stdout = points at report
  cases report with
  | json told => exact ⟨fileNodes, _, in_file, told, codePoints_injective stdout_eq⟩

/-- A node given inline and one in a file, with the filter explained. -/
def personAndMovie : List String :=
  ["-N", "nodes.jsonl", "-n", "Person, Actor", "-l", ">Person", "-f", "json", "-x"]

/-- A file that holds one node, whose last label is half a surrogate pair. -/
def movieFiles : Files :=
  everywhere "\x7b\"labels\": [\"Movie\", \"Film\", \"\\ud83d\"], \"depth\": 2\x7d\n"

/-- The samples that the run evaluates. -/
def personAndMovieSamples : List Sample :=
  [⟨.ofList ["Person", "Actor"], 0⟩,
    ⟨.ofTexts ["Movie", "Film", ⟨[⟨0xD83D, by decide⟩], trivial⟩], 2⟩]

/-- The lines that the run prints. -/
def personAndMovieLines : List String :=
  ["\x7b\"type\": \"filter\", \"denylist\": [], \"allowlist\": [], \"end_nodes\": [\"Person\"], " ++
    "\"terminators\": [], \"end_nodes_only\": true\x7d",
    "\x7b\"type\": \"node\", \"labels\": [\"Actor\", \"Person\"], \"depth\": 0, " ++
    "\"below_min_level\": false, \"decision\": \"include_continue\", \"include\": true, " ++
    "\"continue\": true\x7d",
    "\x7b\"type\": \"node\", \"labels\": [\"Film\", \"Movie\", \"\\ud83d\"], \"depth\": 2, " ++
    "\"below_min_level\": false, \"decision\": \"exclude_continue\", \"include\": false, " ++
    "\"continue\": true\x7d"]

/-- Values that are written as lines make up their text. -/
theorem join_jsonLine {values : List Json.Value} {lines : List String}
    (written : (values.map fun value => String.ofList (Json.write value)) = lines) :
    String.join (values.map Report.jsonLine) = String.join (lines.map (· ++ "\n")) := by
  refine congrArg String.join ?_
  rw [← written, List.map_map]
  exact List.map_congr_left fun value _ => Report.jsonLine_eq value

/-- The report is evaluated line by line. -/
theorem report_personAndMovie :
    ((parse movieFiles personAndMovie).progress.settings.perform movieFiles
      (parse movieFiles personAndMovie).progress.builder).2 =
        .ok (codePoints (String.join (personAndMovieLines.map (· ++ "\n")))) := by
  have settings_eq : (parse movieFiles personAndMovie).progress.settings =
      { labelFilters := some [">Person"], nodes := ["Person, Actor"],
        nodesFile := some (Path.ofText "nodes.jsonl"), format := .json, explain := true } := by
    decide +kernel
  have builder_eq : (parse movieFiles personAndMovie).progress.builder =
      Builder.ofFilter (some ">Person") := by
    decide +kernel
  have read : (parse movieFiles personAndMovie).progress.settings.samples movieFiles =
      .ok personAndMovieSamples := by
    decide +kernel
  have written : ((Report.filterValue (Group.ofFilter (some ">Person")) ::
      ((Group.ofFilter (some ">Person")).evaluateSamples (some 0) personAndMovieSamples).map
        Report.evaluationValue).map fun value => String.ofList (Json.write value)) =
          personAndMovieLines := by
    decide +kernel
  rw [Settings.perform_eq_report (by rw [settings_eq]; rfl) read, settings_eq, builder_eq,
    ← join_jsonLine written, List.map_cons, String.join_cons, codePoints_append, List.map_map]
  rfl

theorem stdout_of_json_personAndMovie :
    (run movieFiles .working personAndMovie).exitCode = 0 ∧
      (valuesOf .format (itemsOf personAndMovie)).getLast? = some "json" ∧
      given .help (itemsOf personAndMovie) = false ∧
      given .version (itemsOf personAndMovie) = false ∧
      (run movieFiles .working personAndMovie).stdout =
        String.join (personAndMovieLines.map (· ++ "\n")) ∧
      ∃ fileNodes lines, FileNodes movieFiles (itemsOf personAndMovie) fileNodes ∧
        (requestOf movieFiles (itemsOf personAndMovie) fileNodes).JsonLines lines ∧
        (run movieFiles .working personAndMovie).stdout = String.join (lines.map (· ++ "\n")) := by
  have accepted : (parse movieFiles personAndMovie).ending = none := by decide +kernel
  have scanned : wantsRecords personAndMovie = .ok false := by decide +kernel
  obtain ⟨log, run_eq⟩ := exists_run_eq_writeReport scanned accepted report_personAndMovie .working
  have json : (valuesOf .format (itemsOf personAndMovie)).getLast? = some "json" := by
    decide +kernel
  have no_help : given .help (itemsOf personAndMovie) = false := by decide +kernel
  have no_version : given .version (itemsOf personAndMovie) = false := by decide +kernel
  have succeeds : (run movieFiles .working personAndMovie).exitCode = 0 := by
    rw [run_eq, writeReport_codePoints]
  refine ⟨succeeds, json, no_help, no_version, ?_,
    stdout_of_json succeeds json no_help no_version⟩
  rw [run_eq, writeReport_codePoints]

end WalkFilter.CommandLine
