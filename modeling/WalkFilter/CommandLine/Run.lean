import WalkFilter.CommandLine.Help
import WalkFilter.CommandLine.Settings
import WalkFilter.Node.Listing

/-!
# Running the command line

A run is a function of the files and the arguments. It prints a whole report or none: whatever
fails, fails before the report is written. A report is encoded as a whole before any of it is
written, which fails if a half of a surrogate pair stands alone in it. If standard output is broken,
the exit code says so.
-/

namespace WalkFilter.CommandLine

/-- Why a run fails after its command line was read. -/
inductive RunError where
  /-- There is neither a node to evaluate nor a filter to explain. -/
  | nothingToDo
  /-- The depth is negative. -/
  | negativeDepth
  /-- The nodes cannot be read. -/
  | nodes (error : ListingError)
deriving DecidableEq, Repr

/-- The error in words. -/
def RunError.message : RunError → String
  | nothingToDo =>
    "Nothing to do: specify nodes with -n/--node or -N/--nodes-file, or use -x/--explain"
  | negativeDepth => "--depth cannot be negative"
  | nodes error => error.message

/-- Checks that the settings make sense together. -/
def Settings.validate (settings : Settings) : Except RunError Unit :=
  if settings.nodes = [] ∧ settings.nodesFile = none ∧ settings.explain = false then
    .error .nothingToDo
  else if settings.depth < 0 then .error .negativeDepth
  else .ok ()

/-- The group that the settings and the filters make. -/
def Settings.group (settings : Settings) (builder : Builder) : Group :=
  (if settings.endNodesOnly then builder.setEndNodesOnly true else builder).build

/-- The samples of a run: the nodes of the command line, then those of the file. -/
def Settings.samples (files : Files) (settings : Settings) : Except ListingError (List Sample) :=
  let inline := settings.nodes.map fun labels =>
    ({ labels := .ofList (labelList labels).toList, depth := settings.depth } : Sample)
  match settings.nodesFile with
  | none => .ok inline
  | some path => (files.readNodes (.integer settings.depth) path).map (inline ++ ·)

/-- The report on a group and evaluations. -/
def Settings.report (settings : Settings) (group : Group) (samples : List Sample) :
    List CodePoint :=
  (if settings.explain then Report.describeFilter settings.format group else []) ++
    Report.describeEvaluations settings.format (group.evaluateSamples (some settings.minLevel) samples)

/-- The work behind the settings: the records it makes, and the report or why there is none. -/
def Settings.perform (files : Files) (settings : Settings) (builder : Builder) :
    List Record × Except RunError (List CodePoint) :=
  match settings.validate with
  | .error error => ([], .error error)
  | .ok () =>
    let group := settings.group builder
    match settings.samples files with
    | .error error => ([.built group], .error (.nodes error))
    | .ok samples =>
      ([.built group, .evaluating samples.length settings.minLevel],
        .ok (settings.report group samples))

/-- What a run shows. -/
structure Outcome where
  /-- The exit code. -/
  exitCode : Nat
  /-- The text on standard output. -/
  stdout : String
  /-- The text on standard error. -/
  stderr : String
deriving DecidableEq, Repr

/-- The state of standard output. -/
inductive Channel where
  /-- What is written arrives. -/
  | working
  /-- Nobody reads: what has been encoded cannot be written. -/
  | broken
deriving DecidableEq, Repr

/-- An error on standard error. -/
def errorLine (message : String) : String := unlines ["Error: " ++ message]

/-- The message about a write that failed. -/
def brokenMessage : String := "[Errno 32] Broken pipe"

/-- Writes a report, possibly an empty one, if it can be encoded. -/
def writeReport (channel : Channel) (log : String) (report : List CodePoint) : Outcome :=
  match CodePoint.encode report, channel with
  | .error error, _ => ⟨1, "", log ++ errorLine error.message⟩
  | .ok text, .working => ⟨0, text, log⟩
  | .ok _, .broken => ⟨141, "", log⟩

/-- Writes help or version. -/
def writeNotice (channel : Channel) (log notice : String) : Outcome :=
  match channel with
  | .working => ⟨0, notice, log⟩
  | .broken => ⟨1, "", log ++ errorLine brokenMessage⟩

/-- Records as they are printed, or nothing if they are not asked for. -/
def printRecords (verbose : Bool) (records : List Record) : String :=
  if verbose then unlines (records.map Record.line) else ""

/-- The run of a command line that was read. -/
def runParsed (files : Files) (channel : Channel) (verbose : Bool) (parsed : Parsed) : Outcome :=
  let progress := parsed.progress
  let log := printRecords verbose progress.records
  match parsed.ending with
  | some .help => writeNotice channel log help
  | some .version => writeNotice channel log versionLine
  | some (.usage error) => ⟨2, "", log ++ refusal usage error⟩
  | some (.unreadable error) => ⟨1, "", log ++ errorLine error.message⟩
  | none =>
    let (records, result) := progress.settings.perform files progress.builder
    let log := log ++ printRecords verbose records
    match result with
    | .error error => ⟨1, "", log ++ errorLine error.message⟩
    | .ok report => writeReport channel log report

/-- A run over files with the given arguments. -/
def run (files : Files) (channel : Channel) (arguments : List String) : Outcome :=
  match wantsRecords arguments with
  | .error error => ⟨2, "", refusal scanUsage error⟩
  | .ok verbose => runParsed files channel verbose (parse files arguments)

end WalkFilter.CommandLine
