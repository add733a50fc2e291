import WalkFilter.CommandLine.Intake
import WalkFilter.CommandLine.Reading
import WalkFilter.Filter.Audit
import WalkFilter.Report.Format
import WalkFilter.Text.Integer

/-!
# Settings

The uses of switches take effect one after the other. Each changes the settings, and the switches
for filters also change the builder; the first use that cannot take effect ends it all, and what
happened before stays.
-/

namespace WalkFilter.CommandLine

/-- What the switches of a command line say. -/
structure Settings where
  /-- The filters in order; absent if there is none. -/
  labelFilters : Option (List String) := none
  /-- The filter files in order; absent if there is none. -/
  filterFiles : Option (List Path) := none
  /-- Results are limited to end nodes and terminators. -/
  endNodesOnly : Bool := false
  /-- The nodes to evaluate, each as a list of labels. -/
  nodes : List String := []
  /-- The file with further nodes. -/
  nodesFile : Option Path := none
  /-- The depth of nodes that give none. -/
  depth : Int := 0
  /-- The least depth of a result. -/
  minLevel : Int := 0
  /-- The report format. -/
  format : Format := .text
  /-- The filter is reported as well. -/
  explain : Bool := false
  /-- The records are printed. -/
  verbose : Bool := false
deriving DecidableEq, Repr

/-- Why the reading of a command line ends without settings to work with. -/
inductive Ending where
  /-- The help was asked for. -/
  | help
  /-- The version was asked for. -/
  | version
  /-- The command line is refused. -/
  | usage (error : UsageError)
  /-- A filter file cannot be read. -/
  | unreadable (error : ReadError)
deriving DecidableEq, Repr

/-- How far a command line has taken effect. -/
structure Progress where
  /-- The settings so far. -/
  settings : Settings := {}
  /-- The builder so far. -/
  builder : Builder := {}
  /-- The records made so far. -/
  records : List Record := []
  /-- The arguments left over so far. -/
  extras : List String := []
deriving DecidableEq, Repr

namespace Progress

/-- Changes the settings. -/
def modifySettings (progress : Progress) (change : Settings → Settings) : Progress :=
  { progress with settings := change progress.settings }

/-- Adds the filters of a source and notes it in the settings. Opening a file is recorded even if
the file cannot be read. -/
def addSource (files : Files) (progress : Progress) (source : FilterSource)
    (note : Settings → Settings) : Progress × Option Ending :=
  let progress := { progress with records := progress.records ++ Record.ofSource files source }
  match progress.builder.addSource files source with
  | .error error => (progress, some (.unreadable error))
  | .ok builder => ({ progress with builder }.modifySettings note, none)

/-- Sets an integer, if the value is one. -/
def setInteger (progress : Progress) (switch : Switch) (value : String)
    (change : Int → Settings → Settings) : Progress × Option Ending :=
  match Text.integer? value with
  | some number => (progress.modifySettings (change number), none)
  | none => (progress, some (.usage (.notInteger switch value)))

/-- Lets one use of a switch take effect. -/
def use (files : Files) (progress : Progress) (switch : Switch) (value : String) :
    Progress × Option Ending :=
  match switch with
  | .help => (progress, some .help)
  | .version => (progress, some .version)
  | .labelFilter =>
    progress.addSource files (.inline value) fun settings =>
      { settings with labelFilters := appendValue settings.labelFilters value }
  | .filterFile =>
    let path := Path.ofText value
    progress.addSource files (.file path) fun settings =>
      { settings with filterFiles := appendValue settings.filterFiles path }
  | .endNodesOnly => (progress.modifySettings ({ · with endNodesOnly := true }), none)
  | .node =>
    (progress.modifySettings fun settings =>
      { settings with nodes := settings.nodes ++ [value] }, none)
  | .nodesFile => (progress.modifySettings ({ · with nodesFile := some (Path.ofText value) }), none)
  | .depth => progress.setInteger switch value fun depth settings => { settings with depth }
  | .minLevel =>
    progress.setInteger switch value fun minLevel settings => { settings with minLevel }
  | .format =>
    match Format.ofName? value with
    | some format => (progress.modifySettings ({ · with format }), none)
    | none => (progress, some (.usage (.notChoice switch value (Format.all.map Format.name))))
  | .explain => (progress.modifySettings ({ · with explain := true }), none)
  | .verbose => (progress.modifySettings ({ · with verbose := true }), none)

/-- Lets one piece of a command line take effect. -/
def step (files : Files) (progress : Progress) : Item → Progress × Option Ending
  | .use switch value => progress.use files switch (value.getD "")
  | .extra argument => ({ progress with extras := progress.extras ++ [argument] }, none)

/-- Lets pieces take effect in order, up to the first that ends it. -/
def run (files : Files) (progress : Progress) : List Item → Progress × Option Ending
  | [] => (progress, none)
  | item :: rest =>
    match progress.step files item with
    | (progress, none) => progress.run files rest
    | (progress, some ending) => (progress, some ending)

end Progress

/-- What reading a command line leads to. -/
structure Parsed where
  /-- How far the command line took effect. -/
  progress : Progress
  /-- Why it ended early, if it did. -/
  ending : Option Ending
deriving DecidableEq, Repr

/-- Why a reading whose pieces all took effect still ends without settings: an error in reading
comes before left-over arguments. -/
def finalEnding (error : Option UsageError) (extras : List String) : Option Ending :=
  match error, extras with
  | some error, _ => some (.usage error)
  | none, [] => none
  | none, extras => some (.usage (.unrecognized extras))

/-- Reads the arguments of a command line and lets them take effect. -/
def parse (files : Files) (arguments : List String) : Parsed :=
  let reading := Reading.ofArguments Switch.all arguments
  match ({} : Progress).run files reading.items with
  | (progress, some ending) => ⟨progress, some ending⟩
  | (progress, none) => ⟨progress, finalEnding reading.error progress.extras⟩

end WalkFilter.CommandLine
