import WalkFilter.Text.Quoted

/-!
# Command-line switches

A switch has a one-letter spelling and a long one, and either takes a value or is a mere flag. A
reader of the command line is given the list of the switches it knows.
-/

namespace WalkFilter.CommandLine

/-- A switch of the command line. -/
inductive Switch where
  /-- Prints the help. -/
  | help
  /-- Prints the version. -/
  | version
  /-- Adds a filter. -/
  | labelFilter
  /-- Adds the filters of a file. -/
  | filterFile
  /-- Limits results to end nodes and terminators. -/
  | endNodesOnly
  /-- Adds a node to evaluate. -/
  | node
  /-- Names the file with further nodes. -/
  | nodesFile
  /-- Sets the depth of nodes that give none. -/
  | depth
  /-- Sets the least depth of a result. -/
  | minLevel
  /-- Chooses the report format. -/
  | format
  /-- Reports the filter as well. -/
  | explain
  /-- Prints the records. -/
  | verbose
deriving DecidableEq, Repr, Inhabited

namespace Switch

/-- All switches in the order of the help. -/
def all : List Switch :=
  [help, version, labelFilter, filterFile, endNodesOnly, node, nodesFile, depth, minLevel, format,
    explain, verbose]

/-- The letter of the short spelling. -/
def letter : Switch → Char
  | help => 'h'
  | version => 'V'
  | labelFilter => 'l'
  | filterFile => 'F'
  | endNodesOnly => 'E'
  | node => 'n'
  | nodesFile => 'N'
  | depth => 'd'
  | minLevel => 'm'
  | format => 'f'
  | explain => 'x'
  | verbose => 'v'

/-- The short spelling. -/
def short (switch : Switch) : String := String.ofList ['-', switch.letter]

/-- The long spelling. -/
def long : Switch → String
  | help => "--help"
  | version => "--version"
  | labelFilter => "--label-filter"
  | filterFile => "--filter-file"
  | endNodesOnly => "--end-nodes-only"
  | node => "--node"
  | nodesFile => "--nodes-file"
  | depth => "--depth"
  | minLevel => "--min-level"
  | format => "--format"
  | explain => "--explain"
  | verbose => "--verbose"

/-- The switch takes a value. -/
def takesValue : Switch → Bool
  | labelFilter | filterFile | node | nodesFile | depth | minLevel | format => true
  | help | version | endNodesOnly | explain | verbose => false

/-- Both spellings, as messages name the switch. -/
def title (switch : Switch) : String := switch.short ++ "/" ++ switch.long

end Switch

/-- Why a command line is refused. -/
inductive UsageError where
  /-- An argument may stand for several switches. -/
  | ambiguous (argument : String) (candidates : List Switch)
  /-- A switch lacks its value. -/
  | missingValue (switch : Switch)
  /-- A flag was given a value. -/
  | unexpectedValue (switch : Switch) (value : String)
  /-- The value of a switch is no integer. -/
  | notInteger (switch : Switch) (value : String)
  /-- The value of a switch is not one of its choices. -/
  | notChoice (switch : Switch) (value : String) (choices : List String)
  /-- There are arguments that belong to no switch. -/
  | unrecognized (arguments : List String)
deriving DecidableEq, Repr

/-- The refusal in words. -/
def UsageError.message : UsageError → String
  | ambiguous argument candidates =>
    "ambiguous option: " ++ argument ++ " could match " ++
      ", ".intercalate (candidates.map Switch.long)
  | missingValue switch => "argument " ++ switch.title ++ ": expected one argument"
  | unexpectedValue switch value =>
    "argument " ++ switch.title ++ ": ignored explicit argument " ++ Text.quoted value
  | notInteger switch value =>
    "argument " ++ switch.title ++ ": invalid int value: " ++ Text.quoted value
  | notChoice switch value choices =>
    "argument " ++ switch.title ++ ": invalid choice: " ++ Text.quoted value ++ " (choose from " ++
      ", ".intercalate (choices.map Text.quoted) ++ ")"
  | unrecognized arguments => "unrecognized arguments: " ++ " ".intercalate arguments

end WalkFilter.CommandLine
