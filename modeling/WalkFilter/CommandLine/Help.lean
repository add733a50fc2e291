import WalkFilter.CommandLine.Switch

/-!
# Help texts

The texts that the command line prints about itself.
-/

namespace WalkFilter.CommandLine

/-- Lines of text, each ended by a newline. -/
def unlines (lines : List String) : String := String.join (lines.map (· ++ "\n"))

/-- How the program is called. -/
def usage : String := unlines [
  "usage: labelpath [-h] [-V] [-l FILTER] [-F FILE] [-E] [-n LABELS] [-N FILE]",
  "                 [-d DEPTH] [-m MIN_LEVEL] [-f \x7btext,json\x7d] [-x] [-v]"]

/-- How the scan for verbosity is called. -/
def scanUsage : String := unlines ["usage: labelpath [-v]"]

/-- What the program does. -/
def description : String := unlines [
  "    labelpath: Try out label filters for graph path expansion.",
  "",
  "    A label filter decides, for every node a path walk visits, whether the node is",
  "    part of the results and whether the walk continues past it. Filters are",
  "    pipe-delimited lists of labels, each optionally prefixed with an operator:",
  "",
  "      -Label   denylist: exclude the node and prune the branch",
  "      +Label   allowlist: traverse the node (a bare Label means the same)",
  "      >Label   end node: include the node, keep walking past it",
  "      /Label   terminator: include the node, stop walking past it",
  "",
  "    With no allowlist labels every label is allowed. Using any end node or terminator",
  "    label restricts results to end node and terminator matches.",
  "    "]

/-- What each switch does. -/
def switchHelp : String := unlines [
  "options:",
  "  -h, --help            show this help message and exit",
  "  -V, --version         Show the version and exit",
  "  -l FILTER, --label-filter FILTER",
  "                        Pipe-delimited label filter such as '-Secret|>Person'.",
  "                        Can be specified multiple times; filters are processed",
  "                        in the order they appear, mixed with -F/--filter-file",
  "                        options.",
  "  -F FILE, --filter-file FILE",
  "                        File with one label filter per line ('#' starts a",
  "                        comment). Can be specified multiple times.",
  "  -E, --end-nodes-only  Only include end node and terminator matches, even",
  "                        without '>' or '/' filters.",
  "  -n LABELS, --node LABELS",
  "                        Comma-separated labels of a node to evaluate. Can be",
  "                        specified multiple times.",
  "  -N FILE, --nodes-file FILE",
  "                        JSON-lines file of nodes to evaluate, e.g. \x7b\"labels\":",
  "                        [\"Person\"], \"depth\": 2\x7d per line.",
  "  -d DEPTH, --depth DEPTH",
  "                        Depth of nodes given with -n/--node, and default depth",
  "                        for -N/--nodes-file (default: 0).",
  "  -m MIN_LEVEL, --min-level MIN_LEVEL",
  "                        Minimum path length; nodes at a smaller depth are",
  "                        never included (default: 0).",
  "  -f \x7btext,json\x7d, --format \x7btext,json\x7d",
  "                        Output format (default: text).",
  "  -x, --explain         Print how the label filters were parsed.",
  "  -v, --verbose         Log label matcher details to stderr."]

/-- Command lines to learn from. -/
def examples : String := unlines [
  "    Examples:",
  "      # Evaluate a single node",
  "      labelpath --label-filter=\"-Secret|>Person\" -n Person,Actor",
  "",
  "      # Evaluate several nodes at depth 2 with a minimum path length of 3",
  "      labelpath -l \"/Company|Person\" -n Person -n Company -d 2 -m 3",
  "",
  "      # Combine filter files and inline filters, in command-line order",
  "      labelpath -F filters.txt --label-filter=-Archived -N nodes.jsonl",
  "",
  "      # Show how a filter was parsed",
  "      labelpath -l \"Person|-Secret|>Movie\" -x",
  "",
  "      # A filter starting with \"-\" must be attached to its option",
  "      labelpath --label-filter=-Secret -n Person",
  "",
  "      # Emit JSON lines",
  "      labelpath -l \">Person\" -n Person -f json",
  "",
  "      # Display version information and exit",
  "      labelpath -V",
  "    "]

/-- The whole help. -/
def help : String := "\n".intercalate [usage, description, switchHelp, examples]

/-- The name and the version of the program. -/
def versionLine : String := unlines ["labelpath 1.0.0"]

/-- A refusal below the usage it belongs to. -/
def refusal (usage : String) (error : UsageError) : String :=
  usage ++ unlines ["labelpath: error: " ++ error.message]

end WalkFilter.CommandLine
