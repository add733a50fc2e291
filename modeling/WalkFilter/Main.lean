import WalkFilter.CommandLine.Run

/-!
# The program

Reads the files that the command line names, runs it over them, and prints what the run shows.
-/

namespace WalkFilter

/-- The system's code for reading a directory as a file. -/
def directoryCode : UInt32 := 21

/-- The system's code for a path that is too long; codes of failed openings come negated. -/
def tooLongCode : UInt32 := 0 - 36

/-- What a path leads to on disk. What can neither be read nor is a directory counts as missing. -/
def contentOnDisk (path : Path) : IO Content := do
  try
    let bytes ← IO.FS.readBinFile path.text
    return .file bytes.data.toList
  catch error =>
    match error with
    | .invalidArgument _ code _ => return if code = tooLongCode then .tooLong else .missing
    | .inappropriateType _ code _ => return if code = directoryCode then .directory else .missing
    | _ => return .missing

/-- The paths that a command line names, found by reading it as if every file were empty. -/
def namedPaths (arguments : List String) : List Path :=
  let settings := (CommandLine.parse (fun _ => .file []) arguments).progress.settings
  settings.filterFiles.getD [] ++ settings.nodesFile.toList

/-- The contents of some paths; every other path leads nowhere. -/
def filesOnDisk (paths : List Path) : IO Files := do
  let contents ← paths.mapM fun path => return (path, ← contentOnDisk path)
  return fun path => (contents.lookup path).getD .missing

/-- Writes a text, and tells whether it arrived. -/
def writeAll (stream : IO.FS.Stream) (text : String) : IO CommandLine.Channel := do
  try
    stream.putStr text
    stream.flush
    return .working
  catch _ => return .broken

end WalkFilter

/-- Runs the command line. If standard output turns out to be broken, the run counts as one over a
broken output. -/
def main (arguments : List String) : IO UInt32 := do
  let files ← WalkFilter.filesOnDisk (WalkFilter.namedPaths arguments)
  let outcome := WalkFilter.CommandLine.run files .working arguments
  let channel ← WalkFilter.writeAll (← IO.getStdout) outcome.stdout
  let outcome := WalkFilter.CommandLine.run files channel arguments
  discard (WalkFilter.writeAll (← IO.getStderr) outcome.stderr)
  return UInt32.ofNat outcome.exitCode
