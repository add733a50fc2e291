import WalkFilter.Files.Path
import WalkFilter.Text.Lines
import WalkFilter.Text.Quoted
import WalkFilter.Text.Utf8

/-!
# Reading files

What stands behind the paths is a function, so that reading a file has no effect and the same files
can be read by two runs. A file is read as a whole: it is decoded as UTF-8, its newlines are
unified, and it is cut into lines.
-/

namespace WalkFilter

/-- What a path leads to. -/
inductive Content where
  /-- Nothing. -/
  | missing
  /-- Nothing, because the path or a name in it is longer than the system allows. -/
  | tooLong
  /-- A directory. -/
  | directory
  /-- A file with these bytes. -/
  | file (bytes : List UInt8)
deriving DecidableEq, Repr, Inhabited

/-- What every path leads to. -/
abbrev Files := Path → Content

/-- What a file is read for. -/
inductive FileRole where
  /-- It holds filters. -/
  | filter
  /-- It holds nodes. -/
  | nodes
deriving DecidableEq, Repr

/-- The role as it starts a message. -/
def FileRole.word : FileRole → String
  | filter => "Filter"
  | nodes => "Nodes"

/-- Why a file cannot be read. -/
inductive ReadError where
  /-- There is no such file. -/
  | missing (role : FileRole) (path : Path)
  /-- The path or a name in it is too long. -/
  | tooLong (path : Path)
  /-- The path leads to a directory. -/
  | directory (path : Path)
  /-- The file is not UTF-8. -/
  | undecodable (fault : Text.Utf8.Fault)
deriving DecidableEq, Repr

/-- The error in words. -/
def ReadError.message : ReadError → String
  | missing role path => role.word ++ " file not found: " ++ path.text
  | tooLong path => "[Errno 36] File name too long: " ++ Text.quoted path.text
  | directory path => "[Errno 21] Is a directory: " ++ Text.quoted path.text
  | undecodable fault => fault.message

/-- The lines of a decoded file. -/
def linesOfText (text : List Char) : List String :=
  (Text.lines (Text.unifyNewlines text)).map String.ofList

/-- The lines of the file at a path. -/
def Files.readLines (files : Files) (role : FileRole) (path : Path) :
    Except ReadError (List String) :=
  match files path with
  | .missing => .error (.missing role path)
  | .tooLong => .error (.tooLong path)
  | .directory => .error (.directory path)
  | .file bytes =>
    match Text.Utf8.decode bytes with
    | .error fault => .error (.undecodable fault)
    | .ok text => .ok (linesOfText text)

end WalkFilter
