import WalkFilter.Files.Content

/-!
# File trees

A tree of files below the working directory. Paths are walked name by name: a name below a plain
file leads nowhere, a double dot goes back to the parent, and outside the tree only directories on
the way up are known. A name that is too long is found out only when the walk comes to it, while the
length of the whole path is checked before the walk starts.
-/

namespace WalkFilter

/-- Files and directories by the names that lead to them. -/
structure FileTree where
  /-- The names and the bytes of every file. -/
  files : List (List String × List UInt8) := []
  /-- The names of directories; the parents of files need not be listed. -/
  directories : List (List String) := []
deriving Repr

namespace FileTree

/-- The greatest number of bytes in a name. -/
def nameLimit : Nat := 255

/-- The greatest number of bytes in the text of a path. -/
def pathLimit : Nat := 4095

/-- The tree with one more file. -/
def addFile (path : Path) (bytes : List UInt8) (tree : FileTree) : FileTree :=
  { tree with files := (path.names, bytes) :: tree.files }

/-- The tree with one more directory. -/
def addDirectory (path : Path) (tree : FileTree) : FileTree :=
  { tree with directories := path.names :: tree.directories }

/-- The names lead to a directory: one that is listed, or a parent of something listed. -/
def isDirectory (tree : FileTree) (names : List String) : Bool :=
  tree.directories.any (names.isPrefixOf ·) ||
    tree.files.any fun file => names.isPrefixOf file.1 && names ≠ file.1

/-- Walks on from a directory of the tree, or from outside the tree. -/
def walk (tree : FileTree) : (place : Option (List String)) → (names : List String) → Content
  | _, [] => .directory
  | none, name :: rest =>
    if name = ".." then walk tree none rest
    else if nameLimit < name.utf8ByteSize then .tooLong
    else .missing
  | some place, name :: rest =>
    if name = ".." then
      walk tree (if place = [] then none else some place.dropLast) rest
    else if nameLimit < name.utf8ByteSize then .tooLong
    else
      let next := place ++ [name]
      if tree.isDirectory next then walk tree (some next) rest
      else
        match tree.files.lookup next, rest with
        | some bytes, [] => .file bytes
        | _, _ => .missing

/-- What the paths lead to. No path holds a NUL, however long it is. -/
def contents (tree : FileTree) : Files := fun path =>
  if path.text.toList.contains '\x00' then .missing
  else if pathLimit < path.text.utf8ByteSize then .tooLong
  else tree.walk (if path.anchor = .relative then some [] else none) path.names

end FileTree

end WalkFilter
