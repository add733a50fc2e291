import WalkFilter.Files.Content
import WalkFilter.Json.Reader
import WalkFilter.Node.Sample

/-!
# Node lists

A node list holds one JSON object on each line that is not blank. `Sample.ofLine` reads one line;
`Listing.read` reads lines in order and stops at the first that is no node.
-/

namespace WalkFilter

/-- Why a line is no node. -/
inductive NodeFlaw where
  /-- The line is not JSON. -/
  | notJson (fault : Json.Fault)
  /-- The document is not an object. -/
  | notObject
  /-- The labels are not a list of strings. -/
  | badLabels
  /-- The depth is not an integer, or it is negative. -/
  | badDepth
deriving DecidableEq, Repr

/-- The flaw in words. -/
def NodeFlaw.message : NodeFlaw → String
  | notJson fault => "invalid JSON: " ++ fault.message
  | notObject => "expected a JSON object"
  | badLabels => "'labels' must be a list of strings"
  | badDepth => "'depth' must be a non-negative integer"

/-- A line of a node list that is no node. -/
structure LineError where
  /-- The name of the list. -/
  source : String
  /-- The number of the line, the first one being `1`. -/
  line : Int
  /-- What is wrong with the line. -/
  reason : String
deriving DecidableEq, Repr

/-- The place and the reason. -/
def LineError.message (error : LineError) : String :=
  error.source ++ ":" ++ toString error.line ++ ": " ++ error.reason

/-- Why a node list is not read to its end. -/
inductive ListingError where
  /-- A line is no node. -/
  | line (error : LineError)
  /-- A line holds an integer with this many digits, more than are read. -/
  | tooManyDigits (count : Nat)
  /-- The file with the list cannot be read. -/
  | file (error : ReadError)
deriving DecidableEq, Repr

/-- The error in words. -/
def ListingError.message : ListingError → String
  | line error => error.message
  | tooManyDigits count => (Json.Fault.tooManyDigits count).message
  | file error => error.message

/-- The error for a line with a flaw. -/
def ListingError.ofFlaw (source : String) (number : Nat) : NodeFlaw → ListingError
  | .notJson (.tooManyDigits count) => .tooManyDigits count
  | flaw => .line ⟨source, number, flaw.message⟩

namespace Sample

/-- The labels that a value lists. -/
def labels? : Json.Value → Option NodeLabels
  | .array elements => (elements.mapM Json.Value.text?).map NodeLabels.ofTexts
  | _ => none

/-- The depth that a value gives. -/
def depth? : Json.Value → Option Int
  | .integer depth => if depth < 0 then none else some depth
  | _ => none

/-- The node that an object describes. A missing list of labels is empty, and a missing depth is
the default. -/
def ofMembers (defaultDepth : Json.Value) (members : List (CodeText × Json.Value)) :
    Except NodeFlaw Sample :=
  match labels? ((Json.member? "labels" members).getD (.array [])) with
  | none => .error .badLabels
  | some labels =>
    match depth? ((Json.member? "depth" members).getD defaultDepth) with
    | none => .error .badDepth
    | some depth => .ok { labels, depth }

/-- The node that a line describes. -/
def ofLine (defaultDepth : Json.Value) (line : String) : Except NodeFlaw Sample :=
  match Json.parse line.toList with
  | .error fault => .error (.notJson fault)
  | .ok (.object members) => ofMembers defaultDepth members
  | .ok _ => .error .notObject

end Sample

/-- What reading a node list leads to. -/
structure Listing where
  /-- The nodes before the first line that is no node. -/
  samples : List Sample
  /-- What is wrong with that line, if there is one. -/
  error : Option ListingError
deriving DecidableEq, Repr

namespace Listing

/-- The line holds nothing but blanks. -/
def isBlankLine (line : String) : Bool := (Text.strip line.toList).isEmpty

/-- Reads lines, the first of which has the given number. -/
def readFrom (source : String) (defaultDepth : Json.Value) : (number : Nat) → List String → Listing
  | _, [] => ⟨[], none⟩
  | number, line :: rest =>
    if isBlankLine line then readFrom source defaultDepth (number + 1) rest
    else
      match Sample.ofLine defaultDepth line with
      | .error flaw => ⟨[], some (.ofFlaw source number flaw)⟩
      | .ok sample =>
        let listing := readFrom source defaultDepth (number + 1) rest
        { listing with samples := sample :: listing.samples }

/-- Reads the lines of a node list. -/
def read (source : String) (defaultDepth : Json.Value) (lines : List String) : Listing :=
  readFrom source defaultDepth 1 lines

/-- The nodes of a list, if all of it can be read. -/
def complete (listing : Listing) : Except ListingError (List Sample) :=
  match listing.error with
  | some error => .error error
  | none => .ok listing.samples

end Listing

/-- The nodes in the file at a path. -/
def Files.readNodes (files : Files) (defaultDepth : Json.Value) (path : Path) :
    Except ListingError (List Sample) :=
  match files.readLines .nodes path with
  | .error error => .error (.file error)
  | .ok lines => (Listing.read path.text defaultDepth lines).complete

end WalkFilter
