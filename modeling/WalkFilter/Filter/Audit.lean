import WalkFilter.Filter.Source

/-!
# Audit records

Every step of building and using a group leaves records: one for each token that is not empty, one
for each filter file that is opened, one for each group that is built and one for each evaluation
run.
-/

namespace WalkFilter

/-- One record of what was done. -/
inductive Record where
  /-- A token without a label was skipped. -/
  | discarding (token : String)
  /-- A label was added to the matcher of an operator. -/
  | adding (label : String) (operator : Operator)
  /-- A filter file was opened. -/
  | loading (path : Path)
  /-- A group was built. -/
  | built (group : Group)
  /-- Nodes were evaluated. -/
  | evaluating (count : Nat) (minLevel : Int)
deriving DecidableEq, Repr

namespace Record

/-- The part of the program that makes the record. -/
def origin : Record → String
  | evaluating _ _ => "labelpath.cli.main"
  | _ => "labelpath.matchers.label_matcher_group"

/-- The record in words. -/
def message : Record → String
  | discarding token => "Discarding filter token " ++ Text.quoted token ++ " with no label"
  | adding label operator =>
    "Adding label " ++ Text.quoted label ++ " to the " ++ operator.word ++ " matcher"
  | loading path => "Loading label filters from " ++ path.text
  | built group => "Built label matcher group " ++ group.describePatterns
  | evaluating count minLevel =>
    "Evaluating " ++ toString count ++ " node(s) with minimum level " ++ toString minLevel

/-- The record with its origin. -/
def line (record : Record) : String := record.origin ++ ": " ++ record.message

/-- The record of adding one token. -/
def ofToken (token : Option String) : List Record :=
  match Token.parse? token with
  | none => []
  | some parsed =>
    if parsed.label = "" then [discarding (token.getD "")] else [adding parsed.label parsed.operator]

/-- The records of adding a filter. -/
def ofFilter (filter : Option String) : List Record :=
  (Text.pieces '|' (filter.getD "")).flatMap fun token => ofToken (some token)

/-- The records of loading filter files. A file that is there is opened before it turns out to be a
directory or not to be UTF-8. -/
def ofPaths (files : Files) : List Path → List Record
  | [] => []
  | path :: rest =>
    match files.readFilters path with
    | .error (.missing _ _) | .error (.tooLong _) => []
    | .error (.directory _) | .error (.undecodable _) => [loading path]
    | .ok filters =>
      loading path :: filters.flatMap (fun filter => ofFilter (some filter)) ++ ofPaths files rest

/-- The records of adding the filters of a source. -/
def ofSource (files : Files) : FilterSource → List Record
  | .inline filter => ofFilter (some filter)
  | .file path => ofPaths files [path]

end Record

end WalkFilter
