import WalkFilter.Filter.Audit

/-!
# Operations on a builder

The operations that make up the history of a builder, what each does to it, and the records each
leaves. Building takes a group out and leaves the builder as it is.
-/

namespace WalkFilter

/-- An operation on a builder. -/
inductive Operation where
  /-- Adds every token of a filter. -/
  | addLabels (filter : Option String)
  /-- Adds one token. -/
  | addLabel (token : Option String)
  /-- Adds the filters of files. -/
  | loadFilters (paths : List Path)
  /-- Limits results to end nodes and terminators, or lifts the limit. -/
  | setEndNodesOnly (value : Bool)
  /-- Builds a group. -/
  | build
deriving DecidableEq, Repr

namespace Operation

/-- What the operation does to a builder, and the error that cuts it short. -/
def apply (files : Files) (builder : Builder) : Operation → Loaded
  | addLabels filter => ⟨builder.addLabels filter, none⟩
  | addLabel token => ⟨builder.addLabel token, none⟩
  | loadFilters paths => builder.loadFilters files paths
  | setEndNodesOnly value => ⟨builder.setEndNodesOnly value, none⟩
  | build => ⟨builder, none⟩

/-- The records that the operation leaves. -/
def records (files : Files) (builder : Builder) : Operation → List Record
  | addLabels filter => Record.ofFilter filter
  | addLabel token => Record.ofToken token
  | loadFilters paths => Record.ofPaths files paths
  | setEndNodesOnly _ => []
  | build => [.built builder.build]

/-- The builder after a history of operations. An operation that is cut short does not end the
history. -/
def runAll (files : Files) (builder : Builder) (operations : List Operation) : Builder :=
  operations.foldl (fun builder operation => (operation.apply files builder).builder) builder

/-- The records of a history of operations. -/
def recordsOfAll (files : Files) : Builder → List Operation → List Record
  | _, [] => []
  | builder, operation :: rest =>
    operation.records files builder ++
      recordsOfAll files (operation.apply files builder).builder rest

end Operation

end WalkFilter
