import WalkFilter.Filter.Operation

/-!
# The workbench

Matchers, builders and groups live side by side under names. An action names the objects it works
on; one that is refused changes nothing, except that loading filter files keeps what was loaded
before the file that cannot be read.
-/

namespace WalkFilter

/-- An object of the workbench. -/
inductive Object where
  /-- A matcher. -/
  | matcher (matcher : Matcher)
  /-- A builder. -/
  | builder (builder : Builder)
  /-- A group. -/
  | group (group : Group)
deriving DecidableEq, Repr

/-- The objects under their names. -/
abbrev Workbench (Name : Type) := Name → Option Object

/-- An attempt to change a field of a group. -/
inductive FieldChange where
  /-- Another value is assigned. -/
  | assign
  /-- The field is deleted. -/
  | delete
deriving DecidableEq, Repr

/-- Why an action is refused. -/
inductive Refusal where
  /-- A matcher refuses it. -/
  | matcher (error : MatcherError)
  /-- A filter file cannot be read. -/
  | unreadable (error : ReadError)
  /-- The fields of a group are fixed. -/
  | fixedField (change : FieldChange) (field : String)
  /-- The name does not stand for an object of the right kind. -/
  | noSuchObject
deriving DecidableEq, Repr

/-- The refusal in words. -/
def Refusal.message : Refusal → String
  | matcher error => error.message
  | unreadable error => error.message
  | fixedField .assign field => "cannot assign to field " ++ Text.quoted field
  | fixedField .delete field => "cannot delete field " ++ Text.quoted field
  | noSuchObject => "no such object"

/-- An action on the workbench. -/
inductive Action (Name : Type) where
  /-- Makes an open matcher. -/
  | newMatcher (target : Name) (labels : List (Option String))
  /-- Adds a pattern to a matcher. -/
  | addToMatcher (matcher : Name) (label : Option String)
  /-- Makes a frozen copy of a matcher. -/
  | freeze (matcher target : Name)
  /-- Makes a builder that starts from a filter. -/
  | newBuilder (target : Name) (filter : Option String)
  /-- Works on a builder. -/
  | operate (builder : Name) (operation : Operation)
  /-- Makes the group of a builder. -/
  | build (builder target : Name)
  /-- Makes the group of a filter. -/
  | groupOfFilter (target : Name) (filter : Option String)
  /-- Makes the group of four matchers; a missing one counts as empty. -/
  | groupOfMatchers (target : Name) (matchers : ByOperator (Option Name)) (endNodesOnly : Bool)
  /-- Adds a pattern to a matcher of a group. -/
  | addToGroup (group : Name) (operator : Operator) (label : Option String)
  /-- Changes a field of a group. -/
  | changeField (group : Name) (change : FieldChange) (field : String)
  /-- Asks a group for a decision. -/
  | evaluate (group : Name) (labels : List String) (belowMinLevel : Bool)
deriving DecidableEq, Repr

namespace Workbench

variable {Name : Type} [DecidableEq Name]

/-- The workbench with an object under a name, in place of what stood there. -/
def place (bench : Workbench Name) (target : Name) (object : Object) : Workbench Name :=
  fun name => if name = target then some object else bench name

/-- The matcher under a name. -/
def matcher? (bench : Workbench Name) (name : Name) : Option Matcher :=
  match bench name with
  | some (.matcher matcher) => some matcher
  | _ => none

/-- The builder under a name. -/
def builder? (bench : Workbench Name) (name : Name) : Option Builder :=
  match bench name with
  | some (.builder builder) => some builder
  | _ => none

/-- The group under a name. -/
def group? (bench : Workbench Name) (name : Name) : Option Group :=
  match bench name with
  | some (.group group) => some group
  | _ => none

/-- The matcher under a name that may be missing. -/
def matcherOrEmpty? (bench : Workbench Name) : Option Name → Option Matcher
  | none => some {}
  | some name => bench.matcher? name

/-- The matchers under four names. -/
def matchers? (bench : Workbench Name) (names : ByOperator (Option Name)) :
    Option (ByOperator Matcher) := do
  let deny ← bench.matcherOrEmpty? names.deny
  let allow ← bench.matcherOrEmpty? names.allow
  let endNode ← bench.matcherOrEmpty? names.endNode
  let terminator ← bench.matcherOrEmpty? names.terminator
  return { deny, allow, endNode, terminator }

/-- What an action does, and why it is refused if it is. -/
def act (files : Files) (bench : Workbench Name) : Action Name → Workbench Name × Option Refusal
  | .newMatcher target labels => (bench.place target (.matcher (.ofList labels)), none)
  | .addToMatcher name label =>
    match bench.matcher? name with
    | none => (bench, some .noSuchObject)
    | some matcher =>
      match matcher.add label with
      | .ok matcher => (bench.place name (.matcher matcher), none)
      | .error error => (bench, some (.matcher error))
  | .freeze name target =>
    match bench.matcher? name with
    | none => (bench, some .noSuchObject)
    | some matcher => (bench.place target (.matcher matcher.freeze), none)
  | .newBuilder target filter => (bench.place target (.builder (.ofFilter filter)), none)
  | .operate name operation =>
    match bench.builder? name with
    | none => (bench, some .noSuchObject)
    | some builder =>
      let loaded := operation.apply files builder
      (bench.place name (.builder loaded.builder), loaded.error.map .unreadable)
  | .build name target =>
    match bench.builder? name with
    | none => (bench, some .noSuchObject)
    | some builder => (bench.place target (.group builder.build), none)
  | .groupOfFilter target filter => (bench.place target (.group (.ofFilter filter)), none)
  | .groupOfMatchers target names endNodesOnly =>
    match bench.matchers? names with
    | none => (bench, some .noSuchObject)
    | some matchers => (bench.place target (.group (.ofMatchers matchers endNodesOnly)), none)
  | .addToGroup name operator label =>
    match bench.group? name with
    | none => (bench, some .noSuchObject)
    | some group =>
      match (group.matcher operator).add label with
      | .ok _ => (bench, none)
      | .error error => (bench, some (.matcher error))
  | .changeField name change field =>
    match bench.group? name with
    | none => (bench, some .noSuchObject)
    | some _ => (bench, some (.fixedField change field))
  | .evaluate name _ _ =>
    match bench.group? name with
    | none => (bench, some .noSuchObject)
    | some _ => (bench, none)

/-- The records that an action leaves. -/
def records (files : Files) (bench : Workbench Name) : Action Name → List Record
  | .newBuilder _ filter => Record.ofFilter filter
  | .operate name operation =>
    match bench.builder? name with
    | none => []
    | some builder => operation.records files builder
  | .build name _ =>
    match bench.builder? name with
    | none => []
    | some builder => [.built builder.build]
  | .groupOfFilter _ filter => Record.ofFilter filter ++ [.built (.ofFilter filter)]
  | _ => []

/-- The workbench after a history of actions. -/
def actAll (files : Files) (bench : Workbench Name) (actions : List (Action Name)) :
    Workbench Name :=
  actions.foldl (fun bench action => (bench.act files action).1) bench

/-- What an object is when it is compared: a matcher is its patterns and a group is its patterns and
its flag, while every builder is an object of its own. -/
inductive Key (Name : Type) where
  /-- The patterns of a matcher. -/
  | matcher (patterns : Patterns)
  /-- A group. -/
  | group (group : Group)
  /-- The builder of this name. -/
  | builder (name : Name)
deriving DecidableEq, Repr

/-- The key under which an object is compared. -/
def comparisonKey (name : Name) : Object → Key Name
  | .matcher matcher => .matcher matcher.patterns
  | .group group => .group group
  | .builder _ => .builder name

/-- The key under which an object is looked up. A matcher has one only when it is frozen. -/
def lookupKey (name : Name) : Object → Except MatcherError (Key Name)
  | .matcher matcher => matcher.key.map .matcher
  | .group group => .ok (.group group)
  | .builder _ => .ok (.builder name)

/-- The object under a name. -/
def object (bench : Workbench Name) (name : Name) : Except Refusal Object :=
  match bench name with
  | some object => .ok object
  | none => .error .noSuchObject

/-- The objects under two names are equal. -/
def equal (bench : Workbench Name) (left right : Name) : Except Refusal Bool := do
  let leftObject ← bench.object left
  let rightObject ← bench.object right
  return comparisonKey left leftObject = comparisonKey right rightObject

/-- The key under which the object of a name is looked up. -/
def keyOf (bench : Workbench Name) (name : Name) : Except Refusal (Key Name) := do
  let object ← bench.object name
  (lookupKey name object).mapError .matcher

/-- The objects under two names have the same lookup key. -/
def equalKeys (bench : Workbench Name) (left right : Name) : Except Refusal Bool := do
  let leftKey ← bench.keyOf left
  let rightKey ← bench.keyOf right
  return leftKey = rightKey

/-- The number of different lookup keys among the objects under some names. -/
def countDistinct (bench : Workbench Name) (names : List Name) : Except Refusal Nat := do
  let keys ← names.mapM bench.keyOf
  return keys.eraseDups.length

end Workbench

end WalkFilter
