import WalkFilter.Heap.Memory
import WalkFilter.Workbench

/-!
# The heap

Matchers, builders and groups as objects that refer to one another. A builder adds to four open
matchers of its own. A group refers to four matchers, which may be those of its caller: it takes
the frozen ones as they are and frozen copies of the others. The actions are those of the
workbench, and what the names stand for at any time is a workbench again. On the heap an object may
have several names, so that a caller can also get hold of the matchers of a group.
-/

namespace WalkFilter

/-- The kinds of objects that refer to a matcher for each operator. -/
inductive HolderKind where
  /-- Builders. -/
  | builder
  /-- Groups. -/
  | group
deriving DecidableEq, Repr

/-- An object that refers to a matcher for each operator. -/
structure Holder (kind : HolderKind) where
  /-- The matcher of each operator. -/
  matchers : ByOperator MatcherAddress
  /-- Only end nodes and terminators are results. -/
  endNodesOnly : Bool
deriving DecidableEq, Repr

instance (kind : HolderKind) : Inhabited (Holder kind) :=
  ⟨⟨⟨⟨0⟩, ⟨0⟩, ⟨0⟩, ⟨0⟩⟩, false⟩⟩

/-- A builder as an object. -/
abbrev BuilderCell := Holder .builder

/-- A group as an object. -/
abbrev GroupCell := Holder .group

/-- Where a builder is. -/
abbrev BuilderAddress := Address BuilderCell

/-- Where a group is. -/
abbrev GroupAddress := Address GroupCell

/-- What a name stands for. -/
inductive Reference where
  /-- A matcher. -/
  | matcher (address : MatcherAddress)
  /-- A builder. -/
  | builder (address : BuilderAddress)
  /-- A group. -/
  | group (address : GroupAddress)
deriving DecidableEq, Repr

/-- What a caller does: an action, or getting hold of an object that is there already. -/
inductive Move (Name : Type) where
  /-- Takes an action. -/
  | act (action : Action Name)
  /-- Gives one more name to an object. -/
  | share (name target : Name)
  /-- Gives a name to a matcher of a group. -/
  | take (group : Name) (operator : Operator) (target : Name)
deriving DecidableEq, Repr

/-- Every object that was made so far, under a name or not. -/
structure Heap (Name : Type) where
  /-- The matchers. -/
  memory : Memory := {}
  /-- The builders. -/
  builders : Store BuilderCell := {}
  /-- The groups. -/
  groups : Store GroupCell := {}
  /-- The objects under their names. -/
  names : Name → Option Reference := fun _ => none

namespace Heap

variable {Name : Type}

/-- Where the matcher of a builder for an operator is. -/
def builderMatcher (heap : Heap Name) (builder : BuilderAddress) (operator : Operator) :
    MatcherAddress :=
  (heap.builders.get builder).matchers.get operator

/-- Where the matcher of a group for an operator is. -/
def groupMatcher (heap : Heap Name) (group : GroupAddress) (operator : Operator) :
    MatcherAddress :=
  (heap.groups.get group).matchers.get operator

/-! ## Objects as they are now -/

/-- The builder at an address. -/
def builder (heap : Heap Name) (address : BuilderAddress) : Builder where
  patterns := (heap.builders.get address).matchers.map fun matcher =>
    (heap.memory.read matcher).patterns
  endNodesOnly := (heap.builders.get address).endNodesOnly

/-- The group at an address. -/
def group (heap : Heap Name) (address : GroupAddress) : Group :=
  .ofMatchers ((heap.groups.get address).matchers.map heap.memory.read)
    (heap.groups.get address).endNodesOnly

/-- The object that a reference leads to. -/
def object (heap : Heap Name) : Reference → Object
  | .matcher address => .matcher (heap.memory.read address)
  | .builder address => .builder (heap.builder address)
  | .group address => .group (heap.group address)

/-- The objects under their names. -/
def view (heap : Heap Name) : Workbench Name := fun name => (heap.names name).map heap.object

/-- The matcher under a name. -/
def matcher? (heap : Heap Name) (name : Name) : Option MatcherAddress :=
  match heap.names name with
  | some (.matcher address) => some address
  | _ => none

/-- The builder under a name. -/
def builder? (heap : Heap Name) (name : Name) : Option BuilderAddress :=
  match heap.names name with
  | some (.builder address) => some address
  | _ => none

/-- The group under a name. -/
def group? (heap : Heap Name) (name : Name) : Option GroupAddress :=
  match heap.names name with
  | some (.group address) => some address
  | _ => none

/-- The matcher under a name that may be missing. -/
def matcherOrMissing? (heap : Heap Name) : Option Name → Option (Option MatcherAddress)
  | none => some none
  | some name => (heap.matcher? name).map some

/-- The matchers under four names. -/
def matchers? (heap : Heap Name) (names : ByOperator (Option Name)) :
    Option (ByOperator (Option MatcherAddress)) := do
  let deny ← heap.matcherOrMissing? names.deny
  let allow ← heap.matcherOrMissing? names.allow
  let endNode ← heap.matcherOrMissing? names.endNode
  let terminator ← heap.matcherOrMissing? names.terminator
  return { deny, allow, endNode, terminator }

/-! ## Comparing groups -/

/-- The groups at two addresses are equal: for each operator their matchers have the same patterns,
and they have the same flag. -/
def equalGroups (heap : Heap Name) (left right : GroupAddress) : Bool :=
  let agree (operator : Operator) : Bool :=
    (heap.memory.read (heap.groupMatcher left operator)).agrees
      (heap.memory.read (heap.groupMatcher right operator))
  agree .deny && agree .allow && agree .endNode && agree .terminator &&
    (heap.groups.get left).endNodesOnly == (heap.groups.get right).endNodesOnly

/-- What a group counts as when it serves as a key: the keys of its matchers, one after the other,
and its flag. -/
def groupKey (heap : Heap Name) (address : GroupAddress) : Except MatcherError Group := do
  let key (operator : Operator) := (heap.memory.read (heap.groupMatcher address operator)).key
  let deny ← key .deny
  let allow ← key .allow
  let endNode ← key .endNode
  let terminator ← key .terminator
  return ⟨{ deny, allow, endNode, terminator }, (heap.groups.get address).endNodesOnly⟩

/-! ## Steps -/

/-- Goes on with the heap that a step leaves, unless the step is refused. -/
def andThen (result : Heap Name × Option Refusal)
    (next : Heap Name → Heap Name × Option Refusal) : Heap Name × Option Refusal :=
  match result with
  | (heap, none) => next heap
  | (heap, some refusal) => (heap, some refusal)

/-- One more builder. -/
def pushBuilder (heap : Heap Name) (cell : BuilderCell) : Heap Name × BuilderAddress :=
  ({ heap with builders := heap.builders.push cell }, heap.builders.fresh)

/-- One more group. -/
def pushGroup (heap : Heap Name) (cell : GroupCell) : Heap Name × GroupAddress :=
  ({ heap with groups := heap.groups.push cell }, heap.groups.fresh)

/-- Makes a builder with four open matchers. -/
def makeBuilder (heap : Heap Name) : Heap Name × BuilderAddress :=
  let made := heap.memory.forEach Memory.make ⟨{}, {}, {}, {}⟩
  pushBuilder { heap with memory := made.1 } ⟨made.2, false⟩

/-- Limits the results of a builder to end nodes and terminators, or lifts the limit. -/
def setEndNodesOnly (heap : Heap Name) (address : BuilderAddress) (value : Bool) : Heap Name :=
  { heap with
    builders := heap.builders.put address
      { heap.builders.get address with endNodesOnly := value } }

/-- Adds a pattern to a matcher. -/
def addPattern (heap : Heap Name) (address : MatcherAddress) (label : Option String) :
    Heap Name × Option Refusal :=
  let added := heap.memory.add address label
  ({ heap with memory := added.1 }, added.2.map .matcher)

/-- Adds a token that has been taken apart to a builder. -/
def addToken (heap : Heap Name) (address : BuilderAddress) (token : Token) :
    Heap Name × Option Refusal :=
  let limited := if token.operator.restricts then heap.setEndNodesOnly address true else heap
  limited.addPattern (limited.builderMatcher address token.operator) (some token.label)

/-- Adds one token to a builder. -/
def addLabel (heap : Heap Name) (address : BuilderAddress) (token : Option String) :
    Heap Name × Option Refusal :=
  match Token.parse? token with
  | none => (heap, none)
  | some token => heap.addToken address token

/-- Adds several tokens to a builder. -/
def addTokens (heap : Heap Name) (address : BuilderAddress) :
    List String → Heap Name × Option Refusal
  | [] => (heap, none)
  | token :: rest => andThen (heap.addLabel address (some token)) (·.addTokens address rest)

/-- Adds every token of a filter to a builder. -/
def addLabels (heap : Heap Name) (address : BuilderAddress) (filter : Option String) :
    Heap Name × Option Refusal :=
  heap.addTokens address (Text.pieces '|' (filter.getD ""))

/-- Adds several filters to a builder. -/
def addFilters (heap : Heap Name) (address : BuilderAddress) :
    List String → Heap Name × Option Refusal
  | [] => (heap, none)
  | filter :: rest => andThen (heap.addLabels address (some filter)) (·.addFilters address rest)

/-- Adds the filters of files to a builder, up to the first file that cannot be read. -/
def loadFilters (files : Files) (heap : Heap Name) (address : BuilderAddress) :
    List Path → Heap Name × Option Refusal
  | [] => (heap, none)
  | path :: rest =>
    match files.readFilters path with
    | .error error => (heap, some (.unreadable error))
    | .ok filters =>
      andThen (heap.addFilters address filters) fun heap => heap.loadFilters files address rest

/-- Makes a group of four matchers. -/
def makeGroup (heap : Heap Name) (matchers : ByOperator (Option MatcherAddress))
    (endNodesOnly : Bool) : Heap Name × GroupAddress :=
  let secured := heap.memory.forEach Memory.secure matchers
  pushGroup { heap with memory := secured.1 } ⟨secured.2, endNodesOnly⟩

/-- Makes a group of what a builder has collected so far. -/
def build (heap : Heap Name) (address : BuilderAddress) : Heap Name × GroupAddress :=
  let frozen := heap.memory.forEach Memory.freeze (heap.builders.get address).matchers
  makeGroup { heap with memory := frozen.1 } (frozen.2.map some)
    (heap.builders.get address).endNodesOnly

/-- Works on a builder. -/
def operate (files : Files) (heap : Heap Name) (address : BuilderAddress) :
    Operation → Heap Name × Option Refusal
  | .addLabels filter => heap.addLabels address filter
  | .addLabel token => heap.addLabel address token
  | .loadFilters paths => heap.loadFilters files address paths
  | .setEndNodesOnly value => (heap.setEndNodesOnly address value, none)
  | .build => ((heap.build address).1, none)

/-! ## Actions -/

variable [DecidableEq Name]

/-- The heap with a name for an object. -/
def bind (heap : Heap Name) (target : Name) (reference : Reference) : Heap Name :=
  { heap with names := fun name => if name = target then some reference else heap.names name }

/-- What an action does, and why it is refused if it is. -/
def act (files : Files) (heap : Heap Name) : Action Name → Heap Name × Option Refusal
  | .newMatcher target labels =>
    let made := heap.memory.make (.ofList labels)
    ({ heap with memory := made.1 }.bind target (.matcher made.2), none)
  | .addToMatcher name label =>
    match heap.matcher? name with
    | none => (heap, some .noSuchObject)
    | some matcher => heap.addPattern matcher label
  | .freeze name target =>
    match heap.matcher? name with
    | none => (heap, some .noSuchObject)
    | some matcher =>
      let made := heap.memory.freeze matcher
      ({ heap with memory := made.1 }.bind target (.matcher made.2), none)
  | .newBuilder target filter =>
    let made := heap.makeBuilder
    andThen (made.1.addLabels made.2 filter) fun heap =>
      (heap.bind target (.builder made.2), none)
  | .operate name operation =>
    match heap.builder? name with
    | none => (heap, some .noSuchObject)
    | some builder => heap.operate files builder operation
  | .build name target =>
    match heap.builder? name with
    | none => (heap, some .noSuchObject)
    | some builder =>
      let built := heap.build builder
      (built.1.bind target (.group built.2), none)
  | .groupOfFilter target filter =>
    let made := heap.makeBuilder
    andThen (made.1.addLabels made.2 filter) fun heap =>
      let built := heap.build made.2
      (built.1.bind target (.group built.2), none)
  | .groupOfMatchers target names endNodesOnly =>
    match heap.matchers? names with
    | none => (heap, some .noSuchObject)
    | some matchers =>
      let made := heap.makeGroup matchers endNodesOnly
      (made.1.bind target (.group made.2), none)
  | .addToGroup name operator label =>
    match heap.group? name with
    | none => (heap, some .noSuchObject)
    | some group => heap.addPattern (heap.groupMatcher group operator) label
  | .changeField name change field =>
    match heap.group? name with
    | none => (heap, some .noSuchObject)
    | some _ => (heap, some (.fixedField change field))
  | .evaluate name _ _ =>
    match heap.group? name with
    | none => (heap, some .noSuchObject)
    | some _ => (heap, none)

/-- The heap after a history of actions. -/
def actAll (files : Files) (heap : Heap Name) (actions : List (Action Name)) : Heap Name :=
  actions.foldl (fun heap action => (heap.act files action).1) heap

/-- What a move does, and why it is refused if it is. -/
def move (files : Files) (heap : Heap Name) : Move Name → Heap Name × Option Refusal
  | .act action => heap.act files action
  | .share name target =>
    match heap.names name with
    | none => (heap, some .noSuchObject)
    | some reference => (heap.bind target reference, none)
  | .take name operator target =>
    match heap.group? name with
    | none => (heap, some .noSuchObject)
    | some group => (heap.bind target (.matcher (heap.groupMatcher group operator)), none)

/-- The heap after a history of moves. -/
def moveAll (files : Files) (heap : Heap Name) (moves : List (Move Name)) : Heap Name :=
  moves.foldl (fun heap move => (heap.move files move).1) heap

end Heap

end WalkFilter
