import WalkFilter.Decision
import WalkFilter.Filter.Matcher
import WalkFilter.Filter.Operator

/-!
# Matcher groups

A group holds the patterns of a whole filter, one set for each operator, and decides what a walk
does with a node. The operators are consulted in a fixed order and the first one that applies
decides: the denylist, the terminators, the end nodes, and last the allowlist, which applies to
every node if it is empty. A node to which none applies is treated like a denied one.
-/

namespace WalkFilter

/-- The patterns of a filter. -/
structure Group where
  /-- The patterns of each operator. -/
  patterns : ByOperator Patterns := ⟨∅, ∅, ∅, ∅⟩
  /-- Only end nodes and terminators are results. -/
  endNodesOnly : Bool := false
deriving DecidableEq, Repr, Inhabited

namespace Group

/-- The group of four matchers, one for each operator. Later changes to the matchers do not reach
it. -/
def ofMatchers (matchers : ByOperator Matcher) (endNodesOnly : Bool) : Group :=
  ⟨matchers.map (·.patterns), endNodesOnly⟩

/-- The matcher of an operator. The matchers of a group are frozen. -/
def matcher (group : Group) (operator : Operator) : Matcher :=
  { patterns := group.patterns.get operator, frozen := true }

/-- What the walk does with a node that carries these labels. Below the minimum level no node is a
result, and a walk that would end at a terminator goes on. -/
def evaluate (group : Group) (labels : List String) (belowMinLevel : Bool) : Decision :=
  if group.patterns.deny.hits labels then .excludePrune
  else if group.patterns.terminator.hits labels then
    if belowMinLevel then .excludeContinue else .includePrune
  else if group.patterns.endNode.hits labels then
    if belowMinLevel then .excludeContinue else .includeContinue
  else if group.patterns.allow.isEmpty || group.patterns.allow.hits labels then
    if group.endNodesOnly || belowMinLevel then .excludeContinue else .includeContinue
  else .excludePrune

/-- A truth value as it is written in descriptions. -/
def describeFlag (flag : Bool) : String := if flag then "True" else "False"

/-- The patterns by the names of their operators, and the flag. -/
def describePatterns (group : Group) : String :=
  let entry (name : String) (operator : Operator) : String :=
    Text.quoted name ++ ": " ++ Text.quotedList (group.patterns.get operator).toList
  "\x7b" ++ ", ".intercalate [entry "denylist" .deny, entry "allowlist" .allow,
    entry "end_nodes" .endNode, entry "terminators" .terminator,
    Text.quoted "end_nodes_only" ++ ": " ++ describeFlag group.endNodesOnly] ++ "\x7d"

/-- The group with its matchers described. -/
def describe (group : Group) : String :=
  let entry (name : String) (operator : Operator) : String :=
    name ++ "=" ++ (group.matcher operator).describe
  "LabelMatcherGroup(" ++ ", ".intercalate [entry "denylist" .deny, entry "allowlist" .allow,
    entry "end_nodes" .endNode, entry "terminators" .terminator,
    "end_nodes_only=" ++ describeFlag group.endNodesOnly] ++ ")"

end Group

end WalkFilter
