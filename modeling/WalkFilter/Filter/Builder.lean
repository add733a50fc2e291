import WalkFilter.Filter.Group
import WalkFilter.Filter.Token
import WalkFilter.Text.Split

/-!
# Building groups

A builder collects the tokens of filters and gives a group at any time. Reading a filter never
fails: an empty token is skipped, and a token that is an operator alone adds no label, though a
restricting operator still limits results to end nodes and terminators.
-/

namespace WalkFilter

/-- The tokens collected so far. -/
structure Builder where
  /-- The patterns of each operator. -/
  patterns : ByOperator Patterns := ⟨∅, ∅, ∅, ∅⟩
  /-- Only end nodes and terminators are results. -/
  endNodesOnly : Bool := false
deriving DecidableEq, Repr, Inhabited

namespace Builder

/-- Adds a token that has been taken apart. -/
def addToken (builder : Builder) (token : Token) : Builder where
  patterns := builder.patterns.modify token.operator (·.add token.label)
  endNodesOnly := builder.endNodesOnly || token.operator.restricts

/-- Adds one token. It is not split at `|`. -/
def addLabel (builder : Builder) (token : Option String) : Builder :=
  match Token.parse? token with
  | none => builder
  | some token => builder.addToken token

/-- Adds every token of a filter in order. -/
def addLabels (builder : Builder) (filter : Option String) : Builder :=
  (Text.pieces '|' (filter.getD "")).foldl (fun builder token => builder.addLabel (some token)) builder

/-- Limits results to end nodes and terminators, or lifts the limit. -/
def setEndNodesOnly (builder : Builder) (value : Bool) : Builder :=
  { builder with endNodesOnly := value }

/-- The group of the tokens collected so far. -/
def build (builder : Builder) : Group := ⟨builder.patterns, builder.endNodesOnly⟩

/-- A builder that starts from a filter. -/
def ofFilter (filter : Option String) : Builder := ({} : Builder).addLabels filter

end Builder

/-- The group of a filter. -/
def Group.ofFilter (filter : Option String) : Group := (Builder.ofFilter filter).build

end WalkFilter
