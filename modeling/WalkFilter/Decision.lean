/-!
# Decisions

For every node that a path walk visits there are two answers: whether the node is part of the
results, and whether the walk goes on past it. A decision is the pair of them.
-/

namespace WalkFilter

/-- What a walk does with a node. -/
inductive Decision where
  /-- The node is a result and the walk goes on past it. -/
  | includeContinue
  /-- The node is a result and the walk stops at it. -/
  | includePrune
  /-- The node is no result and the walk goes on past it. -/
  | excludeContinue
  /-- The node is no result and the walk stops at it. -/
  | excludePrune
deriving DecidableEq, Repr, Inhabited

namespace Decision

/-- The decisions in their usual order. -/
def all : List Decision := [includeContinue, includePrune, excludeContinue, excludePrune]

/-- The node is a result. -/
def includes : Decision → Bool
  | includeContinue | includePrune => true
  | excludeContinue | excludePrune => false

/-- The walk goes on past the node. -/
def continues : Decision → Bool
  | includeContinue | excludeContinue => true
  | includePrune | excludePrune => false

/-- The decision that gives these two answers. -/
def of (includes continues : Bool) : Decision :=
  match includes, continues with
  | true, true => includeContinue
  | true, false => includePrune
  | false, true => excludeContinue
  | false, false => excludePrune

/-- The decision as it is written in reports. -/
def word : Decision → String
  | includeContinue => "include_continue"
  | includePrune => "include_prune"
  | excludeContinue => "exclude_continue"
  | excludePrune => "exclude_prune"

/-- The decision in capitals. -/
def name : Decision → String
  | includeContinue => "INCLUDE_CONTINUE"
  | includePrune => "INCLUDE_PRUNE"
  | excludeContinue => "EXCLUDE_CONTINUE"
  | excludePrune => "EXCLUDE_PRUNE"

/-- The decision that is written like this in reports. -/
def ofWord? (word : String) : Option Decision := all.find? (·.word = word)

/-- The message about a word, given in quotes, that no decision is written as. -/
def unknown (quotedWord : String) : String := quotedWord ++ " is not a valid Decision"

end Decision

end WalkFilter
