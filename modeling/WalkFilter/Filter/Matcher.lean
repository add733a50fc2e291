import WalkFilter.LabelSet
import WalkFilter.Text.Quoted

/-!
# Label matchers

A matcher accepts a node that carries at least one of its patterns. Patterns are plain labels and
never empty, so a matcher without patterns accepts nothing. A frozen matcher refuses further
patterns and may serve as a key.
-/

namespace WalkFilter

/-- The labels that a matcher looks for. -/
structure Patterns where
  /-- The patterns as a set. -/
  labels : LabelSet String
  /-- No pattern is empty. -/
  empty_not_mem : "" ∉ labels
deriving DecidableEq, Repr

namespace Patterns

/-- No patterns. -/
def empty : Patterns := ⟨∅, List.not_mem_nil⟩

instance : EmptyCollection Patterns := ⟨empty⟩

instance : Inhabited Patterns := ⟨empty⟩

/-- One more pattern; the empty text is none. -/
def add (label : String) (patterns : Patterns) : Patterns :=
  if nonempty : label = "" then patterns
  else
    ⟨patterns.labels.insert label, fun member =>
      (LabelSet.mem_insert.mp member).elim (fun same => nonempty same.symm) patterns.empty_not_mem⟩

/-- The patterns in ascending order. -/
def toList (patterns : Patterns) : List String := patterns.labels.toList

/-- There are no patterns. -/
def isEmpty (patterns : Patterns) : Bool := patterns.labels.isEmpty

/-- One of the labels is a pattern. -/
def hits (patterns : Patterns) (labels : List String) : Bool :=
  labels.any (patterns.labels.contains ·)

end Patterns

/-- Why a matcher refuses an operation. -/
inductive MatcherError where
  /-- A pattern was to be added to a frozen matcher. -/
  | frozen (label : String)
  /-- A matcher that can still change was to serve as a key. -/
  | unhashable
deriving DecidableEq, Repr

/-- The refusal in words. -/
def MatcherError.message : MatcherError → String
  | frozen label => "Cannot add label " ++ Text.quoted label ++ " to a frozen LabelMatcher"
  | unhashable => "unhashable type: 'LabelMatcher' (freeze() it first)"

/-- A set of patterns that is either open to further ones or frozen. -/
structure Matcher where
  /-- The patterns. -/
  patterns : Patterns := ∅
  /-- No pattern can be added. -/
  frozen : Bool := false
deriving DecidableEq, Repr, Inhabited

namespace Matcher

/-- An open matcher with the given patterns. Absent and empty entries are skipped. -/
def ofList (labels : List (Option String)) : Matcher where
  patterns := labels.foldl (fun patterns label => patterns.add (label.getD "")) ∅

/-- Adds a pattern. An absent or empty one changes nothing, even in a frozen matcher. -/
def add (label : Option String) (matcher : Matcher) : Except MatcherError Matcher :=
  let label := label.getD ""
  if label = "" then .ok matcher
  else if matcher.frozen then .error (.frozen label)
  else .ok { matcher with patterns := matcher.patterns.add label }

/-- A frozen matcher with the same patterns. -/
def freeze (matcher : Matcher) : Matcher := { matcher with frozen := true }

/-- The patterns in ascending order. -/
def toList (matcher : Matcher) : List String := matcher.patterns.toList

/-- The number of patterns. -/
def size (matcher : Matcher) : Nat := matcher.patterns.labels.size

/-- There are no patterns. -/
def isEmpty (matcher : Matcher) : Bool := matcher.patterns.isEmpty

/-- The label is a pattern. -/
def contains (matcher : Matcher) (label : String) : Bool := matcher.patterns.labels.contains label

/-- One of the labels is a pattern. -/
def accepts (matcher : Matcher) (labels : List String) : Bool := matcher.patterns.hits labels

/-- Both matchers have the same patterns, frozen or not. -/
def agrees (left right : Matcher) : Bool := left.patterns = right.patterns

/-- What the matcher counts as when it serves as a key: its patterns, once it is frozen. -/
def key (matcher : Matcher) : Except MatcherError Patterns :=
  if matcher.frozen then .ok matcher.patterns else .error .unhashable

/-- The matcher with its patterns listed. -/
def describe (matcher : Matcher) : String :=
  "<LabelMatcher" ++ (if matcher.frozen then " frozen" else "") ++ " labels=" ++
    Text.quotedList matcher.toList ++ ">"

end Matcher

end WalkFilter
