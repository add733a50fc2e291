import WalkFilter.Filter.Matcher
import WalkFilter.Filter.Operator
import WalkFilter.Heap.Store

/-!
# Matchers in memory

As an object, a matcher refers to a set of patterns. Adding a pattern overwrites that set, and every
matcher that refers to it sees the new pattern. Freezing makes another matcher: it copies the set of
an open matcher but refers to the very set of a frozen one.
-/

namespace WalkFilter

/-- A matcher as an object. -/
structure MatcherCell where
  /-- Where its patterns are. -/
  patterns : Address Patterns
  /-- No pattern can be added. -/
  frozen : Bool
deriving DecidableEq, Repr

instance : Inhabited MatcherCell := ⟨⟨⟨0⟩, true⟩⟩

/-- Where a matcher is. -/
abbrev MatcherAddress := Address MatcherCell

/-- The matchers that were made so far, and their sets of patterns. -/
structure Memory where
  /-- The sets of patterns. -/
  patterns : Store Patterns := {}
  /-- The matchers. -/
  matchers : Store MatcherCell := {}
deriving DecidableEq, Repr

namespace Memory

/-- The matcher at an address, as it is now. -/
def read (memory : Memory) (address : MatcherAddress) : Matcher where
  patterns := memory.patterns.get (memory.matchers.get address).patterns
  frozen := (memory.matchers.get address).frozen

/-- Makes a matcher with a set of its own. -/
def make (memory : Memory) (matcher : Matcher) : Memory × MatcherAddress :=
  ({ patterns := memory.patterns.push matcher.patterns
     matchers := memory.matchers.push ⟨memory.patterns.fresh, matcher.frozen⟩ },
    memory.matchers.fresh)

/-- Adds a pattern to the set of a matcher. -/
def add (memory : Memory) (address : MatcherAddress) (label : Option String) :
    Memory × Option MatcherError :=
  match (memory.read address).add label with
  | .error error => (memory, some error)
  | .ok matcher =>
    ({ memory with
        patterns := memory.patterns.put (memory.matchers.get address).patterns matcher.patterns },
      none)

/-- Makes a frozen matcher with the patterns that a matcher has now. -/
def freeze (memory : Memory) (address : MatcherAddress) : Memory × MatcherAddress :=
  if (memory.read address).frozen then
    ({ memory with matchers := memory.matchers.push (memory.matchers.get address) },
      memory.matchers.fresh)
  else memory.make (memory.read address).freeze

/-- The matcher itself if it is frozen, and a frozen copy of it otherwise. An absent one counts as
empty. -/
def secure (memory : Memory) : Option MatcherAddress → Memory × MatcherAddress
  | none => memory.make { frozen := true }
  | some address =>
    if (memory.read address).frozen then (memory, address) else memory.freeze address

/-- Makes or finds a matcher for each operator in turn. -/
def forEach {α : Type} (step : Memory → α → Memory × MatcherAddress) (memory : Memory)
    (values : ByOperator α) : Memory × ByOperator MatcherAddress :=
  let deny := step memory values.deny
  let allow := step deny.1 values.allow
  let endNode := step allow.1 values.endNode
  let terminator := step endNode.1 values.terminator
  (terminator.1, ⟨deny.2, allow.2, endNode.2, terminator.2⟩)

end Memory

end WalkFilter
