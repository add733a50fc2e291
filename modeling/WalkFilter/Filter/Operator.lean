/-!
# Filter operators

The first character of a filter token says what its label does to a walk. `ByOperator` holds one
value for each operator.
-/

namespace WalkFilter

/-- The role of a label in a filter. -/
inductive Operator where
  /-- The node is a result, and the walk may go on past it. -/
  | endNode
  /-- The node is a result, and the walk stops at it. -/
  | terminator
  /-- The node is no result, and the walk stops at it. -/
  | deny
  /-- The node may be walked through. -/
  | allow
deriving DecidableEq, Repr, Inhabited

namespace Operator

/-- The operators in the order in which they are tried. -/
def all : List Operator := [endNode, terminator, deny, allow]

/-- The character that selects the operator. -/
def symbol : Operator → Char
  | endNode => '>'
  | terminator => '/'
  | deny => '-'
  | allow => '+'

/-- The operator that a character selects. -/
def ofSymbol? (symbol : Char) : Option Operator := all.find? (·.symbol = symbol)

/-- The operator that a text of one character selects. -/
def ofText? (text : String) : Option Operator :=
  match text.toList with
  | [symbol] => ofSymbol? symbol
  | _ => none

/-- The message about a text, given in quotes, that selects no operator. -/
def unknown (quotedText : String) : String := quotedText ++ " is not a valid FilterOperator"

/-- Using the operator limits results to end nodes and terminators. -/
def restricts : Operator → Bool
  | endNode | terminator => true
  | deny | allow => false

/-- The operator as it is named in log records. -/
def word : Operator → String
  | endNode => "end_node"
  | terminator => "terminator"
  | deny => "deny"
  | allow => "allow"

/-- The operator in capitals. -/
def name : Operator → String
  | endNode => "END_NODE"
  | terminator => "TERMINATOR"
  | deny => "DENY"
  | allow => "ALLOW"

end Operator

/-- One value for each operator. -/
structure ByOperator (α : Type) where
  /-- The value for `deny`. -/
  deny : α
  /-- The value for `allow`. -/
  allow : α
  /-- The value for `endNode`. -/
  endNode : α
  /-- The value for `terminator`. -/
  terminator : α
deriving DecidableEq, Repr

namespace ByOperator

variable {α β : Type}

/-- The value for an operator. -/
def get (values : ByOperator α) : Operator → α
  | .deny => values.deny
  | .allow => values.allow
  | .endNode => values.endNode
  | .terminator => values.terminator

/-- Changes the value for one operator. -/
def modify (operator : Operator) (change : α → α) (values : ByOperator α) : ByOperator α :=
  match operator with
  | .deny => { values with deny := change values.deny }
  | .allow => { values with allow := change values.allow }
  | .endNode => { values with endNode := change values.endNode }
  | .terminator => { values with terminator := change values.terminator }

/-- Applies a function to every value. -/
def map (f : α → β) (values : ByOperator α) : ByOperator β :=
  ⟨f values.deny, f values.allow, f values.endNode, f values.terminator⟩

theorem get_modify (changed operator : Operator) (change : α → α) (values : ByOperator α) :
    (values.modify changed change).get operator =
      if operator = changed then change (values.get operator) else values.get operator := by
  cases changed <;> cases operator <;> rfl

theorem get_map (f : α → β) (values : ByOperator α) (operator : Operator) :
    (values.map f).get operator = f (values.get operator) := by
  cases operator <;> rfl

theorem eq_of_get {left right : ByOperator α}
    (same : ∀ operator, left.get operator = right.get operator) : left = right := by
  obtain ⟨deny, allow, endNode, terminator⟩ := left
  obtain ⟨other_deny, other_allow, other_endNode, other_terminator⟩ := right
  obtain rfl : deny = other_deny := same .deny
  obtain rfl : allow = other_allow := same .allow
  obtain rfl : endNode = other_endNode := same .endNode
  obtain rfl : terminator = other_terminator := same .terminator
  rfl

end ByOperator

end WalkFilter
