import WalkFilter.Filter.Operator
import WalkFilter.Text.Quoted

/-!
# Filter tokens

A token is one piece of a filter between two `|`. Its first character selects the operator and is
taken off; a token that starts with any other character is a label of the allowlist as it stands.
-/

namespace WalkFilter

/-- A filter token taken apart. -/
structure Token where
  /-- The role of the label. -/
  operator : Operator
  /-- The label, empty if the token is an operator alone. -/
  label : String
deriving DecidableEq, Repr, Inhabited

namespace Token

/-- Takes a token apart. An absent or empty text is no token. -/
def parse? (text : Option String) : Option Token :=
  match (text.getD "").toList with
  | [] => none
  | first :: rest =>
    match Operator.ofSymbol? first with
    | some operator => some ⟨operator, String.ofList rest⟩
    | none => some ⟨.allow, String.ofList (first :: rest)⟩

/-- The token with its operator spelled out and its label quoted. -/
def describe (token : Token) : String :=
  "FilterToken(operator=<FilterOperator." ++ token.operator.name ++ ": '" ++
    token.operator.symbol.toString ++ "'>, label=" ++ Text.quoted token.label ++ ")"

end Token

end WalkFilter
