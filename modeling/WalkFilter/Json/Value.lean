import WalkFilter.CodeText

/-!
# JSON values

The values of a JSON document. A string is a text in which halves of surrogate pairs may stand
alone. Node lists only ever ask whether a number is an integer, so a number with a fraction or an
exponent is kept as it was written, together with the literals `NaN`, `Infinity` and `-Infinity`.
-/

namespace WalkFilter.Json

/-- A JSON value. -/
inductive Value where
  /-- The literal `null`. -/
  | null
  /-- A truth value. -/
  | bool (value : Bool)
  /-- A number without fraction and exponent. -/
  | integer (value : Int)
  /-- Any other number, as written. -/
  | decimal (text : String)
  /-- A string. -/
  | string (text : CodeText)
  /-- The elements of an array. -/
  | array (elements : List Value)
  /-- The members of an object in the order of the document; a key may come more than once. -/
  | object (members : List (CodeText × Value))
deriving Inhabited, Repr

/-- The value of a key among the members of an object: the last one if the key is repeated. -/
def member? (key : String) (members : List (CodeText × Value)) : Option Value :=
  members.reverse.lookup (key : CodeText)

/-- The text of a string value. -/
def Value.text? : Value → Option CodeText
  | .string text => some text
  | _ => none

end WalkFilter.Json
