import WalkFilter.Filter.Source
import WalkFilter.Text.Integer

/-!
# Taking in filters

Filters reach a builder while the command line is read, and every value that was taken in is kept as
it was given. The builder is fed first and the value noted after it, so a filter file that cannot be
read is not noted.
-/

namespace WalkFilter.CommandLine

/-- A list of values with one more behind; an absent list starts with it. -/
def appendValue {α : Type} (values : Option (List α)) (value : α) : Option (List α) :=
  some (values.getD [] ++ [value])

/-- An object of any other kind, as it is seen when it is given for a filter. What goes wrong when
it is asked for its text or its path is told by a message. -/
structure GivenObject where
  /-- Tells the object from others. -/
  identity : Nat
  /-- The text that it is written as. -/
  text : Except String String
  /-- The path that it stands for; absent if it is no path. -/
  path? : Option (Except String Path) := none
deriving Repr

/-- A value given for a filter. -/
inductive FilterValue where
  /-- A text. -/
  | text (content : String)
  /-- A number. -/
  | integer (value : Int)
  /-- Any other object. -/
  | object (object : GivenObject)
deriving Repr

/-- The message about an integer with too many digits to be written. -/
def overlongInteger : String :=
  "Exceeds the limit (" ++ toString Text.digitLimit ++ " digits) for integer string conversion; " ++
    "use sys.set_int_max_str_digits() to increase the limit"

namespace FilterValue

/-- The value as a text. -/
def toText : FilterValue → Except String String
  | text content => .ok content
  | integer value =>
    if (Nat.toDigits 10 value.natAbs).length ≤ Text.digitLimit then .ok (toString value)
    else .error overlongInteger
  | object given => given.text

/-- The path that the value is by itself, if it is a text or a path. -/
def path? : FilterValue → Option (Except String Path)
  | text content => some (.ok (Path.ofText content))
  | integer _ => none
  | object given => given.path?

/-- The path to load for the value: its own, or else the one that its text names. -/
def toPath (value : FilterValue) : Except String Path :=
  value.path?.getD (value.toText.map Path.ofText)

end FilterValue

/-- The spelling belongs to the switch for files. Any other spelling, and none at all, stands for a
filter. -/
def namesFile (spelling : Option String) : Bool :=
  spelling = some "-F" || spelling = some "--filter-file"

/-- Why a value is not taken in. -/
inductive IntakeError where
  /-- The value gives no text, or no path. -/
  | unusable (message : String)
  /-- The file cannot be read. -/
  | unreadable (error : ReadError)
deriving DecidableEq, Repr

/-- Feeds a builder with a value given under a spelling. What cuts it short is told, and the builder
is left as it is at that point. -/
def feed (files : Files) (builder : Builder) (spelling : Option String) (value : FilterValue) :
    Builder × Option IntakeError :=
  if namesFile spelling then
    match value.toPath with
    | .error message => (builder, some (.unusable message))
    | .ok path =>
      let loaded := builder.loadFilters files [path]
      (loaded.builder, loaded.error.map .unreadable)
  else
    match value.toText with
    | .error message => (builder, some (.unusable message))
    | .ok filter => (builder.addLabels (some filter), none)

/-- The values taken in so far and the builder they went to. -/
structure Intake where
  /-- The values in order; absent while there is none. -/
  values : Option (List FilterValue) := none
  /-- The builder. -/
  builder : Builder := {}
deriving Repr

/-- A value given under a spelling. -/
structure FilterCall where
  /-- The name of the switch, if there is one. -/
  spelling : Option String
  /-- The value, if there is one. -/
  value : Option FilterValue
deriving Repr

namespace Intake

/-- Takes in a value. An absent value changes nothing. -/
def take (files : Files) (intake : Intake) (call : FilterCall) : Intake × Option IntakeError :=
  match call.value with
  | none => (intake, none)
  | some value =>
    match feed files intake.builder call.spelling value with
    | (builder, some error) => ({ intake with builder }, some error)
    | (builder, none) => ({ values := appendValue intake.values value, builder }, none)

/-- Takes in values in order. A value that is not taken in does not end the history. -/
def takeAll (files : Files) (intake : Intake) (calls : List FilterCall) : Intake :=
  calls.foldl (fun intake call => (intake.take files call).1) intake

end Intake

end WalkFilter.CommandLine
