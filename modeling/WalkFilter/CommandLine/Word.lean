import WalkFilter.CommandLine.Switch
import WalkFilter.Text.Digit

/-!
# Words

Before any switch takes effect, every argument is sorted by its spelling alone: it names a known
switch, perhaps with a value attached, it looks like a switch that is not known, or it is plain.
Behind the first `--` everything is plain.
-/

namespace WalkFilter.CommandLine

/-- An argument, sorted by its spelling. -/
inductive Word where
  /-- An argument that names no switch. -/
  | plain (text : String)
  /-- The mark that ends the switches. -/
  | endOfSwitches
  /-- An argument that looks like a switch but names none that is known. -/
  | unknown (text : String)
  /-- A switch in its long or short spelling, with the text attached to it. -/
  | switch (switch : Switch) (long : Bool) (attached : Option String)
deriving DecidableEq, Repr

/-- The switch that a text spells in full, and whether it is the long spelling. -/
def spelled? (known : List Switch) (text : String) : Option (Switch × Bool) :=
  known.findSome? fun switch =>
    if text = switch.short then some (switch, false)
    else if text = switch.long then some (switch, true)
    else none

/-- The text before the first equals sign, and the text behind it if there is one. -/
def splitAtEquals (text : List Char) : List Char × Option (List Char) :=
  match text.dropWhile (· ≠ '=') with
  | [] => (text, none)
  | _ :: value => (text.takeWhile (· ≠ '='), some value)

/-- The text is a negative number, perhaps with a line feed behind it: a minus sign and digits, or a
minus sign, perhaps digits, a point and digits. -/
def isNegativeNumber (text : List Char) : Bool :=
  match text with
  | '-' :: rest =>
    let rest := if rest.getLast? = some '\n' then rest.dropLast else rest
    match rest.dropWhile Text.isDigit with
    | [] => !rest.isEmpty
    | '.' :: digits => !digits.isEmpty && digits.all Text.isDigit
    | _ => false
  | _ => false

/-- Sorts an argument that starts with a minus sign and names no switch. -/
def sortRemainder (argument : String) : Word :=
  if isNegativeNumber argument.toList || argument.toList.contains ' ' then .plain argument
  else .unknown argument

/-- Sorts an argument that starts with two minus signs and spells no switch in full: it may
abbreviate one. -/
def sortLong (known : List Switch) (argument : String) : Except UsageError Word :=
  let (name, value?) := splitAtEquals argument.toList
  match known.filter fun switch => name.isPrefixOf switch.long.toList with
  | [] => .ok (sortRemainder argument)
  | [switch] => .ok (.switch switch true (value?.map String.ofList))
  | candidates => .error (.ambiguous argument candidates)

/-- Sorts an argument that starts with one minus sign and spells no switch in full: its second
character may be the letter of a switch. -/
def sortShort (known : List Switch) (argument : String) : Word :=
  match known.find? fun switch => argument.toList[1]? = some switch.letter with
  | some switch => .switch switch false (some (String.ofList (argument.toList.drop 2)))
  | none => sortRemainder argument

/-- Sorts an argument that is not the mark `--`. -/
def sort (known : List Switch) (argument : String) : Except UsageError Word :=
  if argument.toList.head? ≠ some '-' then .ok (.plain argument)
  else if let some (switch, long) := spelled? known argument then .ok (.switch switch long none)
  else if argument = "-" then .ok (.plain argument)
  else
    let (name, value?) := splitAtEquals argument.toList
    match value?, spelled? known (String.ofList name) with
    | some value, some (switch, long) => .ok (.switch switch long (some (String.ofList value)))
    | _, _ =>
      if argument.toList[1]? = some '-' then sortLong known argument
      else .ok (sortShort known argument)

/-- Sorts the arguments of a command line. -/
def words (known : List Switch) : List String → Except UsageError (List Word)
  | [] => .ok []
  | argument :: rest =>
    if argument = "--" then .ok (.endOfSwitches :: rest.map .plain)
    else do
      let first ← sort known argument
      return first :: (← words known rest)

end WalkFilter.CommandLine
