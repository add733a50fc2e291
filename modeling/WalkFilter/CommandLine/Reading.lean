import WalkFilter.CommandLine.Word

/-!
# Reading a command line

Words are read from left to right as uses of switches. A value stands in the word of its switch or
is the plain word behind it, and several flags may share a word. All uses in one word are read, or
none of them. What belongs to no switch is left over.
-/

namespace WalkFilter.CommandLine

/-- A piece of a command line. -/
inductive Item where
  /-- A switch with its value, if it takes one. -/
  | use (switch : Switch) (value : Option String)
  /-- An argument that belongs to no switch. -/
  | extra (argument : String)
deriving DecidableEq, Repr

/-- The switches in one word. -/
structure Cluster where
  /-- Flags in front of the last switch. -/
  flags : List Switch
  /-- The last switch. -/
  last : Switch
  /-- The value of the last switch, if the word holds it. -/
  value : Option String
deriving DecidableEq, Repr

namespace Cluster

/-- The cluster with one more flag in front. -/
def addFlag (flag : Switch) (cluster : Cluster) : Cluster :=
  { cluster with flags := flag :: cluster.flags }

/-- Reads the text attached to a switch in short spelling: its value, or letters of further
switches if it is a flag. A letter that is unknown is refused, as `argparse` does in 3.11.0 to
3.11.8; later releases leave it over with the letters behind it. -/
def ofLetters (known : List Switch) (switch : Switch) : List Char → Except UsageError Cluster
  | [] =>
    if switch.takesValue then .ok ⟨[], switch, some ""⟩ else .error (.unexpectedValue switch "")
  | letter :: rest =>
    if switch.takesValue then .ok ⟨[], switch, some (String.ofList (letter :: rest))⟩
    else
      match known.find? (·.letter = letter) with
      | none => .error (.unexpectedValue switch (String.ofList (letter :: rest)))
      | some next =>
        if rest.isEmpty then .ok ⟨[switch], next, none⟩
        else (ofLetters known next rest).map (addFlag switch)

/-- The switches in a word that names one. -/
def ofWord (known : List Switch) (switch : Switch) (long : Bool) (attached : Option String) :
    Except UsageError Cluster :=
  match attached with
  | none => .ok ⟨[], switch, none⟩
  | some text =>
    if long then
      if switch.takesValue then .ok ⟨[], switch, some text⟩
      else .error (.unexpectedValue switch text)
    else ofLetters known switch text.toList

/-- The cluster still needs the next word as a value. -/
def needsValue (cluster : Cluster) : Bool := cluster.last.takesValue && cluster.value.isNone

/-- The uses in the cluster, given the value of its last switch. -/
def items (cluster : Cluster) (value : Option String) : List Item :=
  cluster.flags.map (Item.use · none) ++ [.use cluster.last value]

end Cluster

/-- What is read of a command line. -/
structure Reading where
  /-- The pieces up to the first error. -/
  items : List Item
  /-- The first error, if there is one. -/
  error : Option UsageError
deriving DecidableEq, Repr

namespace Reading

/-- The reading with pieces in front. -/
def addItems (items : List Item) (reading : Reading) : Reading :=
  { reading with items := items ++ reading.items }

/-- Reads words from left to right. -/
def ofWords (known : List Switch) : List Word → Reading
  | [] => ⟨[], none⟩
  | .plain text :: rest => (ofWords known rest).addItems [.extra text]
  | .unknown text :: rest => (ofWords known rest).addItems [.extra text]
  | .endOfSwitches :: rest => (ofWords known rest).addItems [.extra "--"]
  | .switch switch long attached :: rest =>
    match Cluster.ofWord known switch long attached with
    | .error error => ⟨[], some error⟩
    | .ok cluster =>
      if cluster.needsValue then
        match rest with
        | .plain value :: rest => (ofWords known rest).addItems (cluster.items (some value))
        | _ => ⟨[], some (.missingValue cluster.last)⟩
      else (ofWords known rest).addItems (cluster.items cluster.value)

/-- Reads the arguments of a command line. An ambiguous argument anywhere before `--` is found
before anything is read. -/
def ofArguments (known : List Switch) (arguments : List String) : Reading :=
  match words known arguments with
  | .error error => ⟨[], some error⟩
  | .ok words => ofWords known words

end Reading

/-- Whether a command line asks for the records, found without letting any switch take effect. The
scan knows the switch for verbosity only and passes over everything else. -/
def wantsRecords (arguments : List String) : Except UsageError Bool :=
  let reading := Reading.ofArguments [.verbose] arguments
  match reading.error with
  | some error => .error error
  | none => .ok (reading.items.contains (.use .verbose none))

end WalkFilter.CommandLine
