import WalkFilter.Json.Token

/-!
# Reading JSON

The reader is a pushdown automaton over tokens. Its state says what must come next and which arrays
and objects are still open; `Reader.step` takes one token, and `parse` runs the automaton over the
tokens of a whole text. Values may be nested to any depth. A reader that recurses fails at the limit
of its stack, with an error that names no line; this limit is one of resources and left out.
-/

namespace WalkFilter.Json

/-- An array or object that is still open while one of its values is read. -/
inductive Frame where
  /-- An array and its earlier elements, the latest first. -/
  | array (earlier : List Value)
  /-- An object, its earlier members, the latest first, and the key of the value being read. -/
  | object (earlier : List (CodeText × Value)) (key : CodeText)
deriving Repr

/-- What must come next. -/
inductive Expected where
  /-- A value. -/
  | value
  /-- The first element of an array, or its end. -/
  | elementOrEnd
  /-- The first key of an object, or its end. -/
  | keyOrEnd
  /-- A further key of an object with these earlier members. -/
  | key (earlier : List (CodeText × Value))
  /-- The colon after a key. -/
  | colon (earlier : List (CodeText × Value)) (key : CodeText)
  /-- Whatever may follow this complete value. -/
  | after (value : Value)
deriving Repr

/-- A state of the reader. -/
structure Reader where
  /-- The open arrays and objects, the innermost first. -/
  frames : List Frame
  /-- What must come next. -/
  expected : Expected
deriving Repr

namespace Reader

/-- The state before the first token. -/
def start : Reader := ⟨[], .value⟩

/-- Takes a token where a value must start. -/
def beginValue (frames : List Frame) : Token → Except Fault Reader
  | .scalar value => .ok ⟨frames, .after value⟩
  | .string content => .ok ⟨frames, .after (.string content)⟩
  | .openArray => .ok ⟨frames, .elementOrEnd⟩
  | .openObject => .ok ⟨frames, .keyOrEnd⟩
  | .badString fault | .badNumber fault => .error fault
  | .closeArray | .closeObject | .comma | .colon | .stray => .error .expectedValue

/-- Takes a token where a key must stand. -/
def beginKey (frames : List Frame) (earlier : List (CodeText × Value)) : Token → Except Fault Reader
  | .string key => .ok ⟨frames, .colon earlier key⟩
  | .badString fault => .error fault
  | _ => .error .expectedKey

/-- Takes a token after a complete value. -/
def continueAfter (value : Value) : List Frame → Token → Except Fault Reader
  | .array earlier :: frames, .comma => .ok ⟨.array (value :: earlier) :: frames, .value⟩
  | .array earlier :: frames, .closeArray =>
    .ok ⟨frames, .after (.array (value :: earlier).reverse)⟩
  | .object earlier key :: frames, .comma => .ok ⟨frames, .key ((key, value) :: earlier)⟩
  | .object earlier key :: frames, .closeObject =>
    .ok ⟨frames, .after (.object ((key, value) :: earlier).reverse)⟩
  | _ :: _, _ => .error .expectedComma
  | [], _ => .error .extraData

/-- Takes one token. -/
def step (reader : Reader) (token : Token) : Except Fault Reader :=
  match reader.expected, token with
  | .value, token => beginValue reader.frames token
  | .elementOrEnd, .closeArray => .ok ⟨reader.frames, .after (.array [])⟩
  | .elementOrEnd, token => beginValue (.array [] :: reader.frames) token
  | .keyOrEnd, .closeObject => .ok ⟨reader.frames, .after (.object [])⟩
  | .keyOrEnd, token => beginKey reader.frames [] token
  | .key earlier, token => beginKey reader.frames earlier token
  | .colon earlier key, .colon => .ok ⟨.object earlier key :: reader.frames, .value⟩
  | .colon _ _, _ => .error .expectedColon
  | .after value, token => continueAfter value reader.frames token

/-- The document, if the text may end here. -/
def finish (reader : Reader) : Except Fault Value :=
  match reader.expected, reader.frames with
  | .after value, [] => .ok value
  | .after _, _ :: _ => .error .expectedComma
  | .value, _ | .elementOrEnd, _ => .error .expectedValue
  | .keyOrEnd, _ | .key _, _ => .error .expectedKey
  | .colon _ _, _ => .error .expectedColon

/-- Takes the tokens in order and then the end of the text. -/
def run (reader : Reader) : List Token → Except Fault Value
  | [] => reader.finish
  | token :: rest =>
    match reader.step token with
    | .ok next => run next rest
    | .error fault => .error fault

end Reader

/-- The JSON document that a text holds. -/
def parse (text : List Char) : Except Fault Value :=
  if text.head? = some '\uFEFF' then .error .byteOrderMark else Reader.start.run (tokens text)

end WalkFilter.Json
