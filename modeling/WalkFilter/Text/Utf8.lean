import WalkFilter.Text.Hex

/-!
# UTF-8

Files are read as strict UTF-8. `Utf8.decode` walks over the bytes once and reports the first bad
run: where it starts and ends, its first byte and what is wrong with it. `Utf8.encode` writes the
bytes of a text, and a byte order mark is a character like any other.
-/

namespace WalkFilter.Text.Utf8

/-- What is wrong with a run of bytes. -/
inductive Flaw where
  /-- No character begins with this byte. -/
  | invalidStart
  /-- The next byte cannot continue the character that was begun. -/
  | invalidContinuation
  /-- The bytes end inside a character. -/
  | unexpectedEnd
deriving DecidableEq, Repr

/-- The flaw in words. -/
def Flaw.words : Flaw → String
  | invalidStart => "invalid start byte"
  | invalidContinuation => "invalid continuation byte"
  | unexpectedEnd => "unexpected end of data"

/-- The first run of bytes that is not UTF-8. -/
structure Fault where
  /-- Offset of the first byte of the run. -/
  first : Nat
  /-- Offset of its last byte. -/
  last : Nat
  /-- The first byte of the run. -/
  byte : UInt8
  /-- What is wrong with it. -/
  flaw : Flaw
deriving DecidableEq, Repr

/-- Names the byte if the run is a single one, and the offsets of its ends otherwise. -/
def Fault.message (fault : Fault) : String :=
  let run :=
    if fault.first = fault.last then
      "byte 0x" ++ String.ofList (hex 2 fault.byte.toNat) ++ " in position " ++ toString fault.first
    else
      "bytes in position " ++ toString fault.first ++ "-" ++ toString fault.last
  "'utf-8' codec can't decode " ++ run ++ ": " ++ fault.flaw.words

/-- A character whose bytes have been read in part. -/
structure Partial where
  /-- Offset of the lead byte. -/
  start : Nat
  /-- The lead byte. -/
  lead : UInt8
  /-- The value of the bits read so far. -/
  value : Nat
  /-- The least byte that may come next. -/
  low : UInt8
  /-- The greatest byte that may come next. -/
  high : UInt8
  /-- How many bytes follow the next one. -/
  more : Nat
deriving DecidableEq, Repr

/-- The character begun by a lead byte of two or more. The range of the second byte shuts out
overlong forms, surrogates and code points beyond the last plane. -/
def Partial.ofLead? (start : Nat) (lead : UInt8) : Option Partial :=
  let opens (offset : Nat) (low high : UInt8) (more : Nat) : Option Partial :=
    some { start, lead, value := lead.toNat - offset, low, high, more }
  if lead < 0xC2 then none
  else if lead < 0xE0 then opens 0xC0 0x80 0xBF 0
  else if lead = 0xE0 then opens 0xE0 0xA0 0xBF 1
  else if lead = 0xED then opens 0xE0 0x80 0x9F 1
  else if lead < 0xF0 then opens 0xE0 0x80 0xBF 1
  else if lead = 0xF0 then opens 0xF0 0x90 0xBF 2
  else if lead < 0xF4 then opens 0xF0 0x80 0xBF 2
  else if lead = 0xF4 then opens 0xF0 0x80 0x8F 2
  else none

/-- Reads on from an offset, inside a character if one has been begun. -/
def decodeFrom (position : Nat) : Option Partial → List UInt8 → Except Fault (List Char)
  | none, [] => .ok []
  | some begun, [] => .error ⟨begun.start, position - 1, begun.lead, .unexpectedEnd⟩
  | none, byte :: rest =>
    if byte < 0x80 then
      (decodeFrom (position + 1) none rest).map (Char.ofNat byte.toNat :: ·)
    else
      match Partial.ofLead? position byte with
      | some begun => decodeFrom (position + 1) (some begun) rest
      | none => .error ⟨position, position, byte, .invalidStart⟩
  | some begun, byte :: rest =>
    if byte < begun.low ∨ begun.high < byte then
      .error ⟨begun.start, position - 1, begun.lead, .invalidContinuation⟩
    else
      let value := begun.value * 64 + (byte.toNat - 0x80)
      match begun.more with
      | 0 => (decodeFrom (position + 1) none rest).map (Char.ofNat value :: ·)
      | more + 1 =>
        decodeFrom (position + 1) (some { begun with value, low := 0x80, high := 0xBF, more }) rest

/-- The text that the bytes encode, or the first fault in them. -/
def decode (bytes : List UInt8) : Except Fault (List Char) := decodeFrom 0 none bytes

/-- The bytes of one character. -/
def encodeChar (char : Char) : List UInt8 :=
  let point := char.toNat
  let continuation (value : Nat) : UInt8 := UInt8.ofNat (0x80 + value % 64)
  if point < 0x80 then
    [UInt8.ofNat point]
  else if point < 0x800 then
    [UInt8.ofNat (0xC0 + point / 64), continuation point]
  else if point < 0x10000 then
    [UInt8.ofNat (0xE0 + point / 4096), continuation (point / 64), continuation point]
  else
    [UInt8.ofNat (0xF0 + point / 262144), continuation (point / 4096), continuation (point / 64),
      continuation point]

/-- The bytes of a text. -/
def encode (text : List Char) : List UInt8 := text.flatMap encodeChar

end WalkFilter.Text.Utf8
