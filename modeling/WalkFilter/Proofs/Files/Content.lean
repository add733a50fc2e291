import WalkFilter.Files.Content
import WalkFilter.Proofs.Text.Utf8

/-!
# Files that are read and files that are not

A file that holds the bytes of a text is read as the lines of this text. Whatever else a path leads
to is refused, with a message that says what stands in the way.
-/

namespace WalkFilter

namespace Raw

/-- What is said of a run of bytes that is no character. -/
inductive ByteFlawText : Text.Utf8.Flaw → String → Prop where
  | invalidStart : ByteFlawText .invalidStart "invalid start byte"
  | invalidContinuation : ByteFlawText .invalidContinuation "invalid continuation byte"
  | unexpectedEnd : ByteFlawText .unexpectedEnd "unexpected end of data"

/-- What is said of bytes that are not UTF-8: a run of one byte is told with the byte, and a longer
one with both of its ends. -/
inductive DecodingText : Text.Utf8.Fault → String → Prop where
  | byte {position : Nat} {byte : UInt8} {flaw : Text.Utf8.Flaw} {words : String}
    (told : ByteFlawText flaw words) :
    DecodingText ⟨position, position, byte, flaw⟩
      ("'utf-8' codec can't decode " ++ ("byte 0x" ++ String.ofList (Text.hex 2 byte.toNat) ++
        " in position " ++ toString position) ++ ": " ++ words)
  | bytes {first last : Nat} {byte : UInt8} {flaw : Text.Utf8.Flaw} {words : String}
    (several : first ≠ last) (told : ByteFlawText flaw words) :
    DecodingText ⟨first, last, byte, flaw⟩
      ("'utf-8' codec can't decode " ++ ("bytes in position " ++ toString first ++ "-" ++
        toString last) ++ ": " ++ words)

/-- What is said of a path that cannot be read as a file of this kind. -/
inductive Unreadable (files : Files) (kind : String) (path : Path) : String → Prop where
  | missing (nothing : files path = .missing) :
    Unreadable files kind path (kind ++ " file not found: " ++ path.text)
  | tooLong (too_long : files path = .tooLong) :
    Unreadable files kind path ("[Errno 36] File name too long: " ++ Text.quoted path.text)
  | directory (directory : files path = .directory) :
    Unreadable files kind path ("[Errno 21] Is a directory: " ++ Text.quoted path.text)
  | undecodable {bytes : List UInt8} {fault : Text.Utf8.Fault} {message : String}
    (stored : files path = .file bytes) (refused : Text.Utf8.decode bytes = .error fault)
    (told : DecodingText fault message) : Unreadable files kind path message

theorem byteFlawText (flaw : Text.Utf8.Flaw) : ByteFlawText flaw flaw.words := by
  cases flaw <;> constructor

theorem decodingText (fault : Text.Utf8.Fault) : DecodingText fault fault.message := by
  obtain ⟨first, last, byte, flaw⟩ := fault
  unfold Text.Utf8.Fault.message
  by_cases same : first = last
  · cases same
    simp only [↓reduceIte]
    exact .byte (byteFlawText flaw)
  · simp only [same, ↓reduceIte]
    exact .bytes same (byteFlawText flaw)

end Raw

namespace Files

variable {files : Files} {path : Path}

theorem readLines_utf8 {text : String} (stored : files path = .file text.toUTF8.data.toList)
    (role : FileRole) : files.readLines role path = .ok (linesOfText text.toList) := by
  rw [readLines, stored]
  simp only [Text.Utf8.decode_toUTF8]

/-- A file that is not read is refused with this message. -/
theorem unreadable_of_readLines {role : FileRole} {error : ReadError}
    (refused : files.readLines role path = .error error) :
    Raw.Unreadable files role.word path error.message := by
  rw [readLines] at refused
  split at refused
  · rename_i nothing
    obtain rfl := Except.error.inj refused
    exact .missing nothing
  · rename_i too_long
    obtain rfl := Except.error.inj refused
    exact .tooLong too_long
  · rename_i directory
    obtain rfl := Except.error.inj refused
    exact .directory directory
  · rename_i bytes stored
    split at refused
    · rename_i fault undecoded
      obtain rfl := Except.error.inj refused
      exact .undecodable stored undecoded (Raw.decodingText fault)
    · cases refused

end Files

end WalkFilter
