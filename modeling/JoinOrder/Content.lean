/-
# Text as Bytes

A text is a row of bytes, and the parts of it between two places are found by the bytes in front of
them.  A place inside a character is no place to cut at, not even for an empty part.

A file or a variable of the environment holds bytes, which are looked at as far as they are text.
Bytes that are not UTF-8, like a file that does not exist, are unreadable, with a reason.
-/
import JoinOrder.Error

namespace JoinOrder

/-! ## Slices -/

namespace Text

/-- The number of bytes that characters take. -/
def byteCount (cs : List Char) : Nat := (String.ofList cs).utf8ByteSize

/-- Whether a text can be cut at a place: there, a character starts or the text ends. -/
def isPlace (text : String) (place : Nat) : Bool :=
  String.Pos.Raw.isValid text ⟨place⟩

/-- The part of a text between two places, unless one of them is inside a character. -/
def slice? (text : String) (start stop : Nat) : Option String :=
  if isPlace text start && isPlace text stop then
    String.fromUTF8? (text.toUTF8.extract start stop)
  else none

/-- The bytes of a text denote it. -/
theorem fromUTF8?_toByteArray (text : String) :
    String.fromUTF8? text.toByteArray = some text := by
  simp [String.fromUTF8?, text.isValidUTF8, String.fromUTF8]

end Text

/-! ## Contents from outside -/

/-- What was found at a place outside the program. -/
inductive Content where
  /-- A text. -/
  | text (text : String)
  /-- Nothing that can be read, and why. -/
  | unreadable (reason : String)
  deriving DecidableEq, Repr

namespace Content

/-- There is nothing at the place. -/
def missing : Content := unreadable "No such file or directory (os error 2)"

/-- There is a file, but it may not be read. -/
def forbidden : Content := unreadable "Permission denied (os error 13)"

/-- There is a directory. -/
def directory : Content := unreadable "Is a directory (os error 21)"

/-- The way to the place leads through a file that is no directory. -/
def outsideDirectory : Content := unreadable "Not a directory (os error 20)"

/-- A name on the way to the place is longer than a name can be. -/
def nameTooLong : Content := unreadable "File name too long (os error 36)"

/-- There are bytes that are not UTF-8. -/
def undecodable : Content := unreadable "stream did not contain valid UTF-8"

/-- The content that bytes spell in UTF-8. -/
def ofBytes (bytes : ByteArray) : Content :=
  match String.fromUTF8? bytes with
  | some decoded => text decoded
  | none => undecodable

/-- The text, if there is one. -/
def text? : Content → Option String
  | text found => some found
  | unreadable _ => none

/-- The text, or the error that reports why there is none. -/
def read : Content → Except Error String
  | text found => .ok found
  | unreadable reason => .error (.io reason)

end Content

end JoinOrder
