/-
# Blanks and Escapes in Regular Expressions

Where blanks are left out of an expression, so are remarks, which run from a number sign to the end
of the line; this goes for the inside of classes and of code points as well, but never for the
character behind a backslash.
-/
import JoinOrder.Regex.Basic
import JoinOrder.Text.Blank
import JoinOrder.Text.Digits

namespace JoinOrder.Regex

/-! ## Blanks -/

/-- The characters behind blanks and remarks, where a remark may already have begun. -/
def skipRemarks (inRemark : Bool) : List Char → List Char
  | [] => []
  | c :: cs =>
    if inRemark then skipRemarks (c ≠ '\n') cs
    else if Text.isBlank c then skipRemarks false cs
    else if c = '#' then skipRemarks true cs
    else c :: cs

/-- The characters behind blanks and remarks, if these are left out. -/
def skipBlanks (spaced : Bool) (cs : List Char) : List Char :=
  if spaced then skipRemarks false cs else cs

/-- The next character that counts, from which it depends whether a hyphen in front makes a range.
With blanks left out, a number sign is passed over, but not its remark; where nothing else follows
it is the very next character. -/
def peek (spaced : Bool) (cs : List Char) : Option Char :=
  if spaced then
    let behind := cs.dropWhile Text.isBlank
    let shown := if behind.head? = some '#' then (behind.drop 1).dropWhile Text.isBlank else behind
    shown.head?.or cs.head?
  else cs.head?

/-! ## Escapes -/

/-- The character whose code point has so many digits more, where `code` has been read. -/
def readCode (spaced : Bool) : Nat → Nat → List Char → Option (Char × List Char)
  | 0, code, cs => if code.isValidChar then some (Char.ofNat code, cs) else none
  | digits + 1, code, cs =>
    match skipBlanks spaced cs with
    | [] => none
    | c :: rest => do readCode spaced digits (code * 16 + (← Text.hexValue c)) rest

/-- The control character of an escape of one letter. -/
def controlOf? : Char → Option Char
  | 'a' => some '\x07'
  | 't' => some '\t'
  | 'n' => some '\n'
  | 'v' => some '\x0b'
  | 'f' => some '\x0c'
  | 'r' => some '\r'
  | _ => none

/-- Whether a character stands for itself behind a backslash: one of ASCII that is neither a letter
nor a digit nor an angle bracket. -/
def isEscapable (c : Char) : Bool :=
  c.toNat < 0x80 && !c.isAlphanum && c ≠ '<' && c ≠ '>'

/-- What an escape of one character stands for. -/
def escapeOf? (c : Char) : Option Atom :=
  if c = 'd' ∨ c = 's' ∨ c = 'w' then some (.shorthand false)
  else if c = 'D' ∨ c = 'S' ∨ c = 'W' then some (.shorthand true)
  else if c = 'A' ∨ c = 'z' then some .border
  else if c = 'b' ∨ c = 'B' ∨ c = '<' ∨ c = '>' then some .wordBorder
  else if isEscapable c then some (.literal ⟨c, false⟩)
  else (controlOf? c).map fun control => .literal ⟨control, false⟩

/-- What an escape stands for, behind its backslash. -/
def readEscape (spaced : Bool) : List Char → Option (Atom × List Char)
  | [] => none
  | 'x' :: rest => (readCode spaced 2 0 rest).map fun (c, rest) => (.literal ⟨c, true⟩, rest)
  | 'u' :: rest => (readCode spaced 4 0 rest).map fun (c, rest) => (.literal ⟨c, false⟩, rest)
  | 'U' :: rest => (readCode spaced 8 0 rest).map fun (c, rest) => (.literal ⟨c, false⟩, rest)
  | c :: rest => (escapeOf? c).map fun single => (single, rest)

end JoinOrder.Regex
