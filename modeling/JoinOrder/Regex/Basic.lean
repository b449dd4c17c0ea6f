/-
# Regular Expressions

The parts of a regular expression as they are written: single characters and classes of characters,
groups, repetitions, sequences and choices, and the flags that change the meaning of what follows.

The depth of an expression counts the constructs around its innermost part.  A sequence or a choice
counts only if it has several parts.
-/

namespace JoinOrder

/-! ## Characters and classes -/

namespace Regex

/-- A flag. -/
inductive Flag where
  /-- Letters stand for both of their cases. -/
  | ignoreCase
  /-- The border signs stand for the borders of lines. -/
  | multiLine
  /-- A point stands for the end of a line as well. -/
  | pointForAll
  /-- Repetitions match as little as possible. -/
  | swapGreed
  /-- Characters and not bytes are matched. -/
  | unicode
  /-- Blanks and remarks are left out. -/
  | ignoreBlanks
  /-- A carriage return may belong to the end of a line. -/
  | carriageReturn
  deriving DecidableEq, Repr

/-- The flag with a letter. -/
def Flag.ofChar? : Char → Option Flag
  | 'i' => some .ignoreCase
  | 'm' => some .multiLine
  | 's' => some .pointForAll
  | 'U' => some .swapGreed
  | 'u' => some .unicode
  | 'x' => some .ignoreBlanks
  | 'R' => some .carriageReturn
  | _ => none

/-- Flags that are switched on or off, in the order in which they are written. -/
abbrev Switches := List (Flag × Bool)

/-- A character that stands for itself. -/
structure Literal where
  /-- The character. -/
  char : Char
  /-- Whether it is written as a byte, with two hexadecimal digits. -/
  isByte : Bool
  deriving DecidableEq, Repr

/-- A part that is written with one character or one escape. -/
inductive Atom where
  /-- A character that stands for itself. -/
  | literal (literal : Literal)
  /-- Any character. -/
  | anyChar
  /-- A border of the text or of a line. -/
  | border
  /-- A place that is a border of a word, or one that is none. -/
  | wordBorder
  /-- A character that is a digit, a blank or part of a word, or one that is not. -/
  | shorthand (negated : Bool)
  deriving DecidableEq, Repr

/-- An operation on two classes. -/
inductive ClassOperation where
  | intersection
  | difference
  | symmetricDifference
  deriving DecidableEq, Repr

/-- A class of characters. -/
inductive CharClass where
  /-- No character. -/
  | empty
  /-- A single character. -/
  | literal (literal : Literal)
  /-- The characters from one to another. -/
  | range (first last : Literal)
  /-- Digits, blanks or parts of words, or all other characters. -/
  | shorthand (negated : Bool)
  /-- A class of ASCII characters with a name, or all other characters. -/
  | named (negated : Bool) (name : String)
  /-- A class in brackets, or all other characters. -/
  | bracketed (negated : Bool) (members : CharClass)
  /-- The characters of several classes. -/
  | union (members : List CharClass)
  /-- An operation on two classes. -/
  | combined (operation : ClassOperation) (left right : CharClass)
  deriving Repr

namespace CharClass

/-- The class with these members. -/
def ofMembers : List CharClass → CharClass
  | [] => empty
  | [member] => member
  | members => union members

mutual

/-- How deep a class is nested. -/
def depth : CharClass → Nat
  | bracketed _ members => members.depth + 1
  | union members => greatestDepth members + 1
  | combined _ left right => max left.depth right.depth + 1
  | _ => 0

/-- How deep the deepest of several classes is nested. -/
def greatestDepth : List CharClass → Nat
  | [] => 0
  | member :: members => max member.depth (greatestDepth members)

end

end CharClass

end Regex

/-! ## Expressions -/

/-- A regular expression. -/
inductive Regex where
  /-- The empty text. -/
  | empty
  /-- Flags for the rest of the group. -/
  | flags (switches : Regex.Switches)
  /-- A single part. -/
  | atom (atom : Regex.Atom)
  /-- A character of a class. -/
  | oneOf (members : Regex.CharClass)
  /-- A part that is repeated or may be left out. -/
  | repeated (body : Regex)
  /-- A group with flags of its own. -/
  | group (switches : Regex.Switches) (body : Regex)
  /-- Several parts in order. -/
  | sequence (parts : List Regex)
  /-- A choice between several parts. -/
  | choice (parts : List Regex)
  deriving Repr

namespace Regex

/-- The sequence of these parts. -/
def ofParts : List Regex → Regex
  | [] => empty
  | [part] => part
  | parts => sequence parts

mutual

/-- How deep an expression is nested. -/
def depth : Regex → Nat
  | oneOf members => members.depth
  | repeated body => body.depth + 1
  | group _ body => body.depth + 1
  | sequence parts => greatestDepth parts + 1
  | choice parts => greatestDepth parts + 1
  | _ => 0

/-- How deep the deepest of several expressions is nested. -/
def greatestDepth : List Regex → Nat
  | [] => 0
  | part :: parts => max part.depth (greatestDepth parts)

end

end Regex

end JoinOrder
