/-
# Patterns for Values

A condition on the value of a field is a number, a truth value or a regular expression.  Values are
never looked at here; only whether a condition is well formed matters.

An expression must be one that can be matched without a table of letters and of their cases, on text
that stays text.  Where characters are matched, digits, blanks and words are unknown, and so are the
cases of a character.  Where bytes are matched, only those of ASCII are characters, so a class must
not hold any other byte, and with it no negation.
-/
import JoinOrder.Regex.Reader

namespace JoinOrder

/-! ## Supported expressions -/

namespace Regex

/-- The flags that decide about support. -/
structure Mode where
  /-- Whether characters and not bytes are matched. -/
  unicode : Bool
  /-- Whether letters stand for both of their cases. -/
  ignoreCase : Bool
  deriving DecidableEq, Repr

namespace Mode

/-- The mode at the start of an expression. -/
def standard : Mode := ⟨true, false⟩

/-- The mode behind some flags. -/
def switch (mode : Mode) (switches : Switches) : Mode where
  unicode := (switches.lookup .unicode).getD mode.unicode
  ignoreCase := (switches.lookup .ignoreCase).getD mode.ignoreCase

/-- Whether a part is supported. -/
def supportsAtom (mode : Mode) : Atom → Bool
  | .literal literal =>
    if mode.unicode then !mode.ignoreCase else !literal.isByte || literal.char.toNat < 0x80
  | .anyChar => mode.unicode
  | .border => true
  | .wordBorder => !mode.unicode
  | .shorthand negated => !mode.unicode && !negated

/-- Whether a character is supported in a class. -/
def supportsMember (mode : Mode) (literal : Literal) : Bool :=
  if mode.unicode then !mode.ignoreCase else literal.char.toNat < 0x80

mutual

/-- Whether a class is supported. -/
def supportsClass (mode : Mode) : CharClass → Bool
  | .empty => true
  | .literal literal => mode.supportsMember literal
  | .range first last => mode.supportsMember first && mode.supportsMember last
  | .shorthand negated => !mode.unicode && !negated
  | .named negated _ => if mode.unicode then !mode.ignoreCase else !negated
  | .bracketed negated members => (mode.unicode || !negated) && mode.supportsClass members
  | .union members => mode.supportsClasses members
  | .combined _ left right => mode.supportsClass left && mode.supportsClass right

/-- Whether all of several classes are supported. -/
def supportsClasses (mode : Mode) : List CharClass → Bool
  | [] => true
  | member :: members => mode.supportsClass member && mode.supportsClasses members

end

end Mode

mutual

/-- The mode behind an expression; nothing where it is not supported. -/
def modeBehind? (mode : Mode) : Regex → Option Mode
  | .empty => some mode
  | .flags switches => some (mode.switch switches)
  | .atom single => if mode.supportsAtom single then some mode else none
  | .oneOf members => if mode.supportsClass members then some mode else none
  | .repeated body => modeBehind? mode body
  | .group switches body => (modeBehind? (mode.switch switches) body).map fun _ => mode
  | .sequence parts => modeBehindAll? mode parts
  | .choice parts => modeBehindAll? mode parts

/-- The mode behind several expressions; nothing where one of them is not supported. -/
def modeBehindAll? (mode : Mode) : List Regex → Option Mode
  | [] => some mode
  | part :: parts => (modeBehind? mode part).bind fun mode => modeBehindAll? mode parts

end

/-- How deep a supported expression is nested at most. -/
def depthLimit : Nat := 250

/-- Whether an expression is supported. -/
def isSupported (regex : Regex) : Bool :=
  regex.depth ≤ depthLimit && (modeBehind? .standard regex).isSome

end Regex

/-! ## Conditions on values -/

namespace Pattern

/-- Whether characters are decimal digits, at least as many as asked for. -/
def isDigits (least : Nat) (cs : List Char) : Bool :=
  least ≤ cs.length && cs.all Char.isDigit

/-- Whether characters are the exponent of a number, with its mark, or nothing. -/
def isExponent : List Char → Bool
  | [] => true
  | mark :: '+' :: digits => (mark = 'e' || mark = 'E') && isDigits 1 digits
  | mark :: '-' :: digits => (mark = 'e' || mark = 'E') && isDigits 1 digits
  | mark :: digits => (mark = 'e' || mark = 'E') && isDigits 1 digits

/-- Whether characters are a number without a sign: digits around an optional point, with an
optional exponent, or the name of a number that has no digits. -/
def isUnsignedNumber (cs : List Char) : Bool :=
  let lowered := String.ofList (cs.map Char.toLower)
  let whole := cs.takeWhile Char.isDigit
  let named := lowered = "inf" || lowered = "infinity" || lowered = "nan"
  named ||
    match cs.dropWhile Char.isDigit with
    | '.' :: rest =>
      isDigits 1 (whole ++ rest.takeWhile Char.isDigit) && isExponent (rest.dropWhile Char.isDigit)
    | rest => isDigits 1 whole && isExponent rest

/-- Whether characters are a supported regular expression. -/
def isExpression (cs : List Char) : Bool :=
  (Regex.ofChars? cs).any Regex.isSupported

/-- Whether characters are a condition on a value.  A number with a plus sign in front is one,
though it is no regular expression; all other numbers and the truth values are expressions as well.
-/
def isCondition : List Char → Bool
  | '+' :: rest => isUnsignedNumber rest
  | cs => isExpression cs

end Pattern

end JoinOrder
