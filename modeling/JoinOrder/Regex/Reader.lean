/-
# Reading Regular Expressions

The expression that a text denotes.  Groups can be nested, flags go as far as the group in which
they are switched, and every name of a group is used once.  Counted repetitions are left out:
nothing can be written in braces.

The reader recurses on a count of steps that one per character always covers, so `ofChars?` shows no
bound.
-/
import JoinOrder.Regex.ClassReader
import JoinOrder.Text.Alphanumeric

namespace JoinOrder.Regex

/-! ## Groups -/

/-- What an opening parenthesis starts. -/
inductive Opening where
  /-- Flags for the rest of the group that it stands in. -/
  | flags (switches : Switches)
  /-- A group with flags of its own. -/
  | group (switches : Switches)
  deriving DecidableEq, Repr

/-- The flags that an opening parenthesis brings. -/
def Opening.switches : Opening → Switches
  | flags switches => switches
  | group switches => switches

/-- Flags up to the colon that opens a group, or to the closing parenthesis.  Those behind a hyphen
are switched off; no flag is given twice, and neither an empty list nor a hyphen may be closed. -/
def readSwitches (value : Bool) (switches : Switches) : List Char → Option (Opening × List Char)
  | [] => none
  | ')' :: rest => if switches.isEmpty then none else some (.flags switches, rest)
  | ':' :: rest => some (.group switches, rest)
  | '-' :: rest =>
    if value ∧ rest.head? ≠ some ')' ∧ rest.head? ≠ some ':' then
      readSwitches false switches rest
    else none
  | c :: rest => do
    let flag ← Flag.ofChar? c
    if (switches.lookup flag).isSome then none
    else readSwitches value (switches ++ [(flag, value)]) rest

/-- Whether characters can be the name of a group. -/
def isGroupName : List Char → Bool
  | [] => false
  | c :: cs =>
    (c = '_' || Text.isLetter c) &&
      cs.all fun c => c = '_' || c = '.' || c = '[' || c = ']' || Text.isAlphanumeric c

/-- The name of a group up to and including its closing angle bracket.  No two groups have the same
name. -/
def readGroupName (names : List String) (cs : List Char) : Option (String × List Char) :=
  let name := cs.takeWhile (· ≠ '>')
  match cs.drop name.length with
  | [] => none
  | _ :: rest =>
    if isGroupName name ∧ String.ofList name ∉ names then some (String.ofList name, rest) else none

/-- What is opened, behind its parenthesis, with the names of the groups so far. -/
def readOpening (names : List String) : List Char → Option (Opening × List String × List Char)
  | '?' :: 'P' :: '<' :: rest | '?' :: '<' :: rest =>
    (readGroupName names rest).map fun (name, rest) => (.group [], name :: names, rest)
  | '?' :: rest => (readSwitches true [] rest).map fun (opening, rest) => (opening, names, rest)
  | rest => some (.group [], names, rest)

/-! ## Expressions -/

/-- Repeats the last one of the parts that have been read, the last one first. -/
def repeatLast? : List Regex → Option (List Regex)
  | [] | .flags _ :: _ => none
  | last :: parts => some (.repeated last :: parts)

/-- The characters behind the sign that makes a repetition lazy, if it is there. -/
def skipLazy : List Char → List Char
  | '?' :: rest => rest
  | rest => rest

/-- The expression of the choices and of the parts of the last choice that have been read, the last
one first. -/
def closeParts (choices parts : List Regex) : Regex :=
  match choices with
  | [] => ofParts parts.reverse
  | choices => .choice (ofParts parts.reverse :: choices).reverse

/-- The expression up to the parenthesis that closes its group or to the end of the text, with the
names of the groups so far. -/
def readParts : Nat → Bool → List String → List Regex → List Regex → List Char →
    Option (Regex × List String × List Char)
  | 0, _, _, _, _, _ => none
  | steps + 1, spaced, names, choices, parts, cs =>
    match skipBlanks spaced cs with
    | [] => some (closeParts choices parts, names, [])
    | ')' :: rest => some (closeParts choices parts, names, ')' :: rest)
    | '|' :: rest => readParts steps spaced names (ofParts parts.reverse :: choices) [] rest
    | '(' :: rest => do
      let (opening, names, rest) ← readOpening names (skipBlanks spaced rest)
      let within := (opening.switches.lookup .ignoreBlanks).getD spaced
      match opening with
      | .flags switches => readParts steps within names choices (.flags switches :: parts) rest
      | .group switches =>
        let (body, names, rest) ← readParts steps within names [] [] rest
        match rest with
        | ')' :: rest => readParts steps spaced names choices (.group switches body :: parts) rest
        | _ => none
    | '[' :: rest => do
      let (members, rest) ← readClass spaced rest
      readParts steps spaced names choices (.oneOf members :: parts) rest
    | '?' :: rest | '*' :: rest | '+' :: rest => do
      readParts steps spaced names choices (← repeatLast? parts) (skipLazy rest)
    | '\x7b' :: _ => none
    | '\\' :: rest => do
      let (single, rest) ← readEscape spaced rest
      readParts steps spaced names choices (.atom single :: parts) rest
    | '.' :: rest => readParts steps spaced names choices (.atom .anyChar :: parts) rest
    | '^' :: rest | '$' :: rest =>
      readParts steps spaced names choices (.atom .border :: parts) rest
    | c :: rest => readParts steps spaced names choices (.atom (.literal ⟨c, false⟩) :: parts) rest

/-- The expression that characters denote. -/
def ofChars? (cs : List Char) : Option Regex :=
  match readParts (cs.length + 1) false [] [] [] cs with
  | some (regex, _, []) => some regex
  | _ => none

end JoinOrder.Regex
