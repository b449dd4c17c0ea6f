/-
# Reading Classes of Characters

A class stands in brackets.  Its members are characters, ranges, escapes and further classes,
between which the signs of operations may stand; hyphens and a closing bracket that stand first are
characters.

The members are read in a number of steps that one per character always covers, so `readClass` shows
no bound.
-/
import JoinOrder.Regex.Escape

namespace JoinOrder.Regex

/-! ## Members -/

/-- The names of classes. -/
def classNames : List String :=
  ["alnum", "alpha", "ascii", "blank", "cntrl", "digit", "graph", "lower", "print", "punct",
    "space", "upper", "word", "xdigit"]

/-- A class with a name, behind its opening bracket. -/
def readNamed : List Char → Option (CharClass × List Char)
  | ':' :: rest =>
    let negated := rest.head? = some '^'
    let rest := if negated then rest.drop 1 else rest
    let name := rest.takeWhile (· ≠ ':')
    match rest.drop name.length with
    | ':' :: ']' :: rest =>
      if classNames.contains (String.ofList name) then
        some (.named negated (String.ofList name), rest)
      else none
    | _ => none
  | _ => none

/-- A character of a class, or what an escape stands for. -/
def readClassAtom (spaced : Bool) : List Char → Option (Atom × List Char)
  | [] => none
  | '\\' :: rest => readEscape spaced rest
  | c :: rest => some (.literal ⟨c, false⟩, rest)

/-- The class that a single part stands for. -/
def Atom.toCharClass? : Atom → Option CharClass
  | .literal char => some (.literal char)
  | .shorthand negated => some (.shorthand negated)
  | _ => none

/-- A member of a class: a range, or a single part.  A hyphen makes no range in front of another
hyphen and at the end of the class. -/
def readMember (spaced : Bool) (cs : List Char) : Option (CharClass × List Char) := do
  let (first, rest) ← readClassAtom spaced cs
  let alone := first.toCharClass?
  match skipBlanks spaced rest with
  | '-' :: behind =>
    if peek spaced behind = some ']' ∨ peek spaced behind = some '-' then
      return (← alone, '-' :: behind)
    else
      let (last, rest) ← readClassAtom spaced (skipBlanks spaced behind)
      match first, last with
      | .literal first, .literal last =>
        if first.char ≤ last.char then return (.range first last, rest) else none
      | _, _ => none
  | rest => return (← alone, rest)

/-- Hyphens at the start of a class, in front of members that have been read, the last one first. -/
def readHyphens (spaced : Bool) : Nat → List CharClass → List Char → List CharClass × List Char
  | 0, members, cs => (members, cs)
  | steps + 1, members, cs =>
    match skipBlanks spaced cs with
    | '-' :: rest => readHyphens spaced steps (.literal ⟨'-', false⟩ :: members) rest
    | rest => (members, rest)

/-- The start of a class behind its opening bracket: whether it is negated, and the members that
cannot be written elsewhere, which are hyphens or a closing bracket. -/
def readClassStart (spaced : Bool) (cs : List Char) : Bool × List CharClass × List Char :=
  let cs := skipBlanks spaced cs
  let negated := cs.head? = some '^'
  let cs := if negated then cs.drop 1 else cs
  match readHyphens spaced (cs.length + 1) [] cs with
  | ([], ']' :: rest) => (negated, [.literal ⟨']', false⟩], rest)
  | (members, rest) => (negated, members, rest)

/-! ## Whole classes -/

/-- The class of the members that have been read, the last one first, behind an operation with what
stands in front of it. -/
def closeMembers (left : Option (ClassOperation × CharClass)) (members : List CharClass) :
    CharClass :=
  let right := CharClass.ofMembers members.reverse
  match left with
  | none => right
  | some (operation, left) => .combined operation left right

/-- The members of a class up to and including its closing bracket. -/
def readMembers (spaced : Bool) : Nat → Option (ClassOperation × CharClass) → List CharClass →
    List Char → Option (CharClass × List Char)
  | 0, _, _, _ => none
  | steps + 1, left, members, cs =>
    match skipBlanks spaced cs with
    | [] => none
    | ']' :: rest => some (closeMembers left members, rest)
    | '&' :: '&' :: rest =>
      readMembers spaced steps (some (.intersection, closeMembers left members)) [] rest
    | '-' :: '-' :: rest =>
      readMembers spaced steps (some (.difference, closeMembers left members)) [] rest
    | '~' :: '~' :: rest =>
      readMembers spaced steps (some (.symmetricDifference, closeMembers left members)) [] rest
    | '[' :: rest =>
      match readNamed rest with
      | some (named, rest) => readMembers spaced steps left (named :: members) rest
      | none => do
        let (negated, start, rest) := readClassStart spaced rest
        let (inner, rest) ← readMembers spaced steps none start rest
        readMembers spaced steps left (.bracketed negated inner :: members) rest
    | rest => do
      let (member, rest) ← readMember spaced rest
      readMembers spaced steps left (member :: members) rest

/-- A class behind its opening bracket. -/
def readClass (spaced : Bool) (cs : List Char) : Option (CharClass × List Char) :=
  let (negated, start, rest) := readClassStart spaced cs
  (readMembers spaced (rest.length + 1) none start rest).map fun (members, rest) =>
    (.bracketed negated members, rest)

end JoinOrder.Regex
