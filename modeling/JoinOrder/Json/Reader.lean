/-
# Reading JSON

The value that a text denotes, under the strict grammar: white space is space, tab, line feed and
carriage return; strings hold no raw control character; a number has no superfluous zero in front;
nothing but white space follows the value.  The depth of nesting is not limited.

The reader recurses on a count of steps that two per character always cover, so `parse` shows no
bound.  A string literal is read in two passes: first its units, where an escape of four
hexadecimal digits is one 16-bit unit and any other character is its code point, then the
surrogates among them are paired.
-/
import JoinOrder.Json.Value
import JoinOrder.Text.Digits

namespace JoinOrder.Json

/-! ## White space -/

/-- The white space of the grammar. -/
def isGap (c : Char) : Bool :=
  c = ' ' || c = '\t' || c = '\n' || c = '\r'

/-- The text without the white space in front. -/
def skipGap (cs : List Char) : List Char :=
  cs.dropWhile isGap

/-! ## Numbers -/

/-- The digits at the front, of which there must be one, and what follows them. -/
def readDigits (cs : List Char) : Option (List Char × List Char) :=
  match cs.takeWhile Char.isDigit with
  | [] => none
  | digits => some (digits, cs.dropWhile Char.isDigit)

/-- The integer part: a zero alone, or digits that do not start with zero. -/
def readWhole (cs : List Char) : Option (Nat × List Char) := do
  let (digits, rest) ← readDigits cs
  if digits.head? = some '0' ∧ digits.length ≠ 1 then none
  else some (Nat.ofDigitChars 10 digits 0, rest)

/-- The value of a digit. -/
def digitOf (c : Char) : Fin 10 :=
  Fin.ofNat 10 (c.toNat - '0'.toNat)

/-- The digits after a point; none when there is no point. -/
def readFraction : List Char → Option (List (Fin 10) × List Char)
  | '.' :: rest => (readDigits rest).map fun (digits, rest) => (digits.map digitOf, rest)
  | rest => some ([], rest)

/-- The digits of an exponent behind its mark, with an optional sign. -/
def readExponentDigits : List Char → Option (Int × List Char)
  | '-' :: rest => (readDigits rest).map fun (digits, rest) =>
      (-(Nat.ofDigitChars 10 digits 0 : Int), rest)
  | '+' :: rest => (readDigits rest).map fun (digits, rest) => (Nat.ofDigitChars 10 digits 0, rest)
  | rest => (readDigits rest).map fun (digits, rest) => (Nat.ofDigitChars 10 digits 0, rest)

/-- The exponent; none when there is no mark. -/
def readExponent : List Char → Option (Option Int × List Char)
  | 'e' :: rest => (readExponentDigits rest).map fun (e, rest) => (some e, rest)
  | 'E' :: rest => (readExponentDigits rest).map fun (e, rest) => (some e, rest)
  | rest => some (none, rest)

/-- The parts of a number behind its sign. -/
def readUnsigned (negative : Bool) (cs : List Char) : Option (Numeral × List Char) := do
  let (whole, cs) ← readWhole cs
  let (fraction, cs) ← readFraction cs
  let (exponent, cs) ← readExponent cs
  return (⟨negative, whole, fraction, exponent⟩, cs)

/-- A number. -/
def readNumeral : List Char → Option (Numeral × List Char)
  | '-' :: rest => readUnsigned true rest
  | rest => readUnsigned false rest

/-! ## Strings -/

/-- The 16-bit unit of four hexadecimal digits. -/
def hexUnit (a b c d : Char) : Option Nat := do
  let high := (← Text.hexValue a) * 16 + (← Text.hexValue b)
  let low := (← Text.hexValue c) * 16 + (← Text.hexValue d)
  return high * 256 + low

/-- The code point of an escape of one letter. -/
def letterEscape (c : Char) : Option Nat :=
  if c = '"' ∨ c = '\\' ∨ c = '/' then some c.toNat
  else if c = 'b' then some 0x08
  else if c = 'f' then some 0x0c
  else if c = 'n' then some 0x0a
  else if c = 'r' then some 0x0d
  else if c = 't' then some 0x09
  else none

/-- The units of a string literal behind its opening quote, and what follows its closing quote. -/
def readUnits : List Char → Option (List Nat × List Char)
  | [] => none
  | '"' :: rest => some ([], rest)
  | '\\' :: 'u' :: a :: b :: c :: d :: rest => do
    let unit ← hexUnit a b c d
    let (units, rest) ← readUnits rest
    return (unit :: units, rest)
  | '\\' :: c :: rest => do
    let unit ← letterEscape c
    let (units, rest) ← readUnits rest
    return (unit :: units, rest)
  | c :: rest =>
    if c.toNat < 0x20 then none
    else do
      let (units, rest) ← readUnits rest
      return (c.toNat :: units, rest)

/-- The first half of a surrogate pair. -/
def isHighSurrogate (unit : Nat) : Bool := 0xd800 ≤ unit && unit ≤ 0xdbff

/-- The second half of a surrogate pair. -/
def isLowSurrogate (unit : Nat) : Bool := 0xdc00 ≤ unit && unit ≤ 0xdfff

/-- The character of a surrogate pair. -/
def pairedChar (high low : Nat) : Char :=
  Char.ofNat (0x10000 + (high - 0xd800) * 0x400 + (low - 0xdc00))

/-- The characters of a list of units, unless a surrogate has no partner. -/
def pairUnits : List Nat → Option (List Char)
  | [] => some []
  | [unit] =>
    if isHighSurrogate unit || isLowSurrogate unit then none else some [Char.ofNat unit]
  | unit :: next :: rest =>
    if isHighSurrogate unit then
      if isLowSurrogate next then (pairUnits rest).map (pairedChar unit next :: ·) else none
    else if isLowSurrogate unit then none
    else (pairUnits (next :: rest)).map (Char.ofNat unit :: ·)

/-- What a literal with these units denotes. -/
def Text.ofUnits (units : List Nat) : Text :=
  match pairUnits units with
  | some cs => .proper (String.ofList cs)
  | none => .unpaired

/-- A string literal behind its opening quote. -/
def readText (cs : List Char) : Option (Text × List Char) :=
  (readUnits cs).map fun (units, rest) => (Text.ofUnits units, rest)

/-! ## Values -/

mutual

/-- A value and what follows it. -/
def readValue : Nat → List Char → Option (Json × List Char)
  | 0, _ => none
  | steps + 1, cs =>
    match skipGap cs with
    | 'n' :: 'u' :: 'l' :: 'l' :: rest => some (.null, rest)
    | 't' :: 'r' :: 'u' :: 'e' :: rest => some (.bool true, rest)
    | 'f' :: 'a' :: 'l' :: 's' :: 'e' :: rest => some (.bool false, rest)
    | '"' :: rest => (readText rest).map fun (text, rest) => (.string text, rest)
    | '[' :: rest =>
      match skipGap rest with
      | ']' :: rest => some (.array [], rest)
      | rest => (readItems steps rest).map fun (items, rest) => (.array items, rest)
    | '\x7b' :: rest =>
      match skipGap rest with
      | '\x7d' :: rest => some (.object [], rest)
      | rest => (readMembers steps rest).map fun (members, rest) => (.object members, rest)
    | rest => (readNumeral rest).map fun (n, rest) => (.number n, rest)

/-- The elements of an array up to and including its closing bracket. -/
def readItems : Nat → List Char → Option (List Json × List Char)
  | 0, _ => none
  | steps + 1, cs => do
    let (item, rest) ← readValue steps cs
    match skipGap rest with
    | ',' :: rest =>
      let (items, rest) ← readItems steps rest
      return (item :: items, rest)
    | ']' :: rest => return ([item], rest)
    | _ => none

/-- The members of an object up to and including its closing brace. -/
def readMembers : Nat → List Char → Option (List (Text × Json) × List Char)
  | 0, _ => none
  | steps + 1, cs =>
    match skipGap cs with
    | '"' :: rest => do
      let (name, rest) ← readText rest
      match skipGap rest with
      | ':' :: rest =>
        let (value, rest) ← readValue steps rest
        match skipGap rest with
        | ',' :: rest =>
          let (members, rest) ← readMembers steps rest
          return ((name, value) :: members, rest)
        | '\x7d' :: rest => return ([(name, value)], rest)
        | _ => none
      | _ => none
    | _ => none

end

/-- The value of a whole text given as characters. -/
def parseChars (cs : List Char) : Option Json := do
  let (json, rest) ← readValue (2 * cs.length + 2) cs
  if skipGap rest = [] then some json else none

/-- The value that a whole text denotes. -/
def parse (text : String) : Option Json :=
  parseChars text.toList

end JoinOrder.Json
