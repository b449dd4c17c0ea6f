/-
# Writing JSON

The text of a JSON value in a layout.  A layout only decides the white space: what stands before
each element of an array or object and after the colon of a member.  The compact layout has none;
the indented one gives each element a line of its own, two spaces deeper than its surroundings.

Only quotes, backslashes and control characters are escaped; everything else stands as it is.
-/
import JoinOrder.Json.Value

namespace JoinOrder.Json

/-! ## Layouts -/

/-- The white space of a text. -/
structure Layout where
  /-- What stands before an element at a given depth, and before the closing bracket. -/
  gap : Nat → List Char
  /-- What stands after the colon of a member. -/
  colonGap : List Char

/-- No white space at all. -/
def Layout.compact : Layout := ⟨fun _ => [], []⟩

/-- A line for each element, indented by two spaces per level. -/
def Layout.indented : Layout := ⟨fun depth => '\n' :: List.replicate (2 * depth) ' ', [' ']⟩

/-! ## Scalars -/

/-- How one character stands in a string literal. -/
def escape (c : Char) : List Char :=
  if c = '"' then ['\\', '"']
  else if c = '\\' then ['\\', '\\']
  else if c = '\x08' then ['\\', 'b']
  else if c = '\t' then ['\\', 't']
  else if c = '\n' then ['\\', 'n']
  else if c = '\x0c' then ['\\', 'f']
  else if c = '\r' then ['\\', 'r']
  else if c.toNat < 0x20 then
    ['\\', 'u', '0', '0', Nat.digitChar (c.toNat / 16), Nat.digitChar (c.toNat % 16)]
  else [c]

/-- A string literal.  A literal without a text is written as a lone surrogate escape. -/
def Text.render : Text → List Char
  | .proper text => '"' :: text.toList.flatMap escape ++ ['"']
  | .unpaired => ['"', '\\', 'u', 'd', '8', '0', '0', '"']

/-- The digits after the point, with the point; nothing when there are none. -/
def Numeral.renderFraction : List (Fin 10) → List Char
  | [] => []
  | digits => '.' :: digits.map fun digit => Nat.digitChar digit.val

/-- The exponent with its mark; a plus sign is left out. -/
def Numeral.renderExponent : Option Int → List Char
  | none => []
  | some e => 'e' :: (if e < 0 then ['-'] else []) ++ Nat.toDigits 10 e.natAbs

/-- The literal of a number. -/
def Numeral.render (n : Numeral) : List Char :=
  (if n.negative then ['-'] else []) ++ Nat.toDigits 10 n.whole ++
    Numeral.renderFraction n.fraction ++ Numeral.renderExponent n.exponent

/-! ## Values -/

mutual

/-- The characters of a value that stands at a depth. -/
def renderAt (layout : Layout) (depth : Nat) : Json → List Char
  | .null => ['n', 'u', 'l', 'l']
  | .bool true => ['t', 'r', 'u', 'e']
  | .bool false => ['f', 'a', 'l', 's', 'e']
  | .number n => n.render
  | .string t => t.render
  | .array [] => ['[', ']']
  | .array (item :: items) =>
    '[' :: layout.gap (depth + 1) ++ renderAt layout (depth + 1) item ++
      renderItems layout (depth + 1) items ++ layout.gap depth ++ [']']
  | .object [] => ['\x7b', '\x7d']
  | .object ((name, value) :: members) =>
    '\x7b' :: layout.gap (depth + 1) ++ name.render ++ ':' :: layout.colonGap ++
      renderAt layout (depth + 1) value ++ renderMembers layout (depth + 1) members ++
      layout.gap depth ++ ['\x7d']

/-- The elements after the first, each behind its comma. -/
def renderItems (layout : Layout) (depth : Nat) : List Json → List Char
  | [] => []
  | item :: items =>
    ',' :: layout.gap depth ++ renderAt layout depth item ++ renderItems layout depth items

/-- The members after the first, each behind its comma. -/
def renderMembers (layout : Layout) (depth : Nat) : List (Text × Json) → List Char
  | [] => []
  | (name, value) :: members =>
    ',' :: layout.gap depth ++ name.render ++ ':' :: layout.colonGap ++
      renderAt layout depth value ++ renderMembers layout depth members

end

/-- The text of a value in a layout. -/
def render (layout : Layout) (json : Json) : String :=
  String.ofList (renderAt layout 0 json)

/-- The text of a value without white space. -/
def compact (json : Json) : String := json.render .compact

/-- The text of a value with a line for each element. -/
def indented (json : Json) : String := json.render .indented

end JoinOrder.Json
