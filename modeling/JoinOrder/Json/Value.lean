/-
# JSON Values

The values that graph, settings and statistics texts denote.  A number keeps the form in which it
is written, because only a plain unsigned integer is accepted where a word is expected.  A string
literal may hold surrogate escapes that do not pair up; such a literal is well formed but denotes
no text, so it is kept as a case of its own.
-/
import JoinOrder.Word

namespace JoinOrder

namespace Json

/-- A number in the form of its literal: sign, integer part, digits after the point (none when
there is no point) and exponent. -/
structure Numeral where
  /-- Whether the literal starts with a minus sign. -/
  negative : Bool
  /-- The integer part. -/
  whole : Nat
  /-- The digits after the point. -/
  fraction : List (Fin 10)
  /-- The exponent, where one is written. -/
  exponent : Option Int
  deriving DecidableEq, Repr, Inhabited

/-- What a string literal denotes: a text, or nothing when a surrogate escape has no partner. -/
inductive Text where
  | proper (text : String)
  | unpaired
  deriving DecidableEq, Repr, Inhabited

/-- The text of a literal that denotes one. -/
def Text.proper? : Text → Option String
  | .proper text => some text
  | .unpaired => none

@[simp] theorem Text.proper?_proper (text : String) : (Text.proper text).proper? = some text := rfl

@[simp] theorem Text.proper?_unpaired : Text.unpaired.proper? = none := rfl

end Json

/-- A JSON value.  The members of an object are kept in the order of the text, repeated names
included. -/
inductive Json where
  | null
  | bool (value : Bool)
  | number (value : Json.Numeral)
  | string (text : Json.Text)
  | array (items : List Json)
  | object (members : List (Json.Text × Json))
  deriving Repr, Inhabited

namespace Json

/-! ## Building values -/

/-- The literal of an unsigned integer. -/
def natural (n : Nat) : Json :=
  .number ⟨false, n, [], none⟩

/-- The literal of a text. -/
def text (s : String) : Json :=
  .string (.proper s)

/-- The object with the given fields. -/
def record (fields : List (String × Json)) : Json :=
  .object (fields.map fun field => (.proper field.1, field.2))

/-! ## Reading values as other types -/

/-- An unsigned word: digits alone, without sign, point or exponent, below the word bound. -/
def word? : Json → Option Nat
  | .number ⟨false, n, [], none⟩ => if n < wordBound then some n else none
  | _ => none

/-- A truth value. -/
def bool? : Json → Option Bool
  | .bool value => some value
  | _ => none

/-- A text. -/
def text? : Json → Option String
  | .string text => text.proper?
  | _ => none

/-- A list whose members are all of one kind. -/
def list? {α : Type} (member? : Json → Option α) : Json → Option (List α)
  | .array items => items.mapM member?
  | _ => none

/-- A value of one kind, or null. -/
def nullable? {α : Type} (value? : Json → Option α) : Json → Option (Option α)
  | .null => some none
  | json => (value? json).map some

/-- Two texts in an array of their own. -/
def pair? : Json → Option (String × String)
  | .array [first, second] => do return (← first.text?, ← second.text?)
  | _ => none

theorem word?_natural {n : Nat} (h : n < wordBound) : (natural n).word? = some n := by
  simp [natural, word?, h]

@[simp] theorem text?_text (s : String) : (text s).text? = some s := rfl

@[simp] theorem bool?_bool (b : Bool) : (Json.bool b).bool? = some b := rfl

end Json

end JoinOrder
