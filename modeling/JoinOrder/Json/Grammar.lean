/-
# The Grammar of JSON

Which texts denote which value, said without a reader.  One value has many texts: white space of any
length may stand between the parts of an array or object, the digits of an exponent may have zeros
in front, and a character may stand for itself or be escaped.  The digits of a number in front of
its exponent have a single form, because a value keeps them as they are written.

A literal denotes what its units denote together (`Text.ofUnits`), so that a surrogate escape can be
spelled without its partner.
-/
import JoinOrder.Json.Reader
import JoinOrder.Json.Writer

namespace JoinOrder.Json

/-- White space of the grammar and nothing else. -/
def IsBlank (cs : List Char) : Prop := ∀ c ∈ cs, isGap c = true

instance (cs : List Char) : Decidable (IsBlank cs) :=
  decidable_of_iff (cs.all isGap = true) List.all_eq_true

/-! ## Numbers -/

/-- At least one digit and nothing else. -/
structure IsDigits (cs : List Char) : Prop where
  /-- There is a digit. -/
  nonempty : cs ≠ []
  /-- There is nothing else. -/
  digits : ∀ c ∈ cs, c.isDigit = true

/-- The spellings of an exponent with its mark. -/
inductive SpellsExponent : Option Int → List Char → Prop
  | absent : SpellsExponent none []
  | unsigned {mark : Char} {digits : List Char} (marked : mark = 'e' ∨ mark = 'E')
      (number : IsDigits digits) :
      SpellsExponent (some (Nat.ofDigitChars 10 digits 0)) (mark :: digits)
  | positive {mark : Char} {digits : List Char} (marked : mark = 'e' ∨ mark = 'E')
      (number : IsDigits digits) :
      SpellsExponent (some (Nat.ofDigitChars 10 digits 0)) (mark :: '+' :: digits)
  | negative {mark : Char} {digits : List Char} (marked : mark = 'e' ∨ mark = 'E')
      (number : IsDigits digits) :
      SpellsExponent (some (-(Nat.ofDigitChars 10 digits 0 : Int))) (mark :: '-' :: digits)

/-- The spellings of a number. -/
inductive SpellsNumeral : Numeral → List Char → Prop
  | parts {negative : Bool} {whole : Nat} {fraction : List (Fin 10)} {exponent : Option Int}
      {marked : List Char} (scaled : SpellsExponent exponent marked) :
      SpellsNumeral ⟨negative, whole, fraction, exponent⟩
        ((if negative then ['-'] else []) ++ (Nat.toDigits 10 whole ++
          (Numeral.renderFraction fraction ++ marked)))

/-! ## Strings -/

/-- The spellings of a list of units, with the closing quote. -/
inductive SpellsUnits : List Nat → List Char → Prop
  | close : SpellsUnits [] ['"']
  | plain {c : Char} {units : List Nat} {cs : List Char} (notQuote : c ≠ '"')
      (notBackslash : c ≠ '\\') (printed : ¬c.toNat < 0x20) (others : SpellsUnits units cs) :
      SpellsUnits (c.toNat :: units) (c :: cs)
  | letter {c : Char} {unit : Nat} {units : List Nat} {cs : List Char}
      (escaped : letterEscape c = some unit) (others : SpellsUnits units cs) :
      SpellsUnits (unit :: units) ('\\' :: c :: cs)
  | digits {a b c d : Char} {unit : Nat} {units : List Nat} {cs : List Char}
      (escaped : hexUnit a b c d = some unit) (others : SpellsUnits units cs) :
      SpellsUnits (unit :: units) ('\\' :: 'u' :: a :: b :: c :: d :: cs)

/-- The spellings of what a string literal denotes. -/
inductive SpellsText : Text → List Char → Prop
  | quoted {units : List Nat} {cs : List Char} (body : SpellsUnits units cs) :
      SpellsText (Text.ofUnits units) ('"' :: cs)

/-- The spellings of a member's name, up to and including its colon. -/
inductive SpellsName : Text → List Char → Prop
  | labelled {name : Text} {cs gap : List Char} (spelled : SpellsText name cs)
      (blank : IsBlank gap) : SpellsName name (cs ++ (gap ++ [':']))

/-! ## Values -/

/-- What is spelled by itself: a value, or what follows the opening bracket of an array or object
that is not empty, up to and including its closing bracket. -/
inductive Part where
  | value (json : Json)
  | items (items : List Json)
  | members (members : List (Text × Json))

/-- The spellings of a part. -/
inductive Spells : Part → List Char → Prop
  | null : Spells (.value .null) ['n', 'u', 'l', 'l']
  | true : Spells (.value (.bool true)) ['t', 'r', 'u', 'e']
  | false : Spells (.value (.bool false)) ['f', 'a', 'l', 's', 'e']
  | number {n : Numeral} {cs : List Char} (spelled : SpellsNumeral n cs) :
      Spells (.value (.number n)) cs
  | string {t : Text} {cs : List Char} (spelled : SpellsText t cs) : Spells (.value (.string t)) cs
  | emptyArray {gap : List Char} (blank : IsBlank gap) :
      Spells (.value (.array [])) ('[' :: (gap ++ [']']))
  | array {items : List Json} {cs : List Char} (inside : Spells (.items items) cs) :
      Spells (.value (.array items)) ('[' :: cs)
  | emptyObject {gap : List Char} (blank : IsBlank gap) :
      Spells (.value (.object [])) ('\x7b' :: (gap ++ ['\x7d']))
  | object {members : List (Text × Json)} {cs : List Char} (inside : Spells (.members members) cs) :
      Spells (.value (.object members)) ('\x7b' :: cs)
  | lastItem {json : Json} {cs gap : List Char} (item : Spells (.value json) cs)
      (blank : IsBlank gap) : Spells (.items [json]) (cs ++ (gap ++ [']']))
  | item {json : Json} {items : List Json} {cs gap others : List Char}
      (item : Spells (.value json) cs) (blank : IsBlank gap)
      (later : Spells (.items items) others) :
      Spells (.items (json :: items)) (cs ++ (gap ++ ',' :: others))
  | lastMember {name : Text} {json : Json} {label cs gap : List Char}
      (named : SpellsName name label) (value : Spells (.value json) cs) (blank : IsBlank gap) :
      Spells (.members [(name, json)]) (label ++ (cs ++ (gap ++ ['\x7d'])))
  | member {name : Text} {json : Json} {members : List (Text × Json)}
      {label cs gap others : List Char} (named : SpellsName name label)
      (value : Spells (.value json) cs) (blank : IsBlank gap)
      (later : Spells (.members members) others) :
      Spells (.members ((name, json) :: members)) (label ++ (cs ++ (gap ++ ',' :: others)))
  | spaced {part : Part} {gap cs : List Char} (blank : IsBlank gap) (spelled : Spells part cs) :
      Spells part (gap ++ cs)

/-- A text denotes a value if it spells it, with white space around it. -/
def Denotes (text : String) (json : Json) : Prop :=
  ∃ cs gap, Spells (.value json) cs ∧ IsBlank gap ∧ text.toList = cs ++ gap

end JoinOrder.Json
