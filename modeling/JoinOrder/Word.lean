/-
# Machine Words

Sizes and counts are held in words of 64 bits, and an intermediate product may use a double word.
The arithmetic is that of the natural numbers together with an explicit check: a product that does
not fit is an overflow, never a wrapped number.

Main statements: a product succeeds exactly when it fits (`multiply_eq_ok_iff`), and the decimal
text of a word reads back (`Word.ofDigits?_toDigits`).
-/
import JoinOrder.Text.Digits

namespace JoinOrder

/-- The number of values of a word. -/
def wordBound : Nat := 1 <<< 64

/-- The number of values of a double word. -/
def doubleWordBound : Nat := 1 <<< 128

/-- The ways in which word arithmetic can fail. -/
inductive Overflow where
  /-- A product does not fit. -/
  | multiply
  /-- A shift moves by the width of a word or more. -/
  | shiftLeft
  deriving DecidableEq, Repr

/-- The sentence that reports an overflow. -/
def Overflow.message : Overflow → String
  | .multiply => "attempt to multiply with overflow"
  | .shiftLeft => "attempt to shift left with overflow"

/-! ## Checked arithmetic -/

/-- The product of two numbers, if it is below the bound. -/
def multiply (bound a b : Nat) : Except Overflow Nat :=
  if a * b < bound then .ok (a * b) else .error .multiply

/-- A power of two as a word, if the exponent is less than the width of a word. -/
def powerOfTwo (exponent : Nat) : Except Overflow Nat :=
  if exponent < 64 then .ok (1 <<< exponent) else .error .shiftLeft

/-- **A product succeeds exactly when it fits**, and then it is exact. -/
theorem multiply_eq_ok_iff {bound a b c : Nat} :
    multiply bound a b = .ok c ↔ c = a * b ∧ a * b < bound := by
  unfold multiply
  by_cases fits : a * b < bound <;> simp [fits, eq_comm]

/-! ## Words as text -/

namespace Word

/-- The word that decimal digits denote; at least one digit is needed. -/
def ofDigits? (digits : List Char) : Option Nat :=
  if digits ≠ [] ∧ digits.all Char.isDigit then
    let value := Nat.ofDigitChars 10 digits 0
    if value < wordBound then some value else none
  else none

/-- The word that characters denote: decimal digits, with leading zeros and one plus sign in front
allowed. -/
def ofChars? : List Char → Option Nat
  | '+' :: digits => ofDigits? digits
  | digits => ofDigits? digits

/-- The word that a text denotes. -/
def ofText? (text : String) : Option Nat :=
  ofChars? text.toList

/-- The decimal digits of a word denote it. -/
theorem ofDigits?_toDigits {n : Nat} (h : n < wordBound) :
    ofDigits? (Nat.toDigits 10 n) = some n := by
  have digits : (Nat.toDigits 10 n).all Char.isDigit = true := by
    rw [List.all_eq_true]
    intro c hc
    exact Text.isDigit_of_mem_toDigits hc
  simp [ofDigits?, Nat.toDigits_ne_nil, digits, Nat.ofDigitChars_ten_toDigits, h]

end Word

end JoinOrder
