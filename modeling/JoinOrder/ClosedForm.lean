/-
# Closed Forms for the Search Space

The sizes of the search space in word arithmetic: the number of leaf orders of `n` tables is `n!`,
the number of templates is the Catalan number of `n - 1`, and the space holds every pair of the two.

Each product is checked on its own, in the order in which the formula multiplies.  The Catalan
numbers are computed in double words and cut to a word at the end.
-/
import JoinOrder.Word

namespace JoinOrder

/-! ## Factorials -/

/-- Multiplies `product` by the next `remaining` numbers from `factor` on. -/
def factorialFrom (product factor : Nat) : Nat → Except Overflow Nat
  | 0 => .ok product
  | remaining + 1 => do
    let product ← multiply wordBound product factor
    factorialFrom product (factor + 1) remaining

/-- The factorial as a word. -/
def factorial (n : Nat) : Except Overflow Nat :=
  factorialFrom 1 1 n

@[simp] theorem factorial_zero : factorial 0 = .ok 1 := rfl

/-! ## Catalan numbers -/

/-- Takes `remaining` steps of the recurrence `C (k + 1) = C k * 2 * (2 * k + 1) / (k + 2)` from the
value `c` at `k`, in double words. -/
def catalanFrom (c k : Nat) : Nat → Except Overflow Nat
  | 0 => .ok c
  | remaining + 1 => do
    let doubled ← multiply doubleWordBound c 2
    let product ← multiply doubleWordBound doubled (2 * k + 1)
    catalanFrom (product / (k + 2)) (k + 1) remaining

/-- The Catalan number as a word: the number of full binary trees with `n + 1` leaves, of which the
bits above a word are cut off. -/
def catalan (n : Nat) : Except Overflow Nat := do
  let c ← catalanFrom 1 0 n
  return c % wordBound

@[simp] theorem catalan_zero : catalan 0 = .ok 1 := rfl

/-! ## The search space -/

/-- The number of pairs of a leaf order and a template for `n` tables; none for no table. -/
def searchSpaceSize : Nat → Except Overflow Nat
  | 0 => .ok 0
  | n + 1 => do
    let orders ← factorial (n + 1)
    let templates ← catalan n
    multiply wordBound orders templates

@[simp] theorem searchSpaceSize_zero : searchSpaceSize 0 = .ok 0 := rfl

end JoinOrder
