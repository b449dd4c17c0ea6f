/-
# Word Arithmetic Is Exact Where It Fits

The loops behind the closed forms run in words and check every product.  The partial products of a
factorial grow, so the last one decides; the products of the Catalan loop are the central binomial
coefficients, and every division is without remainder.  As long as the factorial fits a word the
Catalan number is far from overflowing, so the size of the search space is refused only if the
product of the two does not fit.

Main statements: `factorial_eq`, `catalan_eq`, `powerOfTwo_eq_ok`, `searchSpaceSize_eq`.
-/
import Mathlib.Combinatorics.Enumerative.Catalan.Basic
import Mathlib.Data.Nat.Factorial.Basic
import JoinOrder.ClosedForm

/-- The Catalan numbers under a second name, as in the library the first one means their computation
in words. -/
abbrev Nat.catalanNumber (n : ℕ) : ℕ := catalan n

theorem Nat.catalanNumber_zero : Nat.catalanNumber 0 = 1 := catalan_zero

/-- Catalan's convolution: a root has its joins in front of the left and the right side. -/
theorem Nat.catalanNumber_succ (n : ℕ) :
    (n + 1).catalanNumber =
      ∑ i ∈ Finset.range (n + 1), i.catalanNumber * (n - i).catalanNumber := by
  rw [Nat.catalanNumber, catalan_succ', Finset.Nat.sum_antidiagonal_eq_sum_range_succ_mk]

namespace JoinOrder

/-! ## Powers of two and factorials -/

theorem wordBound_eq : wordBound = 2 ^ 64 := by decide

/-- A power of two fits a word when its exponent is below the width of a word. -/
theorem powerOfTwo_eq_ok {exponent : ℕ} (h : exponent < 64) :
    powerOfTwo exponent = .ok (2 ^ exponent) := by
  rw [powerOfTwo, if_pos h, Nat.one_shiftLeft]

/-- A power of two does not fit a word when its exponent reaches the width of a word. -/
theorem powerOfTwo_eq_error {exponent : ℕ} (h : 64 ≤ exponent) :
    powerOfTwo exponent = .error .shiftLeft :=
  if_neg (Nat.not_lt.2 h)

/-- A product that does not fit is refused. -/
theorem multiply_eq_error {bound a b : ℕ} (h : bound ≤ a * b) :
    multiply bound a b = .error .multiply := if_neg (Nat.not_lt.2 h)

/-- Multiplying on from a word is refused only if the last product does not fit. -/
theorem factorialFrom_eq {product factor remaining : ℕ} (pos : 0 < factor)
    (h : product < wordBound) :
    factorialFrom product factor remaining =
      multiply wordBound product (factor.ascFactorial remaining) := by
  induction remaining generalizing product factor with
  | zero =>
    rw [factorialFrom, Nat.ascFactorial_zero]
    exact (multiply_eq_ok_iff.2 ⟨(Nat.mul_one _).symm, (Nat.mul_one _).symm ▸ h⟩).symm
  | succ remaining ih =>
    have whole : product * factor.ascFactorial (remaining + 1) =
        product * factor * (factor + 1).ascFactorial remaining := by
      rw [Nat.ascFactorial_succ, ← Nat.succ_ascFactorial, Nat.mul_assoc]
    rw [factorialFrom, multiply, multiply, whole]
    by_cases fits : product * factor < wordBound
    · rw [if_pos fits]
      exact ih (Nat.succ_pos _) fits
    · -- The products grow, so the last one does not fit either.
      have : 0 < (factor + 1).ascFactorial remaining := Nat.ascFactorial_pos _ _
      have grows : product * factor ≤ product * factor * (factor + 1).ascFactorial remaining :=
        Nat.le_mul_of_pos_right _ this
      rw [if_neg fits, if_neg (by omega)]
      rfl

/-- **A factorial is computed exactly if it fits a word**, and refused otherwise. -/
theorem factorial_eq (n : ℕ) : factorial n = multiply wordBound 1 n.factorial := by
  rw [factorial, factorialFrom_eq Nat.one_pos (by decide), Nat.one_ascFactorial]

theorem factorial_eq_ok {n : ℕ} (h : n.factorial < wordBound) : factorial n = .ok n.factorial := by
  rw [factorial_eq, multiply, Nat.one_mul, if_pos h]

theorem factorial_eq_error {n : ℕ} (h : wordBound ≤ n.factorial) :
    factorial n = .error .multiply := by
  rw [factorial_eq, multiply_eq_error (by rwa [Nat.one_mul])]

/-! ## Catalan numbers -/

theorem succ_mul_catalanNumber (n : ℕ) : (n + 1) * n.catalanNumber = n.centralBinom :=
  succ_mul_catalan_eq_centralBinom n

/-- There is always a tree. -/
theorem catalanNumber_pos (n : ℕ) : 0 < n.catalanNumber := by
  refine Nat.pos_of_ne_zero fun none => ?_
  have product := succ_mul_catalanNumber n
  rw [none, Nat.mul_zero] at product
  exact n.centralBinom_ne_zero product.symm

/-- The product that one step of the Catalan loop forms. -/
theorem catalanNumber_mul (k : ℕ) :
    k.catalanNumber * 2 * (2 * k + 1) = (k + 1).centralBinom := by
  apply Nat.eq_of_mul_eq_mul_left (Nat.succ_pos k)
  calc
    (k + 1) * (k.catalanNumber * 2 * (2 * k + 1))
        = 2 * (2 * k + 1) * ((k + 1) * k.catalanNumber) := by ring
    _ = (k + 1) * (k + 1).centralBinom := by
        rw [succ_mul_catalanNumber, Nat.succ_mul_centralBinom_succ]

/-- The division of a step is without remainder and gives the next Catalan number. -/
theorem catalanNumber_mul_div (k : ℕ) :
    k.catalanNumber * 2 * (2 * k + 1) / (k + 2) = (k + 1).catalanNumber := by
  rw [catalanNumber_mul, ← succ_mul_catalanNumber]
  exact Nat.mul_div_cancel_left _ (Nat.succ_pos _)

/-- **One step of the Catalan loop** leads to the next Catalan number if its product fits a double
word, and is refused otherwise. -/
theorem catalanFrom_step (k remaining : ℕ) :
    catalanFrom k.catalanNumber k (remaining + 1) =
      if (k + 1).centralBinom < doubleWordBound then
        catalanFrom (k + 1).catalanNumber (k + 1) remaining
      else .error .multiply := by
  rw [catalanFrom]
  rcases Nat.lt_or_ge (k.catalanNumber * 2) doubleWordBound with doubled | beyond
  · rw [multiply_eq_ok_iff.2 ⟨rfl, doubled⟩]
    show (multiply doubleWordBound (k.catalanNumber * 2) (2 * k + 1) >>= fun product => _) = _
    rw [multiply, catalanNumber_mul]
    split_ifs
    · show catalanFrom ((k + 1).centralBinom / (k + 2)) (k + 1) remaining = _
      rw [← catalanNumber_mul, catalanNumber_mul_div]
    · rfl
  · -- The first of the two products is the smaller one.
    have grows : k.catalanNumber * 2 ≤ (k + 1).centralBinom := by
      rw [← catalanNumber_mul]
      exact Nat.le_mul_of_pos_right _ (by omega)
    rw [multiply_eq_error beyond, if_neg (by omega)]
    rfl

/-- **The Catalan loop** is exact if the last product fits a double word, and refused otherwise. -/
theorem catalanFrom_eq {k : ℕ} (h : k.centralBinom < doubleWordBound) (remaining : ℕ) :
    catalanFrom k.catalanNumber k remaining =
      if (k + remaining).centralBinom < doubleWordBound then .ok (k + remaining).catalanNumber
      else .error .multiply := by
  induction remaining generalizing k with
  | zero =>
    rw [Nat.add_zero, if_pos h]
    rfl
  | succ remaining ih =>
    have next : k + (remaining + 1) = k + 1 + remaining := by omega
    rw [catalanFrom_step, next]
    rcases Nat.lt_or_ge (k + 1).centralBinom doubleWordBound with fits | beyond
    · rw [if_pos fits, ih fits]
    · -- The products are central binomial coefficients, which grow: the last one does not fit
      -- either.
      have grows : (k + 1).centralBinom ≤ (k + 1 + remaining).centralBinom :=
        Nat.centralBinom_strictMono.monotone (by omega)
      rw [if_neg (by omega), if_neg (by omega)]

/-- The whole loop, from the tree without a join on. -/
theorem catalanFrom_one (n : ℕ) :
    catalanFrom 1 0 n =
      if n.centralBinom < doubleWordBound then .ok n.catalanNumber else .error .multiply := by
  have fits : (0).centralBinom < doubleWordBound := by decide
  have loop := catalanFrom_eq fits n
  rwa [Nat.zero_add, Nat.catalanNumber_zero] at loop

/-- The whole loop gives the Catalan number if its last product fits a double word. -/
theorem catalanFrom_start {n : ℕ} (h : n.centralBinom < doubleWordBound) :
    catalanFrom 1 0 n = .ok n.catalanNumber := by
  rw [catalanFrom_one, if_pos h]

/-- **A Catalan number is computed up to its cut to a word** if the last product fits a double
word, and refused otherwise. -/
theorem catalan_eq (n : ℕ) :
    catalan n =
      if n.centralBinom < doubleWordBound then .ok (n.catalanNumber % wordBound)
      else .error .multiply := by
  rw [catalan, catalanFrom_one]
  split_ifs
  · rfl
  · rfl

/-- A Catalan number is computed up to its cut to a word if the last product fits a double word. -/
theorem catalan_eq_ok {n : ℕ} (h : n.centralBinom < doubleWordBound) :
    catalan n = .ok (n.catalanNumber % wordBound) := by
  rw [catalan_eq, if_pos h]

/-- With less than 64 joins every product of the loop fits a double word. -/
theorem centralBinom_lt_of_lt {n : ℕ} (small : n < 64) : n.centralBinom < doubleWordBound := by
  calc
    n.centralBinom ≤ 4 ^ n := n.centralBinom_le_four_pow
    _ ≤ 4 ^ 63 := Nat.pow_le_pow_right (by decide) (by omega)
    _ < doubleWordBound := by decide

/-- A Catalan number with less than 64 joins is computed exactly if it fits a word. -/
theorem catalan_eq_ok_of_lt {n : ℕ} (small : n < 64) (h : n.catalanNumber < wordBound) :
    catalan n = .ok n.catalanNumber := by
  rw [catalan_eq_ok (centralBinom_lt_of_lt small), Nat.mod_eq_of_lt h]

/-! ## The search space -/

/-- The factorials beyond that of twenty do not fit a word. -/
theorem le_twenty_of_factorial_lt {n : ℕ} (h : n.factorial < wordBound) : n ≤ 20 := by
  by_contra large
  have least : (21).factorial ≤ n.factorial := Nat.factorial_le (by omega)
  have beyond : wordBound ≤ (21).factorial := by decide
  omega

/-- The Catalan numbers up to that of twenty fit a word. -/
theorem catalan_eq_ok_of_le_twenty {n : ℕ} (h : n ≤ 20) : catalan n = .ok n.catalanNumber := by
  refine catalan_eq_ok_of_lt (by omega) ?_
  calc
    n.catalanNumber ≤ (n + 1) * n.catalanNumber := Nat.le_mul_of_pos_left _ (Nat.succ_pos n)
    _ = n.centralBinom := succ_mul_catalanNumber n
    _ ≤ 4 ^ n := n.centralBinom_le_four_pow
    _ ≤ 4 ^ 20 := Nat.pow_le_pow_right (by decide) h
    _ < wordBound := by decide

/-- **The size of the search space is computed exactly if it fits a word**, and refused
otherwise. -/
theorem searchSpaceSize_eq {n : ℕ} (pos : 0 < n) :
    searchSpaceSize n = multiply wordBound n.factorial (n - 1).catalanNumber := by
  obtain ⟨k, rfl⟩ := Nat.exists_eq_add_one.2 pos
  rw [searchSpaceSize, Nat.add_sub_cancel]
  rcases Nat.lt_or_ge (k + 1).factorial wordBound with fits | beyond
  · have small := le_twenty_of_factorial_lt fits
    rw [factorial_eq_ok fits, catalan_eq_ok_of_le_twenty (by omega)]
    rfl
  · have grows := Nat.le_mul_of_pos_right (k + 1).factorial (catalanNumber_pos k)
    rw [factorial_eq_error beyond, multiply_eq_error (Nat.le_trans beyond grows)]
    rfl

end JoinOrder
