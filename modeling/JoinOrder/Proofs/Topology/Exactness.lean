/-
# Closed Forms Are Exact or Refused

A closed form is a product of factors that are computed on their own.  Powers of two and factorials
are exact or refused.  A Catalan number may come back cut to a word, but only in a chain, and there
the product with the cut number overflows whenever the product with the whole number does; next to a
factorial that fits a word it is not cut at all.

A count is computed in words as well, and so it returns what the closed form returns where this fits
a word.

Main statements: the shapes with a power of two (`expectedCount_chain_eq`, `expectedCount_star_eq`),
all closed forms together (`closed_forms_exact_or_refused`), and what is to be shown of a shape
whose closed form is its count (`closedForm_of_planCount`).
-/
import JoinOrder.Graph.Topology
import JoinOrder.Proofs.ClosedForm
import JoinOrder.Proofs.Counting.Sweep

namespace JoinOrder

variable {d : ℕ}

/-! ## Catalan numbers that are cut -/

/-- Where the bits above a word are cut off a Catalan number, the rest is still too large for the
power of two in front of it. -/
theorem cut_catalanNumber_large (small : d < 64) :
    d.catalanNumber < wordBound ∨ wordBound ≤ 2 ^ d * (d.catalanNumber % wordBound) := by
  -- There is no reason for this but the numbers themselves, from the Catalan number of 37 on.
  have computed : ∀ d < 64, (catalanFrom 1 0 d).toOption.all fun c =>
      c < wordBound ∨ wordBound ≤ 2 ^ d * (c % wordBound) := by decide +kernel
  have here := computed d small
  rw [catalanFrom_start (centralBinom_lt_of_lt small)] at here
  exact of_decide_eq_true here

/-- **The cut makes no difference to a chain**: the product with the cut Catalan number is exact or
refused like the product with the whole one. -/
theorem multiply_cut_catalanNumber (small : d < 64) :
    multiply wordBound (2 ^ d) (d.catalanNumber % wordBound) =
      multiply wordBound (2 ^ d) d.catalanNumber := by
  rcases cut_catalanNumber_large small with fits | beyond
  · rw [Nat.mod_eq_of_lt fits]
  · have least : 2 ^ d * (d.catalanNumber % wordBound) ≤ 2 ^ d * d.catalanNumber :=
      Nat.mul_le_mul_left _ (Nat.mod_le _ _)
    rw [multiply_eq_error beyond, multiply_eq_error (Nat.le_trans beyond least)]

/-- On its own the cut is silent: the Catalan number of 37 does not fit a word and comes back as
another number. -/
theorem catalan_thirty_seven :
    catalan 37 = .ok 9057316177202639132 ∧ (37).catalanNumber = 45950804324621742364 := by
  have whole : catalanFrom 1 0 37 = .ok 45950804324621742364 := by decide +kernel
  have exact := catalanFrom_start (n := 37) (centralBinom_lt_of_lt (by decide))
  exact ⟨by decide +kernel, Except.ok.inj (exact.symm.trans whole)⟩

/-! ## Powers of two in front -/

/-- **A product behind a power of two** is exact if it fits a word, and refused otherwise: by the
shift if the exponent is too large, and else by the product, if that is all that can overflow. -/
theorem powerOfTwo_bind_multiply {value : ℕ} {factor : Except Overflow ℕ} (pos : 0 < value)
    (product : d < 64 → factor >>= multiply wordBound (2 ^ d) = multiply wordBound (2 ^ d) value) :
    (powerOfTwo d >>= fun power => factor >>= multiply wordBound power) =
      if 2 ^ d * value < wordBound then .ok (2 ^ d * value)
      else .error (if 64 ≤ d then .shiftLeft else .multiply) := by
  rcases Nat.lt_or_ge d 64 with small | large
  · rw [powerOfTwo_eq_ok small, if_neg (Nat.not_le.2 small)]
    exact product small
  · have beyond : wordBound ≤ 2 ^ d * value := by
      calc
        wordBound = 2 ^ 64 := wordBound_eq
        _ ≤ 2 ^ d := Nat.pow_le_pow_right (by decide) large
        _ ≤ 2 ^ d * value := Nat.le_mul_of_pos_right _ pos
    rw [powerOfTwo_eq_error large, if_neg (Nat.not_lt.2 beyond), if_pos large]
    rfl

/-! ## The search space -/

/-- The number of pairs of a leaf order and a template for `n` tables. -/
def exactSize : ℕ → ℕ
  | 0 => 0
  | d + 1 => (d + 1).factorial * d.catalanNumber

theorem searchSpaceSize_eq_exactSize (n : ℕ) :
    searchSpaceSize n =
      if exactSize n < wordBound then .ok (exactSize n) else .error .multiply := by
  cases n with
  | zero => rfl
  | succ d => exact searchSpaceSize_eq (Nat.succ_pos d)

/-! ## Shapes -/

namespace Topology

/-- **The closed form of a chain** is exact or refused. -/
theorem expectedCount_chain_eq (d : ℕ) :
    chain.expectedCount (d + 1) =
      if 2 ^ d * d.catalanNumber < wordBound then .ok (2 ^ d * d.catalanNumber)
      else .error (if 64 ≤ d then .shiftLeft else .multiply) := by
  refine powerOfTwo_bind_multiply (catalanNumber_pos d) fun small => ?_
  rw [catalan_eq_ok (centralBinom_lt_of_lt small)]
  exact multiply_cut_catalanNumber small

/-- **The closed form of a star** is exact or refused. -/
theorem expectedCount_star_eq (d : ℕ) :
    star.expectedCount (d + 1) =
      if 2 ^ d * d.factorial < wordBound then .ok (2 ^ d * d.factorial)
      else .error (if 64 ≤ d then .shiftLeft else .multiply) := by
  refine powerOfTwo_bind_multiply d.factorial_pos fun _ => ?_
  rcases Nat.lt_or_ge d.factorial wordBound with fits | beyond
  · rw [factorial_eq_ok fits]
    rfl
  · have least := Nat.le_mul_of_pos_left d.factorial (Nat.two_pow_pos d)
    rw [factorial_eq_error beyond, multiply_eq_error (Nat.le_trans beyond least)]
    rfl

/-- The number of cross-product free trees over `n` tables of a shape. -/
def exactCount (topology : Topology) : ℕ → ℕ
  | 0 => 0
  | d + 1 =>
    match topology with
    | chain => 2 ^ d * d.catalanNumber
    | star => 2 ^ d * d.factorial
    | clique => exactSize (d + 1)

/-- **Closed forms are exact or refused.**  The size of the search space and the count of every
shape are returned if they fit a word, and otherwise the computation ends with an overflow: of a
shift for a chain or a star with more than 64 tables, and of a product in every other case.  So it
is, although a Catalan number on its own may come back as another number. -/
theorem closed_forms_exact_or_refused :
    (∀ n, searchSpaceSize n =
      if exactSize n < wordBound then .ok (exactSize n) else .error .multiply) ∧
    (∀ (topology : Topology) (n : ℕ), topology.expectedCount n =
      if topology.exactCount n < wordBound then .ok (topology.exactCount n)
      else .error (if topology ≠ clique ∧ 64 < n then .shiftLeft else .multiply)) ∧
    ∃ n c, catalan n = .ok c ∧ c ≠ n.catalanNumber := by
  refine ⟨searchSpaceSize_eq_exactSize, fun topology n => ?_, 37, _, catalan_thirty_seven.1, ?_⟩
  · cases n with
    | zero => rfl
    | succ d =>
      cases topology with
      | chain => simpa [exactCount, Nat.lt_succ_iff] using expectedCount_chain_eq d
      | star => simpa [exactCount, Nat.lt_succ_iff] using expectedCount_star_eq d
      | clique => exact (expectedCount_clique (d + 1)).trans (searchSpaceSize_eq_exactSize (d + 1))
  · rw [catalan_thirty_seven.2]
    decide

/-! ## Values that fit -/

/-- **The closed form of a chain** is computed if it fits a word. -/
theorem expectedCount_chain (h : 2 ^ d * d.catalanNumber < wordBound) :
    chain.expectedCount (d + 1) = .ok (2 ^ d * d.catalanNumber) := by
  rw [expectedCount_chain_eq, if_pos h]

/-- **The closed form of a star** is computed if it fits a word. -/
theorem expectedCount_star (h : 2 ^ d * d.factorial < wordBound) :
    star.expectedCount (d + 1) = .ok (2 ^ d * d.factorial) := by
  rw [expectedCount_star_eq, if_pos h]

/-! ## Counts -/

/-- **A closed form holds** if the recurrence gives its value for all tables and the value is
computed where it fits a word: then it is the number of free pairs and whatever a count returns. -/
theorem closedForm_of_planCount {topology : Topology} {graph : JoinGraph} {n value : ℕ}
    (size : graph.size = n)
    (total : 1 ≤ n → planCount graph.conditions (Finset.range n) = value)
    (computed : 1 ≤ n → value < wordBound → topology.expectedCount n = .ok value) :
    (1 ≤ n → freePairCount graph.conditions n = value) ∧
      (∀ settings c, graph.count settings = .ok c → topology.expectedCount n = .ok c) ∧
      (n = 0 → (∀ settings, graph.count settings = .ok 0) ∧ topology.expectedCount n = .ok 0) := by
  have nothing : n = 0 →
      (∀ settings, graph.count settings = .ok 0) ∧ topology.expectedCount n = .ok 0 := by
    rintro rfl
    refine ⟨fun settings => ?_, rfl⟩
    rw [count_of_size_le_one (by omega), size]
  refine ⟨fun pos => ?_, fun settings c counted => ?_, nothing⟩
  · rw [freePairCount_eq_planCount, total pos]
  · rcases Nat.eq_zero_or_pos n with none | pos
    · obtain ⟨zero, expected⟩ := nothing none
      rw [zero settings] at counted
      rw [expected, Except.ok.inj counted]
    · have fits := lt_wordBound_of_count counted
      rw [eq_planCount_of_count counted, size, total pos] at fits ⊢
      exact computed pos fits

end Topology

end JoinOrder
