/-
# The Catalan Loop

The loop starts with the one tree that is a leaf, and each step counts the trees with one leaf more.
It may be stopped anywhere and taken up again, so what it holds after some steps is what a shorter
loop ends with.  Every division is without remainder.  Overflows are noticed in the products, which
are larger than the number that comes out; the cut to a word at the end is a bound of its own, and a
lower one.

Main statements: the loop in two parts (`catalanFrom_add`), the trees that are counted
(`card_trees_eq_catalanNumber`), and all about the loop together (`catalan_loop_exact`).
-/
import Mathlib.Algebra.Order.BigOperators.Group.Finset
import Mathlib.SetTheory.Cardinal.Finite
import JoinOrder.Proofs.SearchSpace.Size
import JoinOrder.Proofs.Topology.Exactness

namespace JoinOrder

/-! ## Steps -/

/-- **The loop may be taken in two parts**, the second one from what the first one ends with. -/
theorem catalanFrom_add (c k a b : ℕ) :
    catalanFrom c k (a + b) = catalanFrom c k a >>= fun c => catalanFrom c (k + a) b := by
  induction a generalizing c k with
  | zero =>
    rw [Nat.zero_add, Nat.add_zero]
    rfl
  | succ a ih =>
    have later : k + 1 + a = k + (a + 1) := by omega
    rw [Nat.succ_add, catalanFrom, catalanFrom]
    simp only [ih, bind_assoc, later]

/-- After some steps without an overflow the loop holds a Catalan number. -/
theorem eq_catalanNumber_of_catalanFrom {k c : ℕ} (h : catalanFrom 1 0 k = .ok c) :
    c = k.catalanNumber := by
  rw [catalanFrom_one] at h
  split_ifs at h
  · exact (Except.ok.inj h).symm

/-- The division of a step is without remainder. -/
theorem dvd_catalanNumber_mul (k : ℕ) : k + 2 ∣ k.catalanNumber * 2 * (2 * k + 1) := by
  rw [catalanNumber_mul, ← succ_mul_catalanNumber]
  exact Nat.dvd_mul_right (k + 2) (k + 1).catalanNumber

/-! ## Trees -/

/-- **The Catalan numbers count trees**: those with one leaf more than there are joins.  The leaves
are numbered from left to right, so that two trees differ in their joins only. -/
theorem card_trees_eq_catalanNumber (k : ℕ) :
    Nat.card {tree : JoinTree // tree.leaves = List.range (k + 1)} = k.catalanNumber := by
  have listed : ∀ tree, tree ∈ (templates (k + 1)).toFinset ↔ tree.leaves = List.range (k + 1) := by
    intro tree
    rw [List.mem_toFinset, mem_templates_iff]
  rw [Nat.subtype_card _ listed, List.toFinset_card_of_nodup (nodup_templates (k + 1)),
    length_templates (Nat.succ_pos k)]
  rfl

/-! ## The cut -/

/-- One leaf more gives no fewer trees: a single leaf may be joined to each of them. -/
theorem catalanNumber_le_succ (n : ℕ) : n.catalanNumber ≤ (n + 1).catalanNumber := by
  rw [Nat.catalanNumber_succ]
  calc
    n.catalanNumber = (0).catalanNumber * (n - 0).catalanNumber := by
      rw [Nat.catalanNumber_zero, Nat.one_mul, Nat.sub_zero]
    _ ≤ ∑ i ∈ Finset.range (n + 1), i.catalanNumber * (n - i).catalanNumber :=
      Finset.single_le_sum (f := fun i => i.catalanNumber * (n - i).catalanNumber)
        (fun _ _ => Nat.zero_le _) (Finset.mem_range.2 (Nat.succ_pos n))

/-- The Catalan numbers that fit a word are those up to that of 36. -/
theorem lt_of_catalanNumber_lt {n : ℕ} (fits : n.catalanNumber < wordBound) : n < 37 := by
  by_contra large
  have least : (37).catalanNumber ≤ n.catalanNumber :=
    monotone_nat_of_le_succ catalanNumber_le_succ (Nat.le_of_not_lt large)
  have beyond : wordBound ≤ (37).catalanNumber := by
    rw [catalan_thirty_seven.2]
    decide
  omega

/-! ## The loop as a whole -/

/-- **The Catalan loop is exact up to its cut.**  After any number of its steps the loop goes on
from what it then holds.  As long as no step overflows, this is the number of trees with one leaf
more than steps, and the division that comes next is without remainder.  The loop overflows in a
product exactly if the central binomial coefficient does not fit a double word; otherwise the result
is the Catalan number with the bits above a word cut off, which is the number itself if it fits a
word. -/
theorem catalan_loop_exact (n : ℕ) :
    (∀ k ≤ n, catalan n = do
      let c ← catalanFrom 1 0 k
      let last ← catalanFrom c k (n - k)
      return last % wordBound) ∧
    (∀ k, Nat.card {tree : JoinTree // tree.leaves = List.range (k + 1)} = k.catalanNumber) ∧
    (∀ k c, catalanFrom 1 0 k = .ok c →
      c = k.catalanNumber ∧ k + 2 ∣ c * 2 * (2 * k + 1)) ∧
    (catalan n = if n.centralBinom < 2 ^ 128 then .ok (n.catalanNumber % 2 ^ 64)
      else .error .multiply) ∧
    (n.catalanNumber < 2 ^ 64 → catalan n = .ok n.catalanNumber) := by
  have double : doubleWordBound = 2 ^ 128 := by decide
  refine ⟨?_, card_trees_eq_catalanNumber, ?_, ?_, ?_⟩
  · intro k before
    have parted := catalanFrom_add 1 0 k (n - k)
    rw [Nat.add_sub_cancel' before, Nat.zero_add] at parted
    rw [catalan, parted, bind_assoc]
  · intro k c held
    obtain rfl := eq_catalanNumber_of_catalanFrom held
    exact ⟨rfl, dvd_catalanNumber_mul k⟩
  · rw [← double, ← wordBound_eq]
    exact catalan_eq n
  · intro fits
    rw [← wordBound_eq] at fits
    have small := lt_of_catalanNumber_lt fits
    exact catalan_eq_ok_of_lt (by omega) fits

/-- The largest Catalan number that fits a word, the last one that is computed at all, and the first
overflow, before which the loop has held five trees with four leaves. -/
theorem catalan_loop_exact_at_bounds :
    (36).catalanNumber < 2 ^ 64 ∧ catalan 36 = .ok (36).catalanNumber ∧
    (65).centralBinom < 2 ^ 128 ∧ catalan 65 = .ok ((65).catalanNumber % 2 ^ 64) ∧
    ¬ (66).centralBinom < 2 ^ 128 ∧ catalan 66 = .error .multiply ∧
    3 ≤ 66 ∧
    (do
      let c ← catalanFrom 1 0 3
      let last ← catalanFrom c 3 (66 - 3)
      return last % wordBound) = Except.error Overflow.multiply ∧
    catalanFrom 1 0 3 = .ok 5 ∧ 5 = (3).catalanNumber ∧ 3 + 2 ∣ 5 * 2 * (2 * 3 + 1) := by
  obtain ⟨-, -, -, -, whole⟩ := catalan_loop_exact 36
  obtain ⟨-, -, -, last, -⟩ := catalan_loop_exact 65
  obtain ⟨parts, -, held, overflow, -⟩ := catalan_loop_exact 66
  have fits : (36).catalanNumber < 2 ^ 64 := by
    have loop : catalanFrom 1 0 36 = .ok 11959798385860453492 := by decide +kernel
    rw [← eq_catalanNumber_of_catalanFrom loop]
    decide
  have inside : (65).centralBinom < 2 ^ 128 := by
    by_contra beyond
    rw [if_neg beyond] at last
    exact absurd last (by decide +kernel)
  have refused : catalan 66 = .error .multiply := by decide +kernel
  have beyond : ¬ (66).centralBinom < 2 ^ 128 := by
    intro inside
    rw [if_pos inside, refused] at overflow
    cases overflow
  rw [if_pos inside] at last
  have three : catalanFrom 1 0 3 = .ok 5 := rfl
  have early : 3 ≤ 66 := by decide
  have onward := parts 3 early
  rw [refused] at onward
  exact ⟨fits, whole fits, inside, last, beyond, refused, early, onward.symm, three,
    held 3 5 three⟩

end JoinOrder
