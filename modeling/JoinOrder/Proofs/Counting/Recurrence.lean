/-
# The Subset Recurrence

The number of cross-product free trees over a set of tables, by recursion on the set: one for a
single table, and for more tables the sum over all ordered cuts of the set into two linked parts of
the product of the numbers for the parts.

Main statements: the recurrence (`planCount_singleton`, `planCount_eq_sum`), and its form for cuts
whose left part holds a given table (`planCount_eq_two_mul_sum`).
-/
import Mathlib.Algebra.BigOperators.Group.Finset.Basic
import Mathlib.Algebra.BigOperators.Ring.Finset
import Mathlib.Data.Finset.Powerset
import Mathlib.Data.Finset.Prod
import Mathlib.Tactic.Ring
import JoinOrder.Connectivity.Basic

namespace JoinOrder

/-! ## Cuts -/

/-- The ordered cuts of a set into two non-empty parts. -/
def splits (s : Finset ℕ) : Finset (Finset ℕ × Finset ℕ) :=
  {p ∈ s.powerset ×ˢ s.powerset |
    p.1.Nonempty ∧ p.2.Nonempty ∧ Disjoint p.1 p.2 ∧ p.1 ∪ p.2 = s}

theorem mem_splits {s : Finset ℕ} {p : Finset ℕ × Finset ℕ} :
    p ∈ splits s ↔ p.1.Nonempty ∧ p.2.Nonempty ∧ Disjoint p.1 p.2 ∧ p.1 ∪ p.2 = s := by
  rw [splits, Finset.mem_filter, Finset.mem_product, Finset.mem_powerset, Finset.mem_powerset]
  refine and_iff_right_of_imp ?_
  rintro ⟨-, -, -, rfl⟩
  exact ⟨Finset.subset_union_left, Finset.subset_union_right⟩

/-- Both parts of a cut are smaller than the set. -/
theorem card_lt_of_mem_splits {s : Finset ℕ} {p : Finset ℕ × Finset ℕ} (h : p ∈ splits s) :
    p.1.card < s.card ∧ p.2.card < s.card := by
  obtain ⟨left, right, apart, rfl⟩ := mem_splits.1 h
  have := left.card_pos
  have := right.card_pos
  rw [Finset.card_union_of_disjoint apart]
  omega

/-- The parts of a cut may change places. -/
theorem swap_mem_splits {s : Finset ℕ} {p : Finset ℕ × Finset ℕ} :
    p.swap ∈ splits s ↔ p ∈ splits s := by
  rw [mem_splits, mem_splits, Prod.fst_swap, Prod.snd_swap, disjoint_comm, Finset.union_comm]
  tauto

/-- Some table of one set has a condition with some table of another. -/
def ConditionSet.Crosses (conditions : ConditionSet) (s t : Finset ℕ) : Prop :=
  ∃ a ∈ s, ∃ b ∈ t, conditions.contains a b = true

instance (conditions : ConditionSet) (s t : Finset ℕ) : Decidable (conditions.Crosses s t) :=
  inferInstanceAs (Decidable (∃ a ∈ s, ∃ b ∈ t, conditions.contains a b = true))

theorem ConditionSet.crosses_comm (conditions : ConditionSet) (s t : Finset ℕ) :
    conditions.Crosses s t ↔ conditions.Crosses t s := by
  constructor <;>
  · rintro ⟨a, ha, b, hb, h⟩
    exact ⟨b, hb, a, ha, by rwa [ConditionSet.contains_comm]⟩

/-! ## The recurrence -/

/-- The number of cross-product free trees over a set of tables: one for a single table, and
otherwise the sum over the linked cuts of the product of the numbers for both parts. -/
def planCount (conditions : ConditionSet) (s : Finset ℕ) : ℕ :=
  if s.card ≤ 1 then s.card
  else
    ∑ p ∈ {p ∈ splits s | conditions.Crosses p.1 p.2}.attach,
      planCount conditions p.1.1 * planCount conditions p.1.2
termination_by s.card
decreasing_by
  · exact (card_lt_of_mem_splits (Finset.mem_filter.1 p.2).1).1
  · exact (card_lt_of_mem_splits (Finset.mem_filter.1 p.2).1).2

variable {conditions : ConditionSet}

/-- Over at most one table there are as many trees as tables. -/
theorem planCount_of_card_le_one {s : Finset ℕ} (h : s.card ≤ 1) :
    planCount conditions s = s.card := by
  rw [planCount, if_pos h]

@[simp] theorem planCount_singleton (table : ℕ) : planCount conditions {table} = 1 :=
  planCount_of_card_le_one (Finset.card_singleton table).le

/-- **The recurrence** for at least two tables. -/
theorem planCount_eq_sum {s : Finset ℕ} (h : 2 ≤ s.card) :
    planCount conditions s = ∑ p ∈ splits s with conditions.Crosses p.1 p.2,
      planCount conditions p.1 * planCount conditions p.2 := by
  rw [planCount, if_neg (by omega)]
  exact Finset.sum_attach {p ∈ splits s | conditions.Crosses p.1 p.2}
    fun p : Finset ℕ × Finset ℕ => planCount conditions p.1 * planCount conditions p.2

/-- **Half of the cuts suffice**: those whose left part holds a given table, since every other cut
is one of them with its parts in the other places. -/
theorem planCount_eq_two_mul_sum {s : Finset ℕ} (h : 2 ≤ s.card) {root : ℕ} (hr : root ∈ s) :
    planCount conditions s =
      2 * ∑ p ∈ splits s with conditions.Crosses p.1 p.2 ∧ root ∈ p.1,
        planCount conditions p.1 * planCount conditions p.2 := by
  have mirrored :
      ∑ p ∈ splits s with conditions.Crosses p.1 p.2 ∧ root ∉ p.1,
          planCount conditions p.1 * planCount conditions p.2 =
        ∑ p ∈ splits s with conditions.Crosses p.1 p.2 ∧ root ∈ p.1,
          planCount conditions p.1 * planCount conditions p.2 := by
    -- The table is in exactly one part of a cut, and the parts change places.
    refine Finset.sum_nbij' Prod.swap Prod.swap ?_ ?_ ?_ ?_ ?_
    · intro p hp
      obtain ⟨hp, crosses, absent⟩ := Finset.mem_filter.1 hp
      have whole := (mem_splits.1 hp).2.2.2
      rw [← whole, Finset.mem_union] at hr
      exact Finset.mem_filter.2 ⟨swap_mem_splits.2 hp, (conditions.crosses_comm _ _).1 crosses,
        hr.resolve_left absent⟩
    · intro p hp
      obtain ⟨hp, crosses, present⟩ := Finset.mem_filter.1 hp
      have apart := (mem_splits.1 hp).2.2.1
      exact Finset.mem_filter.2 ⟨swap_mem_splits.2 hp, (conditions.crosses_comm _ _).1 crosses,
        Finset.disjoint_left.1 apart present⟩
    · exact fun p _ => Prod.swap_swap p
    · exact fun p _ => Prod.swap_swap p
    · exact fun p _ => Nat.mul_comm _ _
  rw [planCount_eq_sum h, ← Finset.sum_filter_add_sum_filter_not _ (fun p => root ∈ p.1),
    Finset.filter_filter, Finset.filter_filter, mirrored, Nat.two_mul]

end JoinOrder
