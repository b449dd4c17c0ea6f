/-
# Counting the Trees of a Chain

In a chain every counted set is an interval, so a tree over an interval is cut between two
neighbours.  This is the convolution of the Catalan numbers, with a factor of two for the sides of
each join.

Main statements: a set with trees has no gap (`mem_of_planCount_chain_ne_zero`), the number of trees
over an interval (`planCount_chain_interval`), and the closed form of a chain (`chain_closedForm`).
-/
import Mathlib.Order.Interval.Finset.Nat
import JoinOrder.Proofs.Counting.Cut
import JoinOrder.Proofs.Topology.Build
import JoinOrder.Proofs.Topology.Exactness

namespace JoinOrder

namespace Topology

variable {n : ℕ}

/-! ## Conditions -/

/-- The conditions of a chain are between neighbours. -/
theorem contains_chain {a b : ℕ} :
    (chain.conditions n).contains a b = true ↔
      (b = a + 1 ∧ b < n) ∨ (a = b + 1 ∧ a < n) := by
  rw [contains_successive (f := fun i => i) rfl]
  constructor
  · rintro ⟨i, hi, ends⟩
    omega
  · rintro (⟨rfl, h⟩ | ⟨rfl, h⟩)
    · exact ⟨a, h, Or.inl ⟨rfl, rfl⟩⟩
    · exact ⟨b, h, Or.inr ⟨rfl, rfl⟩⟩

/-! ## Intervals -/

/-- **A set with trees has no gap**: nothing links what is below a missing table to what is above
it. -/
theorem mem_of_planCount_chain_ne_zero {s : Finset ℕ} (h : planCount (chain.conditions n) s ≠ 0)
    {x y z : ℕ} (hx : x ∈ s) (hz : z ∈ s) (xy : x ≤ y) (yz : y ≤ z) : y ∈ s := by
  by_contra gap
  have below : x < y := Nat.lt_of_le_of_ne xy fun same => gap (same ▸ hx)
  have above : y < z := Nat.lt_of_le_of_ne yz fun same => gap (same ▸ hz)
  have cut : ({t ∈ s | t < y}, {t ∈ s | ¬ t < y}) ∈ splits s :=
    mem_splits.2 ⟨⟨x, Finset.mem_filter.2 ⟨hx, below⟩⟩,
      ⟨z, Finset.mem_filter.2 ⟨hz, by omega⟩⟩, Finset.disjoint_filter_filter_not s s _,
      Finset.filter_union_filter_not_eq _ s⟩
  obtain ⟨a, ha, b, hb, linked⟩ := crosses_of_planCount_ne_zero h _ cut
  obtain ⟨-, ay⟩ := Finset.mem_filter.1 ha
  obtain ⟨hb, yb⟩ := Finset.mem_filter.1 hb
  have different : b ≠ y := fun same => gap (same ▸ hb)
  rw [contains_chain] at linked
  omega

/-- The cut of the interval of `d + 2` tables from `a` on after the table `a + i`. -/
def intervalCut (a d i : ℕ) : Finset ℕ × Finset ℕ :=
  (Finset.Ico a (a + i + 1), Finset.Ico (a + i + 1) (a + d + 2))

variable {a d : ℕ}

/-- Different tables make different cuts. -/
theorem intervalCut_injective {i j : ℕ} (h : intervalCut a d i = intervalCut a d j) : i = j := by
  have sizes := congrArg (fun p => Finset.card p.1) h
  simp only [intervalCut, Nat.card_Ico] at sizes
  omega

/-- An interval is cut after each of its tables but the last one, and the cut crosses. -/
theorem intervalCut_valid (h : a + d + 1 < n) {i : ℕ} (hi : i < d + 1) :
    intervalCut a d i ∈ splits (Finset.Ico a (a + d + 2)) ∧
      (chain.conditions n).Crosses (intervalCut a d i).1 (intervalCut a d i).2 ∧
      a ∈ (intervalCut a d i).1 := by
  refine ⟨mem_splits.2 ⟨?_, ?_, ?_, ?_⟩, ⟨a + i, ?_, a + i + 1, ?_, ?_⟩, ?_⟩
  · exact Finset.nonempty_Ico.2 (by omega)
  · exact Finset.nonempty_Ico.2 (by omega)
  · exact Finset.Ico_disjoint_Ico_consecutive a (a + i + 1) (a + d + 2)
  · exact Finset.Ico_union_Ico_eq_Ico (by omega) (by omega)
  · exact Finset.mem_Ico.2 (by omega)
  · exact Finset.mem_Ico.2 (by omega)
  · exact contains_chain.2 (Or.inl ⟨rfl, by omega⟩)
  · exact Finset.mem_Ico.2 (by omega)

/-- A cut of an interval whose left part has trees and the first table is after some table. -/
theorem exists_intervalCut_eq {p : Finset ℕ × Finset ℕ}
    (hp : p ∈ splits (Finset.Ico a (a + d + 2))) (first : a ∈ p.1)
    (left : planCount (chain.conditions n) p.1 ≠ 0) : ∃ i < d + 1, intervalCut a d i = p := by
  obtain ⟨-, ⟨w, hw⟩, apart, whole⟩ := mem_splits.1 hp
  have inside : ∀ {y}, y ∈ p.1 → a ≤ y ∧ y < a + d + 2 := fun hy =>
    Finset.mem_Ico.1 (whole ▸ Finset.mem_union_left p.2 hy)
  obtain ⟨z, hz, last⟩ := Finset.exists_max_image p.1 id ⟨a, first⟩
  -- The left part goes from the first table to its last one without a gap.
  have interval : p.1 = Finset.Ico a (z + 1) := by
    ext y
    rw [Finset.mem_Ico]
    constructor
    · intro hy
      exact ⟨(inside hy).1, Nat.lt_succ_of_le (last y hy)⟩
    · rintro ⟨ay, yz⟩
      exact mem_of_planCount_chain_ne_zero left first hz ay (Nat.le_of_lt_succ yz)
  have az : a ≤ z := (inside hz).1
  have within := Finset.mem_Ico.1 (whole ▸ Finset.mem_union_right p.1 hw)
  have zw : z < w := by
    have outside : w ∉ p.1 := Finset.disjoint_right.1 apart hw
    rw [interval, Finset.mem_Ico] at outside
    omega
  refine ⟨z - a, by omega, Prod.ext ?_ ?_⟩
  · rw [interval]
    show Finset.Ico a (a + (z - a) + 1) = Finset.Ico a (z + 1)
    rw [Nat.add_sub_cancel' az]
  · rw [snd_of_mem_splits hp, interval]
    show Finset.Ico (a + (z - a) + 1) (a + d + 2) = _
    rw [Nat.add_sub_cancel' az, Finset.Ico_sdiff_Ico_left, Nat.max_eq_right (by omega)]

/-- Over an interval of at least two tables the recurrence runs over its cuts. -/
theorem planCount_chain_interval_succ (h : a + d + 1 < n) :
    planCount (chain.conditions n) (Finset.Ico a (a + d + 2)) =
      2 * ∑ i ∈ Finset.range (d + 1),
        planCount (chain.conditions n) (intervalCut a d i).1 *
          planCount (chain.conditions n) (intervalCut a d i).2 := by
  have large : 2 ≤ (Finset.Ico a (a + d + 2)).card := by
    rw [Nat.card_Ico]
    omega
  have first : a ∈ Finset.Ico a (a + d + 2) := Finset.mem_Ico.2 (by omega)
  refine planCount_eq_two_mul_sum_parts large first _ _ ?_ ?_ ?_
  · intro i _ j _ same
    exact intervalCut_injective same
  · intro i hi
    exact intervalCut_valid h (Finset.mem_range.1 hi)
  · intro p hp first _ left _
    obtain ⟨i, hi, same⟩ := exists_intervalCut_eq hp first left
    exact ⟨i, Finset.mem_range.2 hi, same⟩

/-- **The number of trees over an interval** of a chain. -/
theorem planCount_chain_interval (h : a + d < n) :
    planCount (chain.conditions n) (Finset.Ico a (a + d + 1)) = 2 ^ d * d.catalanNumber := by
  -- Both parts of a cut are shorter intervals, the right one with a later first table.
  induction d using Nat.strong_induction_on generalizing a with
  | _ d ih =>
    cases d with
    | zero =>
      rw [Nat.add_zero, Nat.Ico_succ_singleton, planCount_singleton, Nat.catalanNumber_zero]
      rfl
    | succ d =>
      have term : ∀ i ∈ Finset.range (d + 1),
          planCount (chain.conditions n) (intervalCut a d i).1 *
              planCount (chain.conditions n) (intervalCut a d i).2 =
            2 ^ d * (i.catalanNumber * (d - i).catalanNumber) := by
        intro i hi
        have small := Finset.mem_range.1 hi
        have right : a + d + 2 = a + i + 1 + (d - i) + 1 := by omega
        have joins : 2 ^ d = 2 ^ i * 2 ^ (d - i) := by
          rw [← Nat.pow_add, Nat.add_sub_cancel' (by omega)]
        show planCount _ (Finset.Ico a (a + i + 1)) *
          planCount _ (Finset.Ico (a + i + 1) (a + d + 2)) = _
        rw [right, ih i (by omega) (by omega), ih (d - i) (by omega) (by omega), joins]
        ring
      calc
        planCount (chain.conditions n) (Finset.Ico a (a + d + 2))
            = 2 * ∑ i ∈ Finset.range (d + 1),
                2 ^ d * (i.catalanNumber * (d - i).catalanNumber) := by
              rw [planCount_chain_interval_succ (by omega), Finset.sum_congr rfl term]
        _ = 2 ^ (d + 1) * (d + 1).catalanNumber := by
              rw [← Finset.mul_sum, ← Nat.catalanNumber_succ]
              ring

/-! ## The closed form -/

/-- **The trees of a chain**: two sides for each join, and the shapes of all trees.  Whatever a
count returns, the closed form returns. -/
theorem chain_closedForm (n : ℕ) :
    ∃ graph, chain.build n = .ok graph ∧ graph.size = n ∧
      (1 ≤ n → freePairCount graph.conditions n = 2 ^ (n - 1) * (n - 1).catalanNumber) ∧
      (∀ settings c, graph.count settings = .ok c → chain.expectedCount n = .ok c) ∧
      (n = 0 → (∀ settings, graph.count settings = .ok 0) ∧ chain.expectedCount n = .ok 0) := by
  obtain ⟨graph, built, names, conditions⟩ :=
    exists_build_eq_ok chain (fun i => Nat.le_refl i) n rfl
  have size : graph.size = n := Registry.size_of_names names
  refine ⟨graph, built, size, closedForm_of_planCount size ?_ ?_⟩
  · intro pos
    have interval := planCount_chain_interval (n := n) (a := 0) (d := n - 1) (by omega)
    rwa [Nat.zero_add, Nat.sub_add_cancel pos, ← Finset.range_eq_Ico, ← conditions] at interval
  · intro pos fits
    have computed := expectedCount_chain fits
    rwa [Nat.sub_add_cancel pos] at computed

/-- Three tables in a row have eight trees. -/
theorem chain_closedForm_three :
    ∃ graph, chain.build 3 = .ok graph ∧ graph.count .standard = .ok 8 ∧
      freePairCount graph.conditions 3 = 8 ∧ chain.expectedCount 3 = .ok 8 ∧
      chain.expectedCount 0 = .ok 0 := by
  obtain ⟨graph, built, -, pairs, returned, -⟩ := chain_closedForm 3
  obtain ⟨_, -, -, -, -, none⟩ := chain_closedForm 0
  have counted : graph.count .standard = .ok 8 := by
    cases built
    decide +kernel
  refine ⟨graph, built, counted, ?_, returned .standard 8 counted, (none rfl).2⟩
  rw [pairs (by decide)]
  exact congrArg (2 ^ 2 * ·) catalan_two

end Topology

end JoinOrder
