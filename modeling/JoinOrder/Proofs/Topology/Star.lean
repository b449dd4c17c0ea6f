/-
# Counting the Trees of a Star

In a star every condition is at the centre, so of the two sides of a join the one without the centre
is a single table.  A tree is built around the centre by adding one table after the other, on either
side.

Main statements: a set without the centre has trees only if it is a single table
(`eq_singleton_of_planCount_star_ne_zero`), the number of trees around the centre
(`planCount_star_insert`), and the closed form of a star (`star_closedForm`).
-/
import Mathlib.Order.Interval.Finset.Nat
import JoinOrder.Proofs.Counting.Cut
import JoinOrder.Proofs.Topology.Build
import JoinOrder.Proofs.Topology.Exactness

namespace JoinOrder

namespace Topology

variable {n : ℕ}

/-! ## Conditions -/

/-- The conditions of a star are between the centre and the other tables. -/
theorem contains_star {a b : ℕ} :
    (star.conditions n).contains a b = true ↔
      (a = 0 ∧ 0 < b ∧ b < n) ∨ (b = 0 ∧ 0 < a ∧ a < n) := by
  rw [contains_successive (f := fun _ => 0) rfl]
  constructor
  · rintro ⟨i, hi, ends⟩
    omega
  · rintro (⟨rfl, pos, h⟩ | ⟨rfl, pos, h⟩)
    · exact ⟨b - 1, by omega, Or.inl ⟨rfl, by omega⟩⟩
    · exact ⟨a - 1, by omega, Or.inr ⟨by omega, rfl⟩⟩

/-! ## Trees around the centre -/

/-- **Without the centre only a single table has a tree**, as nothing links two others. -/
theorem eq_singleton_of_planCount_star_ne_zero {s : Finset ℕ}
    (h : planCount (star.conditions n) s ≠ 0) (absent : 0 ∉ s) {v : ℕ} (hv : v ∈ s) : s = {v} := by
  refine Finset.eq_singleton_iff_unique_mem.2 ⟨hv, fun w hw => ?_⟩
  by_contra different
  have cut : ({v}, s.erase v) ∈ splits s := by
    refine mem_splits.2 ⟨Finset.singleton_nonempty v, ⟨w, Finset.mem_erase.2 ⟨different, hw⟩⟩,
      ?_, ?_⟩
    · exact Finset.disjoint_singleton_left.2 (Finset.notMem_erase v s)
    · show {v} ∪ s.erase v = s
      rw [← Finset.insert_eq, Finset.insert_erase hv]
  obtain ⟨a, ha, b, hb, linked⟩ := crosses_of_planCount_ne_zero h _ cut
  rw [contains_star] at linked
  rcases linked with ⟨rfl, -⟩ | ⟨rfl, -⟩
  · exact absent (Finset.mem_singleton.1 ha ▸ hv)
  · exact absent (Finset.mem_of_mem_erase hb)

/-- The cut that takes one table away from the centre and the others. -/
def starCut (others : Finset ℕ) (v : ℕ) : Finset ℕ × Finset ℕ :=
  (insert 0 (others.erase v), {v})

variable {others : Finset ℕ}

/-- Every table but the centre may be taken away, and the cut crosses. -/
theorem starCut_valid (h : ∀ v ∈ others, 0 < v ∧ v < n) {v : ℕ} (hv : v ∈ others) :
    starCut others v ∈ splits (insert 0 others) ∧
      (star.conditions n).Crosses (starCut others v).1 (starCut others v).2 ∧
      0 ∈ (starCut others v).1 := by
  have centre : 0 ∈ insert 0 (others.erase v) := Finset.mem_insert_self _ _
  refine ⟨mem_splits.2 ⟨⟨0, centre⟩, Finset.singleton_nonempty v, ?_, ?_⟩,
    ⟨0, centre, v, Finset.mem_singleton_self v, contains_star.2 (Or.inl ⟨rfl, h v hv⟩)⟩, centre⟩
  · refine Finset.disjoint_singleton_right.2 fun member => ?_
    rcases Finset.mem_insert.1 member with rfl | member
    · exact Nat.lt_irrefl 0 (h 0 hv).1
    · exact Finset.notMem_erase v others member
  · show insert 0 (others.erase v) ∪ {v} = insert 0 others
    rw [Finset.insert_union, Finset.union_comm, ← Finset.insert_eq, Finset.insert_erase hv]

/-- A cut whose left part has the centre and whose right part has trees takes one table away. -/
theorem exists_starCut_eq {p : Finset ℕ × Finset ℕ} (hp : p ∈ splits (insert 0 others))
    (centre : 0 ∈ p.1) (right : planCount (star.conditions n) p.2 ≠ 0) :
    ∃ v ∈ others, starCut others v = p := by
  obtain ⟨-, ⟨v, hv⟩, apart, whole⟩ := mem_splits.1 hp
  have absent : 0 ∉ p.2 := Finset.disjoint_left.1 apart centre
  have single : p.2 = {v} := eq_singleton_of_planCount_star_ne_zero right absent hv
  have different : v ≠ 0 := fun same => absent (same ▸ hv)
  have member : v ∈ insert 0 others := whole ▸ Finset.mem_union_right p.1 hv
  refine ⟨v, Finset.mem_of_mem_insert_of_ne member different, Prod.ext ?_ single.symm⟩
  have rest : p.1 = insert 0 others \ p.2 := snd_of_mem_splits (swap_mem_splits.2 hp)
  rw [rest, single, Finset.sdiff_singleton_eq_erase, Finset.erase_insert_of_ne different.symm]
  rfl

/-- Around the centre the recurrence runs over the table that is added last. -/
theorem planCount_star_insert_succ (h : ∀ v ∈ others, 0 < v ∧ v < n) (some : others.Nonempty) :
    planCount (star.conditions n) (insert 0 others) =
      2 * ∑ v ∈ others, planCount (star.conditions n) (insert 0 (others.erase v)) := by
  have absent : 0 ∉ others := fun member => Nat.lt_irrefl 0 (h 0 member).1
  have large : 2 ≤ (insert 0 others).card := by
    have := some.card_pos
    rw [Finset.card_insert_of_notMem absent]
    omega
  rw [planCount_eq_two_mul_sum_parts large (Finset.mem_insert_self 0 others) others
    (starCut others) ?_ (fun v hv => starCut_valid h hv)
    (fun p hp centre _ _ right => exists_starCut_eq hp centre right)]
  · congr 1
    refine Finset.sum_congr rfl fun v _ => ?_
    show _ * planCount _ {v} = _
    rw [planCount_singleton, Nat.mul_one]
    rfl
  · intro v _ w _ same
    exact Finset.singleton_injective (congrArg Prod.snd same)

/-- **The number of trees around the centre** of a star. -/
theorem planCount_star_insert (h : ∀ v ∈ others, 0 < v ∧ v < n) :
    planCount (star.conditions n) (insert 0 others) = 2 ^ others.card * others.card.factorial := by
  -- The induction is on the number of tables around the centre, of which any may come last.
  induction size : others.card generalizing others with
  | zero =>
    rw [Finset.card_eq_zero.1 size]
    exact planCount_singleton 0
  | succ k ih =>
    have term : ∀ v ∈ others, planCount (star.conditions n) (insert 0 (others.erase v)) =
        2 ^ k * k.factorial := by
      intro v hv
      refine ih (fun w hw => h w (Finset.mem_of_mem_erase hw)) ?_
      rw [Finset.card_erase_of_mem hv, size, Nat.add_sub_cancel]
    have some : others.Nonempty := Finset.card_pos.1 (by omega)
    calc
      planCount (star.conditions n) (insert 0 others)
          = 2 * ((k + 1) * (2 ^ k * k.factorial)) := by
            rw [planCount_star_insert_succ h some, Finset.sum_congr rfl term, Finset.sum_const,
              size, smul_eq_mul]
      _ = 2 ^ (k + 1) * (k + 1).factorial := by
            rw [Nat.factorial_succ]
            ring

/-! ## The closed form -/

/-- **The trees of a star**: two sides for each join, and the orders in which the tables are added.
Whatever a count returns, the closed form returns. -/
theorem star_closedForm (n : ℕ) :
    ∃ graph, star.build n = .ok graph ∧ graph.size = n ∧
      (1 ≤ n → freePairCount graph.conditions n = 2 ^ (n - 1) * (n - 1).factorial) ∧
      (∀ settings c, graph.count settings = .ok c → star.expectedCount n = .ok c) ∧
      (n = 0 → (∀ settings, graph.count settings = .ok 0) ∧ star.expectedCount n = .ok 0) := by
  obtain ⟨graph, built, names, conditions⟩ := exists_build_eq_ok star (fun i => Nat.zero_le i) n rfl
  have size : graph.size = n := Registry.size_of_names names
  refine ⟨graph, built, size, closedForm_of_planCount size ?_ ?_⟩
  · intro pos
    have around : planCount (star.conditions n) (insert 0 (Finset.Ico 1 n)) = _ :=
      planCount_star_insert fun v hv => Finset.mem_Ico.1 hv
    have whole : insert 0 (Finset.Ico 1 n) = Finset.range n := by
      ext v
      rw [Finset.mem_insert, Finset.mem_Ico, Finset.mem_range]
      omega
    rwa [whole, Nat.card_Ico, ← conditions] at around
  · intro pos fits
    have computed := expectedCount_star fits
    rwa [Nat.sub_add_cancel pos] at computed

/-- A centre with two other tables has eight trees. -/
theorem star_closedForm_three :
    ∃ graph, star.build 3 = .ok graph ∧ graph.count .standard = .ok 8 ∧
      freePairCount graph.conditions 3 = 8 ∧ star.expectedCount 3 = .ok 8 ∧
      star.expectedCount 0 = .ok 0 := by
  obtain ⟨graph, built, -, pairs, returned, -⟩ := star_closedForm 3
  obtain ⟨_, -, -, -, -, none⟩ := star_closedForm 0
  have counted : graph.count .standard = .ok 8 := by
    cases built
    decide +kernel
  exact ⟨graph, built, counted, pairs (by decide), returned .standard 8 counted, (none rfl).2⟩

end Topology

end JoinOrder
