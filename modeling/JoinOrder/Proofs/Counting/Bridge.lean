/-
# Cuts That One Condition Crosses

A condition bridges a cut if nothing else crosses it.  If every condition bridges some cut, then the
cuts that matter to the recurrence are these: a part that has trees is connected without the
condition across, so it is on one side of the cut that this condition bridges.

Main statements: a crossed cut whose parts have trees is the one that its condition bridges
(`eq_or_eq_swap_of_bridges`), and the recurrence is a sum over the conditions
(`planCount_eq_sum_of_bridges`).
-/
import JoinOrder.Proofs.Counting.Cut

namespace JoinOrder

/-- Tables that make the same condition are in the same sets. -/
theorem Condition.mem_of_between_eq {a b c d : ℕ} (same : between a b = between c d) {t : Finset ℕ}
    (ha : a ∈ t) (hb : b ∈ t) : c ∈ t ∧ d ∈ t := by
  rcases between_eq_between_iff.1 same with ⟨rfl, rfl⟩ | ⟨rfl, rfl⟩
  · exact ⟨ha, hb⟩
  · exact ⟨hb, ha⟩

/-- The condition is the only one across the cut. -/
structure ConditionSet.Bridges (conditions : ConditionSet) (e : Condition)
    (p : Finset ℕ × Finset ℕ) : Prop where
  /-- A condition crosses the cut. -/
  crosses : conditions.Crosses p.1 p.2
  /-- No other condition does. -/
  only : ∀ a ∈ p.1, ∀ b ∈ p.2, conditions.contains a b = true → Condition.between a b = e

variable {conditions : ConditionSet} {s t : Finset ℕ} {e f : Condition} {p q : Finset ℕ × Finset ℕ}

namespace ConditionSet.Bridges

theorem swap (h : conditions.Bridges e p) : conditions.Bridges e p.swap where
  crosses := (conditions.crosses_comm _ _).1 h.crosses
  only := by
    intro a ha b hb linked
    rw [Condition.between_comm]
    exact h.only b hb a ha (by rwa [ConditionSet.contains_comm])

/-- A cut is bridged by one condition at most. -/
theorem unique (he : conditions.Bridges e p) (hf : conditions.Bridges f p) : e = f := by
  obtain ⟨a, ha, b, hb, linked⟩ := he.crosses
  rw [← he.only a ha b hb linked, hf.only a ha b hb linked]

/-- A set that has trees and does not hold both ends of the condition is on one side of the cut. -/
theorem subset_or_subset (h : conditions.Bridges e p) (hp : p ∈ splits s) (ht : t ⊆ s)
    (trees : planCount conditions t ≠ 0)
    (apart : ∀ a ∈ t, ∀ b ∈ t, Condition.between a b ≠ e) : t ⊆ p.1 ∨ t ⊆ p.2 := by
  obtain ⟨-, -, -, whole⟩ := mem_splits.1 hp
  have side : ∀ {x}, x ∈ t → x ∈ p.1 ∨ x ∈ p.2 := fun hx =>
    Finset.mem_union.1 (whole.symm ▸ ht hx)
  by_contra both
  obtain ⟨notFirst, notSecond⟩ := not_or.1 both
  obtain ⟨x, hx, outside⟩ := Finset.not_subset.1 notFirst
  obtain ⟨y, hy, outside'⟩ := Finset.not_subset.1 notSecond
  -- The cut cuts the set too, so it is crossed within the set.
  have cut : (t ∩ p.1, t ∩ p.2) ∈ splits t := inter_mem_splits hp ht hy
    ((side hy).resolve_right outside') hx ((side hx).resolve_left outside)
  obtain ⟨a, ha, b, hb, linked⟩ := crosses_of_planCount_ne_zero trees _ cut
  obtain ⟨ha, first⟩ := Finset.mem_inter.1 ha
  obtain ⟨hb, second⟩ := Finset.mem_inter.1 hb
  exact apart a ha b hb (h.only a first b second linked)

end ConditionSet.Bridges

/-! ## The cuts that matter -/

/-- Of two cuts of one set, the one whose parts are within the parts of the other is the other. -/
theorem eq_of_mem_splits_of_subset (hp : p ∈ splits s) (hq : q ∈ splits s) (first : q.1 ⊆ p.1)
    (second : q.2 ⊆ p.2) : q = p := by
  have same : q.1 = p.1 := by
    refine first.antisymm fun x hx => ?_
    obtain ⟨-, -, apart, whole⟩ := mem_splits.1 hp
    have member : x ∈ q.1 ∪ q.2 := (mem_splits.1 hq).2.2.2 ▸ whole ▸ Finset.mem_union_left _ hx
    exact (Finset.mem_union.1 member).resolve_right fun other =>
      Finset.disjoint_left.1 apart hx (second other)
  exact Prod.ext same (by rw [snd_of_mem_splits hq, snd_of_mem_splits hp, same])

/-- The parts of a cut are not both on one side of another cut. -/
theorem not_subset_of_mem_splits (hp : p ∈ splits s) (hq : q ∈ splits s) (first : q.1 ⊆ p.1) :
    ¬ q.2 ⊆ p.1 := by
  intro second
  obtain ⟨-, ⟨x, hx⟩, apart, whole⟩ := mem_splits.1 hp
  have member : x ∈ q.1 ∪ q.2 := (mem_splits.1 hq).2.2.2 ▸ whole ▸ Finset.mem_union_right _ hx
  exact Finset.disjoint_right.1 apart hx (Finset.union_subset first second member)

/-- **A cut that a condition crosses is the cut that this condition bridges**, if both of its parts
have trees. -/
theorem eq_or_eq_swap_of_bridges (hp : p ∈ splits s) (hq : q ∈ splits s) {a b : ℕ} (ha : a ∈ q.1)
    (hb : b ∈ q.2) (h : conditions.Bridges (.between a b) p)
    (left : planCount conditions q.1 ≠ 0) (right : planCount conditions q.2 ≠ 0) :
    q = p ∨ q = p.swap := by
  obtain ⟨-, -, apart, whole⟩ := mem_splits.1 hq
  have first : q.1 ⊆ p.1 ∨ q.1 ⊆ p.2 :=
    h.subset_or_subset hp (whole ▸ Finset.subset_union_left) left fun c hc d hd same =>
      Finset.disjoint_right.1 apart hb (Condition.mem_of_between_eq same hc hd).2
  have second : q.2 ⊆ p.1 ∨ q.2 ⊆ p.2 :=
    h.subset_or_subset hp (whole ▸ Finset.subset_union_right) right fun c hc d hd same =>
      Finset.disjoint_left.1 apart ha (Condition.mem_of_between_eq same hc hd).1
  rcases first with first | first <;> rcases second with second | second
  · exact absurd second (not_subset_of_mem_splits hp hq first)
  · exact Or.inl (eq_of_mem_splits_of_subset hp hq first second)
  · exact Or.inr (eq_of_mem_splits_of_subset (swap_mem_splits.2 hp) hq first second)
  · exact absurd second (not_subset_of_mem_splits (swap_mem_splits.2 hp) hq first)

/-! ## Cuts with a given table in front -/

/-- The cut with a given table in its left part. -/
def rooted (root : ℕ) (p : Finset ℕ × Finset ℕ) : Finset ℕ × Finset ℕ :=
  if root ∈ p.1 then p else p.swap

theorem rooted_mem_splits (root : ℕ) (hp : p ∈ splits s) : rooted root p ∈ splits s := by
  unfold rooted
  split_ifs
  · exact hp
  · exact swap_mem_splits.2 hp

theorem ConditionSet.Bridges.rooted (h : conditions.Bridges e p) (root : ℕ) :
    conditions.Bridges e (rooted root p) := by
  unfold JoinOrder.rooted
  split_ifs
  · exact h
  · exact h.swap

theorem root_mem_rooted {root : ℕ} (hp : p ∈ splits s) (hr : root ∈ s) :
    root ∈ (rooted root p).1 := by
  have whole := (mem_splits.1 hp).2.2.2
  unfold rooted
  split_ifs with inside
  · exact inside
  · exact (Finset.mem_union.1 (whole.symm ▸ hr)).resolve_left inside

/-- The parts of a cut are counted in either order. -/
theorem planCount_mul_rooted (root : ℕ) (p : Finset ℕ × Finset ℕ) :
    planCount conditions (rooted root p).1 * planCount conditions (rooted root p).2 =
      planCount conditions p.1 * planCount conditions p.2 := by
  unfold rooted
  split_ifs
  · rfl
  · exact Nat.mul_comm _ _

theorem rooted_swap {root : ℕ} (hp : p ∈ splits s) (hr : root ∈ s) :
    rooted root p.swap = rooted root p := by
  obtain ⟨-, -, apart, rfl⟩ := mem_splits.1 hp
  unfold rooted
  rw [Prod.fst_swap, Prod.swap_swap]
  rcases Finset.mem_union.1 hr with first | second
  · rw [if_pos first, if_neg (Finset.disjoint_left.1 apart first)]
  · rw [if_pos second, if_neg (Finset.disjoint_right.1 apart second)]

/-! ## The sum over the conditions -/

/-- **If every condition bridges a cut, then the recurrence is a sum over the conditions** of the
products for the two parts. -/
theorem planCount_eq_sum_of_bridges (h : 2 ≤ s.card) (index : Finset Condition)
    (cut : Condition → Finset ℕ × Finset ℕ)
    (bridges : ∀ e ∈ index, cut e ∈ splits s ∧ conditions.Bridges e (cut e))
    (complete : ∀ a ∈ s, ∀ b ∈ s, conditions.contains a b = true →
      Condition.between a b ∈ index) :
    planCount conditions s =
      ∑ e ∈ index, 2 * planCount conditions (cut e).1 * planCount conditions (cut e).2 := by
  obtain ⟨root, hr⟩ := Finset.card_pos.1 (show 0 < s.card by omega)
  rw [planCount_eq_two_mul_sum_parts h hr index (fun e => rooted root (cut e)) ?_ ?_ ?_,
    Finset.mul_sum]
  · refine Finset.sum_congr rfl fun e _ => ?_
    rw [planCount_mul_rooted, Nat.mul_assoc]
  · -- Different conditions bridge different cuts.
    intro e he f hf same
    have bridged := (bridges f hf).2.rooted root
    rw [← same] at bridged
    exact ((bridges e he).2.rooted root).unique bridged
  · intro e he
    obtain ⟨hp, bridged⟩ := bridges e he
    exact ⟨rooted_mem_splits root hp, (bridged.rooted root).crosses, root_mem_rooted hp hr⟩
  · -- A cut that matters is the one that some condition across it bridges.
    intro q hq inside crosses left right
    obtain ⟨a, ha, b, hb, linked⟩ := crosses
    have whole := (mem_splits.1 hq).2.2.2
    have member : Condition.between a b ∈ index :=
      complete a (whole ▸ Finset.mem_union_left _ ha) b (whole ▸ Finset.mem_union_right _ hb) linked
    obtain ⟨hp, bridged⟩ := bridges _ member
    have own : rooted root q = q := if_pos inside
    refine ⟨_, member, ?_⟩
    rcases eq_or_eq_swap_of_bridges hp hq ha hb bridged left right with rfl | rfl
    · exact own
    · rw [← own, rooted_swap hp hr]

end JoinOrder
