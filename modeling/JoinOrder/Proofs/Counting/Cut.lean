/-
# Cuts of Counted Sets

A set over which there is a tree without a cross product cannot be cut into two parts without a
condition between them.  Hence most terms of the subset recurrence are zero in a sparse graph, and
the sum runs over the few cuts whose parts both have trees.

Main statements: `crosses_of_planCount_ne_zero`, and the recurrence over a list of all cuts that
matter (`planCount_eq_two_mul_sum_parts`).
-/
import JoinOrder.Proofs.Counting.Recurrence

namespace JoinOrder

variable {conditions : ConditionSet} {s : Finset ℕ}

/-- One part of a cut is what the other part leaves. -/
theorem snd_of_mem_splits {p : Finset ℕ × Finset ℕ} (h : p ∈ splits s) : p.2 = s \ p.1 := by
  obtain ⟨-, -, apart, rfl⟩ := mem_splits.1 h
  rw [Finset.union_sdiff_cancel_left apart]

/-- A cut of a set cuts each part of it that meets both sides. -/
theorem inter_mem_splits {q : Finset ℕ × Finset ℕ} (hq : q ∈ splits s) {t : Finset ℕ} (ht : t ⊆ s)
    {a b : ℕ} (ha : a ∈ t) (ha' : a ∈ q.1) (hb : b ∈ t) (hb' : b ∈ q.2) :
    (t ∩ q.1, t ∩ q.2) ∈ splits t := by
  obtain ⟨-, -, apart, whole⟩ := mem_splits.1 hq
  refine mem_splits.2 ⟨⟨a, Finset.mem_inter.2 ⟨ha, ha'⟩⟩, ⟨b, Finset.mem_inter.2 ⟨hb, hb'⟩⟩,
    apart.mono Finset.inter_subset_right Finset.inter_subset_right, ?_⟩
  rw [← Finset.inter_union_distrib_left, whole]
  exact Finset.inter_eq_left.2 ht

/-- If all cuts of a part cross, then so does a cut of the set that cuts the part. -/
theorem crosses_of_part {q : Finset ℕ × Finset ℕ} (hq : q ∈ splits s) {t : Finset ℕ} (ht : t ⊆ s)
    (part : ∀ r ∈ splits t, conditions.Crosses r.1 r.2) {a b : ℕ} (ha : a ∈ t) (ha' : a ∈ q.1)
    (hb : b ∈ t) (hb' : b ∈ q.2) : conditions.Crosses q.1 q.2 := by
  obtain ⟨c, hc, d, hd, linked⟩ := part _ (inter_mem_splits hq ht ha ha' hb hb')
  exact ⟨c, Finset.mem_of_mem_inter_right hc, d, Finset.mem_of_mem_inter_right hd, linked⟩

/-- If all cuts of two linked parts cross, then so do all cuts of the set. -/
theorem crosses_of_parts {p q : Finset ℕ × Finset ℕ} (hp : p ∈ splits s) (hq : q ∈ splits s)
    (linked : conditions.Crosses p.1 p.2)
    (left : ∀ r ∈ splits p.1, conditions.Crosses r.1 r.2)
    (right : ∀ r ∈ splits p.2, conditions.Crosses r.1 r.2) : conditions.Crosses q.1 q.2 := by
  obtain ⟨a, ha, b, hb, contained⟩ := linked
  obtain ⟨-, -, -, whole⟩ := mem_splits.1 hp
  obtain ⟨⟨x, hx⟩, ⟨y, hy⟩, -, whole'⟩ := mem_splits.1 hq
  have hl : p.1 ⊆ s := whole ▸ Finset.subset_union_left
  have hr : p.2 ⊆ s := whole ▸ Finset.subset_union_right
  have place : ∀ {z}, z ∈ s → z ∈ q.1 ∨ z ∈ q.2 := fun hz =>
    Finset.mem_union.1 (whole'.symm ▸ hz)
  have side : ∀ {z}, z ∈ s → z ∈ p.1 ∨ z ∈ p.2 := fun hz => Finset.mem_union.1 (whole.symm ▸ hz)
  rcases place (hl ha) with a_first | a_second <;> rcases place (hr hb) with b_first | b_second
  -- Both ends are in the first part: some table of the second part is in one of the sides.
  · rcases side (whole' ▸ Finset.mem_union_right _ hy) with hy' | hy'
    · exact crosses_of_part hq hl left ha a_first hy' hy
    · exact crosses_of_part hq hr right hb b_first hy' hy
  · exact ⟨a, a_first, b, b_second, contained⟩
  · exact ⟨b, b_first, a, a_second, by rwa [ConditionSet.contains_comm]⟩
  · rcases side (whole' ▸ Finset.mem_union_left _ hx) with hx' | hx'
    · exact crosses_of_part hq hl left hx' hx ha a_second
    · exact crosses_of_part hq hr right hx' hx hb b_second

/-- **A set that has a tree without a cross product** has a condition across each of its cuts. -/
theorem crosses_of_planCount_ne_zero (h : planCount conditions s ≠ 0) :
    ∀ q ∈ splits s, conditions.Crosses q.1 q.2 := by
  -- The induction is on the size of the set: the tree has a linked cut whose parts have trees.
  induction n : s.card using Nat.strong_induction_on generalizing s with
  | _ n ih =>
    subst n
    intro q hq
    have large : 2 ≤ s.card := by
      have := (mem_splits.1 hq).1.card_pos
      have := (card_lt_of_mem_splits hq).1
      omega
    rw [planCount_eq_sum large] at h
    obtain ⟨p, member, product⟩ := Finset.exists_ne_zero_of_sum_ne_zero h
    obtain ⟨hp, linked⟩ := Finset.mem_filter.1 member
    obtain ⟨left, right⟩ := card_lt_of_mem_splits hp
    exact crosses_of_parts hp hq linked
      (ih _ left (left_ne_zero_of_mul product) rfl) (ih _ right (right_ne_zero_of_mul product) rfl)

/-- **The recurrence over the cuts that matter**: those with a given table in the left part, a
condition across and trees over both parts, if they are listed without repetition. -/
theorem planCount_eq_two_mul_sum_parts {ι : Type} (h : 2 ≤ s.card) {root : ℕ} (hr : root ∈ s)
    (index : Finset ι) (part : ι → Finset ℕ × Finset ℕ)
    (injective : ∀ i ∈ index, ∀ j ∈ index, part i = part j → i = j)
    (valid : ∀ i ∈ index,
      part i ∈ splits s ∧ conditions.Crosses (part i).1 (part i).2 ∧ root ∈ (part i).1)
    (complete : ∀ p ∈ splits s, root ∈ p.1 → conditions.Crosses p.1 p.2 →
      planCount conditions p.1 ≠ 0 → planCount conditions p.2 ≠ 0 → ∃ i ∈ index, part i = p) :
    planCount conditions s =
      2 * ∑ i ∈ index, planCount conditions (part i).1 * planCount conditions (part i).2 := by
  rw [planCount_eq_two_mul_sum h hr, ← Finset.sum_image (f := fun p : Finset ℕ × Finset ℕ =>
    planCount conditions p.1 * planCount conditions p.2) injective]
  congr 1
  symm
  refine Finset.sum_subset ?_ ?_
  · intro p hp
    obtain ⟨i, hi, rfl⟩ := Finset.mem_image.1 hp
    exact Finset.mem_filter.2 (valid i hi)
  · intro p hp unlisted
    obtain ⟨hp, crosses, inside⟩ := Finset.mem_filter.1 hp
    by_contra product
    obtain ⟨i, hi, same⟩ := complete p hp inside crosses (left_ne_zero_of_mul product)
      (right_ne_zero_of_mul product)
    exact unlisted (Finset.mem_image.2 ⟨i, hi, same⟩)

end JoinOrder
