/-
# Counting Plans by Their Tables

The plans over a set of tables form a finite set, made by the same cuts as in the subset recurrence:
the two sides of a join cut the tables of the plan into two parts.

Main statements: `mem_plansOver`, and the number of plans without a cross product is that of the
recurrence (`card_freePlans`).
-/
import Mathlib.Algebra.BigOperators.Group.Finset.Basic
import Mathlib.Data.Finset.Union
import JoinOrder.Proofs.Counting.Recurrence

namespace JoinOrder

open JoinTree

/-! ## Plans over a set -/

/-- The trees in which each table of a set is one leaf, and nothing else is. -/
def plansOver (s : Finset ℕ) : Finset JoinTree :=
  if s.card ≤ 1 then s.image leaf
  else
    (splits s).attach.biUnion fun p =>
      (plansOver p.1.1 ×ˢ plansOver p.1.2).image fun sides => join sides.1 sides.2
termination_by s.card
decreasing_by
  · exact (card_lt_of_mem_splits p.2).1
  · exact (card_lt_of_mem_splits p.2).2

/-- A single leaf is a plan over its table only. -/
theorem mem_plansOver_leaf {s : Finset ℕ} {table : ℕ} :
    leaf table ∈ plansOver s ↔ s = {table} := by
  rw [plansOver]
  split_ifs with small
  · rw [Finset.mem_image]
    constructor
    · rintro ⟨other, member, same⟩
      rw [← (leaf.inj same : other = table)]
      exact Finset.eq_singleton_iff_unique_mem.2
        ⟨member, fun x hx => Finset.card_le_one.1 small x hx other member⟩
    · rintro rfl
      exact ⟨table, Finset.mem_singleton_self table, rfl⟩
  · constructor
    · intro h
      obtain ⟨p, -, h⟩ := Finset.mem_biUnion.1 h
      obtain ⟨sides, -, same⟩ := Finset.mem_image.1 h
      cases same
    · rintro rfl
      exact absurd (Finset.card_singleton table).le small

/-- A join is a plan when its sides are plans over the parts of a cut. -/
theorem mem_plansOver_join {s : Finset ℕ} {left right : JoinTree} :
    join left right ∈ plansOver s ↔
      ∃ p ∈ splits s, left ∈ plansOver p.1 ∧ right ∈ plansOver p.2 := by
  rw [plansOver]
  split_ifs with small
  · constructor
    · intro h
      obtain ⟨table, -, same⟩ := Finset.mem_image.1 h
      cases same
    · -- A set that can be cut has at least two members.
      rintro ⟨p, hp, -⟩
      have := card_lt_of_mem_splits hp
      have := (mem_splits.1 hp).1.card_pos
      omega
  · rw [Finset.mem_biUnion]
    constructor
    · rintro ⟨⟨p, hp⟩, -, h⟩
      obtain ⟨sides, member, same⟩ := Finset.mem_image.1 h
      obtain ⟨rfl, rfl⟩ := join.inj same
      exact ⟨p, hp, Finset.mem_product.1 member⟩
    · rintro ⟨p, hp, hl, hr⟩
      exact ⟨⟨p, hp⟩, Finset.mem_attach _ _,
        Finset.mem_image.2 ⟨(left, right), Finset.mem_product.2 ⟨hl, hr⟩, rfl⟩⟩

/-- A tree has a leaf. -/
theorem leaves_toFinset_nonempty (tree : JoinTree) : tree.leaves.toFinset.Nonempty := by
  rw [List.toFinset_nonempty_iff, ← List.length_pos_iff, length_leaves]
  exact tree.leafCount_pos

/-- **The plans over a set are the trees with these leaves, each once.** -/
theorem mem_plansOver {s : Finset ℕ} {tree : JoinTree} :
    tree ∈ plansOver s ↔ tree.leaves.Nodup ∧ tree.leaves.toFinset = s := by
  induction tree generalizing s with
  | leaf table =>
    rw [mem_plansOver_leaf]
    simp [eq_comm]
  | join left right ihl ihr =>
    rw [mem_plansOver_join, leaves_join, List.nodup_append', List.toFinset_append]
    constructor
    · rintro ⟨p, hp, hl, hr⟩
      obtain ⟨nodupL, leavesL⟩ := ihl.1 hl
      obtain ⟨nodupR, leavesR⟩ := ihr.1 hr
      obtain ⟨-, -, apart, whole⟩ := mem_splits.1 hp
      rw [leavesL, leavesR]
      refine ⟨⟨nodupL, nodupR, ?_⟩, whole⟩
      rwa [← List.disjoint_toFinset_iff_disjoint, leavesL, leavesR]
    · rintro ⟨⟨nodupL, nodupR, apart⟩, whole⟩
      exact ⟨(left.leaves.toFinset, right.leaves.toFinset),
        mem_splits.2 ⟨leaves_toFinset_nonempty left, leaves_toFinset_nonempty right,
          List.disjoint_toFinset_iff_disjoint.2 apart, whole⟩,
        ihl.2 ⟨nodupL, rfl⟩, ihr.2 ⟨nodupR, rfl⟩⟩

/-! ## Plans without a cross product -/

/-- The plans over a set that are free of cross products. -/
def freePlans (conditions : ConditionSet) (s : Finset ℕ) : Finset JoinTree :=
  {tree ∈ plansOver s | tree.CrossProductFree conditions}

variable {conditions : ConditionSet}

theorem mem_freePlans {s : Finset ℕ} {tree : JoinTree} :
    tree ∈ freePlans conditions s ↔
      (tree.leaves.Nodup ∧ tree.leaves.toFinset = s) ∧ tree.CrossProductFree conditions := by
  rw [freePlans, Finset.mem_filter, mem_plansOver]

/-- A join is linked when the tables of its sides are. -/
theorem linked_iff_crosses (left right : JoinTree) :
    Linked conditions left right ↔
      conditions.Crosses left.leaves.toFinset right.leaves.toFinset := by
  simp only [Linked, ConditionSet.Crosses, List.mem_toFinset]

/-- The free plans over at least two tables are the joins of free plans over linked cuts. -/
theorem freePlans_eq_biUnion {s : Finset ℕ} (h : 2 ≤ s.card) :
    freePlans conditions s =
      {p ∈ splits s | conditions.Crosses p.1 p.2}.biUnion fun p =>
        (freePlans conditions p.1 ×ˢ freePlans conditions p.2).image fun sides =>
          join sides.1 sides.2 := by
  ext tree
  simp only [Finset.mem_biUnion, Finset.mem_image, Finset.mem_filter, Finset.mem_product]
  constructor
  · intro free
    obtain ⟨plan, free⟩ := Finset.mem_filter.1 free
    cases tree with
    | leaf table =>
      rw [mem_plansOver_leaf.1 plan, Finset.card_singleton] at h
      omega
    | join left right =>
      obtain ⟨p, hp, hl, hr⟩ := mem_plansOver_join.1 plan
      obtain ⟨freeL, freeR, linked⟩ := free
      rw [linked_iff_crosses, (mem_plansOver.1 hl).2, (mem_plansOver.1 hr).2] at linked
      exact ⟨p, ⟨hp, linked⟩, (left, right),
        ⟨Finset.mem_filter.2 ⟨hl, freeL⟩, Finset.mem_filter.2 ⟨hr, freeR⟩⟩, rfl⟩
  · rintro ⟨p, ⟨hp, crosses⟩, ⟨left, right⟩, ⟨hl, hr⟩, rfl⟩
    obtain ⟨hl, freeL⟩ := Finset.mem_filter.1 hl
    obtain ⟨hr, freeR⟩ := Finset.mem_filter.1 hr
    refine Finset.mem_filter.2 ⟨mem_plansOver_join.2 ⟨p, hp, hl, hr⟩, freeL, freeR, ?_⟩
    rwa [linked_iff_crosses, (mem_plansOver.1 hl).2, (mem_plansOver.1 hr).2]

/-- The free plans over at most one table are single leaves. -/
theorem freePlans_of_card_le_one {s : Finset ℕ} (h : s.card ≤ 1) :
    freePlans conditions s = s.image leaf := by
  rw [freePlans, plansOver, if_pos h, Finset.filter_eq_self]
  intro tree member
  obtain ⟨table, -, rfl⟩ := Finset.mem_image.1 member
  trivial

/-- Joins from different cuts are different, as the cut is found in the leaves of the sides. -/
theorem pairwiseDisjoint_joins (cuts : Set (Finset ℕ × Finset ℕ)) :
    cuts.PairwiseDisjoint fun p =>
      (freePlans conditions p.1 ×ˢ freePlans conditions p.2).image fun sides =>
        join sides.1 sides.2 := by
  intro p _ q _ apart
  refine Finset.disjoint_left.2 fun tree hp hq => apart ?_
  obtain ⟨sides, sidesP, made⟩ := Finset.mem_image.1 hp
  obtain ⟨sides', sidesQ, made'⟩ := Finset.mem_image.1 hq
  have same : sides' = sides := by
    obtain ⟨left, right⟩ := join.inj (made'.trans made.symm)
    exact Prod.ext left right
  rw [same] at sidesQ
  obtain ⟨hpl, hpr⟩ := Finset.mem_product.1 sidesP
  obtain ⟨hql, hqr⟩ := Finset.mem_product.1 sidesQ
  exact Prod.ext ((mem_freePlans.1 hpl).1.2.symm.trans (mem_freePlans.1 hql).1.2)
    ((mem_freePlans.1 hpr).1.2.symm.trans (mem_freePlans.1 hqr).1.2)

/-- **The recurrence counts the free plans.** -/
theorem card_freePlans (conditions : ConditionSet) (s : Finset ℕ) :
    (freePlans conditions s).card = planCount conditions s := by
  -- The set of plans is made by the same recursion as the number.
  induction s using planCount.induct conditions with
  | case1 s small =>
    rw [freePlans_of_card_le_one small, planCount, if_pos small]
    exact Finset.card_image_of_injective _ fun a b same => leaf.inj same
  | case2 s large ihl ihr =>
    have two : 2 ≤ s.card := by omega
    have injective : Function.Injective fun sides : JoinTree × JoinTree => join sides.1 sides.2 :=
      fun a b same => Prod.ext (join.inj same).1 (join.inj same).2
    rw [freePlans_eq_biUnion two, Finset.card_biUnion (pairwiseDisjoint_joins _),
      planCount_eq_sum two]
    apply Finset.sum_congr rfl
    intro p hp
    rw [Finset.card_image_of_injective _ injective, Finset.card_product, ihl ⟨p, hp⟩, ihr ⟨p, hp⟩]

end JoinOrder
