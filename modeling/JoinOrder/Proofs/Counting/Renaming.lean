/-
# Renaming Tables

Tables may get other numbers.  As long as different tables stay different and conditions between
them are kept, a plan with its leaves renamed is free of cross products exactly when the plan is,
and its check asks about the renamed joins.  Conditions of a table with itself do not matter, since
a table is only one leaf of a plan.

Main statements: `crossProductFree_relabel`, `asked_relabel`, and there are as many trees over the
renamed tables as over the tables (`Renames.planCount_image`, `planCount_eq_of_numbers`).
-/
import JoinOrder.Proofs.Connectivity.Footprint
import JoinOrder.Proofs.Counting.Plan
import JoinOrder.Proofs.SearchSpace.Plan

namespace JoinOrder

namespace JoinTree

/-! ## Renamed trees -/

/-- Renaming twice is renaming once. -/
theorem relabel_relabel (f g : ℕ → ℕ) (tree : JoinTree) :
    (tree.relabel f).relabel g = tree.relabel (g ∘ f) := by
  induction tree with
  | leaf index => rfl
  | join left right ihl ihr => rw [relabel, relabel, relabel, ihl, ihr]

/-- The leaves of a renamed tree are the renamed leaves. -/
theorem toFinset_leaves_relabel (f : ℕ → ℕ) (tree : JoinTree) :
    (tree.relabel f).leaves.toFinset = tree.leaves.toFinset.image f := by
  ext a
  simp

/-- A renaming that leaves the leaves alone leaves the tree alone. -/
theorem relabel_eq_self {f : ℕ → ℕ} {tree : JoinTree} (h : ∀ a ∈ tree.leaves, f a = a) :
    tree.relabel f = tree := by
  induction tree with
  | leaf index => rw [relabel, h index (by simp)]
  | join left right ihl ihr =>
    rw [relabel, ihl fun a ha => h a (by simp [ha]), ihr fun a ha => h a (by simp [ha])]

/-- Different trees stay different if different leaves do. -/
theorem relabel_injective {f : ℕ → ℕ} (injective : Function.Injective f) :
    Function.Injective (relabel f) := by
  intro a b same
  have back := congrArg (relabel (Function.invFun f)) same
  rw [relabel_relabel, relabel_relabel, Function.invFun_comp injective] at back
  rwa [relabel_eq_self (f := id) fun _ _ => rfl, relabel_eq_self (f := id) fun _ _ => rfl] at back

/-- A tree whose leaves are new names is a renamed tree. -/
theorem exists_relabel_eq_of_leaves {f : ℕ → ℕ} {s : Finset ℕ} {tree : JoinTree}
    (h : tree.leaves.toFinset ⊆ s.image f) : ∃ origin : JoinTree, origin.relabel f = tree := by
  refine ⟨tree.relabel (Function.invFun f), ?_⟩
  rw [relabel_relabel]
  apply relabel_eq_self
  intro a ha
  obtain ⟨b, -, hb⟩ := Finset.mem_image.1 (h (List.mem_toFinset.2 ha))
  exact Function.invFun_eq ⟨b, hb⟩

end JoinTree

open JoinTree

/-- The plans over renamed tables are the renamed plans. -/
theorem plansOver_image {f : ℕ → ℕ} (injective : Function.Injective f) (s : Finset ℕ) :
    plansOver (s.image f) = (plansOver s).image (relabel f) := by
  ext tree
  rw [mem_plansOver, Finset.mem_image]
  constructor
  · rintro ⟨nodup, whole⟩
    obtain ⟨origin, rfl⟩ := exists_relabel_eq_of_leaves whole.le
    rw [leaves_relabel] at nodup
    rw [toFinset_leaves_relabel] at whole
    exact ⟨origin, mem_plansOver.2 ⟨nodup.of_map f, Finset.image_injective injective whole⟩, rfl⟩
  · rintro ⟨origin, member, rfl⟩
    obtain ⟨nodup, rfl⟩ := mem_plansOver.1 member
    rw [leaves_relabel]
    exact ⟨nodup.map injective, leaves_relabel f origin ▸ toFinset_leaves_relabel f origin⟩

/-! ## What a renaming keeps -/

/-- Different tables get different numbers, and between different tables of the set there are the
same conditions before and after. -/
structure Renames (conditions conditions' : ConditionSet) (s : Finset ℕ) (f : ℕ → ℕ) : Prop where
  /-- No two tables get one number. -/
  injective : Function.Injective f
  /-- Conditions between different tables are the same. -/
  contains : ∀ a ∈ s, ∀ b ∈ s, a ≠ b → conditions'.contains (f a) (f b) = conditions.contains a b

/-- A join with its leaves renamed. -/
def renameSides (f : ℕ → ℕ) : JoinTree × JoinTree → JoinTree × JoinTree :=
  Prod.map (relabel f) (relabel f)

theorem renameSides_injective {f : ℕ → ℕ} (injective : Function.Injective f) :
    Function.Injective (renameSides f) :=
  (relabel_injective injective).prodMap (relabel_injective injective)

/-- The sides of renamed joins are the renamed sides. -/
theorem sides_image (f : ℕ → ℕ) (joins : Finset (JoinTree × JoinTree)) :
    sides (joins.image (renameSides f)) = (sides joins).image (relabel f) := by
  rw [sides, sides, Finset.image_union]
  simp only [Finset.image_image]
  rfl

namespace Renames

variable {conditions conditions' : ConditionSet} {s : Finset ℕ} {f : ℕ → ℕ}
  {left right tree : JoinTree}

/-- The sides of a plan over given tables are plans over given tables, and they share no table. -/
theorem parts_of_join (nodup : (join left right).leaves.Nodup)
    (inside : (join left right).leaves.toFinset ⊆ s) :
    (left.leaves.Nodup ∧ left.leaves.toFinset ⊆ s) ∧
      (right.leaves.Nodup ∧ right.leaves.toFinset ⊆ s) ∧ left.leaves.Disjoint right.leaves := by
  rw [leaves_join, List.nodup_append'] at nodup
  rw [leaves_join, List.toFinset_append] at inside
  exact ⟨⟨nodup.1, Finset.union_subset_left inside⟩,
    ⟨nodup.2.1, Finset.union_subset_right inside⟩, nodup.2.2⟩

/-- Renaming keeps whether two sides are linked. -/
theorem linked_relabel (h : Renames conditions conditions' s f)
    (apart : left.leaves.Disjoint right.leaves) (hl : left.leaves.toFinset ⊆ s)
    (hr : right.leaves.toFinset ⊆ s) :
    Linked conditions' (left.relabel f) (right.relabel f) ↔ Linked conditions left right := by
  have same : ∀ a ∈ left.leaves, ∀ b ∈ right.leaves,
      conditions'.contains (f a) (f b) = conditions.contains a b := fun a ha b hb =>
    h.contains a (hl (List.mem_toFinset.2 ha)) b (hr (List.mem_toFinset.2 hb))
      fun equal => apart ha (equal ▸ hb)
  simp only [Linked, leaves_relabel, List.mem_map, exists_exists_and_eq_and]
  constructor
  · rintro ⟨a, ha, b, hb, linked⟩
    exact ⟨a, ha, b, hb, same a ha b hb ▸ linked⟩
  · rintro ⟨a, ha, b, hb, linked⟩
    exact ⟨a, ha, b, hb, (same a ha b hb).symm ▸ linked⟩

/-- **Renaming keeps whether a plan is free of cross products.** -/
theorem crossProductFree_relabel (h : Renames conditions conditions' s f)
    (nodup : tree.leaves.Nodup) (inside : tree.leaves.toFinset ⊆ s) :
    (tree.relabel f).CrossProductFree conditions' ↔ tree.CrossProductFree conditions := by
  induction tree with
  | leaf index => exact Iff.rfl
  | join left right ihl ihr =>
    obtain ⟨⟨nodupL, insideL⟩, ⟨nodupR, insideR⟩, apart⟩ := parts_of_join nodup inside
    rw [relabel, CrossProductFree, CrossProductFree, ihl nodupL insideL, ihr nodupR insideR,
      h.linked_relabel apart insideL insideR]

/-- **The check of a renamed plan asks about the renamed joins.** -/
theorem asked_relabel (h : Renames conditions conditions' s f)
    (nodup : tree.leaves.Nodup) (inside : tree.leaves.toFinset ⊆ s) :
    (tree.relabel f).asked conditions' = (tree.asked conditions).map (renameSides f) := by
  induction tree with
  | leaf index => rfl
  | join left right ihl ihr =>
    obtain ⟨⟨nodupL, insideL⟩, ⟨nodupR, insideR⟩, -⟩ := parts_of_join nodup inside
    -- The check stops at the same place, since the same sides are free.
    have freeL := h.crossProductFree_relabel nodupL insideL
    have freeR := h.crossProductFree_relabel nodupR insideR
    rw [relabel, asked, asked, ihl nodupL insideL, ihr nodupR insideR]
    simp only [freeL, freeR]
    split_ifs <;> simp [renameSides]

/-! ## Numbers of trees -/

/-- The free plans over renamed tables are the renamed free plans. -/
theorem freePlans_image (h : Renames conditions conditions' s f) :
    freePlans conditions' (s.image f) = (freePlans conditions s).image (relabel f) := by
  rw [freePlans, plansOver_image h.injective, Finset.filter_image, freePlans]
  congr 1
  apply Finset.filter_congr
  intro tree member
  obtain ⟨nodup, whole⟩ := mem_plansOver.1 member
  exact h.crossProductFree_relabel nodup whole.le

/-- **There are as many trees over renamed tables** as over the tables. -/
theorem planCount_image (h : Renames conditions conditions' s f) :
    planCount conditions' (s.image f) = planCount conditions s := by
  rw [← card_freePlans, ← card_freePlans, h.freePlans_image,
    Finset.card_image_of_injective _ (relabel_injective h.injective)]

end Renames

/-! ## Renaming some tables only -/

/-- Numbers that are different on some tables belong to a renaming of all: the other tables get
numbers beyond them. -/
theorem exists_injective_eqOn {f : ℕ → ℕ} {s : Finset ℕ} (h : Set.InjOn f s) :
    ∃ g : ℕ → ℕ, Function.Injective g ∧ ∀ a ∈ s, g a = f a := by
  have bounded : ∀ a ∈ s, f a < (s.image f).sup id + 1 := fun a ha =>
    Nat.lt_succ_of_le (Finset.le_sup (f := id) (Finset.mem_image_of_mem f ha))
  refine ⟨fun a => if a ∈ s then f a else a + ((s.image f).sup id + 1), ?_, fun a ha => if_pos ha⟩
  intro a b same
  dsimp only at same
  split_ifs at same with ha hb hb
  · exact h ha hb same
  · have := bounded a ha
    omega
  · have := bounded b hb
    omega
  · exact Nat.add_right_cancel same

/-- **There are as many trees over renamed tables** as long as these tables and the conditions
between them are kept apart. -/
theorem planCount_image_of_injOn {conditions conditions' : ConditionSet} {s : Finset ℕ} {f : ℕ → ℕ}
    (injective : Set.InjOn f s)
    (contains : ∀ a ∈ s, ∀ b ∈ s, a ≠ b →
      conditions'.contains (f a) (f b) = conditions.contains a b) :
    planCount conditions' (s.image f) = planCount conditions s := by
  obtain ⟨g, all, same⟩ := exists_injective_eqOn injective
  have renames : Renames conditions conditions' s g := by
    refine ⟨all, fun a ha b hb apart => ?_⟩
    rw [same a ha, same b hb]
    exact contains a ha b hb apart
  rw [← Finset.image_congr same]
  exact renames.planCount_image

/-- **There are as many trees over some tables as over their numbers** when they are numbered anew
from zero. -/
theorem planCount_eq_of_numbers {conditions conditions' : ConditionSet} {m : ℕ} {number : Fin m → ℕ}
    (injective : Function.Injective number) {t : Finset ℕ} (onto : ∀ k, k ∈ t ↔ ∃ i, number i = k)
    (contains : ∀ i j, i ≠ j →
      conditions'.contains (number i) (number j) = conditions.contains i j) :
    planCount conditions' t = planCount conditions (Finset.range m) := by
  let rename (a : ℕ) : ℕ := if known : a < m then number ⟨a, known⟩ else 0
  have rename_val : ∀ i : Fin m, rename i = number i := fun i => dif_pos i.2
  have image : t = (Finset.range m).image rename := by
    ext k
    rw [onto, Finset.mem_image]
    constructor
    · rintro ⟨i, rfl⟩
      exact ⟨i, Finset.mem_range.2 i.2, rename_val i⟩
    · rintro ⟨a, ha, rfl⟩
      lift a to Fin m using Finset.mem_range.1 ha
      exact ⟨a, (rename_val a).symm⟩
  rw [image]
  refine planCount_image_of_injOn ?_ ?_
  · intro a ha b hb same
    lift a to Fin m using Finset.mem_range.1 ha
    lift b to Fin m using Finset.mem_range.1 hb
    rw [rename_val, rename_val] at same
    exact congrArg Fin.val (injective same)
  · intro a ha b hb apart
    lift a to Fin m using Finset.mem_range.1 ha
    lift b to Fin m using Finset.mem_range.1 hb
    rw [rename_val, rename_val]
    exact contains a b fun same => apart (congrArg Fin.val same)

/-- The number of trees depends on the conditions between different tables of the set only. -/
theorem planCount_congr {conditions conditions' : ConditionSet} {s : Finset ℕ}
    (contains : ∀ a ∈ s, ∀ b ∈ s, a ≠ b → conditions'.contains a b = conditions.contains a b) :
    planCount conditions' s = planCount conditions s := by
  have renames : Renames conditions conditions' s id := ⟨Function.injective_id, contains⟩
  have count := renames.planCount_image
  rwa [Finset.image_id] at count

end JoinOrder
