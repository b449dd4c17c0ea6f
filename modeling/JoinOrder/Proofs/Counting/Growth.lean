/-
# Growing Trees

A tree grows when tables are joined to it one after another, each of them as a single leaf on the
right side.  The tree that it has grown from stays its leftmost part: the check of the grown tree
begins with the check of that tree, and the grown tree is free of cross products only if that tree
is.

Main statements: a tree grows to a plan over any larger set of tables (`exists_grow_mem_plansOver`),
and without a cross product if each cut of the set is crossed (`exists_grow_mem_freePlans`).
-/
import JoinOrder.Proofs.Connectivity.Footprint
import JoinOrder.Proofs.Counting.Plan

namespace JoinOrder

variable {conditions : ConditionSet} {s : Finset ℕ} {tree : JoinTree}

namespace JoinTree

/-! ## Grown trees -/

/-- The tree after tables have been joined to it one after another. -/
def grow (tree : JoinTree) (tables : List ℕ) : JoinTree :=
  tables.foldl (fun grown table => join grown (leaf table)) tree

@[simp] theorem grow_nil (tree : JoinTree) : tree.grow [] = tree := rfl

@[simp] theorem grow_cons (tree : JoinTree) (table : ℕ) (tables : List ℕ) :
    tree.grow (table :: tables) = (join tree (leaf table)).grow tables := rfl

/-- The new leaves come after the others. -/
@[simp] theorem leaves_grow (tree : JoinTree) (tables : List ℕ) :
    (tree.grow tables).leaves = tree.leaves ++ tables := by
  induction tables generalizing tree with
  | nil => simp
  | cons table tables ih => simp [ih]

/-- What the check of a tree asks, the check of the grown tree asks as well. -/
theorem mem_asked_grow {p : JoinTree × JoinTree} (h : p ∈ tree.asked conditions)
    (tables : List ℕ) : p ∈ (tree.grow tables).asked conditions := by
  induction tables generalizing tree with
  | nil => exact h
  | cons table tables ih =>
    -- The left side of a join is checked before anything else.
    have first : p ∈ (join tree (leaf table)).asked conditions := List.mem_append_left _ h
    exact ih first

/-- A grown tree is free only if the tree is that it has grown from. -/
theorem crossProductFree_of_grow {tables : List ℕ}
    (h : (tree.grow tables).CrossProductFree conditions) : tree.CrossProductFree conditions := by
  induction tables generalizing tree with
  | nil => exact h
  | cons table tables ih =>
    have whole : (join tree (leaf table)).CrossProductFree conditions := ih h
    exact whole.1

end JoinTree

open JoinTree

/-! ## Growing to plans -/

/-- **A tree over some tables of a set grows to a plan** over the set. -/
theorem exists_grow_mem_plansOver (nodup : tree.leaves.Nodup)
    (inside : tree.leaves.toFinset ⊆ s) : ∃ tables, tree.grow tables ∈ plansOver s := by
  have apart : tree.leaves.Disjoint (s \ tree.leaves.toFinset).toList := by
    intro table here there
    rw [Finset.mem_toList, Finset.mem_sdiff, List.mem_toFinset] at there
    exact there.2 here
  refine ⟨(s \ tree.leaves.toFinset).toList, mem_plansOver.2 ⟨?_, ?_⟩⟩
  · rw [leaves_grow]
    exact nodup.append (Finset.nodup_toList _) apart
  · rw [leaves_grow, List.toFinset_append, Finset.toList_toFinset,
      Finset.union_sdiff_of_subset inside]

/-- A free plan with a further table that is linked to it is a free plan. -/
theorem join_leaf_mem_freePlans {t : Finset ℕ} (h : tree ∈ freePlans conditions t) {a b : ℕ}
    (ha : a ∈ t) (hb : b ∉ t) (linked : conditions.contains a b = true) :
    join tree (leaf b) ∈ freePlans conditions (insert b t) := by
  obtain ⟨⟨nodup, rfl⟩, free⟩ := mem_freePlans.1 h
  rw [List.mem_toFinset] at ha hb
  have crossing : Linked conditions tree (leaf b) := ⟨a, ha, b, List.mem_singleton_self b, linked⟩
  refine mem_freePlans.2 ⟨⟨?_, ?_⟩, free, trivial, crossing⟩
  · rw [leaves_join, leaves_leaf]
    exact nodup.append (List.nodup_singleton b) (List.disjoint_singleton.2 hb)
  · rw [leaves_join, leaves_leaf, List.toFinset_append, Finset.union_comm]
    rfl

/-- **A free plan over a part of a set grows to a free plan** over the set, if each cut of the set
is crossed. -/
theorem exists_grow_mem_freePlans (crossed : ∀ q ∈ splits s, conditions.Crosses q.1 q.2)
    {t : Finset ℕ} (subset : t ⊆ s) (h : tree ∈ freePlans conditions t) :
    ∃ tables, tree.grow tables ∈ freePlans conditions s := by
  -- The induction is on the number of tables that are left.
  induction left : (s \ t).card generalizing tree t with
  | zero =>
    have whole : t = s :=
      subset.antisymm (Finset.sdiff_eq_empty_iff_subset.1 (Finset.card_eq_zero.1 left))
    exact ⟨[], whole ▸ h⟩
  | succ k ih =>
    have start : t.Nonempty := by
      rw [← (mem_freePlans.1 h).1.2]
      exact leaves_toFinset_nonempty tree
    have rest : (s \ t).Nonempty := Finset.card_pos.1 (by omega)
    have cut : (t, s \ t) ∈ splits s :=
      mem_splits.2 ⟨start, rest, Finset.disjoint_sdiff, Finset.union_sdiff_of_subset subset⟩
    -- Some table that is left is linked to the tree and may be joined to it.
    obtain ⟨a, ha, b, hb, linked⟩ := crossed _ cut
    obtain ⟨inside, outside⟩ := Finset.mem_sdiff.1 hb
    have fewer : (s \ insert b t).card = k := by
      rw [Finset.sdiff_insert, Finset.card_erase_of_mem hb, left, Nat.add_sub_cancel]
    obtain ⟨tables, grown⟩ := ih (Finset.insert_subset inside subset)
      (join_leaf_mem_freePlans h ha outside linked) fewer
    exact ⟨b :: tables, grown⟩

end JoinOrder
