/-
# The Size of the Search Space

The leaf orders are the permutations of the tables.  A template is known by its joins alone, since
its leaves are numbered from left to right; without the leaves it is a binary tree with one node for
each join, and every such tree arises.

Main statements: the number of leaf orders (`length_leafOrders_eq_factorial`) and the number of
templates (`length_templates`).
-/
import Mathlib.Combinatorics.Enumerative.Catalan.Tree
import Mathlib.Data.List.Permutation
import JoinOrder.Proofs.ClosedForm
import JoinOrder.Proofs.SearchSpace.Plan

namespace JoinOrder

/-! ## Leaf orders -/

/-- **There are `n!` leaf orders** of `n` tables. -/
theorem length_leafOrders_eq_factorial (n : ℕ) : (leafOrders n).length = n.factorial := by
  have same : (leafOrders n).Perm (List.range n).permutations :=
    (List.perm_ext_iff_of_nodup (nodup_leafOrders n)
      (List.nodup_permutations _ List.nodup_range)).2 fun order =>
        mem_leafOrders_iff.trans List.mem_permutations.symm
  rw [same.length_eq, List.length_permutations, List.length_range]

theorem length_leafOrders_pos (n : ℕ) : 0 < (leafOrders n).length := by
  rw [length_leafOrders_eq_factorial]
  exact n.factorial_pos

/-! ## The joins of a tree -/

namespace JoinTree

/-- The binary tree of the joins: what is left of a tree without its leaves. -/
def skeleton : JoinTree → BinaryTree Unit
  | leaf _ => .nil
  | join left right => .node () left.skeleton right.skeleton

/-- The tree with given joins in which every leaf is the first table. -/
def ofSkeleton : BinaryTree Unit → JoinTree
  | .nil => leaf 0
  | .node _ left right => join (ofSkeleton left) (ofSkeleton right)

theorem ofSkeleton_skeleton (tree : JoinTree) :
    ofSkeleton tree.skeleton = tree.relabel fun _ => 0 := by
  induction tree with
  | leaf index => rfl
  | join left right ihl ihr => rw [skeleton, ofSkeleton, ihl, ihr, relabel]

theorem skeleton_ofSkeleton (joins : BinaryTree Unit) : (ofSkeleton joins).skeleton = joins := by
  induction joins with
  | nil => rfl
  | node _ left right ihl ihr => rw [ofSkeleton, skeleton, ihl, ihr]

/-- Numbering the leaves keeps the joins. -/
theorem skeleton_numberFrom (first : ℕ) (tree : JoinTree) :
    (tree.numberFrom first).skeleton = tree.skeleton := by
  induction tree generalizing first with
  | leaf index => rfl
  | join left right ihl ihr => rw [numberFrom, skeleton, ihl, ihr, skeleton]

/-- There is one leaf more than there are joins. -/
theorem numNodes_skeleton (tree : JoinTree) : tree.skeleton.numNodes + 1 = tree.leafCount := by
  induction tree with
  | leaf index => rfl
  | join left right ihl ihr =>
    rw [skeleton, BinaryTree.numNodes, leafCount]
    omega

/-- Trees with the same joins and the same leaf sequence are the same. -/
theorem eq_of_skeleton_eq {a b : JoinTree} (joins : a.skeleton = b.skeleton)
    (leaves : a.leaves = b.leaves) : a = b := by
  have same : (a.relabel fun _ => 0) = b.relabel fun _ => 0 := by
    rw [← ofSkeleton_skeleton, joins, ofSkeleton_skeleton]
  exact eq_of_relabel_eq same leaves

end JoinTree

open JoinTree

/-! ## Templates -/

/-- **The number of templates is a Catalan number**: they correspond to the binary trees with a node
for each join. -/
theorem length_templates {n : ℕ} (pos : 0 < n) :
    (templates n).length = (n - 1).catalanNumber := by
  rw [← List.toFinset_card_of_nodup (nodup_templates n), Nat.catalanNumber,
    ← BinaryTree.treesOfNumNodesEq_card_eq_catalan]
  refine Finset.card_nbij skeleton ?_ ?_ ?_
  · intro tree h
    have leaves := mem_templates_iff.1 (List.mem_toFinset.1 h)
    have count : tree.leafCount = n := by rw [← length_leaves, leaves, List.length_range]
    have joins := numNodes_skeleton tree
    exact BinaryTree.mem_treesOfNumNodesEq.2 (by omega)
  · intro tree h tree' h' same
    have leaves := mem_templates_iff.1 (List.mem_toFinset.1 h)
    have leaves' := mem_templates_iff.1 (List.mem_toFinset.1 h')
    exact eq_of_skeleton_eq same (leaves.trans leaves'.symm)
  · intro joins h
    -- Some tree has these joins, and its leaves may be numbered.
    have nodes : joins.numNodes = n - 1 := BinaryTree.mem_treesOfNumNodesEq.1 h
    have count := numNodes_skeleton (ofSkeleton joins)
    rw [skeleton_ofSkeleton, nodes, Nat.sub_add_cancel pos] at count
    refine ⟨(ofSkeleton joins).numberFrom 0, List.mem_toFinset.2 (mem_templates_iff.2 ?_), ?_⟩
    · rw [leaves_numberFrom, ← count, List.range_eq_range']
    · rw [skeleton_numberFrom, skeleton_ofSkeleton]

/-- Four leaves can be joined in five ways. -/
example : (templates 4).length = 5 := rfl

end JoinOrder
