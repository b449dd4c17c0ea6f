/-
# Plans

A plan of `n` tables is a tree in which each table is one leaf.  Putting a leaf order into a
template gives a plan, and every plan arises in this way exactly once: its leaf sequence is the
order, and its shape is the template.

Main statements: `instantiate_of_mem`, `leaves_relabel_of_mem`, `relabel_injective_of_mem`,
`exists_relabel_eq`.
-/
import JoinOrder.Proofs.SearchSpace.LeafOrder
import JoinOrder.Proofs.SearchSpace.Template
import JoinOrder.Tree.Instantiate

namespace JoinOrder

namespace JoinTree

/-! ## Relabelling -/

/-- The tree with every leaf index replaced. -/
def relabel (f : ℕ → ℕ) : JoinTree → JoinTree
  | leaf index => leaf (f index)
  | join left right => join (left.relabel f) (right.relabel f)

@[simp] theorem leaves_relabel (f : ℕ → ℕ) (tree : JoinTree) :
    (tree.relabel f).leaves = tree.leaves.map f := by
  induction tree with
  | leaf index => rfl
  | join left right ihl ihr => simp [relabel, ihl, ihr]

@[simp] theorem leafCount_relabel (f : ℕ → ℕ) (tree : JoinTree) :
    (tree.relabel f).leafCount = tree.leafCount := by
  rw [← length_leaves, leaves_relabel, List.length_map, length_leaves]

/-- Two trees with one leaf sequence that become the same tree are the same tree. -/
theorem eq_of_relabel_eq {f g : ℕ → ℕ} {a b : JoinTree} (same : a.relabel f = b.relabel g)
    (leaves : a.leaves = b.leaves) : a = b := by
  induction a generalizing b with
  | leaf i =>
    cases b with
    | leaf j => simpa using leaves
    | join l r => simp [relabel] at same
  | join l r ihl ihr =>
    cases b with
    | leaf j => simp [relabel] at same
    | join l' r' =>
      rw [relabel, relabel, join.injEq] at same
      -- The left sides have one shape, so both leaf sequences are parted at the same place.
      have count : l.leaves.length = l'.leaves.length := by
        have := congrArg leafCount same.1
        rwa [leafCount_relabel, leafCount_relabel, ← length_leaves, ← length_leaves] at this
      obtain ⟨hl, hr⟩ := List.append_inj leaves count
      rw [ihl same.1 hl, ihr same.2 hr]

/-! ## Templates from plans -/

/-- The tree of the same shape with its leaves numbered from left to right. -/
def numberFrom (first : ℕ) : JoinTree → JoinTree
  | leaf _ => leaf first
  | join left right =>
    join (left.numberFrom first) (right.numberFrom (first + left.leafCount))

theorem leaves_numberFrom (first : ℕ) (tree : JoinTree) :
    (tree.numberFrom first).leaves = List.range' first tree.leafCount := by
  induction tree generalizing first with
  | leaf index => rfl
  | join left right ihl ihr =>
    rw [numberFrom, leaves_join, ihl, ihr, leafCount, List.range'_append_1]

/-- Numbering the leaves and looking the numbers up in the leaf sequence gives the tree back. -/
theorem relabel_numberFrom (tree : JoinTree) (before after : List ℕ) :
    (tree.numberFrom before.length).relabel
      (fun slot => (before ++ tree.leaves ++ after).getD slot 0) = tree := by
  -- For the sides of a join the leaves of the other side stand before or after their own.
  induction tree generalizing before after with
  | leaf index => simp [numberFrom, relabel]
  | join left right ihl ihr =>
    have hl := ihl before (right.leaves ++ after)
    have hr := ihr (before ++ left.leaves) after
    rw [List.length_append, length_leaves] at hr
    simp only [List.append_assoc] at hl hr
    rw [numberFrom, relabel, leaves_join]
    simp only [List.append_assoc]
    rw [hl, hr]

/-! ## Instantiation -/

/-- **A template whose slots the order has is instantiated** by replacing the slots. -/
theorem instantiate_eq_ok {template : JoinTree} {order : List ℕ}
    (h : ∀ slot ∈ template.leaves, slot < order.length) :
    template.instantiate order = .ok (template.relabel fun slot => order.getD slot 0) := by
  induction template with
  | leaf slot =>
    have inside : slot < order.length := h slot (by simp)
    simp [instantiate_leaf, relabel, inside]
  | join left right ihl ihr =>
    rw [instantiate_join, ihl fun slot hs => h slot (by simp [hs]),
      ihr fun slot hs => h slot (by simp [hs])]
    rfl

end JoinTree

variable {n : ℕ} {template template' tree : JoinTree} {order order' : List ℕ}

open JoinTree

/-- **A template and a leaf order make a plan.** -/
theorem instantiate_of_mem (ht : template ∈ templates n) (ho : order ∈ leafOrders n) :
    template.instantiate order = .ok (template.relabel fun slot => order.getD slot 0) := by
  apply instantiate_eq_ok
  intro slot hs
  rw [mem_templates_iff.1 ht, List.mem_range] at hs
  rwa [length_of_mem_arrangements ho]

/-- The leaf sequence of a plan is its leaf order. -/
theorem leaves_relabel_of_mem (ht : template ∈ templates n) (ho : order ∈ leafOrders n) :
    (template.relabel fun slot => order.getD slot 0).leaves = order := by
  have length : order.length = n := length_of_mem_arrangements ho
  rw [leaves_relabel, mem_templates_iff.1 ht]
  apply List.ext_getElem
  · simp [length]
  · intro i hi hi'
    simp [hi']

/-- **Different pairs make different plans.** -/
theorem relabel_injective_of_mem (ht : template ∈ templates n) (ho : order ∈ leafOrders n)
    (ht' : template' ∈ templates n) (ho' : order' ∈ leafOrders n)
    (same : (template.relabel fun slot => order.getD slot 0) =
      template'.relabel fun slot => order'.getD slot 0) :
    order = order' ∧ template = template' := by
  constructor
  · rw [← leaves_relabel_of_mem ht ho, same, leaves_relabel_of_mem ht' ho']
  · apply eq_of_relabel_eq same
    rw [mem_templates_iff.1 ht, mem_templates_iff.1 ht']

/-- **Every plan is made by a pair**: its shape and its leaf sequence. -/
theorem exists_relabel_eq (h : tree.leaves.Perm (List.range n)) :
    ∃ order ∈ leafOrders n, ∃ template ∈ templates n,
      (template.relabel fun slot => order.getD slot 0) = tree := by
  refine ⟨tree.leaves, mem_leafOrders_iff.2 h, tree.numberFrom 0, mem_templates_iff.2 ?_, ?_⟩
  · have count := h.length_eq
    rw [length_leaves, List.length_range] at count
    rw [leaves_numberFrom, count, List.range_eq_range']
  · simpa using relabel_numberFrom tree [] []

end JoinOrder
