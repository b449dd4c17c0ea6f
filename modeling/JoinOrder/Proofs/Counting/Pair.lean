/-
# Counting Pairs of Orders and Templates

The search space is the list of all pairs of a leaf order and a template.  Since the plans arise
from the pairs one by one, counting the pairs whose tree is judged free of cross products counts the
free plans.

Main statements: the judgement on a pair (`judge_of_mem`), and the number of free pairs as given by
the subset recurrence (`freePairCount_eq_planCount`).
-/
import Mathlib.Data.Finset.Card
import Mathlib.Data.List.ProdSigma
import JoinOrder.Proofs.Connectivity.Session
import JoinOrder.Proofs.Counting.Plan
import JoinOrder.Proofs.SearchSpace.Plan

namespace JoinOrder

open JoinTree

/-- What is found out about the tree of an order and a template when nothing is known before. -/
def judge (conditions : ConditionSet) (order : List ℕ) (template : JoinTree) :
    Except Error Bool := do
  let tree ← template.instantiate order
  ((tree.askCrossProductFree conditions).run.run .empty).1

/-- Whether the tree of an order and a template is judged free of cross products. -/
def isFreePair (conditions : ConditionSet) (pair : List ℕ × JoinTree) : Bool :=
  judge conditions pair.1 pair.2 matches .ok true

/-- The number of pairs of a leaf order and a template of `n` tables whose tree is judged free of
cross products. -/
def freePairCount (conditions : ConditionSet) (n : ℕ) : ℕ :=
  (leafOrders n ×ˢ templates n).countP (isFreePair conditions)

/-- The plan that a pair makes. -/
def planOf (pair : List ℕ × JoinTree) : JoinTree := pair.2.relabel fun slot => pair.1.getD slot 0

variable {conditions : ConditionSet} {n : ℕ}

/-- **A pair is judged by its plan**: there is a verdict, and it is right. -/
theorem judge_of_mem {order : List ℕ} {template : JoinTree} (ho : order ∈ leafOrders n)
    (ht : template ∈ templates n) :
    judge conditions order template =
      .ok (decide ((planOf (order, template)).CrossProductFree conditions)) := by
  rw [judge, instantiate_of_mem ht ho]
  show ((askCrossProductFree conditions _).run.run _).1 = _
  rw [askCrossProductFree_eq_lift, run_lift]
  have value := (yields_checkCrossProducts (planOf (order, template)) .empty
    (Memo.sound_empty conditions)).1
  exact congrArg Except.ok value

/-- The plans over all tables are the trees whose leaf sequence is a permutation. -/
theorem mem_plansOver_range {tree : JoinTree} :
    tree ∈ plansOver (Finset.range n) ↔ tree.leaves.Perm (List.range n) := by
  rw [mem_plansOver]
  constructor
  · rintro ⟨nodup, leaves⟩
    rw [List.perm_ext_iff_of_nodup nodup List.nodup_range]
    intro table
    rw [← List.mem_toFinset, leaves, Finset.mem_range, List.mem_range]
  · intro perm
    refine ⟨perm.nodup_iff.2 List.nodup_range, ?_⟩
    ext table
    rw [List.mem_toFinset, perm.mem_iff, List.mem_range, Finset.mem_range]

/-- The plan of a pair is a plan over all tables. -/
theorem planOf_mem_plansOver {pair : List ℕ × JoinTree} (h : pair ∈ leafOrders n ×ˢ templates n) :
    planOf pair ∈ plansOver (Finset.range n) := by
  obtain ⟨ho, ht⟩ := List.mem_product.1 h
  rw [mem_plansOver_range, planOf, leaves_relabel_of_mem ht ho]
  exact mem_leafOrders_iff.1 ho

/-- Whether a pair counts depends on its plan. -/
theorem isFreePair_iff {pair : List ℕ × JoinTree} (h : pair ∈ leafOrders n ×ˢ templates n) :
    isFreePair conditions pair = true ↔ (planOf pair).CrossProductFree conditions := by
  obtain ⟨ho, ht⟩ := List.mem_product.1 h
  rw [isFreePair, judge_of_mem ho ht]
  by_cases free : (planOf pair).CrossProductFree conditions <;> simp [free]

/-- Different pairs make different plans. -/
theorem planOf_injective_of_mem {pair pair' : List ℕ × JoinTree}
    (h : pair ∈ leafOrders n ×ˢ templates n) (h' : pair' ∈ leafOrders n ×ˢ templates n)
    (same : planOf pair = planOf pair') : pair = pair' := by
  obtain ⟨ho, ht⟩ := List.mem_product.1 h
  obtain ⟨ho', ht'⟩ := List.mem_product.1 h'
  obtain ⟨order, template⟩ := relabel_injective_of_mem ht ho ht' ho' same
  exact Prod.ext order template

/-- Every plan over all tables is made by a pair. -/
theorem exists_planOf_eq {tree : JoinTree} (h : tree ∈ plansOver (Finset.range n)) :
    ∃ pair ∈ leafOrders n ×ˢ templates n, planOf pair = tree := by
  obtain ⟨order, ho, template, ht, made⟩ := exists_relabel_eq (mem_plansOver_range.1 h)
  exact ⟨(order, template), List.mem_product.2 ⟨ho, ht⟩, made⟩

/-- **The free pairs are as many as the recurrence says.** -/
theorem freePairCount_eq_planCount (conditions : ConditionSet) (n : ℕ) :
    freePairCount conditions n = planCount conditions (Finset.range n) := by
  -- No pair is listed twice, so the free pairs are counted as a set.
  have nodup : (leafOrders n ×ˢ templates n).Nodup :=
    (nodup_leafOrders n).product (nodup_templates n)
  rw [freePairCount, List.countP_eq_length_filter,
    ← List.toFinset_card_of_nodup (nodup.filter _), ← card_freePlans]
  refine Finset.card_nbij planOf ?_ ?_ ?_
  · intro pair h
    obtain ⟨member, free⟩ := List.mem_filter.1 (List.mem_toFinset.1 h)
    exact Finset.mem_filter.2 ⟨planOf_mem_plansOver member, (isFreePair_iff member).1 free⟩
  · intro pair h pair' h' same
    obtain ⟨member, -⟩ := List.mem_filter.1 (List.mem_toFinset.1 h)
    obtain ⟨member', -⟩ := List.mem_filter.1 (List.mem_toFinset.1 h')
    exact planOf_injective_of_mem member member' same
  · intro tree h
    obtain ⟨plan, free⟩ := Finset.mem_filter.1 h
    obtain ⟨pair, member, rfl⟩ := exists_planOf_eq plan
    exact ⟨pair, List.mem_toFinset.2 (List.mem_filter.2 ⟨member, (isFreePair_iff member).2 free⟩),
      rfl⟩

end JoinOrder
