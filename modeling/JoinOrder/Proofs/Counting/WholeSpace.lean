/-
# When the Whole Search Space Is Free

A count never exceeds the size of the search space.  It reaches that size exactly when every two
different tables have a condition: then the sides of any join are linked, and if two tables have
none, the plan that joins them first and then grows is not free.

Main statements: when every plan is free (`forall_crossProductFree_iff_complete`), when every pair
is (`freePairCount_eq_iff_complete`), and what a count does with its search space
(`count_eq_map_searchSpaceSize`).
-/
import JoinOrder.Proofs.Counting.Growth
import JoinOrder.Proofs.Counting.Sweep
import JoinOrder.Proofs.Graph.Shape
import JoinOrder.Proofs.SearchSpace.Size

namespace JoinOrder

open JoinTree

variable {conditions : ConditionSet} {s : Finset ℕ} {n : ℕ}

/-! ## Complete conditions -/

/-- Every two different tables of a set are linked. -/
def ConditionSet.Complete (conditions : ConditionSet) (s : Finset ℕ) : Prop :=
  ∀ a ∈ s, ∀ b ∈ s, a ≠ b → conditions.contains a b = true

/-- If every two tables are linked, then no plan has a cross product. -/
theorem crossProductFree_of_complete (complete : conditions.Complete s) {tree : JoinTree}
    (plan : tree ∈ plansOver s) : tree.CrossProductFree conditions := by
  induction tree generalizing s with
  | leaf table => trivial
  | join left right ihl ihr =>
    obtain ⟨p, hp, hl, hr⟩ := mem_plansOver_join.1 plan
    obtain ⟨⟨a, ha⟩, ⟨b, hb⟩, apart, whole⟩ := mem_splits.1 hp
    have first : p.1 ⊆ s := whole ▸ Finset.subset_union_left
    have second : p.2 ⊆ s := whole ▸ Finset.subset_union_right
    have linked : conditions.contains a b = true :=
      complete a (first ha) b (second hb) (Finset.disjoint_iff_ne.1 apart a ha b hb)
    refine ⟨ihl (fun c hc d hd => complete c (first hc) d (first hd)) hl,
      ihr (fun c hc d hd => complete c (second hc) d (second hd)) hr, ?_⟩
    rw [linked_iff_crosses, (mem_plansOver.1 hl).2, (mem_plansOver.1 hr).2]
    exact ⟨a, ha, b, hb, linked⟩

/-- **Every plan is free** exactly when every two tables are linked. -/
theorem forall_crossProductFree_iff_complete :
    (∀ tree ∈ plansOver s, tree.CrossProductFree conditions) ↔ conditions.Complete s := by
  constructor
  · intro free a ha b hb apart
    -- The two tables are joined first, and the join grows to a plan.
    have nodup : (join (leaf a) (leaf b)).leaves.Nodup := by simpa using apart
    have inside : (join (leaf a) (leaf b)).leaves.toFinset ⊆ s := by
      simpa [Finset.insert_subset_iff] using ⟨ha, hb⟩
    obtain ⟨tables, plan⟩ := exists_grow_mem_plansOver nodup inside
    obtain ⟨-, -, c, hc, d, hd, linked⟩ := crossProductFree_of_grow (free _ plan)
    rwa [List.mem_singleton.1 hc, List.mem_singleton.1 hd] at linked
  · intro complete tree plan
    exact crossProductFree_of_complete complete plan

/-! ## Pairs -/

/-- The number of pairs in the search space. -/
theorem length_product_eq (pos : 0 < n) :
    (leafOrders n ×ˢ templates n).length = n.factorial * (n - 1).catalanNumber := by
  rw [List.length_product, length_leafOrders_eq_factorial, length_templates pos]

/-- There are at most as many free pairs as pairs. -/
theorem freePairCount_le (conditions : ConditionSet) (pos : 0 < n) :
    freePairCount conditions n ≤ n.factorial * (n - 1).catalanNumber := by
  rw [← length_product_eq pos]
  exact List.countP_le_length

/-- **All pairs are free** exactly when every two tables are linked. -/
theorem freePairCount_eq_iff_complete (pos : 0 < n) :
    freePairCount conditions n = n.factorial * (n - 1).catalanNumber ↔
      conditions.Complete (Finset.range n) := by
  rw [← length_product_eq pos, freePairCount, List.countP_eq_length,
    ← forall_crossProductFree_iff_complete]
  constructor
  · intro free tree plan
    obtain ⟨pair, member, rfl⟩ := exists_planOf_eq plan
    exact (isFreePair_iff member).1 (free pair member)
  · intro free pair member
    exact (isFreePair_iff member).2 (free _ (planOf_mem_plansOver member))

/-! ## Counts -/

/-- A list that has the predicted size passes. -/
theorem verifySize_self (what : String) (size : ℕ) : verifySize what (.ok size) size = .ok () := by
  show (if size = size then _ else _) = _
  rw [if_pos rfl]
  rfl

/-- The size of the search space, verified or not, is what its closed form says. -/
theorem searchSpacePairs_eq (verify : Bool) (pos : 0 < n) :
    searchSpacePairs verify n (leafOrders n).length (templates n).length =
      checked (searchSpaceSize n) := by
  rw [length_leafOrders_eq_factorial, length_templates pos, searchSpaceSize_eq pos]
  cases verify with
  | false => rfl
  | true =>
    rcases Nat.lt_or_ge n.factorial wordBound with fits | beyond
    · -- Both lists have the predicted sizes, so the verification lets the product decide.
      have small := le_twenty_of_factorial_lt fits
      rw [searchSpacePairs, factorial_eq_ok fits, catalan_eq_ok_of_le_twenty (by omega), if_pos rfl,
        verifySize_self, verifySize_self]
      rfl
    · have grows := Nat.le_mul_of_pos_right n.factorial (catalanNumber_pos (n - 1))
      rw [searchSpacePairs, factorial_eq_error beyond,
        multiply_eq_error (Nat.le_trans beyond grows)]
      rfl

variable {graph : JoinGraph} {settings : Settings}

/-- **A count fails only if the size of its search space does not fit a word**; otherwise it is the
number of free pairs, whatever the settings. -/
theorem count_eq_map_searchSpaceSize (h : 2 ≤ graph.size) :
    graph.count settings =
      (checked (searchSpaceSize graph.size)).map
        fun _ => freePairCount graph.conditions graph.size := by
  rw [count_of_two_le_size h, searchSpacePairs_eq settings.verifySearchSpace (by omega)]

/-- Whether the tables of a graph are all linked, by their names. -/
theorem JoinGraph.complete_iff :
    graph.conditions.Complete (Finset.range graph.size) ↔
      ∀ a ∈ graph.tables.names, ∀ b ∈ graph.tables.names, a ≠ b →
        graph.hasCondition a b = true := by
  constructor
  · intro complete a ha b hb apart
    obtain ⟨i, first⟩ := graph.numbering.surjective ⟨a, ha⟩
    obtain ⟨j, second⟩ := graph.numbering.surjective ⟨b, hb⟩
    have linked := hasCondition_numbering i j
    rw [first, second] at linked
    rw [linked]
    refine complete i (Finset.mem_range.2 i.2) j (Finset.mem_range.2 j.2) fun same => apart ?_
    rw [Fin.ext same, second] at first
    exact (congrArg Subtype.val first).symm
  · intro linked i hi j hj apart
    lift i to Fin graph.size using Finset.mem_range.1 hi
    lift j to Fin graph.size using Finset.mem_range.1 hj
    rw [← hasCondition_numbering]
    refine linked _ (graph.numbering i).2 _ (graph.numbering j).2 fun same => apart ?_
    exact congrArg Fin.val (graph.numbering.injective (Subtype.ext same))

end JoinOrder
