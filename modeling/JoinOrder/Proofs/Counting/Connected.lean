/-
# Counts and Connectedness

There is a tree without a cross product over a set of tables exactly when each cut of the set is
crossed by a condition.  Such a tree is grown from a single table: as long as tables are left, some
condition leads from the tables of the tree to one of them, which is joined next.

Main statements: `planCount_ne_zero_iff`, and a graph has a positive count exactly when its shape is
connected (`count_pos_iff_connected`).
-/
import JoinOrder.Proofs.Counting.Cut
import JoinOrder.Proofs.Counting.Growth
import JoinOrder.Proofs.Counting.Sweep
import JoinOrder.Proofs.Graph.Shape

namespace JoinOrder

variable {conditions : ConditionSet} {s : Finset ℕ}

/-! ## Trees and cuts -/

/-- If each cut of a set is crossed, then there is a tree over the set. -/
theorem planCount_ne_zero_of_crosses (nonempty : s.Nonempty)
    (crossed : ∀ q ∈ splits s, conditions.Crosses q.1 q.2) : planCount conditions s ≠ 0 := by
  obtain ⟨root, hr⟩ := nonempty
  have start : JoinTree.leaf root ∈ freePlans conditions {root} :=
    mem_freePlans.2 ⟨⟨List.nodup_singleton root, by simp⟩, trivial⟩
  obtain ⟨tables, grown⟩ :=
    exists_grow_mem_freePlans crossed (Finset.singleton_subset_iff.2 hr) start
  rw [← card_freePlans]
  exact Finset.card_ne_zero_of_mem grown

/-- **There is a tree over a set** exactly when the set is not empty and each of its cuts is
crossed. -/
theorem planCount_ne_zero_iff :
    planCount conditions s ≠ 0 ↔
      s.Nonempty ∧ ∀ q ∈ splits s, conditions.Crosses q.1 q.2 := by
  constructor
  · intro trees
    refine ⟨?_, crosses_of_planCount_ne_zero trees⟩
    rw [Finset.nonempty_iff_ne_empty]
    rintro rfl
    exact trees (planCount_of_card_le_one (Nat.zero_le 1))
  · rintro ⟨nonempty, crossed⟩
    exact planCount_ne_zero_of_crosses nonempty crossed

/-! ## Graphs -/

/-- **The tables of a graph have a tree** exactly when its shape is connected. -/
theorem planCount_ne_zero_iff_connected {graph : JoinGraph} :
    planCount graph.conditions (Finset.range graph.size) ≠ 0 ↔ graph.shape.Connected := by
  rw [planCount_ne_zero_iff, JoinGraph.shape_connected_iff, Finset.nonempty_range_iff,
    Nat.pos_iff_ne_zero]

/-- A table without a condition with any other table keeps the shape from being connected, unless it
is the only table. -/
theorem JoinGraph.not_connected_of_isolated {graph : JoinGraph} (h : 2 ≤ graph.size)
    {table : String} (member : table ∈ graph.tables.names)
    (isolated : ∀ other, graph.hasCondition table other = true → other = table) :
    ¬ graph.shape.Connected := by
  intro connected
  have : Nontrivial (Fin graph.size) := Fin.nontrivial_iff_two_le.2 h
  have : Nontrivial {name // name ∈ graph.tables.names} := graph.numbering.symm.nontrivial
  -- In a connected shape every table has a neighbour.
  have linked : ⟨table, member⟩ ∈ graph.shape.support :=
    connected.preconnected.support_eq_univ ▸ Set.mem_univ _
  obtain ⟨other, apart, condition⟩ := linked
  exact apart (Subtype.ext (isolated other.1 condition).symm)

/-- **A count is positive exactly when the tables are connected** by the conditions between
different tables.  In particular it is zero if some table has conditions with itself only and is not
alone. -/
theorem count_pos_iff_connected {graph : JoinGraph} {settings : Settings} {c : ℕ}
    (counted : graph.count settings = .ok c) :
    (0 < c ↔ graph.shape.Connected) ∧
      ∀ table ∈ graph.tables.names,
        (∀ other, graph.hasCondition table other = true → other = table) → 2 ≤ graph.size →
        c = 0 := by
  have positive : 0 < c ↔ graph.shape.Connected := by
    rw [eq_planCount_of_count counted, Nat.pos_iff_ne_zero, planCount_ne_zero_iff_connected]
  refine ⟨positive, fun table member isolated h => ?_⟩
  by_contra some_tree
  exact JoinGraph.not_connected_of_isolated h member isolated
    (positive.1 (Nat.pos_of_ne_zero some_tree))

/-- Three tables in a row are connected and have trees; a third table with a condition of its own
only is not connected with the other two, and there is no tree. -/
theorem count_pos_iff_connected_three_tables :
    (∃ graph, JoinGraph.empty.registerAll [.condition "A" "B", .condition "B" "C"] = (graph, none) ∧
      graph.count .standard = .ok 8 ∧ graph.shape.Connected) ∧
    ∃ graph, JoinGraph.empty.registerAll [.condition "A" "B", .condition "C" "C"] = (graph, none) ∧
      graph.count .standard = .ok 0 ∧ ¬ graph.shape.Connected := by
  have row : (JoinGraph.empty.registerAll [.condition "A" "B", .condition "B" "C"]).1.count
      .standard = .ok 8 := by decide +kernel
  have alone : (JoinGraph.empty.registerAll [.condition "A" "B", .condition "C" "C"]).1.count
      .standard = .ok 0 := by decide +kernel
  refine ⟨⟨_, rfl, row, ?_⟩, ⟨_, rfl, alone, ?_⟩⟩
  · exact (count_pos_iff_connected row).1.1 (by decide)
  · intro connected
    exact absurd ((count_pos_iff_connected alone).1.2 connected) (Nat.lt_irrefl 0)

end JoinOrder
