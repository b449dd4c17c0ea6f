/-
# Graphs Shaped Like a Tree

In a graph that is shaped like a tree the top join of a tree without a cross product uses one
condition: its sides are trees over the two parts that the removal of this condition leaves.  So the
trees of the graph are found from those of the parts, one condition after the other.

Main statements: the graphs of the two parts share the tables and have the trees over the parts
(`TreeShaped.mem_names_of_components`, `TreeShaped.freePairCount_components`), and the count is the
sum over the conditions (`count_treeShaped`).
-/
import JoinOrder.Proofs.Counting.Bridge
import JoinOrder.Proofs.Counting.Connected
import JoinOrder.Proofs.Graph.Component
import JoinOrder.Proofs.Graph.Removal

namespace JoinOrder

namespace JoinGraph

variable {graph : JoinGraph} {e : Condition}

/-- Removing a condition does not matter to tables of which not both are its ends. -/
theorem planCount_without {t : Finset ℕ} (apart : ∀ a ∈ t, ∀ b ∈ t, Condition.between a b ≠ e) :
    planCount (graph.without e).conditions t = planCount graph.conditions t := by
  refine planCount_congr fun a ha b hb _ => Bool.eq_iff_iff.2 ?_
  rw [contains_without, and_iff_right (apart a ha b hb)]

namespace TreeShaped

/-! ## The parts of a graph -/

/-- Neither part holds both ends of the condition. -/
theorem not_both_ends (h : graph.TreeShaped) (he : e ∈ graph.conditions.toList) :
    (∀ a ∈ (graph.parts e).1, ∀ b ∈ (graph.parts e).1, Condition.between a b ≠ e) ∧
      ∀ a ∈ (graph.parts e).2, ∀ b ∈ (graph.parts e).2, Condition.between a b ≠ e := by
  obtain ⟨-, -, apart, -⟩ := mem_splits.1 (h.parts_mem_splits he)
  have first : e.first ∈ (graph.parts e).1 := self_mem_component (ends_lt_size he).1
  have second : e.second ∈ (graph.parts e).2 := self_mem_component (ends_lt_size he).2
  constructor
  · intro a ha b hb same
    apply Finset.disjoint_right.1 apart second
    exact (Condition.mem_of_between_eq (same.trans e.between_ends.symm) ha hb).2
  · intro a ha b hb same
    apply Finset.disjoint_left.1 apart first
    exact (Condition.mem_of_between_eq (same.trans e.between_ends.symm) ha hb).1

/-- **Each table is in one of the two parts** that the removal of a condition leaves. -/
theorem mem_names_of_components (h : graph.TreeShaped) (he : e ∈ graph.conditions.toList)
    {first second : JoinGraph} (hf : first.IsComponent (graph.without e) e.first)
    (hs : second.IsComponent (graph.without e) e.second) {name : String}
    (member : name ∈ graph.tables.names) :
    (name ∈ first.tables.names ∧ name ∉ second.tables.names) ∨
      (name ∈ second.tables.names ∧ name ∉ first.tables.names) := by
  obtain ⟨k, same⟩ := (graph.without e).numbering.surjective ⟨name, member⟩
  have called : ((graph.without e).numbering k).1 = name := congrArg Subtype.val same
  obtain ⟨-, -, apart, whole⟩ := mem_splits.1 (h.parts_mem_splits he)
  have inside : k.1 ∈ (graph.parts e).1 ∪ (graph.parts e).2 :=
    whole.symm ▸ Finset.mem_range.2 k.2
  rw [← called, hf.mem_names_numbering, hs.mem_names_numbering]
  rcases Finset.mem_union.1 inside with reached | reached
  · exact Or.inl ⟨reached, Finset.disjoint_left.1 apart reached⟩
  · exact Or.inr ⟨reached, Finset.disjoint_right.1 apart reached⟩

/-- The trees of the graphs of the two parts are the trees over the parts. -/
theorem freePairCount_components (h : graph.TreeShaped) (he : e ∈ graph.conditions.toList)
    {first second : JoinGraph} (hf : first.IsComponent (graph.without e) e.first)
    (hs : second.IsComponent (graph.without e) e.second) :
    freePairCount first.conditions first.size = planCount graph.conditions (graph.parts e).1 ∧
      freePairCount second.conditions second.size =
        planCount graph.conditions (graph.parts e).2 := by
  obtain ⟨apart, apart'⟩ := h.not_both_ends he
  rw [freePairCount_eq_planCount, freePairCount_eq_planCount, hf.planCount_eq, hs.planCount_eq]
  exact ⟨planCount_without apart, planCount_without apart'⟩

/-! ## The sum over the conditions -/

/-- **The trees of a graph shaped like a tree**, by the condition of the top join. -/
theorem planCount_eq_sum_parts (h : graph.TreeShaped) (two : 2 ≤ graph.size) :
    planCount graph.conditions (Finset.range graph.size) =
      (graph.conditions.toList.map fun e =>
        2 * planCount graph.conditions (graph.parts e).1 *
          planCount graph.conditions (graph.parts e).2).sum := by
  have large : 2 ≤ (Finset.range graph.size).card := by rwa [Finset.card_range]
  rw [planCount_eq_sum_of_bridges large graph.conditions.toList.toFinset graph.parts,
    List.sum_toFinset _ graph.conditions.nodup_toList]
  · intro e he
    rw [List.mem_toFinset] at he
    exact ⟨h.parts_mem_splits he, h.bridges_parts he⟩
  · intro a _ b _ linked
    exact List.mem_toFinset.2 (ConditionSet.contains_iff_mem.1 linked)

end TreeShaped

end JoinGraph

/-- **A graph shaped like a tree is counted by removing one condition at a time.**  If at least two
tables are connected by one condition less than there are tables, then no condition is between a
table and itself, and removing any condition leaves two components, each of which can be registered
as a graph of its own.  Whatever graphs hold the components, in whatever order their tables are
numbered, the number of trees is the sum over the conditions of twice the product of the numbers for
both components, and a count returns it. -/
theorem count_treeShaped {graph : JoinGraph} (two : 2 ≤ graph.size) (h : graph.TreeShaped) :
    (∀ e ∈ graph.conditions.toList, e.first ≠ e.second ∧
      ∃ first second : JoinGraph, first.IsComponent (graph.without e) e.first ∧
        second.IsComponent (graph.without e) e.second ∧
        ∀ name ∈ graph.tables.names,
          (name ∈ first.tables.names ∧ name ∉ second.tables.names) ∨
            (name ∈ second.tables.names ∧ name ∉ first.tables.names)) ∧
    ∀ first second : Condition → JoinGraph,
      (∀ e ∈ graph.conditions.toList, (first e).IsComponent (graph.without e) e.first ∧
        (second e).IsComponent (graph.without e) e.second) →
      freePairCount graph.conditions graph.size =
          (graph.conditions.toList.map fun e =>
            2 * freePairCount (first e).conditions (first e).size *
              freePairCount (second e).conditions (second e).size).sum ∧
        ∀ settings c, graph.count settings = .ok c →
          c = (graph.conditions.toList.map fun e =>
            2 * freePairCount (first e).conditions (first e).size *
              freePairCount (second e).conditions (second e).size).sum := by
  constructor
  · intro e he
    obtain ⟨first, hf⟩ := (graph.without e).exists_isComponent e.first
    obtain ⟨second, hs⟩ := (graph.without e).exists_isComponent e.second
    exact ⟨h.first_ne_second he, first, second, hf, hs,
      fun name member => h.mem_names_of_components he hf hs member⟩
  · intro first second components
    have total : freePairCount graph.conditions graph.size =
        (graph.conditions.toList.map fun e =>
          2 * freePairCount (first e).conditions (first e).size *
            freePairCount (second e).conditions (second e).size).sum := by
      rw [freePairCount_eq_planCount, h.planCount_eq_sum_parts two]
      congr 1
      refine List.map_congr_left fun e he => ?_
      obtain ⟨hf, hs⟩ := components e he
      obtain ⟨left, right⟩ := h.freePairCount_components he hf hs
      rw [left, right]
    refine ⟨total, fun settings c counted => ?_⟩
    rw [← total]
    exact (eq_freePairCount_of_count two counted).1

/-- Three tables in a row fall apart into a pair and a single table at either condition, and their
eight trees are found from those of the parts. -/
theorem count_treeShaped_three_in_a_row :
    ∃ row, JoinGraph.empty.registerAll [.condition "A" "B", .condition "B" "C"] = (row, none) ∧
      row.TreeShaped ∧ row.count .standard = .ok 8 ∧
      ∃ first second : Condition → JoinGraph,
        (∀ e ∈ row.conditions.toList, (first e).IsComponent (row.without e) e.first ∧
          (second e).IsComponent (row.without e) e.second) ∧
        8 = (row.conditions.toList.map fun e =>
          2 * freePairCount (first e).conditions (first e).size *
            freePairCount (second e).conditions (second e).size).sum := by
  obtain ⟨row, made⟩ : ∃ row,
      JoinGraph.empty.registerAll [.condition "A" "B", .condition "B" "C"] = (row, none) :=
    ⟨_, rfl⟩
  have counted : row.count .standard = .ok 8 := by
    cases made
    decide +kernel
  have size : row.size = 3 ∧ row.conditions.size = 2 := by
    cases made
    decide
  have connected : row.shape.Connected := by
    rw [← planCount_ne_zero_iff_connected, ← eq_planCount_of_count counted]
    decide
  have shaped : row.TreeShaped := ⟨connected, by omega⟩
  obtain ⟨parted, summed⟩ := count_treeShaped (by omega) shaped
  have : Nonempty JoinGraph := ⟨.empty⟩
  choose! apart first second hf hs _ using parted
  have components := fun e he => And.intro (hf e he) (hs e he)
  exact ⟨row, made, shaped, counted, first, second, components,
    (summed first second components).2 .standard 8 counted⟩

end JoinOrder
