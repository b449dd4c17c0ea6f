/-
# Counting the Trees of a Clique

In a clique every two tables are linked, so every tree is free of cross products and the count is
the size of the search space.  The edges of the first table register all tables, and every later
edge is between two tables that are there.

Main statements: the graph of a clique (`exists_build_clique`, `contains_clique`), the count of a
clique (`count_clique`), and that cliques are the graphs whose whole search space is free
(`whole_space_free_iff_clique`).
-/
import JoinOrder.Proofs.Counting.WholeSpace
import JoinOrder.Proofs.Topology.Build

namespace JoinOrder

namespace Topology

variable {n : ℕ}

/-! ## The graph -/

/-- The edges of a clique lead from each table to a later one. -/
theorem mem_edges_clique {e : ℕ × ℕ} : e ∈ clique.edges n ↔ e.1 < e.2 ∧ e.2 < n := by
  obtain ⟨a, b⟩ := e
  simp only [edges, List.mem_flatMap, List.mem_range, List.mem_map, List.mem_range'_1,
    Prod.mk.injEq]
  constructor
  · rintro ⟨i, hi, j, hj, rfl, rfl⟩
    omega
  · rintro ⟨ab, bn⟩
    exact ⟨a, by omega, b, by omega, rfl, rfl⟩

/-- **The conditions of a clique** are between any two different tables. -/
theorem contains_clique {a b : ℕ} :
    (clique.conditions n).contains a b = true ↔ a ≠ b ∧ a < n ∧ b < n := by
  rw [conditions, ConditionSet.contains_ofPairs]
  constructor
  · rintro ⟨e, member, ends⟩
    have order := mem_edges_clique.1 member
    omega
  · rintro ⟨apart, an, bn⟩
    rcases Nat.lt_or_gt_of_ne apart with ab | ba
    · exact ⟨(a, b), mem_edges_clique.2 ⟨ab, bn⟩, Or.inl ⟨rfl, rfl⟩⟩
    · exact ⟨(b, a), mem_edges_clique.2 ⟨ba, an⟩, Or.inr ⟨rfl, rfl⟩⟩

/-- The edges of the first table come first. -/
theorem exists_edges_clique_eq (k : ℕ) :
    ∃ rest, clique.edges (k + 1) = ((List.range' 1 k).map fun j => (0, j)) ++ rest := by
  rw [edges, List.range_succ_eq_map, List.flatMap_cons]
  exact ⟨_, rfl⟩

/-- The edges of a clique over at least one table may be registered after the first table. -/
theorem growing_clique (pos : 0 < n) :
    Growing 1 (clique.edges n) ∧ grownSize 1 (clique.edges n) = n := by
  obtain ⟨k, rfl⟩ := Nat.exists_eq_add_one.2 pos
  obtain ⟨rest, parted⟩ := exists_edges_clique_eq k
  -- The edges of the first table are those of a star, and then all tables are there.
  obtain ⟨growing, size⟩ := growing_successive (f := fun _ => 0) Nat.zero_le Nat.one_pos k
  rw [Nat.add_comm] at size
  have known : ∀ e ∈ rest, e.1 < k + 1 ∧ e.2 < k + 1 := by
    intro e member
    have order := mem_edges_clique.1 (parted ▸ List.mem_append_right _ member)
    omega
  obtain ⟨growing', size'⟩ := growing_of_forall_lt known
  rw [parted, grownSize_append, size]
  exact ⟨growing.append (size.symm ▸ growing'), size'⟩

/-- **Building a clique** succeeds. -/
theorem exists_build_clique (n : ℕ) :
    ∃ graph, clique.build n = .ok graph ∧ graph.tables.names = tableNames n ∧
      graph.conditions = clique.conditions n := by
  rcases Nat.eq_zero_or_pos n with rfl | pos
  · exact ⟨.empty, rfl, rfl, rfl⟩
  · obtain ⟨growing, size⟩ := growing_clique pos
    obtain ⟨graph, built, names, conditions⟩ := exists_build_of_growing pos growing
    exact ⟨graph, built, size ▸ names, conditions⟩

/-! ## The count -/

/-- **The count of a clique** is its closed form, and it fails with the closed form. -/
theorem count_clique {graph : JoinGraph} (size : graph.size = n)
    (conditions : graph.conditions = clique.conditions n) (settings : Settings) :
    graph.count settings = checked (clique.expectedCount n) := by
  rw [expectedCount_clique]
  rcases Nat.lt_or_ge n 2 with small | large
  · rw [count_of_size_le_one (by omega), size]
    rcases Nat.le_one_iff_eq_zero_or_eq_one.1 (Nat.le_of_lt_succ small) with rfl | rfl
    · rfl
    · rfl
  · have pos : 0 < n := by omega
    have complete : (clique.conditions n).Complete (Finset.range n) := fun a ha b hb apart =>
      contains_clique.2 ⟨apart, Finset.mem_range.1 ha, Finset.mem_range.1 hb⟩
    rw [count_eq_map_searchSpaceSize (size ▸ large), size, conditions,
      (freePairCount_eq_iff_complete pos).2 complete, searchSpaceSize_eq pos, multiply]
    split_ifs
    · rfl
    · rfl

end Topology

/-- **The whole search space is free exactly for cliques.**  Of at least two tables a count that
returns is at most the size of the search space, which fits a word, and it is this size exactly when
every two different tables have a condition.  Counting the graph of a clique gives what the closed
form gives, whatever the settings. -/
theorem whole_space_free_iff_clique :
    (∀ (graph : JoinGraph) (settings : Settings) (c : ℕ), 2 ≤ graph.size →
      graph.count settings = .ok c →
      searchSpaceSize graph.size =
          .ok (graph.size.factorial * (graph.size - 1).catalanNumber) ∧
        c ≤ graph.size.factorial * (graph.size - 1).catalanNumber ∧
        (c = graph.size.factorial * (graph.size - 1).catalanNumber ↔
          ∀ a ∈ graph.tables.names, ∀ b ∈ graph.tables.names, a ≠ b →
            graph.hasCondition a b = true)) ∧
    ∀ n, ∃ graph, Topology.clique.build n = .ok graph ∧ graph.size = n ∧
      ∀ settings, graph.count settings = checked (Topology.clique.expectedCount n) := by
  constructor
  · intro graph settings c h counted
    have pos : 0 < graph.size := by omega
    -- The count has returned, so the search space fits a word.
    obtain ⟨rfl, fits⟩ := eq_freePairCount_of_count h counted
    rw [← List.length_product, length_product_eq pos] at fits
    refine ⟨?_, freePairCount_le _ pos, ?_⟩
    · rw [searchSpaceSize_eq pos]
      exact multiply_eq_ok_iff.2 ⟨rfl, fits⟩
    · rw [freePairCount_eq_iff_complete pos, JoinGraph.complete_iff]
  · intro n
    obtain ⟨graph, built, names, conditions⟩ := Topology.exists_build_clique n
    have size : graph.size = n := Registry.size_of_names names
    exact ⟨graph, built, size, Topology.count_clique size conditions⟩

/-- Three tables in a row have a pair without a condition and eight of the twelve trees, and a
triangle has all of them. -/
theorem whole_space_free_iff_clique_three :
    (∃ row, JoinGraph.empty.registerAll [.condition "A" "B", .condition "B" "C"] = (row, none) ∧
      row.count .standard = .ok 8 ∧ searchSpaceSize 3 = .ok 12 ∧
      ¬ ∀ a ∈ row.tables.names, ∀ b ∈ row.tables.names, a ≠ b → row.hasCondition a b = true) ∧
    ∃ triangle, Topology.clique.build 3 = .ok triangle ∧ triangle.count .standard = .ok 12 ∧
      ∀ a ∈ triangle.tables.names, ∀ b ∈ triangle.tables.names, a ≠ b →
        triangle.hasCondition a b = true := by
  have space : (3).factorial * (3 - 1).catalanNumber = 12 := by
    rw [Nat.catalanNumber, catalan_two]
    rfl
  have eight : (JoinGraph.empty.registerAll
      [.condition "A" "B", .condition "B" "C"]).1.count .standard = .ok 8 := by decide +kernel
  constructor
  · obtain ⟨size, -, whole⟩ := whole_space_free_iff_clique.1 _ .standard 8 (by decide) eight
    refine ⟨_, rfl, eight, space ▸ size, fun linked => ?_⟩
    have twelve : 8 = 12 := (whole.2 linked).trans space
    omega
  · obtain ⟨triangle, built, size, counts⟩ := whole_space_free_iff_clique.2 3
    have counted : triangle.count .standard = .ok 12 := counts .standard
    obtain ⟨-, -, whole⟩ := whole_space_free_iff_clique.1 triangle .standard 12
      (size.symm ▸ (by decide)) counted
    rw [size, space] at whole
    exact ⟨triangle, built, counted, whole.1 rfl⟩

end JoinOrder
