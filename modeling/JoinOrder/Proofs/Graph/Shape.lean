/-
# The Shape of a Join Graph

The shape of a join graph is the undirected graph of its tables: two different tables are neighbours
when there is a condition between them.  Conditions of a table with itself leave no trace in it, and
neither do the numbers of the tables.

A component holds the tables that are reached from one of them.  No condition leads out of it, and a
condition crosses each of its cuts.

Main statements: neighbours by their numbers (`shape_adj_numbering`), what makes a component
(`mem_component_of_contains`, `crosses_of_mem_splits_component`), and a shape is connected exactly
when there is a table and each cut of the numbers is crossed by a condition (`shape_connected_iff`).
-/
import Mathlib.Combinatorics.SimpleGraph.Connectivity.Finite
import Mathlib.Data.List.NodupEquivFin
import JoinOrder.Graph.Basic
import JoinOrder.Proofs.Counting.Recurrence

namespace JoinOrder

namespace JoinGraph

variable {graph : JoinGraph}

/-! ## Shapes -/

/-- Being linked has no direction. -/
theorem hasCondition_comm (graph : JoinGraph) (left right : String) :
    graph.hasCondition left right = graph.hasCondition right left := by
  unfold hasCondition
  cases graph.tables.id? left <;> cases graph.tables.id? right <;>
    simp [ConditionSet.contains_comm]

/-- The undirected graph of the tables, by their names: different tables with a condition between
them are neighbours. -/
def shape (graph : JoinGraph) : SimpleGraph {name // name ∈ graph.tables.names} where
  Adj a b := a ≠ b ∧ graph.hasCondition a.1 b.1 = true
  symm := ⟨fun a b h => ⟨h.1.symm, by rw [hasCondition_comm]; exact h.2⟩⟩
  loopless := ⟨fun a h => h.1 rfl⟩

/-! ## Numbers -/

/-- The table with each number. -/
def numbering (graph : JoinGraph) : Fin graph.size ≃ {name // name ∈ graph.tables.names} :=
  (finCongr graph.tables.length_names.symm).trans
    (graph.tables.nodup_names.getEquiv graph.tables.names)

theorem id?_numbering (i : Fin graph.size) :
    graph.tables.id? (graph.numbering i).1 = some i.1 := by
  rw [Registry.id?_eq_some_iff, Registry.name?]
  exact List.getElem?_eq_getElem _

/-- Whether two tables are linked is found by their numbers. -/
theorem hasCondition_numbering (i j : Fin graph.size) :
    graph.hasCondition (graph.numbering i).1 (graph.numbering j).1 =
      graph.conditions.contains i j := by
  rw [hasCondition, id?_numbering, id?_numbering]

/-- **Neighbours by their numbers.** -/
theorem shape_adj_numbering {i j : Fin graph.size} :
    graph.shape.Adj (graph.numbering i) (graph.numbering j) ↔
      i ≠ j ∧ graph.conditions.contains i j = true := by
  rw [← hasCondition_numbering]
  exact and_congr_left fun _ => graph.numbering.injective.ne_iff

/-- Linked tables are registered. -/
theorem lt_size_of_contains {a b : ℕ} (h : graph.conditions.contains a b = true) :
    a < graph.size ∧ b < graph.size := by
  have larger := graph.known _ (ConditionSet.contains_iff_mem.1 h)
  rw [Condition.second_between] at larger
  exact Nat.max_lt.1 larger

/-! ## Components -/

open Classical in
/-- The numbers of the tables that are reached from a table. -/
noncomputable def component (graph : JoinGraph) (root : ℕ) : Finset ℕ :=
  {k ∈ Finset.range graph.size | ∃ i j : Fin graph.size, i.1 = root ∧ j.1 = k ∧
    graph.shape.Reachable (graph.numbering i) (graph.numbering j)}

theorem mem_component {root k : ℕ} :
    k ∈ graph.component root ↔ ∃ i j : Fin graph.size, i.1 = root ∧ j.1 = k ∧
      graph.shape.Reachable (graph.numbering i) (graph.numbering j) := by
  classical
  rw [component, Finset.mem_filter, and_iff_right_of_imp]
  rintro ⟨-, j, -, rfl, -⟩
  exact Finset.mem_range.2 j.2

theorem component_subset (graph : JoinGraph) (root : ℕ) :
    graph.component root ⊆ Finset.range graph.size := by
  intro k h
  obtain ⟨-, j, -, rfl, -⟩ := mem_component.1 h
  exact Finset.mem_range.2 j.2

theorem val_mem_component {i j : Fin graph.size} :
    j.1 ∈ graph.component i ↔ graph.shape.Reachable (graph.numbering i) (graph.numbering j) := by
  rw [mem_component]
  constructor
  · rintro ⟨i', j', first, second, reached⟩
    rwa [Fin.ext first, Fin.ext second] at reached
  · intro reached
    exact ⟨i, j, rfl, rfl, reached⟩

/-- A registered table is reached from itself. -/
theorem self_mem_component {root : ℕ} (h : root < graph.size) : root ∈ graph.component root := by
  lift root to Fin graph.size using h
  exact val_mem_component.2 .rfl

/-- A table that is reached reaches the same tables. -/
theorem component_eq_of_mem {root k : ℕ} (h : k ∈ graph.component root) :
    graph.component k = graph.component root := by
  obtain ⟨i, j, rfl, rfl, reached⟩ := mem_component.1 h
  ext l
  constructor
  · intro member
    obtain ⟨-, m, -, rfl, -⟩ := mem_component.1 member
    exact val_mem_component.2 (reached.trans (val_mem_component.1 member))
  · intro member
    obtain ⟨-, m, -, rfl, -⟩ := mem_component.1 member
    exact val_mem_component.2 (reached.symm.trans (val_mem_component.1 member))

/-- Only a registered table reaches any. -/
theorem lt_size_of_mem_component {root k : ℕ} (h : k ∈ graph.component root) :
    root < graph.size := by
  obtain ⟨i, -, rfl, -⟩ := mem_component.1 h
  exact i.2

/-- **A component is closed**: a condition from one of its tables leads to one of its tables. -/
theorem mem_component_of_contains {root a b : ℕ} (ha : a ∈ graph.component root)
    (h : graph.conditions.contains a b = true) : b ∈ graph.component root := by
  obtain ⟨first, second⟩ := lt_size_of_contains h
  have start := lt_size_of_mem_component ha
  lift root to Fin graph.size using start
  lift a to Fin graph.size using first
  lift b to Fin graph.size using second
  rw [val_mem_component] at ha ⊢
  rcases eq_or_ne a b with rfl | apart
  · exact ha
  · exact ha.trans (shape_adj_numbering.2 ⟨apart, h⟩).reachable

/-- A walk out of some tables leaves them at a condition. -/
theorem exists_contains_of_reachable {i j : Fin graph.size}
    (reached : graph.shape.Reachable (graph.numbering i) (graph.numbering j)) {t : Finset ℕ}
    (inside : i.1 ∈ t) (outside : j.1 ∉ t) :
    ∃ a ∈ t, ∃ b, b ∉ t ∧ graph.conditions.contains a b = true := by
  obtain ⟨walk⟩ := reached
  obtain ⟨dart, -, leaves, enters⟩ :=
    walk.exists_boundary_dart {table | (graph.numbering.symm table).1 ∈ t}
      (by simpa using inside) (by simpa using outside)
  obtain ⟨a, first⟩ := graph.numbering.surjective dart.fst
  obtain ⟨b, second⟩ := graph.numbering.surjective dart.snd
  have linked : graph.shape.Adj (graph.numbering a) (graph.numbering b) := by
    rw [first, second]
    exact dart.adj
  rw [← first, Set.mem_ofPred_eq, Equiv.symm_apply_apply] at leaves
  rw [← second, Set.mem_ofPred_eq, Equiv.symm_apply_apply] at enters
  exact ⟨a, leaves, b, enters, (shape_adj_numbering.1 linked).2⟩

/-- **A component is connected**: a condition crosses each of its cuts. -/
theorem crosses_of_mem_splits_component {root : ℕ} {q : Finset ℕ × Finset ℕ}
    (hq : q ∈ splits (graph.component root)) : graph.conditions.Crosses q.1 q.2 := by
  obtain ⟨⟨a, ha⟩, ⟨b, hb⟩, apart, whole⟩ := mem_splits.1 hq
  have first : a ∈ graph.component root := whole ▸ Finset.mem_union_left _ ha
  have second : b ∈ graph.component root := whole ▸ Finset.mem_union_right _ hb
  have known := Finset.mem_range.1 (graph.component_subset root first)
  have known' := Finset.mem_range.1 (graph.component_subset root second)
  have start := lt_size_of_mem_component first
  lift root to Fin graph.size using start
  lift a to Fin graph.size using known
  lift b to Fin graph.size using known'
  -- The way from the first part to the second one leaves the first part, but not the component.
  have reached := (val_mem_component.1 first).symm.trans (val_mem_component.1 second)
  obtain ⟨c, hc, d, outside, linked⟩ :=
    exists_contains_of_reachable reached ha (Finset.disjoint_right.1 apart hb)
  have inside : c ∈ graph.component root := whole ▸ Finset.mem_union_left _ hc
  have member : d ∈ q.1 ∪ q.2 := whole ▸ mem_component_of_contains inside linked
  exact ⟨c, hc, d, (Finset.mem_union.1 member).resolve_left outside, linked⟩

/-! ## Connectedness -/

/-- In a connected shape every table is reached from every other. -/
theorem component_eq_range (connected : graph.shape.Connected) {root : ℕ} (h : root < graph.size) :
    graph.component root = Finset.range graph.size := by
  lift root to Fin graph.size using h
  refine (graph.component_subset root).antisymm fun k hk => ?_
  lift k to Fin graph.size using Finset.mem_range.1 hk
  exact val_mem_component.2 (connected.preconnected _ _)

/-- If a condition crosses each cut of the numbers, then tables that no condition leads out of are
all tables. -/
theorem eq_range_of_closed
    (crossed : ∀ q ∈ splits (Finset.range graph.size), graph.conditions.Crosses q.1 q.2)
    {t : Finset ℕ} (nonempty : t.Nonempty) (known : t ⊆ Finset.range graph.size)
    (closed : ∀ a ∈ t, ∀ b, graph.conditions.contains a b = true → b ∈ t) :
    t = Finset.range graph.size := by
  by_contra proper
  have cut : (t, Finset.range graph.size \ t) ∈ splits (Finset.range graph.size) :=
    mem_splits.2 ⟨nonempty, Finset.sdiff_nonempty.2 fun all => proper (known.antisymm all),
      Finset.disjoint_sdiff, Finset.union_sdiff_of_subset known⟩
  obtain ⟨a, ha, b, hb, linked⟩ := crossed _ cut
  exact (Finset.mem_sdiff.1 hb).2 (closed a ha b linked)

/-- If a condition crosses each cut of the numbers, then every table is reached from every other. -/
theorem reachable_of_crosses
    (crossed : ∀ q ∈ splits (Finset.range graph.size), graph.conditions.Crosses q.1 q.2)
    (i j : Fin graph.size) : graph.shape.Reachable (graph.numbering i) (graph.numbering j) := by
  have all : graph.component i = Finset.range graph.size :=
    eq_range_of_closed crossed ⟨i, self_mem_component i.2⟩ (graph.component_subset i)
      fun a ha b linked => mem_component_of_contains ha linked
  rw [← val_mem_component, all, Finset.mem_range]
  exact j.2

/-- **A shape is connected** exactly when there is a table and each cut of the numbers is
crossed. -/
theorem shape_connected_iff :
    graph.shape.Connected ↔ 0 < graph.size ∧
      ∀ q ∈ splits (Finset.range graph.size), graph.conditions.Crosses q.1 q.2 := by
  constructor
  · intro connected
    obtain ⟨table⟩ := connected.nonempty
    have pos : 0 < graph.size := (graph.numbering.symm table).pos
    refine ⟨pos, fun q hq => ?_⟩
    rw [← component_eq_range connected pos] at hq
    exact crosses_of_mem_splits_component hq
  · rintro ⟨pos, crossed⟩
    refine SimpleGraph.connected_iff_exists_forall_reachable _ |>.2 ⟨graph.numbering ⟨0, pos⟩, ?_⟩
    intro table
    obtain ⟨j, rfl⟩ := graph.numbering.surjective table
    exact reachable_of_crosses crossed _ j

end JoinGraph

end JoinOrder
