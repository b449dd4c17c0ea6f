/-
# Building the Graph of a Shape

The tables of a shape are numbered as they are named.  This holds as long as every edge starts at a
table that is there and ends at such a table or at the next one, and then the conditions are the
edges.

Main statements: registering one such edge (`exists_register_edge`), registering all of them
(`exists_registerAll_edges`), building a shape whose edges grow in this way
(`exists_build_of_growing`), and the shapes that add one table with each edge
(`exists_build_eq_ok`).
-/
import Mathlib.Data.List.Basic
import JoinOrder.Graph.Topology

namespace JoinOrder

/-! ## Conditions from pairs -/

namespace ConditionSet

/-- Inserting pairs one after another adds them and nothing else. -/
theorem contains_foldl_insert (pairs : List (ℕ × ℕ)) (set : ConditionSet) (a b : ℕ) :
    (pairs.foldl (fun set pair => (set.insert pair.1 pair.2).2) set).contains a b = true ↔
      (∃ p ∈ pairs, (a = p.1 ∧ b = p.2) ∨ (a = p.2 ∧ b = p.1)) ∨ set.contains a b = true := by
  induction pairs generalizing set with
  | nil => simp
  | cons p pairs ih =>
    rw [List.foldl_cons, ih, contains_insert, List.exists_mem_cons_iff, ← or_assoc]
    exact or_congr_left or_comm

/-- **The set of a list of pairs** contains these pairs in both directions. -/
theorem contains_ofPairs {pairs : List (ℕ × ℕ)} {a b : ℕ} :
    (ofPairs pairs).contains a b = true ↔
      ∃ p ∈ pairs, (a = p.1 ∧ b = p.2) ∨ (a = p.2 ∧ b = p.1) := by
  have nothing : ¬ empty.contains a b = true := by
    rw [contains_iff_mem, toList_empty]
    exact List.not_mem_nil
  rw [ofPairs, contains_foldl_insert, or_iff_left nothing]

end ConditionSet

/-! ## Numbered names -/

namespace Topology

/-- **Different tables have different names.** -/
theorem tableName_injective {i j : ℕ} (h : tableName i = tableName j) : i = j := by
  have digits : Nat.toDigits 10 i = Nat.toDigits 10 j := by
    rw [← Nat.toList_repr, ← Nat.toList_repr, (String.append_right_inj "t").1 h]
  rw [← Nat.ofDigitChars_ten_toDigits (n := i), digits, Nat.ofDigitChars_ten_toDigits]

/-- A table name is not empty. -/
theorem tableName_ne_empty (i : ℕ) : tableName i ≠ "" := by
  intro h
  have letters := congrArg String.toList h
  rw [tableName, String.toList_append] at letters
  cases letters

/-- The names of the first `m` tables. -/
def tableNames (m : ℕ) : List String := (List.range m).map tableName

theorem tableNames_succ (m : ℕ) : tableNames (m + 1) = tableNames m ++ [tableName m] := by
  rw [tableNames, List.range_succ, List.map_append]
  rfl

theorem tableName_mem_tableNames {i m : ℕ} : tableName i ∈ tableNames m ↔ i < m := by
  rw [tableNames, List.mem_map]
  constructor
  · rintro ⟨j, hj, same⟩
    rw [← tableName_injective same]
    exact List.mem_range.1 hj
  · intro h
    exact ⟨i, List.mem_range.2 h, rfl⟩

/-- The conditions of a shape over `n` tables. -/
def conditions (topology : Topology) (n : ℕ) : ConditionSet := .ofPairs (topology.edges n)

end Topology

open JoinOrder.Topology

namespace Registry

variable {registry : Registry} {m : ℕ}

/-- A registry of the first `m` tables has `m` tables. -/
theorem size_of_names (names : registry.names = tableNames m) : registry.size = m := by
  rw [← length_names, names, tableNames, List.length_map, List.length_range]

/-- Among numbered tables a table, or the next one, gets the number in its name. -/
theorem exists_resolve_tableName {i : ℕ} (names : registry.names = tableNames m) (h : i ≤ m) :
    ∃ later, registry.resolve (tableName i) = .ok (i, later) ∧
      later.names = tableNames (max m (i + 1)) := by
  -- A table that is there keeps its number, and the next one is new.
  rcases Nat.lt_or_eq_of_le h with inside | rfl
  · refine ⟨registry, resolve_of_id?_eq_some (id?_eq_some_iff.2 ?_), ?_⟩
    · rw [name?, names, tableNames, List.getElem?_map, List.getElem?_range inside]
      rfl
    · rw [names, Nat.max_eq_left inside]
  · have isNew : tableName i ∉ registry.names := by
      rw [names, tableName_mem_tableNames]
      exact Nat.lt_irrefl i
    refine ⟨registry.append (tableName i) (tableName_ne_empty i) isNew, ?_, ?_⟩
    · rw [resolve_of_not_mem (tableName_ne_empty i) isNew, size_of_names names]
    · rw [names_append, names, ← tableNames_succ, Nat.max_eq_right (Nat.le_succ i)]

end Registry

/-! ## Registering edges -/

namespace JoinGraph

variable {graph : JoinGraph}

/-- **Registering an edge** from a table that is there to one that is there or comes next. -/
theorem exists_register_edge {m i j : ℕ} (names : graph.tables.names = tableNames m) (hi : i < m)
    (hj : j ≤ m) :
    ∃ later, graph.register (edge i j) = .ok later ∧
      later.tables.names = tableNames (max m (j + 1)) ∧
      later.conditions = (graph.conditions.insert i j).2 := by
  obtain ⟨first, left, names'⟩ := Registry.exists_resolve_tableName names (Nat.le_of_lt hi)
  rw [Nat.max_eq_left hi] at names'
  obtain ⟨second, right, names''⟩ := Registry.exists_resolve_tableName names' hj
  obtain ⟨later, added, tables, conditions⟩ := exists_addCondition_eq_ok
    (tableName_ne_empty i) (tableName_ne_empty j) left right
  exact ⟨later, added, by rw [tables, names''], conditions⟩

end JoinGraph

/-- The edges may be registered in this order when there are `m` tables before. -/
def Growing : ℕ → List (ℕ × ℕ) → Prop
  | _, [] => True
  | m, e :: es => e.1 < m ∧ e.2 ≤ m ∧ Growing (max m (e.2 + 1)) es

/-- The number of tables after registering edges. -/
def grownSize (m : ℕ) (es : List (ℕ × ℕ)) : ℕ := es.foldl (fun m e => max m (e.2 + 1)) m

theorem grownSize_append (m : ℕ) (es es' : List (ℕ × ℕ)) :
    grownSize m (es ++ es') = grownSize (grownSize m es) es' :=
  List.foldl_append

/-- Edges may follow others if they may be registered with the tables that there are then. -/
theorem Growing.append {m : ℕ} {es es' : List (ℕ × ℕ)} (h : Growing m es)
    (h' : Growing (grownSize m es) es') : Growing m (es ++ es') := by
  induction es generalizing m with
  | nil => exact h'
  | cons e es ih =>
    obtain ⟨first, second, rest⟩ := h
    exact ⟨first, second, ih rest h'⟩

/-- Edges between tables that are there may be registered and add no table. -/
theorem growing_of_forall_lt {m : ℕ} {es : List (ℕ × ℕ)} (h : ∀ e ∈ es, e.1 < m ∧ e.2 < m) :
    Growing m es ∧ grownSize m es = m := by
  induction es with
  | nil => exact ⟨trivial, rfl⟩
  | cons e es ih =>
    obtain ⟨first, second⟩ := h e List.mem_cons_self
    obtain ⟨growing, size⟩ := ih fun e' he' => h e' (List.mem_cons_of_mem e he')
    have same : max m (e.2 + 1) = m := Nat.max_eq_left second
    refine ⟨⟨first, Nat.le_of_lt second, ?_⟩, ?_⟩
    · rwa [same]
    · show grownSize (max m (e.2 + 1)) es = m
      rwa [same]

/-- **Registering edges** numbers the tables as they are named and links their ends. -/
theorem JoinGraph.exists_registerAll_edges {graph : JoinGraph} {m : ℕ} {es : List (ℕ × ℕ)}
    (names : graph.tables.names = tableNames m) (growing : Growing m es) :
    ∃ later, graph.registerAll (es.map fun ends => edge ends.1 ends.2) = (later, none) ∧
      later.tables.names = tableNames (grownSize m es) ∧
      later.conditions =
        es.foldl (fun set pair => (set.insert pair.1 pair.2).2) graph.conditions := by
  induction es generalizing graph m with
  | nil => exact ⟨graph, rfl, names, rfl⟩
  | cons e es ih =>
    obtain ⟨hi, hj, growing⟩ := growing
    -- The first edge leads to a graph from which the other edges start.
    obtain ⟨next, registered, names', conditions⟩ := exists_register_edge names hi hj
    obtain ⟨later, rest, names'', conditions'⟩ := ih names' growing
    refine ⟨later, ?_, names'', ?_⟩
    · rw [List.map_cons, registerAll_cons_of_ok registered, rest]
    · rw [conditions', conditions, List.foldl_cons]

/-! ## Graphs of shapes -/

namespace Topology

variable {topology : Topology} {n : ℕ}

/-- **Building a shape** whose edges may be registered in order after the first table. -/
theorem exists_build_of_growing (h : 0 < n) (growing : Growing 1 (topology.edges n)) :
    ∃ graph, topology.build n = .ok graph ∧
      graph.tables.names = tableNames (grownSize 1 (topology.edges n)) ∧
      graph.conditions = topology.conditions n := by
  have start : JoinGraph.empty.tables.names = tableNames 0 := rfl
  obtain ⟨tables, resolved, names⟩ := Registry.exists_resolve_tableName start (Nat.le_refl 0)
  obtain ⟨first, added, rfl, conditions⟩ := JoinGraph.exists_addTable_eq_ok resolved
  obtain ⟨graph, registered, names', conditions'⟩ :=
    JoinGraph.exists_registerAll_edges names growing
  have accepted : JoinGraph.empty.register (.table (tableName 0)) = .ok first := by
    rw [JoinGraph.register, added]
    rfl
  refine ⟨graph, ?_, names', ?_⟩
  · rw [build, registrations, if_neg (by omega), JoinGraph.registerAll_cons_of_ok accepted,
      registered]
  · rw [conditions', conditions]
    rfl

/-! ## Shapes in which each edge adds the next table -/

/-- The conditions of such a shape link each table to the one that its edge comes from. -/
theorem contains_successive {f : ℕ → ℕ}
    (edges : topology.edges n = (List.range (n - 1)).map fun i => (f i, i + 1)) {a b : ℕ} :
    (topology.conditions n).contains a b = true ↔
      ∃ i, i + 1 < n ∧ ((a = f i ∧ b = i + 1) ∨ (a = i + 1 ∧ b = f i)) := by
  rw [Topology.conditions, ConditionSet.contains_ofPairs, edges]
  constructor
  · rintro ⟨p, member, ends⟩
    obtain ⟨i, hi, rfl⟩ := List.mem_map.1 member
    have := List.mem_range.1 hi
    exact ⟨i, by omega, ends⟩
  · rintro ⟨i, hi, ends⟩
    exact ⟨(f i, i + 1), List.mem_map.2 ⟨i, List.mem_range.2 (by omega), rfl⟩, ends⟩

/-- Edges that end at one table after the other, from the next one on, grow by one table each. -/
theorem growing_successive {f : ℕ → ℕ} (h : ∀ i, f i ≤ i) {m : ℕ} (pos : 0 < m) (k : ℕ) :
    Growing m ((List.range' m k).map fun j => (f (j - 1), j)) ∧
      grownSize m ((List.range' m k).map fun j => (f (j - 1), j)) = m + k := by
  induction k generalizing m with
  | zero => exact ⟨trivial, rfl⟩
  | succ k ih =>
    have start : f (m - 1) < m := Nat.lt_of_le_of_lt (h (m - 1)) (by omega)
    have next : max m (m + 1) = m + 1 := by omega
    obtain ⟨growing, size⟩ := ih (Nat.succ_pos m)
    rw [List.range'_succ, List.map_cons]
    refine ⟨⟨start, Nat.le_refl m, ?_⟩, ?_⟩
    · rw [next]
      exact growing
    · rw [grownSize, List.foldl_cons, next]
      exact size.trans (by omega)

/-- **Building such a shape** succeeds, with one table for each edge and the first one. -/
theorem exists_build_eq_ok (topology : Topology) {f : ℕ → ℕ} (h : ∀ i, f i ≤ i) (n : ℕ)
    (edges : topology.edges n = (List.range (n - 1)).map fun i => (f i, i + 1)) :
    ∃ graph, topology.build n = .ok graph ∧ graph.tables.names = tableNames n ∧
      graph.conditions = topology.conditions n := by
  rcases Nat.eq_zero_or_pos n with rfl | pos
  · refine ⟨.empty, rfl, rfl, ?_⟩
    rw [Topology.conditions, edges]
    rfl
  · have shifted : topology.edges n = (List.range' 1 (n - 1)).map fun j => (f (j - 1), j) := by
      rw [edges, List.range'_eq_map_range, List.map_map]
      refine List.map_congr_left fun i _ => ?_
      show (f i, i + 1) = (f (1 + i - 1), 1 + i)
      rw [Nat.add_sub_cancel_left, Nat.add_comm]
    obtain ⟨growing, size⟩ := growing_successive h Nat.one_pos (n - 1)
    rw [← shifted] at growing size
    obtain ⟨graph, built, names, conditions⟩ := exists_build_of_growing pos growing
    refine ⟨graph, built, ?_, conditions⟩
    rw [names, size]
    congr 1
    omega

end Topology

end JoinOrder
