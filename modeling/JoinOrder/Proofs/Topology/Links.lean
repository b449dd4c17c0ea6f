/-
# The Links of the Shapes

The graph of a shape has the tables `t0`, `t1`, and so on, numbered as they are named, and its
conditions are the ones that the shape is known for.  No edge is registered twice, so there are as
many conditions as edges.

Main statements: the conditions of a list of different edges (`size_ofPairs`), the edges of each
shape (`length_edges`, `contains_conditions_iff`), building any shape (`exists_build`), the graphs
as a whole (`shapes_as_documented`), and the count of a shape that a command line asks for
(`Command.CountRequest.start_eq_counting_iff_prepare`).
-/
import Mathlib.Algebra.BigOperators.Intervals
import JoinOrder.Enumeration.Preparation
import JoinOrder.Proofs.Command.EdgeSet
import JoinOrder.Proofs.Topology.Chain
import JoinOrder.Proofs.Topology.Clique
import JoinOrder.Proofs.Topology.Star

namespace JoinOrder

/-! ## Counting conditions -/

namespace ConditionSet

/-- **There are as many conditions as pairs** if every pair has the smaller number first and none is
given twice. -/
theorem size_ofPairs {pairs : List (ℕ × ℕ)} (ascending : ∀ p ∈ pairs, p.1 < p.2)
    (nodup : pairs.Nodup) : (ofPairs pairs).size = pairs.length := by
  have distinct : (pairs.map fun p => Condition.between p.1 p.2).Nodup := by
    refine nodup.map_on ?_
    rintro ⟨a, b⟩ first ⟨c, d⟩ second same
    have ab := ascending _ first
    have cd := ascending _ second
    rcases Condition.between_eq_between_iff.1 same with ⟨rfl, rfl⟩ | ⟨rfl, rfl⟩
    · rfl
    · exact absurd ab (Nat.lt_asymm cd)
  have listed : (ofPairs pairs).toList.Perm (pairs.map fun p => Condition.between p.1 p.2) := by
    refine (List.perm_ext_iff_of_nodup (nodup_toList _) distinct).2 fun c => ?_
    rw [← c.between_ends, ← contains_iff_mem, contains_ofPairs, List.mem_map]
    simp only [Condition.between_eq_between_iff]
    constructor
    · rintro ⟨p, member, ends | ends⟩
      · exact ⟨p, member, Or.inl ⟨ends.1.symm, ends.2.symm⟩⟩
      · exact ⟨p, member, Or.inr ⟨ends.2.symm, ends.1.symm⟩⟩
    · rintro ⟨p, member, ends | ends⟩
      · exact ⟨p, member, Or.inl ⟨ends.1.symm, ends.2.symm⟩⟩
      · exact ⟨p, member, Or.inr ⟨ends.2.symm, ends.1.symm⟩⟩
  rw [← length_toList, listed.length_eq, List.length_map]

end ConditionSet

namespace Topology

variable {topology : Topology} {n : ℕ}

/-! ## Edges -/

/-- Every edge leads from a table to a later one. -/
theorem lt_of_mem_edges {e : ℕ × ℕ} (h : e ∈ topology.edges n) : e.1 < e.2 := by
  cases topology with
  | chain =>
    obtain ⟨i, -, rfl⟩ := List.mem_map.1 h
    exact Nat.lt_succ_self i
  | star =>
    obtain ⟨i, -, rfl⟩ := List.mem_map.1 h
    exact Nat.succ_pos i
  | clique => exact (mem_edges_clique.1 h).1

/-- No edge is listed twice. -/
theorem nodup_edges (topology : Topology) (n : ℕ) : (topology.edges n).Nodup := by
  cases topology with
  | chain => exact List.nodup_range.map fun i j same => congrArg Prod.fst same
  | star => exact List.nodup_range.map fun i j same => Nat.succ.inj (congrArg Prod.snd same)
  | clique =>
    -- The edges of different first tables differ in them.
    refine List.nodup_flatMap.2 ⟨fun i _ => ?_, List.nodup_range.imp fun different => ?_⟩
    · exact (List.nodup_range' _).map fun j k same => congrArg Prod.snd same
    · intro e member member'
      obtain ⟨j, -, rfl⟩ := List.mem_map.1 member
      obtain ⟨k, -, same⟩ := List.mem_map.1 member'
      exact different (congrArg Prod.fst same).symm

/-- The number of edges of a shape over `n` tables: one less than tables, or one for each pair. -/
def edgeCount : Topology → ℕ → ℕ
  | chain, n => n - 1
  | star, n => n - 1
  | clique, n => n * (n - 1) / 2

/-- **The number of edges** of each shape. -/
theorem length_edges (topology : Topology) (n : ℕ) :
    (topology.edges n).length = topology.edgeCount n := by
  cases topology with
  | chain => rw [edges, List.length_map, List.length_range, edgeCount]
  | star => rw [edges, List.length_map, List.length_range, edgeCount]
  | clique =>
    rw [edges, List.length_flatMap]
    simp only [List.length_map, List.length_range']
    calc
      ((List.range n).map fun i => n - 1 - i).sum = ∑ i ∈ Finset.range n, (n - 1 - i) := by
        rw [← List.sum_toFinset _ List.nodup_range, List.toFinset_range]
      _ = ∑ i ∈ Finset.range n, i := Finset.sum_range_reflect (fun i => i) n
      _ = n * (n - 1) / 2 := Finset.sum_range_id n

/-! ## Links -/

/-- The tables that a shape links: neighbours, or the centre with any other table, or any two. -/
def Links : Topology → ℕ → ℕ → Prop
  | chain, i, j => i + 1 = j ∨ j + 1 = i
  | star, i, j => i ≠ j ∧ (i = 0 ∨ j = 0)
  | clique, i, j => i ≠ j

/-- **The conditions of a shape** are its links. -/
theorem contains_conditions_iff (topology : Topology) {i j : ℕ} (hi : i < n) (hj : j < n) :
    (topology.conditions n).contains i j = true ↔ topology.Links i j := by
  cases topology with
  | chain =>
    rw [contains_chain, Links]
    omega
  | star =>
    rw [contains_star, Links]
    omega
  | clique => rw [contains_clique, Links, and_iff_left ⟨hi, hj⟩]

/-- There are as many conditions as edges. -/
theorem size_conditions (topology : Topology) (n : ℕ) :
    (topology.conditions n).size = topology.edgeCount n := by
  rw [conditions, ConditionSet.size_ofPairs (fun _ => lt_of_mem_edges) (nodup_edges topology n),
    length_edges]

/-! ## Graphs -/

/-- **Building a shape** succeeds: the tables are numbered as they are named, and the conditions are
the edges. -/
theorem exists_build (topology : Topology) (n : ℕ) :
    ∃ graph, topology.build n = .ok graph ∧ graph.tables.names = tableNames n ∧
      graph.conditions = topology.conditions n := by
  cases topology with
  | chain => exact exists_build_eq_ok chain (fun i => Nat.le_refl i) n rfl
  | star => exact exists_build_eq_ok star (fun i => Nat.zero_le i) n rfl
  | clique => exact exists_build_clique n

/-- A table has the number in its name. -/
theorem id?_tableName {registry : Registry} {i : ℕ} (names : registry.names = tableNames n)
    (h : i < n) : registry.id? (tableName i) = some i := by
  rw [Registry.id?_eq_some_iff, Registry.name?, names, tableNames, List.getElem?_map,
    List.getElem?_range h]
  rfl

/-- What is built is what the registrations make. -/
theorem build_eq_ok_iff {graph : JoinGraph} :
    topology.build n = .ok graph ↔
      JoinGraph.empty.registerAll (topology.registrations n) = (graph, none) := by
  rw [build]
  rcases JoinGraph.empty.registerAll (topology.registrations n) with ⟨made, _ | refusal⟩
  · simp
  · simp

/-- **The shapes are as documented.**  With settings that are accepted, and workers that can be set
up, a count of any shape over any number of tables is prepared.  Its tables are `t0`, `t1`, and so
on, all different, each with the number in its name; two of them are linked exactly as the shape
says; and there is one condition less than tables in a chain and in a star, and one for every two
tables in a clique. -/
theorem shapes_as_documented (topology : Topology) (n : ℕ) {settings : Settings}
    (accepted : settings.validate = .ok settings) (workers : settings.setUpWorkers = .ok ()) :
    ∃ prepared, topology.prepare n settings = .ok prepared ∧ prepared.settings = settings ∧
      prepared.graph.tables.names = ((List.range n).map fun i => "t" ++ i.repr) ∧
      prepared.graph.tables.names.Nodup ∧
      (∀ i < n, prepared.graph.tables.id? ("t" ++ i.repr) = some i) ∧
      (∀ i < n, ∀ j < n, prepared.graph.hasCondition ("t" ++ i.repr) ("t" ++ j.repr) = true ↔
        topology.Links i j) ∧
      prepared.graph.conditions.size = topology.edgeCount n := by
  obtain ⟨graph, built, names, conditions⟩ := exists_build topology n
  have number : ∀ i < n, graph.tables.id? ("t" ++ i.repr) = some i := fun i => id?_tableName names
  have acceptable := (Settings.validate_eq_ok_iff.1 accepted).1
  refine ⟨⟨graph, settings⟩, prepare_eq_ok_iff.2 ⟨acceptable, workers, built, rfl⟩, rfl, names,
    graph.tables.nodup_names, number, ?_, ?_⟩
  · intro i hi j hj
    rw [JoinGraph.hasCondition, number i hi, number j hj]
    show graph.conditions.contains i j = true ↔ _
    rw [conditions, contains_conditions_iff topology hi hj]
  · show graph.conditions.size = _
    rw [conditions, size_conditions]

/-- Four tables of each shape, with three silent threads and with the standard settings. -/
theorem shapes_as_documented_four :
    ∃ (settings : Settings) (row around whole : PreparedCount),
      settings = ⟨some 3, "worker", false, false⟩ ∧ settings.validate = .ok settings ∧
      settings.setUpWorkers = .ok () ∧ chain.prepare 4 settings = .ok row ∧
      row.graph.conditions.size = 3 ∧ row.graph.hasCondition "t0" "t2" = false ∧
      Settings.standard.setUpWorkers = .ok () ∧ star.prepare 4 .standard = .ok around ∧
      around.graph.hasCondition "t3" "t0" = true ∧ clique.prepare 4 settings = .ok whole ∧
      whole.graph.tables.names = ["t0", "t1", "t2", "t3"] ∧ whole.graph.conditions.size = 6 := by
  have accepted : Settings.validate ⟨some 3, "worker", false, false⟩ =
    .ok ⟨some 3, "worker", false, false⟩ := rfl
  have workers : Settings.setUpWorkers ⟨some 3, "worker", false, false⟩ = .ok () := by decide
  have standard : Settings.standard.setUpWorkers = .ok () := by decide
  obtain ⟨row, ofRow, -, -, -, -, links, size⟩ := shapes_as_documented chain 4 accepted workers
  obtain ⟨around, ofAround, -, -, -, -, links', -⟩ := shapes_as_documented star 4 rfl standard
  obtain ⟨whole, ofWhole, -, names, -, -, -, size'⟩ :=
    shapes_as_documented clique 4 accepted workers
  refine ⟨_, row, around, whole, rfl, accepted, workers, ofRow, size, ?_, standard, ofAround, ?_,
    ofWhole, names, size'⟩
  · refine Bool.eq_false_iff.2 fun linked => ?_
    have neighbours := (links 0 (by decide) 2 (by decide)).1 linked
    rw [Links] at neighbours
    omega
  · exact (links' 3 (by decide) 0 (by decide)).2 ⟨by decide, Or.inr rfl⟩

end Topology

/-! ## Counts of shapes -/

namespace Command.CountRequest

variable {request : CountRequest} {around : Surroundings}

/-- The settings of a count have been accepted. -/
theorem acceptable_of_settings {settings : Settings} (h : request.settings around = .ok settings) :
    settings.Acceptable := by
  rw [CountRequest.settings, bind_eq_ok_iff] at h
  obtain ⟨loaded, ofSource, given⟩ := h
  cases threads : request.threads with
  | none =>
    rw [threads] at given
    obtain rfl := Except.ok.inj given
    rw [Settings.load, bind_eq_ok_iff] at ofSource
    obtain ⟨read, -, accepted⟩ := ofSource
    obtain ⟨acceptable, rfl⟩ := Settings.validate_eq_ok_iff.1 accepted
    exact acceptable
  | some number =>
    rw [threads] at given
    obtain ⟨acceptable, rfl⟩ := Settings.validate_eq_ok_iff.1 given
    exact acceptable

/-- **A count of a shape starts as it is prepared**, with the settings that were asked for. -/
theorem start_eq_counting_iff_prepare {topology : Topology} {n : ℕ} {job : CountJob}
    (shape : request.shape = some (topology, n)) :
    request.start around = .counting job ↔ ∃ settings prepared,
      request.settings around = .ok settings ∧ topology.prepare n settings = .ok prepared ∧
      job = ⟨request, prepared.graph, prepared.settings⟩ := by
  have items : request.items around = .ok (topology.registrations n) := by
    rw [CountRequest.items, shape]
  rw [start_eq_counting_iff]
  constructor
  · rintro ⟨settings, made, graph, asked, same, workers, registered, rfl⟩
    obtain rfl := Except.ok.inj (items.symm.trans same)
    exact ⟨settings, ⟨graph, settings⟩, asked, Topology.prepare_eq_ok_iff.2
      ⟨acceptable_of_settings asked, workers, Topology.build_eq_ok_iff.2 registered, rfl⟩, rfl⟩
  · rintro ⟨settings, ⟨graph, kept⟩, asked, prepared, rfl⟩
    obtain ⟨-, workers, built, rfl⟩ := Topology.prepare_eq_ok_iff.1 prepared
    exact ⟨kept, _, graph, asked, items, workers, Topology.build_eq_ok_iff.1 built, rfl⟩

end Command.CountRequest

end JoinOrder
