/-
# Removing a Condition

A graph without one of its conditions has the same tables and the other conditions.  A graph is
shaped like a tree if it is connected and has one condition less than tables.  Then no condition can
be removed without parting the graph, as a connected graph has at most one table more than
conditions; the two parts are the components of the ends of the condition, and nothing else leads
from one to the other.

Main statements: the number of edges of a shape (`card_edgeSet_le`), and the parts that the removal
of a condition leaves (`TreeShaped.parts_mem_splits`, `TreeShaped.bridges_parts`).
-/
import Mathlib.Combinatorics.SimpleGraph.Acyclic
import JoinOrder.Proofs.Counting.Bridge
import JoinOrder.Proofs.Graph.Shape

namespace JoinOrder

/-! ## Sets of conditions -/

namespace ConditionSet

/-- The set without one of its conditions. -/
def erase (set : ConditionSet) (e : Condition) : ConditionSet := ⟨set.members.erase e⟩

theorem mem_erase {set : ConditionSet} {e c : Condition} :
    c ∈ (set.erase e).toList ↔ c ≠ e ∧ c ∈ set.toList := by
  rw [toList, toList, erase, Std.ExtTreeSet.mem_toList, Std.ExtTreeSet.mem_toList,
    Std.ExtTreeSet.mem_erase, ne_eq, ne_eq, Std.LawfulEqCmp.compare_eq_iff_eq, eq_comm]

theorem size_erase {set : ConditionSet} {e : Condition} (h : e ∈ set.toList) :
    (set.erase e).size + 1 = set.size := by
  have member : set.members.contains e = true :=
    Std.ExtTreeSet.contains_iff_mem.2 (Std.ExtTreeSet.mem_toList.1 h)
  have pos : 0 < set.size := set.length_toList ▸ List.length_pos_of_mem h
  have smaller : (set.erase e).size = set.size - 1 := by
    rw [size, erase, Std.ExtTreeSet.size_erase, if_pos member]
    rfl
  omega

theorem contains_erase {set : ConditionSet} {e : Condition} {a b : ℕ} :
    (set.erase e).contains a b = true ↔ .between a b ≠ e ∧ set.contains a b = true := by
  rw [contains_iff_mem, contains_iff_mem, mem_erase]

end ConditionSet

namespace JoinGraph

variable {graph : JoinGraph} {e : Condition}

/-! ## Edges and conditions -/

/-- The condition that an edge of the shape stands for. -/
def edgeCondition (graph : JoinGraph) : Sym2 {name // name ∈ graph.tables.names} → Condition :=
  Sym2.lift ⟨fun a b => .between (graph.numbering.symm a) (graph.numbering.symm b),
    fun _ _ => Condition.between_comm _ _⟩

theorem edgeCondition_injective : Function.Injective graph.edgeCondition := by
  intro x y
  induction x with | _ a b
  induction y with | _ c d
  intro same
  rw [Sym2.eq_iff]
  have number : ∀ {a b : {name // name ∈ graph.tables.names}},
      (graph.numbering.symm a).1 = (graph.numbering.symm b).1 → a = b := fun h =>
    graph.numbering.symm.injective (Fin.ext h)
  rcases Condition.between_eq_between_iff.1 same with ⟨first, second⟩ | ⟨first, second⟩
  · exact Or.inl ⟨number first, number second⟩
  · exact Or.inr ⟨number first, number second⟩

/-- An edge of the shape stands for a condition of the graph. -/
theorem edgeCondition_mem {x : Sym2 {name // name ∈ graph.tables.names}}
    (h : x ∈ graph.shape.edgeSet) : graph.edgeCondition x ∈ graph.conditions.toList := by
  induction x with | _ a b
  obtain ⟨i, rfl⟩ := graph.numbering.surjective a
  obtain ⟨j, rfl⟩ := graph.numbering.surjective b
  have linked := (shape_adj_numbering.1 h).2
  rw [ConditionSet.contains_iff_mem] at linked
  show Condition.between (graph.numbering.symm (graph.numbering i))
    (graph.numbering.symm (graph.numbering j)) ∈ _
  rwa [Equiv.symm_apply_apply, Equiv.symm_apply_apply]

/-- **A shape has at most as many edges as the graph has conditions.** -/
theorem card_edgeSet_le (graph : JoinGraph) :
    Nat.card graph.shape.edgeSet ≤ graph.conditions.size := by
  rw [← ConditionSet.length_toList, Nat.card_coe_set_eq]
  calc
    graph.shape.edgeSet.ncard = (graph.edgeCondition '' graph.shape.edgeSet).ncard :=
      (Set.ncard_image_of_injective _ edgeCondition_injective).symm
    _ ≤ (graph.conditions.toList.toFinset : Set Condition).ncard := by
      refine Set.ncard_le_ncard ?_ (Finset.finite_toSet _)
      rintro _ ⟨x, edge, rfl⟩
      exact List.mem_toFinset.2 (edgeCondition_mem edge)
    _ ≤ graph.conditions.toList.length := by
      rw [Set.ncard_coe_finset]
      exact List.toFinset_card_le _

/-! ## Graphs without a condition -/

/-- The graph without one of its conditions. -/
def without (graph : JoinGraph) (e : Condition) : JoinGraph where
  tables := graph.tables
  conditions := graph.conditions.erase e
  known := fun c hc => graph.known c (ConditionSet.mem_erase.1 hc).2

@[simp] theorem size_without (graph : JoinGraph) (e : Condition) :
    (graph.without e).size = graph.size := rfl

theorem contains_without {a b : ℕ} :
    (graph.without e).conditions.contains a b = true ↔
      .between a b ≠ e ∧ graph.conditions.contains a b = true :=
  ConditionSet.contains_erase

/-- The ends of a condition are registered. -/
theorem ends_lt_size (he : e ∈ graph.conditions.toList) :
    e.first < graph.size ∧ e.second < graph.size :=
  lt_size_of_contains (ConditionSet.contains_iff_mem.2 (e.between_ends.symm ▸ he))

/-- What is reached from each of the ends of a condition when the condition is removed. -/
noncomputable def parts (graph : JoinGraph) (e : Condition) : Finset ℕ × Finset ℕ :=
  ((graph.without e).component e.first, (graph.without e).component e.second)

/-! ## Graphs shaped like a tree -/

/-- The tables are connected, by one condition less than there are tables. -/
structure TreeShaped (graph : JoinGraph) : Prop where
  /-- Every table is reached from every other. -/
  connected : graph.shape.Connected
  /-- There is one table more than there are conditions. -/
  size : graph.conditions.size + 1 = graph.size

namespace TreeShaped

/-- Without any of its conditions such a graph is not connected. -/
theorem not_connected_without (h : graph.TreeShaped) (he : e ∈ graph.conditions.toList) :
    ¬ (graph.without e).shape.Connected := by
  intro connected
  have few := connected.card_vert_le_card_edgeSet_add_one
  have tables : Nat.card {name // name ∈ (graph.without e).tables.names} = graph.size := by
    rw [← Nat.card_congr (graph.without e).numbering, Nat.card_eq_fintype_card, Fintype.card_fin,
      size_without]
  have edges := (graph.without e).card_edgeSet_le
  have fewer : (graph.without e).conditions.size + 1 = graph.conditions.size :=
    ConditionSet.size_erase he
  have size := h.size
  omega

/-- There is no other way from one end of a condition to the other. -/
theorem second_notMem_component (h : graph.TreeShaped) (he : e ∈ graph.conditions.toList) :
    e.second ∉ (graph.without e).component e.first := by
  intro reached
  obtain ⟨pos, crossed⟩ := shape_connected_iff.1 h.connected
  refine h.not_connected_without he (shape_connected_iff.2 ⟨pos, fun q hq => ?_⟩)
  obtain ⟨a, ha, b, hb, linked⟩ := crossed q hq
  by_cases same : Condition.between a b = e
  · -- The other way from one end to the other crosses the cut as well.
    have start : e.first ∈ (graph.without e).component e.first :=
      self_mem_component (ends_lt_size he).1
    have ends := Condition.mem_of_between_eq (e.between_ends.trans same.symm) start reached
    exact crosses_of_part hq (component_subset _ _) (fun r hr => crosses_of_mem_splits_component hr)
      ends.1 ha ends.2 hb
  · exact ⟨a, ha, b, hb, contains_without.2 ⟨same, linked⟩⟩

/-- No condition is between a table and itself. -/
theorem first_ne_second (h : graph.TreeShaped) (he : e ∈ graph.conditions.toList) :
    e.first ≠ e.second := by
  intro same
  apply h.second_notMem_component he
  rw [← same]
  exact self_mem_component (ends_lt_size he).1

/-- **Removing a condition leaves two parts**: every table is reached from exactly one of its
ends. -/
theorem parts_mem_splits (h : graph.TreeShaped) (he : e ∈ graph.conditions.toList) :
    graph.parts e ∈ splits (Finset.range graph.size) := by
  obtain ⟨first, second⟩ := ends_lt_size he
  have first_mem : e.first ∈ (graph.parts e).1 := self_mem_component first
  have second_mem : e.second ∈ (graph.parts e).2 := self_mem_component second
  refine mem_splits.2 ⟨⟨_, first_mem⟩, ⟨_, second_mem⟩, ?_, ?_⟩
  · rw [Finset.disjoint_left]
    intro k hk hk'
    apply h.second_notMem_component he
    rw [← component_eq_of_mem hk, component_eq_of_mem hk']
    exact second_mem
  · -- No condition leads out of both parts: the one removed is between them.
    refine eq_range_of_closed (shape_connected_iff.1 h.connected).2
      ⟨_, Finset.mem_union_left _ first_mem⟩
      (Finset.union_subset (component_subset _ _) (component_subset _ _)) ?_
    intro a ha b linked
    by_cases same : Condition.between a b = e
    · exact (Condition.mem_of_between_eq (e.between_ends.trans same.symm)
        (Finset.mem_union_left _ first_mem) (Finset.mem_union_right _ second_mem)).2
    · have kept := contains_without.2 ⟨same, linked⟩
      rcases Finset.mem_union.1 ha with ha | ha
      · exact Finset.mem_union_left _ (mem_component_of_contains ha kept)
      · exact Finset.mem_union_right _ (mem_component_of_contains ha kept)

/-- **A condition bridges the parts that its removal leaves.** -/
theorem bridges_parts (h : graph.TreeShaped) (he : e ∈ graph.conditions.toList) :
    graph.conditions.Bridges e (graph.parts e) where
  crosses := ⟨e.first, self_mem_component (ends_lt_size he).1, e.second,
    self_mem_component (ends_lt_size he).2,
    ConditionSet.contains_iff_mem.2 (e.between_ends.symm ▸ he)⟩
  only := by
    intro a ha b hb linked
    by_contra other
    have apart := (mem_splits.1 (h.parts_mem_splits he)).2.2.1
    exact Finset.disjoint_right.1 apart hb
      (mem_component_of_contains ha (contains_without.2 ⟨other, linked⟩))

end TreeShaped

end JoinGraph

end JoinOrder
