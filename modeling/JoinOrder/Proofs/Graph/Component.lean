/-
# Graphs of Components

A component of a graph can be registered as a graph of its own: with its tables, in any order, and
the conditions between them.  The tables then have other numbers, but the trees over them are as
many as over the component.

Main statements: every component is that of some graph (`exists_isComponent`), and the number of its
trees (`IsComponent.planCount_eq`).
-/
import Mathlib.Data.List.ProdSigma
import JoinOrder.Proofs.Counting.Renaming
import JoinOrder.Proofs.Graph.Shape
import JoinOrder.Proofs.Topology.Build

namespace JoinOrder

/-! ## Graphs from tables and conditions -/

/-- Any different names but the empty one are those of a registry. -/
theorem Registry.exists_names_eq {names : List String} (distinct : names.Nodup)
    (named : "" ∉ names) : ∃ registry : Registry, registry.names = names := by
  induction names using List.reverseRecOn with
  | nil => exact ⟨.empty, rfl⟩
  | append_singleton names name ih =>
    obtain ⟨distinct, -, apart⟩ := List.nodup_append.1 distinct
    have isNew : name ∉ names := fun member =>
      apart name member name (List.mem_singleton_self name) rfl
    have isNamed : name ≠ "" := fun same => named (by simp [same])
    obtain ⟨registry, rfl⟩ := ih distinct fun member => named (List.mem_append_left _ member)
    exact ⟨registry.append name isNamed isNew, registry.names_append name isNamed isNew⟩

/-- Any relation without direction between numbers below a bound is that of a set of conditions. -/
theorem ConditionSet.exists_contains_iff (m : ℕ) (linked : ℕ → ℕ → Bool)
    (comm : ∀ a b, linked a b = linked b a) :
    ∃ set : ConditionSet, ∀ a b,
      set.contains a b = true ↔ (a < m ∧ b < m) ∧ linked a b = true := by
  refine ⟨.ofPairs ((List.range m ×ˢ List.range m).filter fun p => linked p.1 p.2), ?_⟩
  intro a b
  rw [contains_ofPairs]
  constructor
  · rintro ⟨p, member, ends⟩
    obtain ⟨known, related⟩ := List.mem_filter.1 member
    obtain ⟨first, second⟩ := List.mem_product.1 known
    rw [List.mem_range] at first second
    rcases ends with ⟨rfl, rfl⟩ | ⟨rfl, rfl⟩
    · exact ⟨⟨first, second⟩, related⟩
    · exact ⟨⟨second, first⟩, by rwa [comm]⟩
  · rintro ⟨⟨first, second⟩, related⟩
    have known : (a, b) ∈ List.range m ×ˢ List.range m :=
      List.mem_product.2 ⟨List.mem_range.2 first, List.mem_range.2 second⟩
    exact ⟨(a, b), List.mem_filter.2 ⟨known, related⟩, Or.inl ⟨rfl, rfl⟩⟩

namespace JoinGraph

/-- **A graph with given tables and conditions**: any different names but the empty one, and any
relation without direction between them. -/
theorem exists_graph {names : List String} (distinct : names.Nodup) (named : "" ∉ names)
    {linked : String → String → Bool} (comm : ∀ a b, linked a b = linked b a) :
    ∃ graph : JoinGraph, graph.tables.names = names ∧
      ∀ a ∈ names, ∀ b ∈ names, graph.hasCondition a b = linked a b := by
  obtain ⟨tables, rfl⟩ := Registry.exists_names_eq distinct named
  obtain ⟨conditions, contains⟩ := ConditionSet.exists_contains_iff tables.size
    (fun i j => linked (tables.names.getD i "") (tables.names.getD j "")) fun i j => comm _ _
  have known : ∀ c ∈ conditions.toList, c.second < tables.size := by
    intro c hc
    rw [← c.between_ends, ← ConditionSet.contains_iff_mem, contains] at hc
    exact hc.1.2
  refine ⟨⟨tables, conditions, known⟩, rfl, ?_⟩
  intro a ha b hb
  obtain ⟨i, first⟩ := List.getElem?_of_mem ha
  obtain ⟨j, second⟩ := List.getElem?_of_mem hb
  have first' : tables.id? a = some i := Registry.id?_eq_some_iff.2 first
  have second' : tables.id? b = some j := Registry.id?_eq_some_iff.2 second
  rw [hasCondition, first', second']
  refine Bool.eq_iff_iff.2 ((contains i j).trans ?_)
  rw [and_iff_right ⟨Registry.id_lt_size first', Registry.id_lt_size second'⟩,
    List.getD_eq_getElem?_getD, List.getD_eq_getElem?_getD, first, second, Option.getD_some,
    Option.getD_some]

/-! ## Components as graphs -/

/-- The graph holds just the tables that are reached from a table of another graph, and just the
conditions between them. -/
structure IsComponent (part graph : JoinGraph) (root : ℕ) : Prop where
  /-- The tables are those that are reached. -/
  mem_names : ∀ name, name ∈ part.tables.names ↔
    ∃ k ∈ graph.component root, graph.tables.name? k = some name
  /-- Between them there are the same conditions. -/
  hasCondition : ∀ a ∈ part.tables.names, ∀ b ∈ part.tables.names,
    part.hasCondition a b = graph.hasCondition a b

/-- **Every component is the one of some graph.** -/
theorem exists_isComponent (graph : JoinGraph) (root : ℕ) :
    ∃ part : JoinGraph, part.IsComponent graph root := by
  classical
  let reached (name : String) : Prop :=
    ∃ k ∈ graph.component root, graph.tables.name? k = some name
  have named : "" ∉ graph.tables.names.filter fun name => reached name := fun member =>
    graph.tables.named (List.mem_reverse.1 (List.mem_of_mem_filter member))
  obtain ⟨part, names, hasCondition⟩ := exists_graph (graph.tables.nodup_names.filter _) named
    (hasCondition_comm graph)
  refine ⟨part, ?_, ?_⟩
  · intro name
    rw [names, List.mem_filter, decide_eq_true_eq, and_iff_right_of_imp]
    rintro ⟨k, -, place⟩
    exact List.mem_of_getElem? place
  · intro a ha b hb
    exact hasCondition a (names ▸ ha) b (names ▸ hb)

namespace IsComponent

variable {graph part : JoinGraph} {root : ℕ}

/-- The tables of the part by their numbers in the graph. -/
theorem mem_names_numbering (h : part.IsComponent graph root) (k : Fin graph.size) :
    (graph.numbering k).1 ∈ part.tables.names ↔ k.1 ∈ graph.component root := by
  have number := graph.id?_numbering k
  rw [h.mem_names]
  constructor
  · rintro ⟨l, reached, place⟩
    rw [Registry.id?_eq_some_iff.2 place] at number
    rwa [← Option.some.inj number]
  · intro reached
    exact ⟨k, reached, Registry.id?_eq_some_iff.1 number⟩

/-- Each table of the part is a table of the component, under another number. -/
theorem exists_number (h : part.IsComponent graph root) (i : Fin part.size) :
    ∃ k : Fin graph.size, k.1 ∈ graph.component root ∧
      (graph.numbering k).1 = (part.numbering i).1 := by
  obtain ⟨k, -, place⟩ := (h.mem_names _).1 (part.numbering i).2
  obtain ⟨l, same⟩ := graph.numbering.surjective ⟨_, List.mem_of_getElem? place⟩
  have name : (graph.numbering l).1 = (part.numbering i).1 := congrArg Subtype.val same
  exact ⟨l, (h.mem_names_numbering l).1 (name ▸ (part.numbering i).2), name⟩

/-- **A graph of a component has as many trees as the component.** -/
theorem planCount_eq (h : part.IsComponent graph root) :
    planCount part.conditions (Finset.range part.size) =
      planCount graph.conditions (graph.component root) := by
  choose number reached same using h.exists_number
  have injective : Function.Injective fun i => (number i).1 := by
    intro i j equal
    apply part.numbering.injective
    rw [Subtype.ext_iff, ← same, ← same, Fin.ext equal]
  have onto : ∀ k, k ∈ graph.component root ↔ ∃ i, (number i).1 = k := by
    intro k
    constructor
    · intro member
      lift k to Fin graph.size using Finset.mem_range.1 (graph.component_subset root member)
      obtain ⟨i, name⟩ := part.numbering.surjective ⟨_, (h.mem_names_numbering k).2 member⟩
      refine ⟨i, congrArg Fin.val (graph.numbering.injective ?_)⟩
      rw [Subtype.ext_iff, same, name]
    · rintro ⟨i, rfl⟩
      exact reached i
  refine (planCount_eq_of_numbers injective onto fun i j _ => ?_).symm
  rw [← hasCondition_numbering, ← hasCondition_numbering, same, same]
  exact (h.hasCondition _ (part.numbering i).2 _ (part.numbering j).2).symm

end IsComponent

end JoinGraph

end JoinOrder
