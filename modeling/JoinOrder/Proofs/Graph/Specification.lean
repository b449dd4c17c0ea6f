/-
# Registering a Specification

A specification is registered item by item, its edges before its tables, up to the first item with
an empty name.  The items before that one are registered, the item itself leaves no trace, and the
others are not looked at.  Without an empty name all items are registered, and doing so once more
changes nothing.

Main statements: the items up to the first refusal (`registerAll_eq_of_takeWhile`), what registered
items add (`adds_registerAll`), items that are there already (`registerAll_again`), and the
specification as a whole (`registerSpec_is_prefix_fold`).
-/
import JoinOrder.Proofs.Graph.Registration

namespace JoinOrder

namespace JoinGraph

variable {graph later : JoinGraph} {item : Registration} {items : List Registration}

/-! ## The first refusal -/

/-- **Registering items is a prefix fold**: the items in front of the first one with an empty name
are registered, and that one is refused. -/
theorem registerAll_eq_of_takeWhile (graph : JoinGraph) (items : List Registration) :
    ∃ later, graph.registerAll (items.takeWhile fun item => "" ∉ item.names) = (later, none) ∧
      graph.registerAll items =
        (later, (items.find? fun item => "" ∈ item.names).map Registration.refusal) := by
  induction items generalizing graph with
  | nil => exact ⟨graph, rfl, rfl⟩
  | cons item items ih =>
    by_cases unnamed : "" ∈ item.names
    · refine ⟨graph, ?_, ?_⟩
      · rw [List.takeWhile_cons_of_neg (by simpa using unnamed)]
        rfl
      · rw [List.find?_cons_of_pos (by simpa using unnamed),
          registerAll_cons_of_error (register_of_unnamed unnamed)]
        rfl
    · obtain ⟨next, registered, -⟩ := Draft.run_perform_of_named unnamed graph
      obtain ⟨later, front, whole⟩ := ih next
      refine ⟨later, ?_, ?_⟩
      · rw [List.takeWhile_cons_of_pos (by simpa using unnamed),
          registerAll_cons_of_ok registered, front]
      · rw [List.find?_cons_of_neg (by simpa using unnamed), registerAll_cons_of_ok registered,
          whole]

/-- There is no refusal exactly if all items have names. -/
theorem registerAll_eq_none_iff :
    (graph.registerAll items).2 = none ↔ ∀ item ∈ items, "" ∉ item.names := by
  obtain ⟨later, -, whole⟩ := graph.registerAll_eq_of_takeWhile items
  rw [whole, Option.map_eq_none_iff, List.find?_eq_none]
  simp only [decide_eq_true_iff]

/-- A refusal is about the arguments. -/
theorem kind_of_registerAll {e : Error} (refused : (graph.registerAll items).2 = some e) :
    e.kind = "InvalidArgument" := by
  obtain ⟨later, -, whole⟩ := graph.registerAll_eq_of_takeWhile items
  rw [whole] at refused
  obtain ⟨item, -, rfl⟩ := Option.map_eq_some_iff.1 refused
  exact item.kind_refusal

/-! ## Registered items -/

/-- **Items that are registered** add their names and their pairs. -/
theorem adds_registerAll (registered : graph.registerAll items = (later, none)) :
    graph.Adds items later := by
  induction items generalizing graph with
  | nil =>
    obtain rfl : graph = later := congrArg Prod.fst registered
    exact adds_nil graph
  | cons item items ih =>
    have named := registerAll_eq_none_iff.1 (congrArg Prod.snd registered) item List.mem_cons_self
    obtain ⟨next, first, -⟩ := Draft.run_perform_of_named named graph
    rw [registerAll_cons_of_ok first] at registered
    exact (adds_of_register named first).append (ih registered)

/-! ## New names -/

/-- Without repetitions there are none to erase. -/
theorem eraseDups_of_nodup {names : List String} (distinct : names.Nodup) :
    names.eraseDups = names := by
  induction names with
  | nil => rfl
  | cons name names ih =>
    obtain ⟨isNew, distinct⟩ := List.nodup_cons.1 distinct
    have others : names.filter (fun other => !other == name) = names := by
      rw [List.filter_eq_self]
      rintro other member
      have apart : other ≠ name := fun same => isNew (same ▸ member)
      simpa using apart
    rw [List.eraseDups_cons, others, ih distinct]

/-- The names after registrations are the old ones, followed by the new ones in the order of first
sight. -/
theorem Adds.names_eq (adds : graph.Adds items later) :
    later.tables.names = graph.tables.names ++
      ((items.flatMap Registration.names).filter (· ∉ graph.tables.names)).eraseDups := by
  have old := eraseDups_of_nodup graph.tables.nodup_names
  rw [adds.names _ old.symm, List.eraseDups_append, old]
  simp [List.removeAll]

/-! ## Items that are there already -/

/-- Two graphs with the same tables and conditions are the same. -/
theorem ext_of_eq (tables : later.tables = graph.tables)
    (conditions : later.conditions = graph.conditions) : later = graph := by
  cases graph
  cases later
  cases tables
  cases conditions
  rfl

/-- A table that is there is not added again. -/
theorem register_table_of_mem {name : String} (member : name ∈ graph.tables.names) :
    graph.register (.table name) = .ok graph := by
  obtain ⟨i, known⟩ :=
    Option.ne_none_iff_exists'.1 (mt Registry.id?_eq_none_iff.1 (not_not.2 member))
  obtain ⟨later, added, tables, conditions⟩ :=
    exists_addTable_eq_ok (Registry.resolve_of_id?_eq_some known)
  rw [register, added, ext_of_eq tables conditions]
  rfl

/-- A condition that is there is not added again. -/
theorem register_condition_of_hasCondition {left right : String}
    (linked : graph.hasCondition left right = true) (named : left ≠ "" ∧ right ≠ "") :
    graph.register (.condition left right) = .ok graph := by
  obtain ⟨i, j, first, second, present⟩ := hasCondition_eq_true_iff.1 linked
  obtain ⟨later, added, tables, conditions⟩ := exists_addCondition_eq_ok named.1 named.2
    (Registry.resolve_of_id?_eq_some first) (Registry.resolve_of_id?_eq_some second)
  rw [ConditionSet.insert_of_contains present] at conditions
  rw [register, added, ext_of_eq tables conditions]

/-- An item that is among those registered is there. -/
theorem Adds.register_again (adds : graph.Adds items later) (member : item ∈ items)
    (named : "" ∉ item.names) : later.register item = .ok later := by
  cases item with
  | condition left right =>
    have isNamed : left ≠ "" ∧ right ≠ "" := by
      simpa [Registration.names, eq_comm, not_or] using named
    have pair : s(left, right) ∈ items.filterMap Registration.pair? :=
      List.mem_filterMap.2 ⟨_, member, rfl⟩
    exact register_condition_of_hasCondition ((adds.links left right).2 (.inl pair)) isNamed
  | table name =>
    have mentioned : name ∈ items.flatMap Registration.names :=
      List.mem_flatMap.2 ⟨_, member, List.mem_singleton_self name⟩
    refine register_table_of_mem ?_
    rw [adds.names _ (eraseDups_of_nodup graph.tables.nodup_names).symm, List.mem_eraseDups]
    exact List.mem_append_right _ mentioned

/-- **Registering the same items once more** changes nothing. -/
theorem registerAll_again (registered : graph.registerAll items = (later, none)) :
    later.registerAll items = (later, none) := by
  have named := registerAll_eq_none_iff.1 (congrArg Prod.snd registered)
  have again : ∀ item ∈ items, later.register item = .ok later := fun item member =>
    (adds_registerAll registered).register_again member (named item member)
  -- The graph stays the same from item to item, so the induction needs no more than this.
  clear registered named
  induction items with
  | nil => rfl
  | cons item items ih =>
    obtain ⟨first, others⟩ := List.forall_mem_cons.1 again
    rw [registerAll_cons_of_ok first, ih others]

/-! ## Specifications -/

/-- **Registering a specification is a prefix fold** over its items, the edges before the tables.
The items before the first one with an empty name are registered and no other, whether this is done
at once or step by step, and that item is refused; there is no refusal exactly if no item has an
empty name.  Then the new names follow the old ones in the order of first sight, the old numbers and
conditions are kept, the new links are those of the edges, and registering the specification once
more changes nothing. -/
theorem registerSpec_is_prefix_fold (graph : JoinGraph) (spec : GraphSpec) :
    (Draft.registerSpec spec).run.run graph.draft =
        (Draft.answerOf (graph.registerSpec spec).2, (graph.registerSpec spec).1.draft) ∧
    (∃ later, graph.registerAll (spec.items.takeWhile fun item => "" ∉ item.names) = (later, none) ∧
      graph.registerSpec spec =
        (later, (spec.items.find? fun item => "" ∈ item.names).map Registration.refusal)) ∧
    ((graph.registerSpec spec).2 = none ↔ ∀ item ∈ spec.items, "" ∉ item.names) ∧
    (∀ e, (graph.registerSpec spec).2 = some e → e.kind = "InvalidArgument") ∧
    ∀ later, graph.registerSpec spec = (later, none) →
      later.tables.names = graph.tables.names ++
        ((spec.items.flatMap Registration.names).filter (· ∉ graph.tables.names)).eraseDups ∧
      (∀ name i, graph.tables.id? name = some i → later.tables.id? name = some i) ∧
      (∀ c ∈ graph.conditions.toList, c ∈ later.conditions.toList) ∧
      (∀ left right, later.hasCondition left right = true ↔
        s(left, right) ∈ spec.items.filterMap Registration.pair? ∨
          graph.hasCondition left right = true) ∧
      later.registerSpec spec = (later, none) := by
  refine ⟨Draft.run_registerSpec spec graph, graph.registerAll_eq_of_takeWhile spec.items,
    registerAll_eq_none_iff, fun e => kind_of_registerAll, fun later registered => ?_⟩
  have adds := adds_registerAll registered
  exact ⟨adds.names_eq, fun _ _ => Registry.id?_of_isPrefix adds.grown, adds.kept, adds.links,
    registerAll_again registered⟩

/-- An edge with one empty name between others, whose other name is new and leaves no trace; and a
specification without empty names, which is registered to a graph with a table of its own. -/
theorem registerSpec_is_prefix_fold_half_named :
    ∃ graph : JoinGraph, JoinGraph.empty.registerAll [.condition "A" "B"] = (graph, none) ∧
      (∃ later, graph.registerAll [.condition "C" "A"] = (later, none) ∧
        graph.registerSpec ⟨["E"], [("C", "A"), ("D", ""), ("", "A")]⟩ =
          (later, some (.unnamedSide "D" ""))) ∧
      ∃ later, graph.registerSpec ⟨["D", "A", "E"], [("C", "A"), ("D", "D")]⟩ = (later, none) ∧
        later.tables.names = ["A", "B", "C", "D", "E"] ∧ later.tables.id? "B" = some 1 ∧
        later.hasCondition "D" "D" = true ∧
        later.registerSpec ⟨["D", "A", "E"], [("C", "A"), ("D", "D")]⟩ = (later, none) := by
  refine ⟨_, rfl, ?_, ?_⟩
  · exact (registerSpec_is_prefix_fold _ ⟨["E"], [("C", "A"), ("D", ""), ("", "A")]⟩).2.1
  · obtain ⟨names, numbers, -, links, again⟩ :=
      (registerSpec_is_prefix_fold (JoinGraph.empty.registerAll [.condition "A" "B"]).1
        ⟨["D", "A", "E"], [("C", "A"), ("D", "D")]⟩).2.2.2.2 _ rfl
    exact ⟨_, rfl, names, numbers "B" 1 (by decide), (links "D" "D").2 (.inl (by decide)), again⟩

end JoinGraph

end JoinOrder
