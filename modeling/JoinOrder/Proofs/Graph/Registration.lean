/-
# Registrations and the Graph of Names

To those who register tables and conditions, a join graph is a graph of names: the names in the
order of first sight, and the unordered pairs of names that were given a condition.  The numbers of
the tables and the order within a condition are a matter of the join graph alone.  Each registration
that is made adds its names and its pair, and each that is refused adds nothing.

Main statements: the conditions are as many as the pairs (`size_conditions_eq_card`), what one
registration adds (`adds_of_register`, `Represents.register`), any number of them
(`exists_performAll`), and all of this about the registrations from the beginning
(`registrations_represent_names`).
-/
import Mathlib.Data.Finset.Card
import Mathlib.Data.Finset.Sym
import JoinOrder.Graph.Draft
import JoinOrder.Proofs.Graph.Shape

namespace JoinOrder

/-! ## Graphs of names -/

/-- Names in an order, and unordered pairs of names. -/
structure NameGraph where
  /-- The names. -/
  tables : List String
  /-- The pairs; a name may be paired with itself. -/
  links : Finset (Sym2 String)

/-- The pair of names that a registration links. -/
def Registration.pair? : Registration → Option (Sym2 String)
  | condition left right => some s(left, right)
  | table _ => none

/-- The graph of the names in registrations: each name at its first place, and the linked pairs. -/
def NameGraph.ofRegistrations (items : List Registration) : NameGraph where
  tables := (items.flatMap Registration.names).eraseDups
  links := (items.filterMap Registration.pair?).toFinset

/-- What a join graph shows of itself is the graph of names. -/
structure JoinGraph.Represents (graph : JoinGraph) (names : NameGraph) : Prop where
  /-- The tables are the names in their order. -/
  tables : graph.tables.names = names.tables
  /-- No table is listed twice. -/
  distinct : graph.tables.names.Nodup
  /-- The number of a table is the place of its name. -/
  numbers : ∀ name i, graph.tables.id? name = some i ↔ names.tables[i]? = some name
  /-- Two tables are linked exactly if their names are a pair. -/
  links : ∀ left right, graph.hasCondition left right = true ↔ s(left, right) ∈ names.links
  /-- There are as many conditions as pairs. -/
  size : graph.conditions.size = names.links.card
  /-- A condition is between registered tables, the smaller number first. -/
  known : ∀ c ∈ graph.conditions.toList, c.first ≤ c.second ∧ c.second < graph.size

/-! ## Growing registries -/

namespace Registry

variable {registry later : Registry} {name : String} {id : ℕ}

/-- **A number once given stays** as long as names are added at the end only. -/
theorem id?_of_isPrefix (grown : registry.names <+: later.names) (h : registry.id? name = some id) :
    later.id? name = some id := by
  obtain ⟨rest, names⟩ := grown
  rw [id?_eq_some_iff, name?] at h ⊢
  obtain ⟨inUse, -⟩ := List.getElem?_eq_some_iff.1 h
  rwa [← names, List.getElem?_append_left inUse]

/-- A name with a number that was in use before had this number then. -/
theorem id?_of_isPrefix_of_lt (grown : registry.names <+: later.names)
    (h : later.id? name = some id) (inUse : id < registry.size) : registry.id? name = some id := by
  obtain ⟨rest, names⟩ := grown
  rw [id?_eq_some_iff, name?] at h ⊢
  rw [← length_names] at inUse
  rwa [← names, List.getElem?_append_left inUse] at h

/-- Resolving a name puts it behind the others unless it is there. -/
theorem names_of_resolve {seen : List String} (names : registry.names = seen.eraseDups)
    (h : registry.resolve name = .ok (id, later)) :
    later.names = (seen ++ [name]).eraseDups := by
  have isNamed : name ≠ "" := by
    rintro rfl
    rw [resolve_empty] at h
    cases h
  rw [List.eraseDups_append, ← names]
  by_cases member : name ∈ registry.names
  · obtain ⟨i, known⟩ := Option.ne_none_iff_exists'.1 (mt id?_eq_none_iff.1 (not_not.2 member))
    rw [resolve_of_id?_eq_some known] at h
    cases h
    rw [names, List.mem_eraseDups] at member
    simp [List.removeAll, member]
  · rw [resolve_of_not_mem isNamed member] at h
    cases h
    rw [names, List.mem_eraseDups] at member
    simp [List.removeAll, member, List.eraseDups_cons]

end Registry

/-! ## Links by name -/

namespace JoinGraph

variable {graph later : JoinGraph} {left right : String}

/-- Two names are linked if the tables with their numbers are. -/
theorem hasCondition_eq_true_iff :
    graph.hasCondition left right = true ↔ ∃ i j, graph.tables.id? left = some i ∧
      graph.tables.id? right = some j ∧ graph.conditions.contains i j = true := by
  unfold hasCondition
  cases graph.tables.id? left <;> cases graph.tables.id? right <;> simp

/-- The same, if further tables have been added since. -/
theorem hasCondition_iff_of_isPrefix (grown : graph.tables.names <+: later.tables.names) :
    graph.hasCondition left right = true ↔ ∃ i j, later.tables.id? left = some i ∧
      later.tables.id? right = some j ∧ graph.conditions.contains i j = true := by
  rw [hasCondition_eq_true_iff]
  constructor
  · rintro ⟨i, j, first, second, linked⟩
    exact ⟨i, j, Registry.id?_of_isPrefix grown first, Registry.id?_of_isPrefix grown second,
      linked⟩
  · rintro ⟨i, j, first, second, linked⟩
    obtain ⟨known, known'⟩ := lt_size_of_contains linked
    exact ⟨i, j, Registry.id?_of_isPrefix_of_lt grown first known,
      Registry.id?_of_isPrefix_of_lt grown second known', linked⟩

/-- **One more link**: the pair of the two names, and the links that there were. -/
theorem hasCondition_iff_of_insert {a b : String} {i j : ℕ}
    (grown : graph.tables.names <+: later.tables.names)
    (hl : later.tables.id? left = some i) (hr : later.tables.id? right = some j)
    (conditions : later.conditions = (graph.conditions.insert i j).2) :
    later.hasCondition a b = true ↔ s(a, b) = s(left, right) ∨ graph.hasCondition a b = true := by
  have name : ∀ {other k}, later.tables.id? other = some k → ∀ {known},
      later.tables.id? known = some k → other = known := by
    intro other k first known second
    rw [Registry.id?_eq_some_iff] at first second
    exact Option.some.inj (first.symm.trans second)
  rw [hasCondition_eq_true_iff, hasCondition_iff_of_isPrefix grown, conditions, Sym2.eq_iff]
  constructor
  · rintro ⟨k, l, first, second, linked⟩
    rcases (ConditionSet.contains_insert _ _ _ _ _).1 linked with (⟨rfl, rfl⟩ | ⟨rfl, rfl⟩) | linked
    · exact .inl (.inl ⟨name first hl, name second hr⟩)
    · exact .inl (.inr ⟨name first hr, name second hl⟩)
    · exact .inr ⟨k, l, first, second, linked⟩
  · rintro ((⟨rfl, rfl⟩ | ⟨rfl, rfl⟩) | ⟨k, l, first, second, linked⟩)
    · exact ⟨i, j, hl, hr, (ConditionSet.contains_insert _ _ _ _ _).2 (.inl (.inl ⟨rfl, rfl⟩))⟩
    · exact ⟨j, i, hr, hl, (ConditionSet.contains_insert _ _ _ _ _).2 (.inl (.inr ⟨rfl, rfl⟩))⟩
    · exact ⟨k, l, first, second, (ConditionSet.contains_insert _ _ _ _ _).2 (.inr linked)⟩

/-- The table with the number of a name has this name. -/
theorem numbering_of_id?_eq_some {name : String} {i : ℕ} (h : graph.tables.id? name = some i)
    (inUse : i < graph.size) : (graph.numbering ⟨i, inUse⟩).1 = name := by
  have number := graph.id?_numbering ⟨i, inUse⟩
  rw [Registry.id?_eq_some_iff] at number h
  exact Option.some.inj (number.symm.trans h)

/-- **There are as many conditions as linked pairs of names.** -/
theorem size_conditions_eq_card {links : Finset (Sym2 String)}
    (h : ∀ a b, graph.hasCondition a b = true ↔ s(a, b) ∈ links) :
    graph.conditions.size = links.card := by
  have inUse : ∀ c ∈ graph.conditions.toList.toFinset,
      c.first < graph.size ∧ c.second < graph.size := by
    intro c hc
    have known := graph.known c (List.mem_toFinset.1 hc)
    exact ⟨Nat.lt_of_le_of_lt c.ordered known, known⟩
  rw [← ConditionSet.length_toList,
    ← List.toFinset_card_of_nodup graph.conditions.nodup_toList]
  refine Finset.card_bij (fun c hc => s((graph.numbering ⟨c.first, (inUse c hc).1⟩).1,
    (graph.numbering ⟨c.second, (inUse c hc).2⟩).1)) ?_ ?_ ?_
  · intro c hc
    rw [← h, hasCondition_numbering, ConditionSet.contains_iff_mem, c.between_ends]
    exact List.mem_toFinset.1 hc
  · intro c hc d hd same
    -- The ends of both conditions are in order, so the pairs are the same only in that order.
    have ends : Condition.between c.first c.second = .between d.first d.second := by
      rw [Condition.between_eq_between_iff]
      refine (Sym2.eq_iff.1 same).imp (fun both => ?_) fun both => ?_
      · exact ⟨congrArg Fin.val (graph.numbering.injective (Subtype.ext both.1)),
          congrArg Fin.val (graph.numbering.injective (Subtype.ext both.2))⟩
      · exact ⟨congrArg Fin.val (graph.numbering.injective (Subtype.ext both.1)),
          congrArg Fin.val (graph.numbering.injective (Subtype.ext both.2))⟩
    rwa [c.between_ends, d.between_ends] at ends
  · intro pair member
    induction pair using Sym2.inductionOn with
    | _ a b =>
      obtain ⟨i, j, first, second, linked⟩ := hasCondition_eq_true_iff.1 ((h a b).2 member)
      obtain ⟨known, known'⟩ := lt_size_of_contains linked
      refine ⟨.between i j, List.mem_toFinset.2 (ConditionSet.contains_iff_mem.1 linked), ?_⟩
      rcases Nat.le_total i j with le | le
      · simp only [Condition.first_between, Condition.second_between, Nat.min_eq_left le,
          Nat.max_eq_right le, numbering_of_id?_eq_some first, numbering_of_id?_eq_some second]
      · simp only [Condition.first_between, Condition.second_between, Nat.min_eq_right le,
          Nat.max_eq_left le, numbering_of_id?_eq_some first, numbering_of_id?_eq_some second]
        exact Sym2.eq_swap

/-- What a join graph shows is decided by its names and its links. -/
theorem represents_of_links {names : NameGraph} (tables : graph.tables.names = names.tables)
    (links : ∀ a b, graph.hasCondition a b = true ↔ s(a, b) ∈ names.links) :
    graph.Represents names where
  tables := tables
  distinct := graph.tables.nodup_names
  numbers name i := by rw [Registry.id?_eq_some_iff, Registry.name?, tables]
  links := links
  size := size_conditions_eq_card links
  known c hc := ⟨c.ordered, graph.known c hc⟩

/-- Without tables there is nothing. -/
theorem represents_empty : JoinGraph.empty.Represents (.ofRegistrations []) :=
  represents_of_links rfl fun _ _ => by simp [hasCondition_eq_true_iff, NameGraph.ofRegistrations,
    Registry.id?_eq_idxOf?, empty, Registry.empty, Registry.names]

/-! ## What registrations add -/

/-- What registrations have added to a join graph: their names behind the names that there were, and
their pairs. -/
structure Adds (graph : JoinGraph) (items : List Registration) (later : JoinGraph) : Prop where
  /-- Each new name stands at its first place. -/
  names : ∀ seen, graph.tables.names = seen.eraseDups →
    later.tables.names = (seen ++ items.flatMap Registration.names).eraseDups
  /-- The names that there were stand at their places. -/
  grown : graph.tables.names <+: later.tables.names
  /-- The conditions that there were are kept. -/
  kept : ∀ c ∈ graph.conditions.toList, c ∈ later.conditions.toList
  /-- New links are those of the pairs. -/
  links : ∀ left right, later.hasCondition left right = true ↔
    s(left, right) ∈ items.filterMap Registration.pair? ∨ graph.hasCondition left right = true

/-- No registration adds nothing. -/
theorem adds_nil (graph : JoinGraph) : graph.Adds [] graph where
  names seen names := by rwa [List.flatMap_nil, List.append_nil]
  grown := List.prefix_rfl
  kept _ member := member
  links _ _ := by simp

/-- What registrations have added in two parts, they have added together. -/
theorem Adds.append {items more : List Registration} {middle : JoinGraph}
    (first : graph.Adds items middle) (second : middle.Adds more later) :
    graph.Adds (items ++ more) later where
  names seen names := by
    rw [List.flatMap_append, ← List.append_assoc]
    exact second.names _ (first.names seen names)
  grown := first.grown.trans second.grown
  kept c member := second.kept c (first.kept c member)
  links left right := by
    rw [second.links, first.links, List.filterMap_append, List.mem_append]
    tauto

/-- **One registration** adds its names and its pair. -/
theorem adds_of_register {item : Registration} (named : "" ∉ item.names)
    (registered : graph.register item = .ok later) : graph.Adds [item] later := by
  cases item with
  | condition left right =>
    have isNamed : left ≠ "" ∧ right ≠ "" := by
      simpa [Registration.names, eq_comm, not_or] using named
    obtain ⟨i, tables, hl⟩ := graph.tables.resolve_ok_of_ne isNamed.1
    obtain ⟨j, tables', hr⟩ := tables.resolve_ok_of_ne isNamed.2
    obtain ⟨other, added, hasTables, hasConditions⟩ :=
      exists_addCondition_eq_ok isNamed.1 isNamed.2 hl hr
    obtain rfl := Except.ok.inj (registered.symm.trans added)
    have grown := (Registry.isPrefix_of_resolve hl).trans (Registry.isPrefix_of_resolve hr)
    have first := Registry.id?_of_isPrefix (Registry.isPrefix_of_resolve hr)
      (Registry.id?_of_resolve hl)
    rw [← hasTables] at grown first
    have second : later.tables.id? right = some j := hasTables ▸ Registry.id?_of_resolve hr
    refine ⟨fun seen names => ?_, grown, fun c member => ?_, fun a b => ?_⟩
    · rw [hasTables, Registry.names_of_resolve (Registry.names_of_resolve names hl) hr]
      simp [Registration.names]
    · rw [hasConditions]
      exact (ConditionSet.mem_insert _ _ _ _).2 (.inr member)
    · rw [hasCondition_iff_of_insert grown first second hasConditions]
      simp [Registration.pair?]
  | table name =>
    have isNamed : name ≠ "" := by simpa [Registration.names, eq_comm] using named
    obtain ⟨i, tables, resolved⟩ := graph.tables.resolve_ok_of_ne isNamed
    obtain ⟨other, added, hasTables, hasConditions⟩ := exists_addTable_eq_ok resolved
    rw [JoinGraph.register, added] at registered
    obtain rfl := Except.ok.inj registered
    have grown := hasTables ▸ Registry.isPrefix_of_resolve resolved
    refine ⟨fun seen names => ?_, grown, fun c member => ?_, fun a b => ?_⟩
    · rw [hasTables, Registry.names_of_resolve names resolved]
      simp [Registration.names]
    · rwa [hasConditions]
    · rw [hasCondition_eq_true_iff, hasConditions, ← hasCondition_iff_of_isPrefix grown]
      simp [Registration.pair?]

/-- **One more registration** keeps the names that there are, and adds its own names and its
pair. -/
theorem Represents.register {made : List Registration} {item : Registration}
    (h : graph.Represents (.ofRegistrations made)) (named : "" ∉ item.names)
    (registered : graph.register item = .ok later) :
    graph.tables.names <+: later.tables.names ∧
      later.Represents (.ofRegistrations (made ++ [item])) := by
  have adds := adds_of_register named registered
  refine ⟨adds.grown, represents_of_links ?_ fun a b => ?_⟩
  · rw [adds.names _ h.tables, NameGraph.ofRegistrations, List.flatMap_append]
  · rw [adds.links, h.links]
    simp only [NameGraph.ofRegistrations, List.mem_toFinset, List.filterMap_append,
      List.mem_append, or_comm]

end JoinGraph

/-! ## Runs of registrations -/

namespace Registration

/-- The answer to a registration: it is refused exactly for an empty name, and a table on its own is
told its number. -/
structure IsAnsweredBy (graph : JoinGraph) (item : Registration)
    (answer : Except Error (Option ℕ)) : Prop where
  /-- Only an empty name is refused, by the error that says so. -/
  refused : ∀ e, answer = .error e ↔ "" ∈ item.names ∧ e = item.refusal
  /-- A number is that of the table. -/
  number : ∀ id, answer = .ok (some id) → ∃ name, item = .table name ∧
    graph.tables.id? name = some id

/-- The registrations that were not refused. -/
def accepted (items : List Registration) (answers : List (Except Error (Option ℕ))) :
    List Registration :=
  ((items.zip answers).filter fun call => call.2.isOk).map Prod.fst

variable {graph later : JoinGraph} {item : Registration}

theorem isAnsweredBy_of_unnamed (h : "" ∈ item.names) :
    item.IsAnsweredBy graph (.error item.refusal) where
  refused e := by rw [Except.error.injEq, and_iff_right h, eq_comm]
  number _ same := nomatch same

/-- A registration that is made is answered by the number that it returns, also for later graphs. -/
theorem isAnsweredBy_of_named (h : "" ∉ item.names)
    (grown : graph.tables.names <+: later.tables.names) :
    item.IsAnsweredBy later (.ok (item.number? graph)) where
  refused e := by simp [h]
  number id same := by
    cases item with
    | condition left right => cases same
    | table name =>
      exact ⟨name, rfl, Registry.id?_of_isPrefix grown (Except.ok.inj same)⟩

end Registration

open Registration

/-- **Registrations that follow others** keep the names that there are, each is answered, and those
that are made add their names and their pairs. -/
theorem JoinGraph.Represents.exists_performAll {graph : JoinGraph} {made : List Registration}
    (h : graph.Represents (.ofRegistrations made)) (items : List Registration) :
    ∃ answers later, graph.draft.performAll items = (answers, later.draft) ∧
      graph.tables.names <+: later.tables.names ∧
      List.Forall₂ (IsAnsweredBy later) items answers ∧
      later.Represents (.ofRegistrations (made ++ accepted items answers)) := by
  induction items generalizing graph made with
  | nil => exact ⟨[], graph, rfl, List.prefix_rfl, .nil, by rwa [accepted, List.zip_nil_left,
      List.filter_nil, List.map_nil, List.append_nil]⟩
  | cons item items ih =>
    by_cases unnamed : "" ∈ item.names
    · obtain ⟨answers, later, performed, grown, answered, represents⟩ := ih h
      refine ⟨.error item.refusal :: answers, later, ?_, grown,
        .cons (isAnsweredBy_of_unnamed unnamed) answered, represents⟩
      rw [Draft.performAll_cons, Draft.run_perform_of_unnamed unnamed, performed]
    · obtain ⟨next, registered, run⟩ := Draft.run_perform_of_named unnamed graph
      obtain ⟨kept, step⟩ := h.register unnamed registered
      obtain ⟨answers, later, performed, grown, answered, represents⟩ := ih step
      refine ⟨.ok (item.number? next) :: answers, later, ?_, kept.trans grown,
        .cons (isAnsweredBy_of_named unnamed grown) answered, ?_⟩
      · rw [Draft.performAll_cons, run, performed]
      · rwa [List.append_assoc, List.singleton_append] at represents

/-- **Registrations represent a graph of names.**  Registrations that are made one after another
from the beginning lead to a join graph that shows exactly the names and pairs in those that were
not refused.  A registration is refused exactly for an empty name, as an argument that is not
acceptable, and then nothing at all has changed.  A number that a name has got stays its number
whatever is registered later. -/
theorem registrations_represent_names (items : List Registration) :
    ∃ answers graph, Draft.empty.performAll items = (answers, graph.draft) ∧
      List.Forall₂ (IsAnsweredBy graph) items answers ∧
      graph.Represents (.ofRegistrations (accepted items answers)) ∧
      (∀ item : Registration, item.refusal.kind = "InvalidArgument" ∧ ("" ∈ item.names →
        Draft.empty.performAll (items ++ [item]) =
          (answers ++ [.error item.refusal], graph.draft))) ∧
      ∀ more answers' later, Draft.empty.performAll (items ++ more) = (answers', later) →
        ∀ name i, graph.tables.id? name = some i → later.tables.id? name = some i := by
  obtain ⟨answers, graph, performed, -, answered, represents⟩ :=
    JoinGraph.represents_empty.exists_performAll items
  have begun : Draft.empty.performAll items = (answers, graph.draft) := performed
  refine ⟨answers, graph, begun, answered, represents, ?_, ?_⟩
  · intro item
    refine ⟨item.kind_refusal, fun unnamed => ?_⟩
    rw [Draft.performAll_append, begun, Draft.performAll_cons,
      Draft.run_perform_of_unnamed unnamed]
    rfl
  · intro more answers' later onward name i number
    obtain ⟨rest, last, performed', grown, -, -⟩ := represents.exists_performAll more
    rw [Draft.performAll_append, begun, performed'] at onward
    obtain ⟨-, rfl⟩ := Prod.mk.inj onward
    exact Registry.id?_of_isPrefix grown number

/-- A refused registration between others, and one more that names a new table beside the empty one:
the other names and pairs are there, and nothing else is. -/
theorem registrations_represent_names_with_refusals :
    ∃ answers, ∃ graph : JoinGraph,
      Draft.empty.performAll [.condition "A" "B", .condition "C" "", .condition "B" "A",
        .condition "B" "B"] = (answers, graph.draft) ∧
      graph.tables.names = ["A", "B"] ∧ graph.conditions.size = 2 ∧
      graph.hasCondition "B" "A" = true ∧ graph.hasCondition "A" "A" = false ∧
      Draft.empty.performAll ([.condition "A" "B", .condition "C" "", .condition "B" "A",
        .condition "B" "B"] ++ [.condition "D" ""]) =
          (answers ++ [.error (.unnamedSide "D" "")], graph.draft) ∧
      ∀ answers' later,
        Draft.empty.performAll ([.condition "A" "B", .condition "C" "", .condition "B" "A",
          .condition "B" "B"] ++ [.table "E", .condition "F" "A"]) = (answers', later) →
        later.tables.id? "B" = some 1 := by
  obtain ⟨answers, graph, performed, -, represents, refused, stays⟩ :=
    registrations_represent_names [.condition "A" "B", .condition "C" "", .condition "B" "A",
      .condition "B" "B"]
  obtain rfl : [.ok none, .error (.unnamedSide "C" ""), .ok none, .ok none] = answers :=
    congrArg Prod.fst performed
  have size : graph.conditions.size = 2 := represents.size.trans (by decide)
  have linked : graph.hasCondition "B" "A" = true := (represents.links "B" "A").2 (by decide)
  refine ⟨_, graph, performed, represents.tables, size, linked, ?_,
    (refused (.condition "D" "")).2 (by decide), ?_⟩
  · rw [Bool.eq_false_iff, Ne, represents.links]
    decide
  · intro answers' later onward
    exact stays _ answers' later onward "B" 1 ((represents.numbers _ _).2 rfl)

end JoinOrder
