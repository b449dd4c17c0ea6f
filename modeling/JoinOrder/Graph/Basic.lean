/-
# Join Graphs

A join graph has numbered tables and conditions between them.  It grows by registrations: a
condition between two named tables, or a table on its own; either way a new name gets the next
number.  A registration that names no table is refused and changes nothing.

Main statements: what a refused registration means (`addCondition_eq_error`,
`addTable_eq_error_iff`), and that a list of registrations is a fold that stops at the first
refusal (`registerAll_cons_of_ok`, `registerAll_cons_of_error`).
-/
import JoinOrder.Graph.Condition
import JoinOrder.Graph.Registry

namespace JoinOrder

/-- Tables and the conditions between them. -/
structure JoinGraph where
  /-- The tables. -/
  tables : Registry
  /-- The conditions, by table numbers. -/
  conditions : ConditionSet
  /-- Every condition is between registered tables. -/
  known : ∀ c ∈ conditions.toList, c.second < tables.size

namespace JoinGraph

/-- The graph without tables. -/
def empty : JoinGraph := ⟨.empty, .empty, by simp⟩

/-- The number of tables. -/
def size (graph : JoinGraph) : Nat := graph.tables.size

/-- Whether two named tables are linked; a name that is not registered is linked to nothing. -/
def hasCondition (graph : JoinGraph) (left right : String) : Bool :=
  match graph.tables.id? left, graph.tables.id? right with
  | some a, some b => graph.conditions.contains a b
  | _, _ => false

end JoinGraph

/-! ## Growing registries -/

namespace Registry

/-- Resolving a name keeps the names that are there. -/
theorem isPrefix_of_resolve {registry later : Registry} {name : String} {id : Nat}
    (h : registry.resolve name = .ok (id, later)) : registry.names <+: later.names := by
  unfold resolve at h
  split at h
  · cases h
  · split at h
    · cases h
      exact List.prefix_refl _
    · cases h
      rw [names_append]
      exact List.prefix_append _ _

/-- A registry never shrinks. -/
theorem size_le_of_resolve {registry later : Registry} {name : String} {id : Nat}
    (h : registry.resolve name = .ok (id, later)) : registry.size ≤ later.size := by
  rw [← length_names, ← length_names]
  exact (isPrefix_of_resolve h).length_le

/-- The number that a name resolves to is in use afterwards. -/
theorem id_lt_of_resolve {registry later : Registry} {name : String} {id : Nat}
    (h : registry.resolve name = .ok (id, later)) : id < later.size := by
  unfold resolve at h
  split at h
  · cases h
  · split at h
    · rename_i seen
      cases h
      exact id_lt_size seen
    · cases h
      rw [size_append]
      exact Nat.lt_succ_self _

/-- **The number that a name resolves to is its number** from then on. -/
theorem id?_of_resolve {registry later : Registry} {name : String} {id : Nat}
    (h : registry.resolve name = .ok (id, later)) : later.id? name = some id := by
  unfold resolve at h
  split at h
  · cases h
  · split at h
    · rename_i seen
      cases h
      exact seen
    · cases h
      rw [id?_eq_some_iff, name?, names_append, ← length_names]
      exact List.getElem?_concat_length

/-- Resolving fails for the empty name only. -/
theorem resolve_ok_of_ne (registry : Registry) {name : String} (h : name ≠ "") :
    ∃ id later, registry.resolve name = .ok (id, later) := by
  unfold resolve
  rw [dif_neg h]
  split
  · exact ⟨_, _, rfl⟩
  · exact ⟨_, _, rfl⟩

end Registry

/-! ## Registrations -/

/-- One thing to register. -/
inductive Registration where
  /-- A condition between two tables. -/
  | condition (left right : String)
  /-- A table on its own. -/
  | table (name : String)
  deriving DecidableEq, Repr

namespace JoinGraph

/-- The graph over a later registry, with the conditions as they are. -/
def withTables (graph : JoinGraph) (tables : Registry) (grown : graph.size ≤ tables.size) :
    JoinGraph :=
  ⟨tables, graph.conditions, fun c hc => Nat.lt_of_lt_of_le (graph.known c hc) grown⟩

/-- The graph with a further condition between two of its tables. -/
def link (graph : JoinGraph) (a b : Nat) (ha : a < graph.size) (hb : b < graph.size) :
    JoinGraph where
  tables := graph.tables
  conditions := (graph.conditions.insert a b).2
  known := by
    intro c hc
    rcases (ConditionSet.mem_insert _ _ _ _).1 hc with rfl | hc
    · rw [Condition.second_between]
      exact Nat.max_lt.2 ⟨ha, hb⟩
    · exact graph.known c hc

/-- Registers a table and returns its number. -/
def addTable (graph : JoinGraph) (name : String) : Except Error (Nat × JoinGraph) :=
  match h : graph.tables.resolve name with
  | .error e => .error e
  | .ok (id, tables) => .ok (id, graph.withTables tables (Registry.size_le_of_resolve h))

/-- Registers a condition between two tables, the left name first.  Both names are checked before
either is registered. -/
def addCondition (graph : JoinGraph) (left right : String) : Except Error JoinGraph :=
  if left = "" ∨ right = "" then .error (.unnamedSide left right)
  else
    match hl : graph.tables.resolve left with
    | .error e => .error e
    | .ok (a, tables) =>
      match hr : tables.resolve right with
      | .error e => .error e
      | .ok (b, tables') =>
        .ok <|
          ((graph.withTables tables (Registry.size_le_of_resolve hl)).withTables tables'
            (Registry.size_le_of_resolve hr)).link a b
            (Nat.lt_of_lt_of_le (Registry.id_lt_of_resolve hl) (Registry.size_le_of_resolve hr))
            (Registry.id_lt_of_resolve hr)

/-- Makes one registration. -/
def register (graph : JoinGraph) : Registration → Except Error JoinGraph
  | .condition left right => graph.addCondition left right
  | .table name => (graph.addTable name).map Prod.snd

/-- Makes registrations one after another up to the first refusal: the graph reached, and the
refusal if there is one. -/
def registerAll (graph : JoinGraph) : List Registration → JoinGraph × Option Error
  | [] => (graph, none)
  | item :: items =>
    match graph.register item with
    | .ok later => later.registerAll items
    | .error e => (graph, some e)

/-- The tables of a later graph that an earlier one does not have, with their numbers. -/
def newTables (earlier later : JoinGraph) : List (String × Nat) :=
  (later.tables.names.drop earlier.size).zipIdx earlier.size

/-! ## Refusals -/

/-- A table is refused for the empty name only. -/
theorem addTable_eq_error_iff {graph : JoinGraph} {name : String} {e : Error} :
    graph.addTable name = .error e ↔ name = "" ∧ e = .emptyTableName := by
  unfold addTable
  constructor
  · intro h
    split at h
    · rename_i e' refused
      by_cases empty : name = ""
      · subst empty
        rw [Registry.resolve_empty] at refused
        cases refused
        cases h
        exact ⟨rfl, rfl⟩
      · obtain ⟨id, later, accepted⟩ := Registry.resolve_ok_of_ne graph.tables empty
        rw [accepted] at refused
        cases refused
    · cases h
  · rintro ⟨rfl, rfl⟩
    split
    · rename_i e' refused
      rw [Registry.resolve_empty] at refused
      cases refused
      rfl
    · rename_i id tables accepted
      rw [Registry.resolve_empty] at accepted
      cases accepted

/-- A condition with an unnamed side is refused. -/
theorem addCondition_eq_error {graph : JoinGraph} {left right : String}
    (h : left = "" ∨ right = "") :
    graph.addCondition left right = .error (.unnamedSide left right) := by
  simp [addCondition, h]

/-! ## Acceptances -/

/-- What a table whose name resolves does. -/
theorem exists_addTable_eq_ok {graph : JoinGraph} {name : String} {id : Nat} {tables : Registry}
    (h : graph.tables.resolve name = .ok (id, tables)) :
    ∃ later, graph.addTable name = .ok (id, later) ∧ later.tables = tables ∧
      later.conditions = graph.conditions := by
  unfold addTable
  split
  · rename_i refused
    rw [h] at refused
    cases refused
  · rename_i accepted
    rw [h] at accepted
    cases accepted
    exact ⟨_, rfl, rfl, rfl⟩

/-- What a condition between two names that resolve does. -/
theorem exists_addCondition_eq_ok {graph : JoinGraph} {left right : String} {a b : Nat}
    {tables tables' : Registry}
    (nl : left ≠ "") (nr : right ≠ "") (hl : graph.tables.resolve left = .ok (a, tables))
    (hr : tables.resolve right = .ok (b, tables')) :
    ∃ later, graph.addCondition left right = .ok later ∧ later.tables = tables' ∧
      later.conditions = (graph.conditions.insert a b).2 := by
  rw [addCondition, if_neg (not_or.2 ⟨nl, nr⟩)]
  split
  · rename_i refused
    rw [hl] at refused
    cases refused
  · rename_i first accepted
    rw [hl] at accepted
    cases accepted
    split
    · rename_i refused
      rw [hr] at refused
      cases refused
    · rename_i second accepted
      rw [hr] at accepted
      cases accepted
      exact ⟨_, rfl, rfl, rfl⟩

/-! ## Lists of registrations -/

/-- A registration that is accepted is followed by the others. -/
theorem registerAll_cons_of_ok {graph later : JoinGraph} {item : Registration}
    (h : graph.register item = .ok later) (items : List Registration) :
    graph.registerAll (item :: items) = later.registerAll items := by
  rw [registerAll, h]

/-- **A refusal ends the list**, and the graph stays as it was before the refused registration. -/
theorem registerAll_cons_of_error {graph : JoinGraph} {item : Registration} {e : Error}
    (h : graph.register item = .error e) (items : List Registration) :
    graph.registerAll (item :: items) = (graph, some e) := by
  rw [registerAll, h]

end JoinGraph

end JoinOrder
