/-
# Drafts of Join Graphs

A registration works on a draft, part by part: each name is looked up and added to the tables if it
is new, and then the condition is added.  What was done before a failure stays done, and the
registrations that follow go on from there.

Main statements: a registration that names no table leaves the draft as it is
(`run_perform_of_unnamed`), any other one turns the draft of a graph into that of the graph with the
registration made (`run_perform_of_named`), registrations may be made in parts
(`performAll_append`), and a specification registered step by step leaves the draft of the graph
that registering it makes (`run_registerSpec`).
-/
import JoinOrder.Graph.Basic
import JoinOrder.Graph.Spec

namespace JoinOrder

/-! ## What a registration mentions -/

namespace Registration

/-- The names that a registration mentions, the left one first. -/
def names : Registration → List String
  | condition left right => [left, right]
  | table name => [name]

/-- The error of a registration that is refused. -/
def refusal : Registration → Error
  | condition left right => .unnamedSide left right
  | table _ => .emptyTableName

/-- The number that a registration returns: that of a table on its own. -/
def number? (graph : JoinGraph) : Registration → Option Nat
  | condition _ _ => none
  | table name => graph.tables.id? name

/-- Refusals are about the arguments. -/
theorem kind_refusal (item : Registration) : item.refusal.kind = "InvalidArgument" := by
  cases item <;> rfl

end Registration

/-- A registration with an empty name is refused. -/
theorem JoinGraph.register_of_unnamed {graph : JoinGraph} {item : Registration}
    (h : "" ∈ item.names) : graph.register item = .error item.refusal := by
  cases item with
  | condition left right =>
    have unnamed : left = "" ∨ right = "" := by simpa [Registration.names, eq_comm] using h
    exact addCondition_eq_error unnamed
  | table name =>
    obtain rfl : name = "" := by simpa [Registration.names, eq_comm] using h
    rw [register, addTable_eq_error_iff.2 ⟨rfl, rfl⟩]
    rfl

/-! ## Drafts -/

/-- The tables and the conditions, each on its own. -/
structure Draft where
  /-- The tables. -/
  tables : Registry
  /-- The conditions, by table numbers. -/
  conditions : ConditionSet

/-- The draft that is a graph. -/
def JoinGraph.draft (graph : JoinGraph) : Draft := ⟨graph.tables, graph.conditions⟩

namespace Draft

/-- The draft without tables. -/
def empty : Draft := ⟨.empty, .empty⟩

/-- Work on a draft that may fail; the draft outlives a failure. -/
abbrev Work (α : Type) := ExceptT Error (StateM Draft) α

/-- Looks up the number of a name, which is added to the tables if it is new. -/
def resolve (name : String) : Work Nat := do
  let draft ← get
  match draft.tables.resolve name with
  | .error e => throw e
  | .ok (id, tables) =>
    set { draft with tables }
    return id

/-- Adds the condition between two numbers. -/
def link (a b : Nat) : Work Unit :=
  modify fun draft => { draft with conditions := (draft.conditions.insert a b).2 }

/-- Makes a registration step by step. -/
def perform : Registration → Work (Option Nat)
  | .condition left right => do
    if left = "" ∨ right = "" then throw (.unnamedSide left right)
    let a ← resolve left
    let b ← resolve right
    link a b
    return none
  | .table name => do
    let id ← resolve name
    return some id

/-- What registrations return that are made one after another, and the draft after them.  A refusal
does not keep the others from being made. -/
def performAll (draft : Draft) : List Registration → List (Except Error (Option Nat)) × Draft
  | [] => ([], draft)
  | item :: items =>
    let (answer, draft) := (perform item).run.run draft
    let (answers, draft) := draft.performAll items
    (answer :: answers, draft)

/-! ## Single steps -/

/-- Looking up a name changes the tables as their registry does. -/
theorem run_resolve (name : String) (draft : Draft) :
    (resolve name).run.run draft =
      match draft.tables.resolve name with
      | .ok (id, tables) => (.ok id, { draft with tables })
      | .error e => (.error e, draft) := by
  have read : (get : Work Draft).run.run draft = (.ok draft, draft) := rfl
  rw [resolve, run_bind_of_ok read]
  cases draft.tables.resolve name <;> rfl

/-- **A refused registration changes nothing**, not even if one of its names is new. -/
theorem run_perform_of_unnamed {item : Registration} (h : "" ∈ item.names) (draft : Draft) :
    (perform item).run.run draft = (.error item.refusal, draft) := by
  cases item with
  | condition left right =>
    have unnamed : left = "" ∨ right = "" := by simpa [Registration.names, eq_comm] using h
    rw [perform, if_pos unnamed]
    rfl
  | table name =>
    obtain rfl : name = "" := by simpa [Registration.names, eq_comm] using h
    refine run_bind_of_error ?_ _
    rw [run_resolve, Registry.resolve_empty]
    rfl

/-- **A registration that names its tables** is made, and the draft is again that of a graph. -/
theorem run_perform_of_named {item : Registration} (h : "" ∉ item.names) (graph : JoinGraph) :
    ∃ later, graph.register item = .ok later ∧
      (perform item).run.run graph.draft = (.ok (item.number? later), later.draft) := by
  cases item with
  | condition left right =>
    have named : left ≠ "" ∧ right ≠ "" := by
      simpa [Registration.names, eq_comm, not_or] using h
    obtain ⟨a, tables, hl⟩ := graph.tables.resolve_ok_of_ne named.1
    obtain ⟨b, tables', hr⟩ := tables.resolve_ok_of_ne named.2
    obtain ⟨later, added, hasTables, hasConditions⟩ :=
      JoinGraph.exists_addCondition_eq_ok named.1 named.2 hl hr
    have first : (resolve left).run.run graph.draft = (.ok a, ⟨tables, graph.conditions⟩) := by
      rw [run_resolve, JoinGraph.draft, hl]
    have second : (resolve right).run.run ⟨tables, graph.conditions⟩ =
        (.ok b, ⟨tables', graph.conditions⟩) := by
      rw [run_resolve, hr]
    have made : later.draft = ⟨tables', (graph.conditions.insert a b).2⟩ := by
      rw [JoinGraph.draft, hasTables, hasConditions]
    refine ⟨later, added, ?_⟩
    rw [perform, if_neg (not_or.2 named), made]
    exact (run_bind_of_ok first _).trans (run_bind_of_ok second _)
  | table name =>
    have named : name ≠ "" := by simpa [Registration.names, eq_comm] using h
    obtain ⟨id, tables, resolved⟩ := graph.tables.resolve_ok_of_ne named
    obtain ⟨later, added, hasTables, hasConditions⟩ := JoinGraph.exists_addTable_eq_ok resolved
    refine ⟨later, by rw [JoinGraph.register, added]; rfl, ?_⟩
    have looked : (resolve name).run.run graph.draft = (.ok id, ⟨tables, graph.conditions⟩) := by
      rw [run_resolve, JoinGraph.draft, resolved]
    have made : later.draft = ⟨tables, graph.conditions⟩ := by
      rw [JoinGraph.draft, hasTables, hasConditions]
    rw [perform, run_bind_of_ok looked, made, Registration.number?, hasTables,
      Registry.id?_of_resolve resolved]
    rfl

/-! ## Lists of registrations -/

theorem performAll_cons (draft : Draft) (item : Registration) (items : List Registration) :
    draft.performAll (item :: items) =
      (((perform item).run.run draft).1 ::
          (((perform item).run.run draft).2.performAll items).1,
        (((perform item).run.run draft).2.performAll items).2) := rfl

/-- Registrations may be made in parts. -/
theorem performAll_append (draft : Draft) (items more : List Registration) :
    draft.performAll (items ++ more) =
      ((draft.performAll items).1 ++ ((draft.performAll items).2.performAll more).1,
        ((draft.performAll items).2.performAll more).2) := by
  induction items generalizing draft with
  | nil => rfl
  | cons item items ih => rw [List.cons_append, performAll_cons, performAll_cons, ih]; rfl

/-! ## Specifications -/

/-- Registers a specification step by step: each edge, then each table, up to the first refusal. -/
def registerSpec (spec : GraphSpec) : Work Unit := do
  forM spec.edges fun edge => discard (perform (.condition edge.1 edge.2))
  forM spec.tables fun table => discard (perform (.table table))

/-- The edges and the tables of a specification are registered in one go. -/
theorem registerSpec_eq_forM (spec : GraphSpec) :
    registerSpec spec = forM spec.items fun item => discard (perform item) := by
  rw [GraphSpec.items, List.forM_append, List.forM_map, List.forM_map]
  rfl

/-- What registering returns: nothing, or the refusal. -/
def answerOf : Option Error → Except Error Unit
  | none => .ok ()
  | some e => .error e

/-- **Registrations up to the first refusal** leave the draft of the graph that they lead to. -/
theorem run_forM_perform (items : List Registration) (graph : JoinGraph) :
    (forM items fun item => discard (perform item) : Work Unit).run.run graph.draft =
      (answerOf (graph.registerAll items).2, (graph.registerAll items).1.draft) := by
  induction items generalizing graph with
  | nil => rfl
  | cons item items ih =>
    rw [List.forM_cons]
    by_cases unnamed : "" ∈ item.names
    · have refused : (discard (perform item)).run.run graph.draft =
          (.error item.refusal, graph.draft) :=
        run_bind_of_error (run_perform_of_unnamed unnamed graph.draft) _
      rw [run_bind_of_error refused, JoinGraph.registerAll_cons_of_error
        (JoinGraph.register_of_unnamed unnamed)]
      rfl
    · obtain ⟨later, registered, performed⟩ := run_perform_of_named unnamed graph
      have made : (discard (perform item)).run.run graph.draft = (.ok (), later.draft) :=
        run_bind_of_ok performed _
      rw [run_bind_of_ok made, JoinGraph.registerAll_cons_of_ok registered, ih]

/-- **A specification registered step by step** leaves the draft of the graph that registering it
makes, whether or not it is refused. -/
theorem run_registerSpec (spec : GraphSpec) (graph : JoinGraph) :
    (registerSpec spec).run.run graph.draft =
      (answerOf (graph.registerSpec spec).2, (graph.registerSpec spec).1.draft) := by
  rw [registerSpec_eq_forM, run_forM_perform]
  rfl

end Draft

end JoinOrder
