/-
# Topologies

The canonical shapes of a join graph: a chain links each table to the next one, a star links the
first table to every other one, and a clique links every pair.  The tables are named `t0`, `t1`, and
so on.  For each shape the number of cross-product free trees has a closed form.
-/
import JoinOrder.ClosedForm
import JoinOrder.Graph.Basic

namespace JoinOrder

/-- The canonical shapes. -/
inductive Topology where
  | chain
  | star
  | clique
  deriving DecidableEq, Repr

namespace Topology

/-! ## Names -/

/-- The name of a shape. -/
def name : Topology → String
  | chain => "chain"
  | star => "star"
  | clique => "clique"

/-- The shape with exactly this name. -/
def ofExactName? (text : String) : Option Topology :=
  [chain, star, clique].find? fun topology => topology.name = text

/-- The shape with this name, in any mixture of upper and lower case ASCII letters. -/
def ofName (text : String) : Except Error Topology :=
  let lowered := String.ofList (text.toList.map Char.toLower)
  match ofExactName? lowered with
  | some topology => .ok topology
  | none => .error (.unknownTopology lowered)

@[simp] theorem ofExactName?_name (topology : Topology) :
    ofExactName? topology.name = some topology := by
  cases topology <;> rfl

/-! ## Graphs -/

/-- The name of the `i`-th table. -/
def tableName (i : Nat) : String := "t" ++ i.repr

/-- The condition between the `i`-th and the `j`-th table. -/
def edge (i j : Nat) : Registration := .condition (tableName i) (tableName j)

/-- The edges of a shape over `n` tables, by the numbers of their ends. -/
def edges (topology : Topology) (n : Nat) : List (Nat × Nat) :=
  match topology with
  | chain => (List.range (n - 1)).map fun i => (i, i + 1)
  | star => (List.range (n - 1)).map fun i => (0, i + 1)
  | clique => (List.range n).flatMap fun i => (List.range' (i + 1) (n - 1 - i)).map fun j => (i, j)

/-- What is registered for a shape over `n` tables: the first table, then the edges. -/
def registrations (topology : Topology) (n : Nat) : List Registration :=
  if n = 0 then []
  else .table (tableName 0) :: (topology.edges n).map fun ends => edge ends.1 ends.2

/-- The graph of a shape over `n` tables. -/
def build (topology : Topology) (n : Nat) : Except Error JoinGraph :=
  match JoinGraph.empty.registerAll (topology.registrations n) with
  | (graph, none) => .ok graph
  | (_, some e) => .error e

/-! ## Closed forms -/

/-- The number of cross-product free trees over `n` tables of a shape, as a word; none for no
table. -/
def expectedCount (topology : Topology) : Nat → Except Overflow Nat
  | 0 => .ok 0
  | n + 1 =>
    match topology with
    | chain => do
      let sides ← powerOfTwo n
      let shapes ← catalan n
      multiply wordBound sides shapes
    | star => do
      let sides ← powerOfTwo n
      let orders ← factorial n
      multiply wordBound sides orders
    | clique => do
      let orders ← factorial (n + 1)
      let shapes ← catalan n
      multiply wordBound orders shapes

/-- For a clique the whole search space is free of cross products. -/
theorem expectedCount_clique (n : Nat) : clique.expectedCount n = searchSpaceSize n := by
  cases n <;> rfl

end Topology

end JoinOrder
