/-
# Graph Specifications

A graph specification lists edges and tables by name, as a graph file gives them.  Registering one
makes its conditions first and then its tables, in the order of the lists.
-/
import JoinOrder.Content
import JoinOrder.Graph.Basic
import JoinOrder.Json.Fields
import JoinOrder.Json.Reader
import JoinOrder.Json.Writer

namespace JoinOrder

/-- Tables and edges by name. -/
structure GraphSpec where
  /-- Tables, with or without edges. -/
  tables : List String
  /-- Pairs of tables with a condition. -/
  edges : List (String × String)
  deriving DecidableEq, Repr

namespace GraphSpec

/-- The specification without tables and edges. -/
def empty : GraphSpec := ⟨[], []⟩

/-- What a specification registers: its edges, then its tables. -/
def items (spec : GraphSpec) : List Registration :=
  spec.edges.map (fun edge => .condition edge.1 edge.2) ++ spec.tables.map .table

/-! ## JSON form -/

/-- The fields of the record in the order of declaration. -/
def fieldNames : List String := ["tables", "edges"]

/-- The JSON form of an edge. -/
def edgeToJson (edge : String × String) : Json :=
  .array [Json.text edge.1, Json.text edge.2]

/-- The JSON form. -/
def toJson (spec : GraphSpec) : Json :=
  Json.record [("tables", .array (spec.tables.map Json.text)),
    ("edges", .array (spec.edges.map edgeToJson))]

/-- The specification that a JSON value denotes; a list that is left out is empty. -/
def ofJson? (json : Json) : Option GraphSpec := do
  let fields ← json.fields? fieldNames
  let tables ← Json.optional fields "tables" (Json.list? Json.text?) []
  let edges ← Json.optional fields "edges" (Json.list? Json.pair?) []
  return ⟨tables, edges⟩

/-- The specification that a text denotes. -/
def parse (text : String) : Except Error GraphSpec :=
  match (Json.parse text).bind ofJson? with
  | some spec => .ok spec
  | none => .error .malformedGraph

/-- The specification that a file denotes, if it can be read. -/
def ofContent (content : Content) : Except Error GraphSpec := do
  parse (← content.read)

end GraphSpec

/-- Registers a specification up to its first refusal. -/
def JoinGraph.registerSpec (graph : JoinGraph) (spec : GraphSpec) : JoinGraph × Option Error :=
  graph.registerAll spec.items

end JoinOrder
