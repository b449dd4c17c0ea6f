/-
# Statistics

The figures of a count: how large the search space was, how many trees passed, and what the work
took.  All figures are words, and all of them must be given when they are read from a text.
-/
import JoinOrder.Json.Fields
import JoinOrder.Json.Reader
import JoinOrder.Json.Writer

namespace JoinOrder

/-- The figures of a count. -/
structure Statistics where
  /-- The number of tables. -/
  inputs : Nat
  /-- The number of leaf orders. -/
  orders : Nat
  /-- The number of templates. -/
  templates : Nat
  /-- The number of trees that were checked. -/
  pairsEvaluated : Nat
  /-- The number of trees without a cross product. -/
  crossProductFree : Nat
  /-- The number of trees whose inputs are in the memo. -/
  cachedInputSets : Nat
  /-- The number of joins whose verdict is in the memo. -/
  cachedVerdicts : Nat
  /-- The number of progress reports. -/
  progressReports : Nat
  /-- The time taken, in milliseconds. -/
  elapsedMs : Nat
  deriving DecidableEq, Repr

namespace Statistics

/-- The figures for at most one table, where nothing has to be checked: a single table is one plan,
and without tables there is none. -/
def trivial (inputs : Nat) : Statistics := ⟨inputs, inputs, inputs, 0, inputs, 0, 0, 0, 0⟩

/-- The same figures with another time. -/
def withElapsed (statistics : Statistics) (elapsedMs : Nat) : Statistics :=
  { statistics with elapsedMs }

/-! ## JSON form -/

/-- The fields of the record in the order of declaration. -/
def fieldNames : List String :=
  ["inputs", "orders", "templates", "pairs_evaluated", "cross_product_free", "cached_input_sets",
    "cached_verdicts", "progress_reports", "elapsed_ms"]

/-- The figures in the order of declaration. -/
def figures (s : Statistics) : List Nat :=
  [s.inputs, s.orders, s.templates, s.pairsEvaluated, s.crossProductFree, s.cachedInputSets,
    s.cachedVerdicts, s.progressReports, s.elapsedMs]

/-- The JSON form. -/
def toJson (statistics : Statistics) : Json :=
  Json.record (fieldNames.zip (statistics.figures.map Json.natural))

/-- The statistics that a JSON value denotes. -/
def ofJson? (json : Json) : Option Statistics := do
  let fields ← json.fields? fieldNames
  let figure (name : String) : Option Nat := Json.required fields name Json.word?
  return {
    inputs := ← figure "inputs"
    orders := ← figure "orders"
    templates := ← figure "templates"
    pairsEvaluated := ← figure "pairs_evaluated"
    crossProductFree := ← figure "cross_product_free"
    cachedInputSets := ← figure "cached_input_sets"
    cachedVerdicts := ← figure "cached_verdicts"
    progressReports := ← figure "progress_reports"
    elapsedMs := ← figure "elapsed_ms" }

/-- The statistics that a text denotes. -/
def parse? (text : String) : Option Statistics :=
  (Json.parse text).bind ofJson?

end Statistics

end JoinOrder
