/-
# Counting Cross-Product Free Trees

The count puts every leaf order into every template and checks the tree, with one memo for all of
them.  The orders are worked through one after another, and each order through all templates.  What
is done with a tree is left open in this, so that the trees can be checked in other ways too.

Before the trees are checked, the sizes of the two lists may be compared with their closed forms,
and their product must fit a word.  At most one table needs no check at all.
-/
import JoinOrder.ClosedForm
import JoinOrder.Connectivity.Checker
import JoinOrder.Enumeration.Progress
import JoinOrder.Enumeration.Statistics
import JoinOrder.Graph.Basic
import JoinOrder.Log.Event
import JoinOrder.SearchSpace.LeafOrder
import JoinOrder.SearchSpace.Template
import JoinOrder.Settings
import JoinOrder.Tree.Instantiate

namespace JoinOrder

/-! ## Working through the search space -/

/-- What is done with the trees of a search space. -/
structure Evaluator (m : Type → Type) where
  /-- Checks a tree. -/
  check : JoinTree → m Unit
  /-- Follows the last tree of an order. -/
  finishOrder : m Unit

namespace Evaluator

variable {m : Type → Type} [Monad m] [MonadLiftT (Except Error) m] (evaluator : Evaluator m)

/-- Puts an order into a template and checks the tree. -/
def evaluatePair (order : List Nat) (template : JoinTree) : m Unit := do
  let tree ← template.instantiate order
  evaluator.check tree

/-- Puts an order into one template after another. -/
def evaluateOrder (templates : List JoinTree) (order : List Nat) : m Unit := do
  templates.forM (evaluator.evaluatePair order)
  evaluator.finishOrder

/-- Works through one order after another. -/
def evaluateAll (orders : List (List Nat)) (templates : List JoinTree) : m Unit :=
  orders.forM (evaluator.evaluateOrder templates)

end Evaluator

/-! ## Sweeps -/

/-- How far a count is. -/
structure Sweep where
  /-- What has been looked up. -/
  memo : Memo
  /-- The number of cross-product free trees so far. -/
  found : Nat
  /-- The reporting. -/
  progress : Progress

namespace Sweep

/-- Nothing has been checked. -/
def start (orders : Nat) (report : Bool) : Sweep := ⟨.empty, 0, .start orders report⟩

/-- Checks one tree. -/
def checkTree (conditions : ConditionSet) (sweep : Sweep) (tree : JoinTree) :
    Except Error Sweep := do
  let (verdict, memo) := (tree.askCrossProductFree conditions).run.run sweep.memo
  let free ← verdict
  return { sweep with memo, found := if free then sweep.found + 1 else sweep.found }

/-- Marks an order as done. -/
def finishOrder (sweep : Sweep) : Sweep :=
  { sweep with progress := sweep.progress.orderCompleted sweep.found }

/-- Work on a sweep, which may fail. -/
abbrev Work := StateT Sweep (Except Error)

/-- The sweep after some work. -/
def after (sweep : Sweep) (work : Work Unit) : Except Error Sweep := do
  let (_, later) ← work.run sweep
  return later

/-- Checks trees, and marks their orders as done. -/
def evaluator (conditions : ConditionSet) : Evaluator Work where
  check tree := fun sweep => do
    let later ← sweep.checkTree conditions tree
    return ((), later)
  finishOrder := modify finishOrder

/-- Checks the tree of one pair of a template and an order. -/
def checkPair (conditions : ConditionSet) (order : List Nat) (sweep : Sweep)
    (template : JoinTree) : Except Error Sweep :=
  sweep.after ((evaluator conditions).evaluatePair order template)

/-- Checks one order with every template. -/
def checkOrder (conditions : ConditionSet) (templates : List JoinTree) (sweep : Sweep)
    (order : List Nat) : Except Error Sweep :=
  sweep.after ((evaluator conditions).evaluateOrder templates order)

/-- Checks every order with every template. -/
def checkAll (conditions : ConditionSet) (orders : List (List Nat)) (templates : List JoinTree)
    (report : Bool) : Except Error Sweep :=
  (start orders.length report).after ((evaluator conditions).evaluateAll orders templates)

end Sweep

/-! ## Counting -/

/-- Why a count has no result. -/
inductive Failure where
  | error (cause : Error)
  | overflow (cause : Overflow)
  deriving DecidableEq, Repr

/-- The number of tables beyond which a count takes impractically long. -/
def practicalInputLimit : Nat := 8

/-- A result of word arithmetic, an overflow being a failure. -/
def checked {α : Type} (result : Except Overflow α) : Except Failure α :=
  result.mapError .overflow

/-- Compares the size of a generated list with the predicted one. -/
def verifySize (what : String) (expected : Except Overflow Nat) (actual : Nat) :
    Except Failure Unit := do
  let expected ← checked expected
  if expected = actual then return ()
  else throw (.error (.searchSpaceMismatch what expected actual))

/-- The number of trees to check, after the sizes of both lists have been verified if that is asked
for. -/
def searchSpacePairs (verify : Bool) (inputs orders templates : Nat) : Except Failure Nat := do
  if verify then
    verifySize "leaf orders" (factorial inputs) orders
    verifySize "join templates" (catalan (inputs - 1)) templates
  checked (multiply wordBound orders templates)

/-- What a count said and how it ended. -/
structure CountRun where
  /-- The events in order. -/
  events : List Event
  /-- The statistics, without the time taken. -/
  result : Except Failure Statistics

/-- The events before the trees are checked, as far as the sizes are known. -/
def openingEvents (inputs orders templates : Nat) : List Event :=
  (if practicalInputLimit < inputs then [.impracticalSize inputs practicalInputLimit] else []) ++
    [.searchSpaceGenerated inputs orders templates]

/-- The statistics of a finished sweep. -/
def Sweep.statistics (sweep : Sweep) (inputs orders templates pairs : Nat) : Statistics where
  inputs := inputs
  orders := orders
  templates := templates
  pairsEvaluated := pairs
  crossProductFree := sweep.found
  cachedInputSets := sweep.memo.inputSetCount
  cachedVerdicts := sweep.memo.verdictCount
  progressReports := sweep.progress.reports.length
  elapsedMs := 0

/-- The events of a finished sweep: its reports, and its figures. -/
def Sweep.events (sweep : Sweep) (inputs : Nat) : List Event :=
  sweep.progress.reports.map (fun r => .progress r.completed r.total r.found) ++
    [.memoFilled sweep.memo.inputSetCount sweep.memo.verdictCount, .completed inputs sweep.found]

/-- Counts the cross-product free trees of a graph and reports on the way. -/
def JoinGraph.countRun (graph : JoinGraph) (settings : Settings) : CountRun :=
  let inputs := graph.size
  if inputs ≤ 1 then ⟨[], .ok (.trivial inputs)⟩
  else
    let orders := leafOrders inputs
    let trees := templates inputs
    let opening := openingEvents inputs orders.length trees.length
    match searchSpacePairs settings.verifySearchSpace inputs orders.length trees.length with
    | .error failure => ⟨opening, .error failure⟩
    | .ok pairs =>
      let opening := opening ++ [.started inputs graph.conditions.size pairs]
      match Sweep.checkAll graph.conditions orders trees settings.logProgress with
      | .error e => ⟨opening, .error (.error e)⟩
      | .ok sweep =>
        ⟨opening ++ sweep.events inputs,
          .ok (sweep.statistics inputs orders.length trees.length pairs)⟩

/-- The statistics of a count. -/
def JoinGraph.statistics (graph : JoinGraph) (settings : Settings) : Except Failure Statistics :=
  (graph.countRun settings).result

/-- The number of cross-product free trees of a graph. -/
def JoinGraph.count (graph : JoinGraph) (settings : Settings) : Except Failure Nat :=
  (graph.statistics settings).map Statistics.crossProductFree

end JoinOrder
