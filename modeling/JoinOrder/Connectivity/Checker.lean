/-
# Checking Trees With a Memo

The look-ups behind a check, as programs on a memo: the inputs of a tree, the verdict on a join, and
the check of a whole tree.  An answer that the memo holds is taken from it, any other is worked out
and remembered.  A tree is checked from the leaves up, and after the first join without a condition
nothing more is looked up.

What is carried out are walks, which may fail by their kind (`askInputs`, `askLinked`,
`askCrossProductFree`).  Beside them stand the look-ups alone, without a walk and without failure
(`lookUpInputs`, `lookUpLinked`, `checkCrossProducts`).

A session puts questions about trees to one memo, one after another.  Between two questions the memo
may be emptied.  A question that fails is answered by its error, and the session goes on.
-/
import JoinOrder.Connectivity.Basic
import JoinOrder.Connectivity.Memo
import JoinOrder.Tree.Basic
import JoinOrder.Error

namespace JoinOrder

namespace JoinTree

/-- The key of a join of two trees. -/
def joinKey (left right : JoinTree) : JoinKey := ⟨left.digest, right.digest⟩

/-! ## Walks -/

/-- The visitor that puts the leaf indices together. -/
def inputGatherer : Visitor (StateT (List Nat) (Except Error)) Unit where
  leaf index := modify (insertAscending index)
  join _ _ _ _ := return

/-- The inputs of a tree, put together on a walk. -/
def gatherInputs (tree : JoinTree) : Except Error (List Nat) := do
  let (_, inputs) ← (tree.walk inputGatherer).run []
  return inputs

/-- Asks for the inputs of a tree. -/
def askInputs (tree : JoinTree) : ExceptT Error Access (List Nat) := do
  match ← Access.knownInputs tree.digest with
  | some found => return found
  | none =>
    let inputs ← tree.gatherInputs
    Access.rememberInputs tree.digest inputs
    return inputs

/-- Asks whether a join of two trees is linked. -/
def askLinked (conditions : ConditionSet) (left right : JoinTree) : ExceptT Error Access Bool := do
  match ← Access.knownVerdict (joinKey left right) with
  | some verdict => return verdict
  | none =>
    let lefts ← left.askInputs
    let rights ← right.askInputs
    let verdict := conditions.links lefts rights
    Access.rememberVerdict (joinKey left right) verdict
    return verdict

/-- The visitor that asks about join after join.  Its state says whether all of them were linked;
after the first one that is not, it asks no more. -/
def linkChecker (conditions : ConditionSet) :
    Visitor (StateT Bool (ExceptT Error Access)) Unit where
  leaf _ := return
  join left right _ _ := do
    if ← get then
      unless ← askLinked conditions left right do set false

/-- Asks whether a tree is free of cross products. -/
def askCrossProductFree (conditions : ConditionSet) (tree : JoinTree) :
    ExceptT Error Access Bool := do
  let (_, free) ← (tree.walk (linkChecker conditions)).run true
  return free

/-! ## Look-ups alone -/

/-- The inputs of a tree. -/
def lookUpInputs (tree : JoinTree) : Access (List Nat) :=
  .readInputs tree.digest fun
    | some found => .done found
    | none => .writeInputs tree.digest tree.inputs (.done tree.inputs)

/-- Whether a join of two trees is linked. -/
def lookUpLinked (conditions : ConditionSet) (left right : JoinTree) : Access Bool :=
  .readVerdict (joinKey left right) fun
    | some verdict => .done verdict
    | none => do
      let lefts ← left.lookUpInputs
      let rights ← right.lookUpInputs
      let verdict := conditions.links lefts rights
      .writeVerdict (joinKey left right) verdict (.done verdict)

/-- Whether a tree is free of cross products. -/
def checkCrossProducts (conditions : ConditionSet) : JoinTree → Access Bool
  | leaf _ => .done true
  | join left right => do
    if ← left.checkCrossProducts conditions then
      if ← right.checkCrossProducts conditions then
        lookUpLinked conditions left right
      else
        return false
    else
      return false

end JoinTree

/-! ## Sessions -/

/-- What can be asked in a session. -/
inductive Question where
  /-- The inputs of a tree. -/
  | inputs (tree : JoinTree)
  /-- Whether a join of two trees is linked. -/
  | linked (left right : JoinTree)
  /-- Whether a tree is free of cross products. -/
  | crossProductFree (tree : JoinTree)
  /-- That everything be forgotten. -/
  | forget
  deriving DecidableEq, Repr

/-- What is answered in a session. -/
inductive Answer where
  | inputs (tables : List Nat)
  | verdict (holds : Bool)
  | forgotten
  deriving DecidableEq, Repr

/-- The answer to a question, and the memo after it. -/
def Question.ask (conditions : ConditionSet) (question : Question) (memo : Memo) :
    Except Error Answer × Memo :=
  match question with
  | inputs tree =>
    let (tables, memo) := tree.askInputs.run.run memo
    (tables.map .inputs, memo)
  | linked left right =>
    let (verdict, memo) := (JoinTree.askLinked conditions left right).run.run memo
    (verdict.map .verdict, memo)
  | crossProductFree tree =>
    let (verdict, memo) := (tree.askCrossProductFree conditions).run.run memo
    (verdict.map .verdict, memo)
  | forget => (.ok .forgotten, .empty)

/-- The answers to questions that are put one after another, and the memo after the last one. -/
def askAll (conditions : ConditionSet) (memo : Memo) :
    List Question → List (Except Error Answer) × Memo
  | [] => ([], memo)
  | question :: questions =>
    let (answer, memo) := question.ask conditions memo
    let (answers, memo) := askAll conditions memo questions
    (answer :: answers, memo)

end JoinOrder
