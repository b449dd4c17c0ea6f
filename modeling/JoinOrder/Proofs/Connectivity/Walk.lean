/-
# Walks and Look-Ups

The walks of a check may fail by their kind, but none of them does: each is its look-up alone.  The
equalities are between programs, so they also hold when other programs take steps in between.

Main statements: `askInputs_eq_lift`, `askLinked_eq_lift`, `askCrossProductFree_eq_lift`.
-/
import Mathlib.Data.List.Perm.Basic
import JoinOrder.Connectivity.Checker

namespace JoinOrder.JoinTree

/-! ## Gathering inputs -/

/-- Numbers may be put into an ascending list in any order. -/
theorem insertAscending_comm (a b : ℕ) (xs : List ℕ) :
    insertAscending a (insertAscending b xs) = insertAscending b (insertAscending a xs) := by
  induction xs with
  | nil =>
    simp only [insertAscending]
    split_ifs <;> grind
  | cons c rest ih =>
    simp only [insertAscending]
    split_ifs <;> grind [insertAscending]

instance : LeftCommutative insertAscending := ⟨insertAscending_comm⟩

/-- A walk of the gatherer puts the leaf indices into what is known, from left to right. -/
theorem walk_inputGatherer (tree : JoinTree) (known : List ℕ) :
    (tree.walk inputGatherer).run known =
      .ok ((), tree.leaves.foldl (fun xs index => insertAscending index xs) known) := by
  induction tree generalizing known with
  | leaf index => rfl
  | join left right ihl ihr =>
    rw [walk_join, StateT.run_bind, ihl]
    show (right.walk inputGatherer >>= fun _ => _).run _ = _
    rw [StateT.run_bind, ihr, leaves_join, List.foldl_append]
    rfl

/-- **Gathering the inputs never fails.** -/
theorem gatherInputs_eq_ok (tree : JoinTree) : tree.gatherInputs = .ok tree.inputs := by
  have reversed : tree.leaves.foldl (fun xs index => insertAscending index xs) [] =
      tree.inputs := by
    rw [List.foldl_eq_foldr_reverse, inputs]
    exact (List.reverse_perm tree.leaves).foldr_eq []
  rw [gatherInputs, walk_inputGatherer, reversed]
  rfl

/-! ## Asking -/

/-- **Asking for inputs never fails.** -/
theorem askInputs_eq_lift (tree : JoinTree) : tree.askInputs = ExceptT.lift tree.lookUpInputs := by
  rw [askInputs, gatherInputs_eq_ok]
  show Access.readInputs _ _ = Access.readInputs _ _
  congr 1
  funext found
  cases found <;> rfl

/-- One lifted program after another is the lift of both. -/
theorem lift_bind_lift {α β : Type} (program : Access α) (f : α → Access β) :
    (ExceptT.lift program >>= fun a => (ExceptT.lift (f a) : ExceptT Error Access β)) =
      ExceptT.lift (program >>= f) := by
  apply ExceptT.ext
  simp [ExceptT.run_lift]

/-- **Asking about a join never fails.** -/
theorem askLinked_eq_lift (conditions : ConditionSet) (left right : JoinTree) :
    askLinked conditions left right = ExceptT.lift (lookUpLinked conditions left right) := by
  rw [askLinked, askInputs_eq_lift, askInputs_eq_lift]
  show Access.readVerdict _ _ = Access.readVerdict _ _
  congr 1
  funext found
  cases found with
  | some verdict => rfl
  | none =>
    let settle (lefts rights : List ℕ) : Access Bool :=
      .writeVerdict (joinKey left right) (conditions.links lefts rights)
        (.done (conditions.links lefts rights))
    show (ExceptT.lift left.lookUpInputs >>= fun lefts => ExceptT.lift right.lookUpInputs >>=
        fun rights => (ExceptT.lift (settle lefts rights) : ExceptT Error Access Bool)) =
      ExceptT.lift (left.lookUpInputs >>= fun lefts => right.lookUpInputs >>= settle lefts)
    simp only [lift_bind_lift]

/-- Once a join was not linked, a walk asks nothing more. -/
theorem walk_linkChecker_false (conditions : ConditionSet) (tree : JoinTree) :
    (tree.walk (linkChecker conditions)).run false = return ((), false) := by
  induction tree with
  | leaf index => rfl
  | join left right ihl ihr =>
    rw [walk_join, StateT.run_bind, ihl, pure_bind, StateT.run_bind, ihr, pure_bind]
    rfl

/-- The visit of a join asks about it only if all joins before it were linked. -/
theorem join_linkChecker (conditions : ConditionSet) (left right : JoinTree) (free : Bool) :
    ((linkChecker conditions).join left right () ()).run free =
      ExceptT.lift ((fun free => ((), free)) <$>
        if free then lookUpLinked conditions left right else return false) := by
  cases free with
  | false => rfl
  | true =>
    show ((askLinked conditions left right >>= fun linked => pure (linked, true)) >>=
      fun asked => (if asked.1 then pure () else set false :
        StateT Bool (ExceptT Error Access) Unit).run asked.2) = _
    rw [askLinked_eq_lift, bind_assoc, map_eq_pure_bind, if_pos rfl, ← lift_bind_lift]
    congr 1
    funext linked
    cases linked <;> rfl

/-- As long as all joins were linked, a walk asks what the check looks up. -/
theorem walk_linkChecker_true (conditions : ConditionSet) (tree : JoinTree) :
    (tree.walk (linkChecker conditions)).run true =
      ExceptT.lift ((fun free => ((), free)) <$> tree.checkCrossProducts conditions) := by
  induction tree with
  | leaf index => rfl
  | join left right ihl ihr =>
    -- The right side and the join are visited with the state that the left side has left.
    have onward (free : Bool) :
        (right.walk (linkChecker conditions) >>= fun b =>
            (linkChecker conditions).join left right () b).run free =
          ExceptT.lift ((fun free => ((), free)) <$>
            if free then do
              if ← right.checkCrossProducts conditions then lookUpLinked conditions left right
              else return false
            else return false) := by
      rw [StateT.run_bind]
      cases free with
      | false =>
        rw [walk_linkChecker_false, pure_bind, join_linkChecker]
        rfl
      | true =>
        rw [ihr, map_eq_pure_bind, ← lift_bind_lift, bind_assoc, if_pos rfl, map_bind,
          ← lift_bind_lift]
        congr 1
        funext later
        exact join_linkChecker conditions left right later
    rw [walk_join, StateT.run_bind, ihl, checkCrossProducts, map_eq_pure_bind, ← lift_bind_lift,
      bind_assoc, map_bind, ← lift_bind_lift]
    congr 1
    funext free
    exact onward free

/-- **Asking about a tree never fails.** -/
theorem askCrossProductFree_eq_lift (conditions : ConditionSet) (tree : JoinTree) :
    tree.askCrossProductFree conditions = ExceptT.lift (tree.checkCrossProducts conditions) := by
  rw [askCrossProductFree, walk_linkChecker_true, map_eq_pure_bind, ← lift_bind_lift, bind_assoc]
  exact (lift_bind_lift _ _).trans (congrArg ExceptT.lift (bind_pure _))

end JoinOrder.JoinTree
