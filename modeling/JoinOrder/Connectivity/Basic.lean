/-
# Connectivity of Join Trees

A join is linked when some table of its left side has a condition with some table of its right side.
A tree is free of cross products when every join in it, at any depth, is linked.  These are the
meanings; how they are looked up with a memo is another matter.
-/
import JoinOrder.Graph.Condition
import JoinOrder.Tree.Basic

namespace JoinOrder

/-- Whether some member of one list is linked to some member of another. -/
def ConditionSet.links (conditions : ConditionSet) (lefts rights : List Nat) : Bool :=
  lefts.any fun a => rights.any fun b => conditions.contains a b

namespace JoinTree

/-- Some table of the left side has a condition with some table of the right side. -/
def Linked (conditions : ConditionSet) (left right : JoinTree) : Prop :=
  ∃ a ∈ left.leaves, ∃ b ∈ right.leaves, conditions.contains a b = true

/-- Every join of the tree is linked. -/
def CrossProductFree (conditions : ConditionSet) : JoinTree → Prop
  | leaf _ => True
  | join left right =>
    left.CrossProductFree conditions ∧ right.CrossProductFree conditions ∧
      Linked conditions left right

/-- Looking at the distinct tables of both sides settles whether a join is linked. -/
theorem links_inputs_iff (conditions : ConditionSet) (left right : JoinTree) :
    conditions.links left.inputs right.inputs = true ↔ Linked conditions left right := by
  simp [ConditionSet.links, Linked, mem_inputs]

/-- Links have no direction. -/
theorem linked_comm (conditions : ConditionSet) (left right : JoinTree) :
    Linked conditions left right ↔ Linked conditions right left := by
  constructor <;>
  · rintro ⟨a, ha, b, hb, h⟩
    exact ⟨b, hb, a, ha, by rwa [ConditionSet.contains_comm]⟩

instance (conditions : ConditionSet) (left right : JoinTree) :
    Decidable (Linked conditions left right) :=
  decidable_of_iff _ (links_inputs_iff conditions left right)

/-- Looking at the distinct tables of both sides decides whether a join is linked. -/
theorem links_inputs_eq_decide (conditions : ConditionSet) (left right : JoinTree) :
    conditions.links left.inputs right.inputs = decide (Linked conditions left right) := by
  rw [Bool.eq_iff_iff, decide_eq_true_iff, links_inputs_iff]

/-- Freedom from cross products is decided join by join. -/
def decideCrossProductFree (conditions : ConditionSet) :
    (tree : JoinTree) → Decidable (tree.CrossProductFree conditions)
  | leaf _ => .isTrue trivial
  | join left right =>
    have := decideCrossProductFree conditions left
    have := decideCrossProductFree conditions right
    inferInstanceAs (Decidable (_ ∧ _ ∧ _))

instance (conditions : ConditionSet) (tree : JoinTree) :
    Decidable (tree.CrossProductFree conditions) :=
  decideCrossProductFree conditions tree

end JoinTree

end JoinOrder
