/-
# Ways Through a Tree

A node of a tree is named by the way that leads to it from the root, so that two equal trees inside
of one tree are different nodes.  In post-order the nodes of the left side of a join come first,
then those of its right side, then the join itself.

Main statements: the ways of a tree are those that lead to a node, each of them once
(`mem_ways_iff`, `nodup_ways`), in the order of the nodes that they lead to (`map_subtree?_ways`).
-/
import Mathlib.Data.List.Nodup
import JoinOrder.Tree.Basic

namespace JoinOrder

/-- A side of a join. -/
inductive Side where
  | left
  | right
  deriving DecidableEq, Repr

/-- The way from the root of a tree to a node: the sides to go to, one after another. -/
abbrev Way := List Side

namespace JoinTree

/-- The tree at the end of a way, unless the way leaves the tree. -/
def subtree? : JoinTree → Way → Option JoinTree
  | tree, [] => some tree
  | leaf _, _ :: _ => none
  | join left _, .left :: way => left.subtree? way
  | join _ right, .right :: way => right.subtree? way

@[simp] theorem subtree?_nil (tree : JoinTree) : tree.subtree? [] = some tree := by
  cases tree <;> rfl

/-- The nodes in post-order, each with all below it. -/
def postOrder : JoinTree → List JoinTree
  | leaf index => [leaf index]
  | join left right => left.postOrder ++ right.postOrder ++ [join left right]

/-- The ways to the nodes, in post-order. -/
def ways : JoinTree → List Way
  | leaf _ => [[]]
  | join left right =>
    left.ways.map (Side.left :: ·) ++ right.ways.map (Side.right :: ·) ++ [[]]

theorem postOrder_join (left right : JoinTree) :
    (join left right).postOrder = left.postOrder ++ right.postOrder ++ [join left right] := rfl

theorem ways_join (left right : JoinTree) :
    (join left right).ways =
      left.ways.map (Side.left :: ·) ++ right.ways.map (Side.right :: ·) ++ [[]] := rfl

/-- The way to the root is the last one. -/
theorem exists_ways_eq (tree : JoinTree) : ∃ inner, tree.ways = inner ++ [[]] := by
  cases tree with
  | leaf index => exact ⟨[], rfl⟩
  | join left right => exact ⟨_, ways_join left right⟩

/-- A way is among the ways of a tree if it leads to a node. -/
theorem mem_ways_iff (tree : JoinTree) (way : Way) :
    way ∈ tree.ways ↔ (tree.subtree? way).isSome := by
  induction tree generalizing way with
  | leaf index =>
    cases way with
    | nil => simp [ways]
    | cons side way => simp [ways, subtree?]
  | join left right ihl ihr =>
    rw [ways_join, List.mem_append, List.mem_append, List.mem_singleton]
    rcases way with _ | ⟨_ | _, way⟩
    · simp
    · simp [subtree?, ihl]
    · simp [subtree?, ihr]

/-- No node has two ways. -/
theorem nodup_ways (tree : JoinTree) : tree.ways.Nodup := by
  induction tree with
  | leaf index => exact List.nodup_singleton []
  | join left right ihl ihr =>
    have lefts := ihl.map (List.cons_injective (a := Side.left))
    have rights := ihr.map (List.cons_injective (a := Side.right))
    rw [ways_join]
    refine (lefts.append rights ?_).append (List.nodup_singleton _) ?_
    · intro way atLeft atRight
      obtain ⟨_, -, rfl⟩ := List.mem_map.1 atLeft
      obtain ⟨_, -, same⟩ := List.mem_map.1 atRight
      cases same
    · intro way below root
      rw [List.mem_singleton.1 root] at below
      simp at below

/-- The ways lead to the nodes, one after another. -/
theorem map_subtree?_ways (tree : JoinTree) :
    tree.ways.map tree.subtree? = tree.postOrder.map some := by
  induction tree with
  | leaf index => rfl
  | join left right ihl ihr =>
    have lefts : (left.ways.map (Side.left :: ·)).map (join left right).subtree? =
        left.postOrder.map some := by
      rw [List.map_map, ← ihl]
      rfl
    have rights : (right.ways.map (Side.right :: ·)).map (join left right).subtree? =
        right.postOrder.map some := by
      rw [List.map_map, ← ihr]
      rfl
    rw [ways_join, postOrder_join, List.map_append, List.map_append, lefts, rights,
      List.map_append, List.map_append]
    rfl

/-- There are as many ways as nodes. -/
theorem length_ways (tree : JoinTree) : tree.ways.length = tree.postOrder.length := by
  have same := congrArg List.length tree.map_subtree?_ways
  rwa [List.length_map, List.length_map] at same

end JoinTree

end JoinOrder
