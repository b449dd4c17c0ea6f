/-
# Join Trees

A join tree is a full binary tree whose leaves carry numbers: slots in a template, tables in a plan.
Its digest is the fully parenthesised text, which serves as the identity of the tree: comparison and
the memo go by digests alone.

A walk visits the nodes of a tree from the leaves up: the left side, the right side, then the join
itself.  A visitor says what happens at a leaf and at a join; it may fail, and it may carry a state,
depending on the monad that it runs in.  A failing visit ends the walk.
-/

namespace JoinOrder

/-- A tree of binary joins over numbered leaves. -/
inductive JoinTree where
  | leaf (index : Nat)
  | join (left right : JoinTree)
  deriving DecidableEq, Repr, Inhabited

namespace JoinTree

/-! ## Digests -/

/-- The characters of the digest: a leaf is its decimal index, a join is its sides in parentheses
with an x between them. -/
def digestChars : JoinTree → List Char
  | leaf index => Nat.toDigits 10 index
  | join left right => '(' :: left.digestChars ++ 'x' :: right.digestChars ++ [')']

/-- The text that identifies a tree. -/
def digest (tree : JoinTree) : String :=
  String.ofList tree.digestChars

@[simp] theorem digestChars_leaf (index : Nat) :
    (leaf index).digestChars = Nat.toDigits 10 index := rfl

@[simp] theorem digestChars_join (left right : JoinTree) :
    (join left right).digestChars =
      '(' :: left.digestChars ++ 'x' :: right.digestChars ++ [')'] := rfl

/-- Trees are ordered by their digests. -/
instance : Ord JoinTree where
  compare := compareOn digest

/-! ## Leaves -/

/-- Whether a tree is a single leaf. -/
def isLeaf : JoinTree → Bool
  | leaf _ => true
  | join _ _ => false

/-- The number of leaves. -/
def leafCount : JoinTree → Nat
  | leaf _ => 1
  | join left right => left.leafCount + right.leafCount

/-- The leaf indices from left to right. -/
def leaves : JoinTree → List Nat
  | leaf index => [index]
  | join left right => left.leaves ++ right.leaves

@[simp] theorem leaves_leaf (index : Nat) : (leaf index).leaves = [index] := rfl

@[simp] theorem leaves_join (left right : JoinTree) :
    (join left right).leaves = left.leaves ++ right.leaves := rfl

/-- The leaf count is the length of the leaf sequence. -/
theorem length_leaves (tree : JoinTree) : tree.leaves.length = tree.leafCount := by
  induction tree with
  | leaf index => rfl
  | join left right ihl ihr => simp [leafCount, ihl, ihr]

/-- Every tree has a leaf. -/
theorem leafCount_pos (tree : JoinTree) : 0 < tree.leafCount := by
  induction tree with
  | leaf index => exact Nat.one_pos
  | join left right ihl ihr => exact Nat.add_pos_left ihl _

/-! ## Input sets -/

/-- Puts a number into an ascending list unless it is there. -/
def insertAscending (a : Nat) : List Nat → List Nat
  | [] => [a]
  | b :: rest =>
    if a < b then a :: b :: rest
    else if a = b then b :: rest
    else b :: insertAscending a rest

/-- The distinct leaf indices in ascending order. -/
def inputs (tree : JoinTree) : List Nat :=
  tree.leaves.foldr insertAscending []

/-- Insertion adds the number and nothing else. -/
theorem mem_insertAscending (a x : Nat) (xs : List Nat) :
    x ∈ insertAscending a xs ↔ x = a ∨ x ∈ xs := by
  induction xs with
  | nil => simp [insertAscending]
  | cons b rest ih =>
    unfold insertAscending
    split
    · simp
    · split
      · rename_i h
        simp [h]
      · simp only [List.mem_cons, ih]
        grind

/-- Insertion keeps a list strictly ascending. -/
theorem pairwise_insertAscending (a : Nat) (xs : List Nat) (h : xs.Pairwise (· < ·)) :
    (insertAscending a xs).Pairwise (· < ·) := by
  induction xs with
  | nil => simp [insertAscending]
  | cons b rest ih =>
    rw [List.pairwise_cons] at h
    unfold insertAscending
    split
    · rename_i lt
      rw [List.pairwise_cons, List.pairwise_cons]
      refine ⟨?_, h⟩
      intro x hx
      rcases List.mem_cons.1 hx with rfl | hx
      · exact lt
      · exact Nat.lt_trans lt (h.1 x hx)
    · split
      · exact List.pairwise_cons.2 h
      · rw [List.pairwise_cons]
        refine ⟨?_, ih h.2⟩
        intro x hx
        rcases (mem_insertAscending a x rest).1 hx with rfl | hx
        · omega
        · exact h.1 x hx

/-- The inputs of a tree are its leaf indices. -/
theorem mem_inputs (tree : JoinTree) (x : Nat) : x ∈ tree.inputs ↔ x ∈ tree.leaves := by
  unfold inputs
  induction tree.leaves with
  | nil => rfl
  | cons a rest ih => simp [mem_insertAscending, ih]

/-- The inputs of a tree are strictly ascending. -/
theorem pairwise_inputs (tree : JoinTree) : tree.inputs.Pairwise (· < ·) := by
  unfold inputs
  induction tree.leaves with
  | nil => exact List.Pairwise.nil
  | cons a rest ih => exact pairwise_insertAscending a _ ih

end JoinTree

/-! ## Walks -/

/-- What happens at the nodes of a tree, in a monad. -/
structure Visitor (m : Type → Type) (α : Type) where
  /-- The visit of a leaf. -/
  leaf : Nat → m α
  /-- The visit of a join, given its sides and what their visits produced. -/
  join : JoinTree → JoinTree → α → α → m α

namespace JoinTree

variable {m : Type → Type} {α : Type} [Monad m]

/-- Visits every node of a tree from the leaves up and returns what the root produced. -/
def walk (visitor : Visitor m α) : JoinTree → m α
  | leaf index => visitor.leaf index
  | join left right => do
    let a ← left.walk visitor
    let b ← right.walk visitor
    visitor.join left right a b

@[simp] theorem walk_leaf (visitor : Visitor m α) (index : Nat) :
    (leaf index).walk visitor = visitor.leaf index := rfl

theorem walk_join (visitor : Visitor m α) (left right : JoinTree) :
    (join left right).walk visitor = (do
      let a ← left.walk visitor
      let b ← right.walk visitor
      visitor.join left right a b) := rfl

end JoinTree

end JoinOrder
