/-
# Instantiating Templates

A template becomes a plan when the tables of a leaf order are put into its slots: leaf `i` is
replaced by the `i`-th table of the order.  The first slot from the left that the order does not
have is an error.

A tree may hold the digest of each of its nodes.  A node gets its digest when it is made, put
together from the digests that its sides hold, and so no digest is worked out twice.  Replacing the
leaves of such a tree makes new nodes from the leaves up.

Main statements: a node that is made of exact sides is exact (`AnnotatedTree.isExact_ofSides`), and
the digest of an exact tree is the one it holds (`AnnotatedTree.IsExact.digest_eq`).
-/
import JoinOrder.Error
import JoinOrder.Tree.Comparison

namespace JoinOrder

/-! ## Trees -/

/-- The visitor that replaces slots by the tables of an order. -/
def slotFiller (order : List Nat) : Visitor (Except Error) JoinTree where
  leaf slot :=
    match order[slot]? with
    | some table => .ok (.leaf table)
    | none => .error (.slotOutsideOrder slot order.length)
  join _ _ left right := .ok (.join left right)

/-- The tree of a template's shape over the tables of an order. -/
def JoinTree.instantiate (template : JoinTree) (order : List Nat) : Except Error JoinTree :=
  template.walk (slotFiller order)

namespace JoinTree

/-- A leaf becomes the table of its slot. -/
theorem instantiate_leaf (slot : Nat) (order : List Nat) :
    (leaf slot).instantiate order =
      match order[slot]? with
      | some table => .ok (.leaf table)
      | none => .error (.slotOutsideOrder slot order.length) := rfl

/-- A join is instantiated side by side, the left side first. -/
theorem instantiate_join (left right : JoinTree) (order : List Nat) :
    (join left right).instantiate order = (do
      let l ← left.instantiate order
      let r ← right.instantiate order
      .ok (join l r)) := rfl

end JoinTree

/-! ## Trees that hold their digests -/

/-- A tree with a text at each node. -/
inductive AnnotatedTree where
  | leaf (index : Nat) (digest : String)
  | join (left right : AnnotatedTree) (digest : String)
  deriving DecidableEq, Repr

namespace AnnotatedTree

/-- The text at the root. -/
def digest : AnnotatedTree → String
  | leaf _ digest => digest
  | join _ _ digest => digest

/-- The tree without its texts. -/
def tree : AnnotatedTree → JoinTree
  | leaf index _ => .leaf index
  | join left right _ => .join left.tree right.tree

/-- Makes a leaf. -/
def ofIndex (index : Nat) : AnnotatedTree := leaf index index.repr

/-- Makes a join of two trees. -/
def ofSides (left right : AnnotatedTree) : AnnotatedTree :=
  join left right ("(" ++ left.digest ++ "x" ++ right.digest ++ ")")

/-- Each node holds the digest of the tree from there on. -/
def IsExact : AnnotatedTree → Prop
  | leaf index digest => digest = (JoinTree.leaf index).digest
  | join left right digest =>
    left.IsExact ∧ right.IsExact ∧ digest = (JoinTree.join left.tree right.tree).digest

/-- Replaces every slot by the table of an order, with new nodes from the leaves up. -/
def instantiate (order : List Nat) : AnnotatedTree → Except Error AnnotatedTree
  | leaf slot _ =>
    match order[slot]? with
    | some table => .ok (ofIndex table)
    | none => .error (.slotOutsideOrder slot order.length)
  | join left right _ => do
    let l ← left.instantiate order
    let r ← right.instantiate order
    .ok (ofSides l r)

/-- The digest of an exact tree is at hand. -/
theorem IsExact.digest_eq {annotated : AnnotatedTree} (h : annotated.IsExact) :
    annotated.digest = annotated.tree.digest := by
  cases annotated with
  | leaf index digest => exact h
  | join left right digest => exact h.2.2

theorem isExact_ofIndex (index : Nat) : (ofIndex index).IsExact :=
  (JoinTree.digest_leaf index).symm

/-- **A join of exact trees is exact.** -/
theorem isExact_ofSides {left right : AnnotatedTree} (hl : left.IsExact) (hr : right.IsExact) :
    (ofSides left right).IsExact := by
  refine ⟨hl, hr, ?_⟩
  rw [JoinTree.digest_join, hl.digest_eq, hr.digest_eq]

end AnnotatedTree

end JoinOrder
