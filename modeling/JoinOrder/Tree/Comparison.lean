/-
# Comparing Trees

Whether two trees are equal, where a tree goes in a hash table and which of two trees comes first is
all decided by their digests; the trees themselves are not looked at.

Main statements: equality by digests is equality of trees (`DigestedTree.beq_iff_eq`), and the
digest of a join is put together from those of its sides (`JoinTree.digest_join`).
-/
import Std.Data.HashSet
import JoinOrder.Tree.Digest

namespace JoinOrder

/-! ## Equality and hashing -/

/-- A tree that is known by its digest. -/
structure DigestedTree where
  /-- The tree. -/
  tree : JoinTree

namespace DigestedTree

/-- Trees are equal if their digests are. -/
instance : BEq DigestedTree where
  beq a b := a.tree.digest == b.tree.digest

/-- A tree is hashed by its digest. -/
instance : Hashable DigestedTree where
  hash a := hash a.tree.digest

/-- **Trees with equal digests are the same tree.** -/
theorem beq_iff_eq {a b : DigestedTree} : (a == b) = true ↔ a = b := by
  cases a
  cases b
  rw [mk.injEq]
  constructor
  · intro same
    exact JoinTree.digest_injective (eq_of_beq same)
  · rintro rfl
    exact BEq.rfl (a := JoinTree.digest _)

instance : LawfulBEq DigestedTree where
  eq_of_beq := beq_iff_eq.1
  rfl := beq_iff_eq.2 rfl

end DigestedTree

namespace JoinTree

/-- The distinct trees of a list, in a hash table. -/
def distinct (trees : List JoinTree) : Std.HashSet DigestedTree := .ofList (trees.map .mk)

/-! ## Order -/

/-- The bytes of the digest. -/
def digestBytes (tree : JoinTree) : List UInt8 := tree.digest.toUTF8.data.toList

/-- The trees of a list in the order of their digests. -/
def sorted (trees : List JoinTree) : List JoinTree :=
  trees.mergeSort fun a b => (compare a b).isLE

/-! ## Digests by their parts -/

theorem digest_leaf (index : Nat) : (leaf index).digest = index.repr := by
  rw [digest, digestChars_leaf, ← Nat.toList_repr, String.ofList_toList]

theorem digest_join (left right : JoinTree) :
    (join left right).digest = "(" ++ left.digest ++ "x" ++ right.digest ++ ")" := by
  apply String.toList_injective
  simp [digest]

end JoinTree

end JoinOrder
