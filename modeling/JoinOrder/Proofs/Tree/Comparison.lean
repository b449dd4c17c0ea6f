/-
# Comparison Is Structural

A digest tells the whole tree: where its joins are and which numbers its leaves carry, from left to
right.  So everything that goes by digests goes by trees: equality, sets of trees, and the order,
which is that of the bytes.  A list of trees has one sorted form, whichever way it is sorted, and
this form says how often each tree was in the list and nothing else.

Main statements: the order of bytes (`compare_eq_lt_iff`), sets (`count_distinct`), sorted lists
(`eq_sorted_iff`, `sorted_eq_sorted_iff`), and all of it together (`comparison_is_structural`).
-/
import Mathlib.Data.Multiset.Basic
import Mathlib.Order.Defs.Unbundled
import JoinOrder.Proofs.SearchSpace.Size
import JoinOrder.Tree.Comparison

namespace JoinOrder

namespace JoinTree

variable {a b : JoinTree}

/-! ## Bytes of a digest -/

/-- A digest consists of digits, brackets and crosses, which are single bytes. -/
theorem toNat_le_of_mem_digestChars {tree : JoinTree} {c : Char} (h : c ∈ tree.digestChars) :
    c.toNat ≤ 127 := by
  induction tree with
  | leaf index =>
    have digit : c.isDigit = true := Text.isDigit_of_mem_toDigits h
    have range : c.toNat ≤ 57 := (Char.isDigit_iff_toNat.1 digit).2
    omega
  | join left right ihl ihr =>
    simp only [digestChars_join, List.mem_append, List.mem_cons, List.not_mem_nil, or_false] at h
    rcases h with (((rfl | h) | rfl | h) | rfl)
    · decide
    · exact ihl h
    · decide
    · exact ihr h
    · decide

/-- The byte of an ASCII character. -/
def asciiByte (c : Char) : UInt8 := c.val.toUInt8

theorem toNat_asciiByte {c : Char} (h : c.toNat ≤ 127) : (asciiByte c).toNat = c.toNat := by
  rw [asciiByte, UInt32.toNat_toUInt8]
  show c.toNat % 256 = c.toNat
  omega

/-- The bytes of a digest are its characters. -/
theorem digestBytes_eq_map (tree : JoinTree) :
    tree.digestBytes = tree.digestChars.map asciiByte := by
  have single : ∀ c ∈ tree.digestChars, String.utf8EncodeChar c = [asciiByte c] := by
    intro c hc
    refine String.utf8EncodeChar_eq_singleton (Char.utf8Size_eq_one_iff.2 ?_)
    exact toNat_le_of_mem_digestChars hc
  show (String.ofList tree.digestChars).toByteArray.data.toList = _
  rw [String.toByteArray_ofList, List.utf8Encode, List.data_toByteArray, List.toList_toArray,
    List.flatMap_congr single, List.map_eq_flatMap]

/-! ## The order of bytes -/

/-- Replacing the members of two lists, order kept, keeps the order of the lists. -/
theorem map_lt_map_iff_of_mono {α β : Type} [LT α] [LT β] {f : α → β} {P : α → Prop}
    (mono : ∀ x y, P x → P y → (f x < f y ↔ x < y)) (inj : ∀ x y, P x → P y → (f x = f y ↔ x = y))
    (xs ys : List α) (hxs : ∀ x ∈ xs, P x) (hys : ∀ y ∈ ys, P y) :
    xs.map f < ys.map f ↔ xs < ys := by
  induction xs generalizing ys with
  | nil =>
    cases ys with
    | nil => simp
    | cons y ys => simp
  | cons x xs ih =>
    cases ys with
    | nil => simp
    | cons y ys =>
      have hx := hxs x (by simp)
      have hy := hys y (by simp)
      have tails := ih ys (fun z hz => hxs z (by simp [hz])) (fun z hz => hys z (by simp [hz]))
      rw [List.map_cons, List.map_cons, List.cons_lt_cons_iff, List.cons_lt_cons_iff,
        mono x y hx hy, inj x y hx hy, tails]

/-- **The order of trees is that of the bytes of their digests.** -/
theorem compare_eq_lt_iff : compare a b = .lt ↔ a.digestBytes < b.digestBytes := by
  have mono : ∀ c d : Char, c.toNat ≤ 127 → d.toNat ≤ 127 →
      (asciiByte c < asciiByte d ↔ c < d) := by
    intro c d hc hd
    rw [UInt8.lt_iff_toNat_lt, toNat_asciiByte hc, toNat_asciiByte hd]
    exact UInt32.lt_iff_toNat_lt.symm
  have inj : ∀ c d : Char, c.toNat ≤ 127 → d.toNat ≤ 127 → (asciiByte c = asciiByte d ↔ c = d) := by
    intro c d hc hd
    rw [← UInt8.toNat_inj, toNat_asciiByte hc, toNat_asciiByte hd]
    exact Char.toNat_inj
  have chars : compare a b = .lt ↔ a.digestChars < b.digestChars := by
    show compareOfLessAndEq a.digest b.digest = .lt ↔ _
    rw [compareOfLessAndEq_eq_lt, String.lt_iff, digest, digest, String.toList_ofList,
      String.toList_ofList]
  rw [chars, digestBytes_eq_map, digestBytes_eq_map]
  exact (map_lt_map_iff_of_mono mono inj _ _ (fun _ => toNat_le_of_mem_digestChars)
    fun _ => toNat_le_of_mem_digestChars).symm

-- Numbers are compared digit by digit.
example : compare (leaf 10) (leaf 9) = .lt := by decide

theorem compare_eq_iff : compare a b = .eq ↔ a = b := by
  constructor
  · exact Std.LawfulEqCmp.eq_of_compare
  · rintro rfl
    exact Std.ReflCmp.compare_self

/-- The order of trees is a strict total order. -/
theorem isStrictTotalOrder : IsStrictTotalOrder JoinTree fun a b => compare a b = .lt where
  trichotomous a b notBefore notAfter := by
    have swapped : compare a b = (compare b a).swap := Std.OrientedCmp.eq_swap
    cases order : compare b a with
    | lt => exact absurd order notAfter
    | eq => exact (compare_eq_iff.1 order).symm
    | gt =>
      rw [order] at swapped
      exact absurd swapped notBefore
  irrefl a before := by
    rw [compare_eq_iff.2 rfl] at before
    cases before
  trans _ _ _ := Std.TransCmp.lt_trans

/-! ## Sets -/

/-- The trees of a hash table are all different. -/
theorem nodup_trees (set : Std.HashSet DigestedTree) :
    (set.toList.map DigestedTree.tree).Nodup := by
  rw [List.Nodup, List.pairwise_map]
  refine Std.HashSet.distinct_toList.imp ?_
  intro a b differ same
  cases a
  cases b
  cases same
  rw [DigestedTree.beq_iff_eq.2 rfl] at differ
  cases differ

theorem mem_trees_iff {set : Std.HashSet DigestedTree} {tree : JoinTree} :
    tree ∈ set.toList.map DigestedTree.tree ↔ ⟨tree⟩ ∈ set := by
  simp only [List.mem_map, Std.HashSet.mem_toList]
  constructor
  · rintro ⟨_, member, rfl⟩
    exact member
  · intro member
    exact ⟨⟨tree⟩, member, rfl⟩

/-- **A set of trees holds each tree once.** -/
theorem count_distinct (trees : List JoinTree) (tree : JoinTree) :
    ((distinct trees).toList.map DigestedTree.tree).count tree = if tree ∈ trees then 1 else 0 := by
  have members : tree ∈ (distinct trees).toList.map DigestedTree.tree ↔ tree ∈ trees := by
    rw [mem_trees_iff, distinct, Std.HashSet.mem_ofList, List.contains_iff_mem]
    exact List.mem_map_of_injective (fun a b same => (DigestedTree.mk.injEq a b).mp same)
  rw [(nodup_trees _).count]
  simp only [members]

/-! ## Sorted lists -/

theorem perm_sorted (trees : List JoinTree) : (sorted trees).Perm trees :=
  List.mergeSort_perm trees _

theorem pairwise_sorted (trees : List JoinTree) :
    (sorted trees).Pairwise fun a b => (compare a b).isLE = true := by
  refine List.pairwise_mergeSort ?_ ?_ trees
  · intro a b c
    exact Std.TransCmp.isLE_trans
  · intro a b
    have swapped : compare a b = (compare b a).swap := Std.OrientedCmp.eq_swap
    rw [swapped]
    cases compare b a <;> rfl

/-- **There is one way to sort a list of trees**: its members, in order, are its sorted form. -/
theorem eq_sorted_iff {result trees : List JoinTree} :
    result = sorted trees ↔
      result.Perm trees ∧ result.Pairwise fun a b => (compare a b).isLE = true := by
  constructor
  · rintro rfl
    exact ⟨perm_sorted trees, pairwise_sorted trees⟩
  · rintro ⟨perm, inOrder⟩
    refine List.Perm.eq_of_pairwise ?_ inOrder (pairwise_sorted trees)
      (perm.trans (perm_sorted trees).symm)
    intro a b _ _ le ge
    exact compare_eq_iff.1 (Std.OrientedCmp.isLE_antisymm le ge)

/-- Lists sort to the same list if they hold the same trees, each as often. -/
theorem sorted_eq_sorted_iff {xs ys : List JoinTree} :
    sorted xs = sorted ys ↔ (xs : Multiset JoinTree) = ys := by
  rw [eq_sorted_iff, Multiset.coe_eq_coe]
  constructor
  · rintro ⟨perm, -⟩
    exact (perm_sorted xs).symm.trans perm
  · intro perm
    exact ⟨(perm_sorted xs).trans perm, pairwise_sorted xs⟩

end JoinTree

/-! ## The comparison of trees -/

open JoinTree in
/-- **Comparison is structural.**  Digests are equal if the joins are the same and the leaves are
the same in the same positions, and then the trees are equal; a set holds each tree once; the order
is that of the bytes of the digests, a strict total order in which only a tree and itself compare as
equal; and the sorted form of a list, which is the only one, depends on nothing but how often it
holds each tree. -/
theorem comparison_is_structural :
    (∀ a b : JoinTree, a.digest = b.digest ↔ a.skeleton = b.skeleton ∧ a.leaves = b.leaves) ∧
    (∀ a b : JoinTree, ((⟨a⟩ : DigestedTree) == ⟨b⟩) = true ↔ a = b) ∧
    (∀ (trees : List JoinTree) (tree : JoinTree),
      ((distinct trees).toList.map DigestedTree.tree).count tree = if tree ∈ trees then 1 else 0) ∧
    (∀ a b : JoinTree, compare a b = .lt ↔ a.digestBytes < b.digestBytes) ∧
    (∀ a b : JoinTree, compare a b = .eq ↔ a = b) ∧
    IsStrictTotalOrder JoinTree (fun a b => compare a b = .lt) ∧
    (∀ result trees : List JoinTree, result = sorted trees ↔
      result.Perm trees ∧ result.Pairwise fun a b => (compare a b).isLE = true) ∧
    ∀ xs ys : List JoinTree, sorted xs = sorted ys ↔ (xs : Multiset JoinTree) = ys := by
  refine ⟨fun a b => ⟨fun same => ?_, fun ⟨joins, leaves⟩ => ?_⟩, fun a b => ?_, count_distinct,
    fun a b => compare_eq_lt_iff, fun a b => compare_eq_iff, isStrictTotalOrder,
    fun result trees => eq_sorted_iff, fun xs ys => sorted_eq_sorted_iff⟩
  · rw [digest_injective same]
    exact ⟨rfl, rfl⟩
  · rw [eq_of_skeleton_eq joins leaves]
  · rw [DigestedTree.beq_iff_eq, DigestedTree.mk.injEq]

end JoinOrder
