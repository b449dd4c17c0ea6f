/-
# Templates Are the Trees Over the Slots

Every row of trees over the slots in order arises by contractions: a row that is not all leaves has
a join in it, and taking this join apart gives a row from which it is one contraction away.

Main statements: the templates of `n` slots are the trees whose leaf sequence is `0, …, n - 1`
(`mem_templates_iff`), and they are listed in the order of their digests (`pairwise_templates`),
each of them once (`nodup_templates`).
-/
import Mathlib.Data.List.Flatten
import Mathlib.Data.List.Nodup
import JoinOrder.SearchSpace.Template

namespace JoinOrder

open JoinTree

/-! ## Taking a row apart -/

/-- A contraction behind the first tree of a row is a contraction of the row. -/
theorem cons_mem_contractions {row next : List JoinTree} (h : next ∈ contractions row)
    (a : JoinTree) : a :: next ∈ contractions (a :: row) := by
  cases row with
  | nil => simp at h
  | cons b rest =>
    rw [contractions_cons_cons]
    exact List.mem_cons_of_mem _ (List.mem_map.2 ⟨next, h, rfl⟩)

/-- A row has at least as many leaves as trees. -/
theorem length_le_length_leaves (row : List JoinTree) :
    row.length ≤ (row.flatMap leaves).length := by
  induction row with
  | nil => simp
  | cons a rest ih =>
    have pos := a.leafCount_pos
    rw [List.flatMap_cons, List.length_append, length_leaves, List.length_cons]
    omega

/-- A row with more leaves than trees is the contraction of a row with the same leaves. -/
theorem exists_mem_contractions {next : List JoinTree}
    (h : next.length < (next.flatMap leaves).length) :
    ∃ row, next ∈ contractions row ∧ row.flatMap leaves = next.flatMap leaves := by
  induction next with
  | nil => simp at h
  | cons tree rest ih =>
    cases tree with
    | join a b => exact ⟨a :: b :: rest, List.mem_cons_self, by simp⟩
    | leaf index =>
      have later : rest.length < (rest.flatMap leaves).length := by
        simp only [List.flatMap_cons, leaves_leaf, List.length_cons, List.length_append,
          List.length_nil] at h
        omega
      obtain ⟨row, hrow, same⟩ := ih later
      refine ⟨leaf index :: row, cons_mem_contractions hrow _, ?_⟩
      rw [List.flatMap_cons, List.flatMap_cons, same]

/-- A row with as many trees as leaves consists of the leaves alone. -/
theorem eq_map_leaf {row : List JoinTree} (h : (row.flatMap leaves).length = row.length) :
    row = (row.flatMap leaves).map leaf := by
  induction row with
  | nil => rfl
  | cons tree rest ih =>
    have least := length_le_length_leaves rest
    rw [List.flatMap_cons, List.length_append, length_leaves, List.length_cons] at h
    cases tree with
    | leaf index =>
      have rest := ih (by simp only [leafCount] at h; omega)
      simpa using rest
    | join a b =>
      have := a.leafCount_pos
      have := b.leafCount_pos
      simp only [leafCount] at h
      omega

/-! ## Rows and templates -/

/-- **After some joins there are exactly the rows over the slots in order that are so much
shorter.** -/
theorem mem_rowsAfter_iff {n joins : ℕ} {row : List JoinTree} :
    row ∈ (rowsAfter n joins).toList ↔
      row.length + joins = n ∧ row.flatMap leaves = List.range n := by
  constructor
  · intro h
    exact ⟨length_of_mem_rowsAfter h, leaves_of_mem_rowsAfter h⟩
  · rintro ⟨length, same⟩
    induction joins generalizing row with
    | zero =>
      rw [mem_rowsAfter_zero, singleLeaves, ← same]
      apply eq_map_leaf
      rw [same, List.length_range]
      omega
    | succ joins ih =>
      -- Some tree of the row is a join, and taking it apart gives a row that is one join earlier.
      have more : row.length < (row.flatMap leaves).length := by
        rw [same, List.length_range]
        omega
      obtain ⟨earlier, hrow, leaves⟩ := exists_mem_contractions more
      have shorter := length_of_mem_contractions hrow
      exact mem_rowsAfter_succ.2 ⟨earlier, ih (by omega) (leaves.trans same), hrow⟩

/-- **The templates are the trees over the slots in order.** -/
theorem mem_templates_iff {n : ℕ} {tree : JoinTree} :
    tree ∈ templates n ↔ tree.leaves = List.range n := by
  rw [mem_templates, mem_rowsAfter_iff, List.flatMap_singleton, List.length_singleton]
  refine and_iff_right_of_imp fun same => ?_
  have length := congrArg List.length same
  rw [length_leaves, List.length_range] at length
  have := tree.leafCount_pos
  omega

/-! ## The order of the list -/

/-- A row that is left after all joins holds one tree. -/
theorem eq_singleton_of_mem_rowsAfter {n : ℕ} {row : List JoinTree} {tree : JoinTree}
    (hrow : row ∈ (rowsAfter n (n - 1)).toList) (htree : tree ∈ row) : row = [tree] := by
  have length := length_of_mem_rowsAfter hrow
  have pos := List.length_pos_of_mem htree
  obtain ⟨other, rfl⟩ := List.length_eq_one_iff.1 (show row.length = 1 by omega)
  rw [List.mem_singleton.1 htree]

/-- A set lists its rows in the order of their digests. -/
theorem RowSet.pairwise_toList (set : RowSet) :
    set.toList.Pairwise fun a b => compare (rowDigests a) (rowDigests b) = .lt := by
  rw [RowSet.toList, List.pairwise_map]
  refine Std.ExtTreeMap.ordered_keys_toList.imp_of_mem ?_
  rintro ⟨key, row⟩ ⟨key', row'⟩ member member' before
  rw [set.keyed key row (Std.ExtTreeMap.mem_toList_iff_getElem?_eq_some.1 member),
    set.keyed key' row' (Std.ExtTreeMap.mem_toList_iff_getElem?_eq_some.1 member')]
  exact before

/-- Rows of one tree are in the order of their trees. -/
theorem compare_rowDigests_singleton (a b : JoinTree) :
    compare (rowDigests [a]) (rowDigests [b]) = compare a b := by
  show List.compareLex compare [a.digest] [b.digest] = compare a.digest b.digest
  rw [List.compareLex_cons_cons, List.compareLex_nil_nil, Ordering.then_eq]

/-- **The templates are listed in the order of their digests.** -/
theorem pairwise_templates (n : ℕ) : (templates n).Pairwise fun a b => compare a b = .lt := by
  rw [templates, List.pairwise_flatten]
  constructor
  · intro row hrow
    cases row with
    | nil => exact List.Pairwise.nil
    | cons tree rest =>
      rw [eq_singleton_of_mem_rowsAfter hrow List.mem_cons_self]
      exact List.pairwise_singleton _ _
  · refine (RowSet.pairwise_toList _).imp_of_mem fun ha hb before a hta b htb => ?_
    rwa [eq_singleton_of_mem_rowsAfter ha hta, eq_singleton_of_mem_rowsAfter hb htb,
      compare_rowDigests_singleton] at before

/-- **Each template is listed once.** -/
theorem nodup_templates (n : ℕ) : (templates n).Nodup := by
  refine (pairwise_templates n).imp ?_
  rintro a _ before rfl
  have same : compare a a = .eq := Std.ReflCmp.compare_self
  rw [same] at before
  cases before

end JoinOrder
