/-
# Rows of Trees

A row of trees is contracted by joining two neighbours.  Different contractions can lead to the same
row, so rows are gathered in a set that holds each of them once, in the order of their digests.

Main statements: a contraction is one tree shorter (`length_of_mem_contractions`) and has the same
leaf sequence (`leaves_of_mem_contractions`); the contractions of a set of rows are exactly those of
its members (`RowSet.mem_contract`).
-/
import Std.Data.ExtTreeMap
import JoinOrder.Tree.Digest

namespace JoinOrder

/-! ## Contractions -/

/-- The rows that arise from a row of trees by joining one pair of neighbours. -/
def contractions : List JoinTree → List (List JoinTree)
  | a :: b :: rest => (.join a b :: rest) :: (contractions (b :: rest)).map (a :: ·)
  | _ => []

@[simp] theorem contractions_nil : contractions [] = [] := rfl

@[simp] theorem contractions_singleton (a : JoinTree) : contractions [a] = [] := rfl

theorem contractions_cons_cons (a b : JoinTree) (rest : List JoinTree) :
    contractions (a :: b :: rest) =
      (.join a b :: rest) :: (contractions (b :: rest)).map (a :: ·) := rfl

/-- A contraction is one tree shorter than its row. -/
theorem length_of_mem_contractions {row next : List JoinTree} (h : next ∈ contractions row) :
    next.length + 1 = row.length := by
  fun_induction contractions row generalizing next with
  | case1 a b rest ih =>
    rcases List.mem_cons.1 h with rfl | h
    · rfl
    · obtain ⟨tail, htail, rfl⟩ := List.mem_map.1 h
      simpa using ih htail
  | case2 => simp at h

/-- Joining neighbours does not change the leaf sequence of a row. -/
theorem leaves_of_mem_contractions {row next : List JoinTree} (h : next ∈ contractions row) :
    next.flatMap JoinTree.leaves = row.flatMap JoinTree.leaves := by
  fun_induction contractions row generalizing next with
  | case1 a b rest ih =>
    rcases List.mem_cons.1 h with rfl | h
    · simp
    · obtain ⟨tail, htail, rfl⟩ := List.mem_map.1 h
      simp [ih htail]
  | case2 => simp at h

/-! ## Sets of rows -/

/-- The digests of the trees of a row. -/
def rowDigests (row : List JoinTree) : List String := row.map JoinTree.digest

/-- Two rows with the same digests are the same row. -/
theorem rowDigests_injective {a b : List JoinTree} (h : rowDigests a = rowDigests b) : a = b :=
  (List.map_inj_right fun _ _ => JoinTree.digest_injective).1 h

/-- A set of rows, each under its digests. -/
structure RowSet where
  /-- The row with the given digests. -/
  byDigests : Std.ExtTreeMap (List String) (List JoinTree)
  /-- Every row has the digests under which it stands. -/
  keyed : ∀ key row, byDigests[key]? = some row → rowDigests row = key

namespace RowSet

/-- No rows. -/
def empty : RowSet := ⟨∅, by simp⟩

/-- The rows in the order of their digests. -/
def toList (set : RowSet) : List (List JoinTree) := set.byDigests.toList.map Prod.snd

/-- Adds a row. -/
def insert (set : RowSet) (row : List JoinTree) : RowSet where
  byDigests := set.byDigests.insert (rowDigests row) row
  keyed := by
    intro key other h
    rw [Std.ExtTreeMap.getElem?_insert] at h
    split at h
    · rename_i same
      cases h
      exact Std.LawfulEqCmp.eq_of_compare same
    · exact set.keyed key other h

/-- The rows of a list. -/
def ofList (rows : List (List JoinTree)) : RowSet := rows.foldl insert empty

/-- The rows that arise from the rows of a set by joining one pair of neighbours. -/
def contract (set : RowSet) : RowSet := ofList (set.toList.flatMap contractions)

/-- A row is listed exactly when it stands under its digests. -/
theorem mem_toList {set : RowSet} {row : List JoinTree} :
    row ∈ set.toList ↔ set.byDigests[rowDigests row]? = some row := by
  rw [toList, List.mem_map]
  constructor
  · rintro ⟨⟨key, other⟩, member, rfl⟩
    rw [Std.ExtTreeMap.mem_toList_iff_getElem?_eq_some] at member
    rwa [set.keyed key other member]
  · intro h
    exact ⟨(rowDigests row, row), Std.ExtTreeMap.mem_toList_iff_getElem?_eq_some.2 h, rfl⟩

theorem not_mem_empty (row : List JoinTree) : row ∉ empty.toList := by
  simp [mem_toList, empty]

/-- Insertion adds one row and nothing else. -/
theorem mem_insert {set : RowSet} {row other : List JoinTree} :
    other ∈ (set.insert row).toList ↔ other = row ∨ other ∈ set.toList := by
  rw [mem_toList, mem_toList, insert, Std.ExtTreeMap.getElem?_insert]
  by_cases same : row = other
  · simp [same]
  · have apart : rowDigests row ≠ rowDigests other := fun h => same (rowDigests_injective h)
    simp [apart, Ne.symm same]

/-- The set of a list has the members of the list. -/
theorem mem_ofList {rows : List (List JoinTree)} {row : List JoinTree} :
    row ∈ (ofList rows).toList ↔ row ∈ rows := by
  have onto : ∀ set : RowSet, row ∈ (rows.foldl insert set).toList ↔
      row ∈ rows ∨ row ∈ set.toList := by
    induction rows with
    | nil => simp
    | cons first rows ih =>
      intro set
      rw [List.foldl_cons, ih, mem_insert, List.mem_cons, or_assoc, or_left_comm]
  rw [ofList, onto]
  exact or_iff_left (not_mem_empty row)

/-- **The contractions of a set** are the contractions of its members. -/
theorem mem_contract {set : RowSet} {next : List JoinTree} :
    next ∈ set.contract.toList ↔ ∃ row ∈ set.toList, next ∈ contractions row := by
  rw [contract, mem_ofList, List.mem_flatMap]

end RowSet

end JoinOrder
