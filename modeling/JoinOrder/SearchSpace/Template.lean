/-
# Templates

A template is a join tree over the slots `0, …, n - 1` in this order: a way to put parentheses
around `n` leaves.  Templates arise from the row of single leaves by joining two neighbours again
and again, at every place, until one tree is left.  Different sequences of joins can lead to the
same tree; each tree is kept once, and the trees are listed by digest.

A search finds the same trees.  It keeps one row and changes it in place: two neighbours are joined,
the shorter row is searched, and the join is taken apart again before the next two neighbours
follow.  A row of one tree is a find.  The finds are kept in a hash table, so that a tree that is
reached in several ways is kept once, and are sorted in the end.

Main statements: the rows after some joins are those that this many contractions lead to
(`mem_rowsAfter_succ`), and the templates are what is left of them in the end (`mem_templates`).
-/
import JoinOrder.SearchSpace.Row
import JoinOrder.Tree.Comparison

namespace JoinOrder

/-! ## Rows and templates -/

/-- The row of the single leaves `0, …, n - 1`. -/
def singleLeaves (n : Nat) : List JoinTree := (List.range n).map .leaf

/-- The rows that arise from the single leaves of `n` slots in the given number of joins. -/
def rowsAfter (n : Nat) : Nat → RowSet
  | 0 => .ofList [singleLeaves n]
  | joins + 1 => (rowsAfter n joins).contract

/-- The templates of `n` slots in the order of their digests; none for no slot. -/
def templates (n : Nat) : List JoinTree :=
  (rowsAfter n (n - 1)).toList.flatten

theorem mem_rowsAfter_zero {n : Nat} {row : List JoinTree} :
    row ∈ (rowsAfter n 0).toList ↔ row = singleLeaves n := by
  rw [rowsAfter, RowSet.mem_ofList, List.mem_singleton]

/-- **One more join** leads to the contractions of the rows so far. -/
theorem mem_rowsAfter_succ {n joins : Nat} {next : List JoinTree} :
    next ∈ (rowsAfter n (joins + 1)).toList ↔
      ∃ row ∈ (rowsAfter n joins).toList, next ∈ contractions row :=
  RowSet.mem_contract

/-- Each join makes the row one tree shorter. -/
theorem length_of_mem_rowsAfter {n joins : Nat} {row : List JoinTree}
    (h : row ∈ (rowsAfter n joins).toList) : row.length + joins = n := by
  induction joins generalizing row with
  | zero => simp [mem_rowsAfter_zero.1 h, singleLeaves]
  | succ joins ih =>
    obtain ⟨earlier, hearlier, hrow⟩ := mem_rowsAfter_succ.1 h
    have shorter := length_of_mem_contractions hrow
    have := ih hearlier
    omega

/-- The joins keep the leaf sequence. -/
theorem leaves_of_mem_rowsAfter {n joins : Nat} {row : List JoinTree}
    (h : row ∈ (rowsAfter n joins).toList) : row.flatMap JoinTree.leaves = List.range n := by
  induction joins generalizing row with
  | zero => simp [mem_rowsAfter_zero.1 h, singleLeaves, List.flatMap_map]
  | succ joins ih =>
    obtain ⟨earlier, hearlier, hrow⟩ := mem_rowsAfter_succ.1 h
    rw [leaves_of_mem_contractions hrow, ih hearlier]

/-- A template is the only tree of a row that is left after all joins. -/
theorem mem_templates {n : Nat} {tree : JoinTree} :
    tree ∈ templates n ↔ [tree] ∈ (rowsAfter n (n - 1)).toList := by
  rw [templates, List.mem_flatten]
  constructor
  · rintro ⟨row, hrow, htree⟩
    have length := length_of_mem_rowsAfter hrow
    match row, htree with
    | [other], htree =>
      rwa [List.mem_singleton.1 htree]
    | _ :: _ :: _, _ =>
      simp only [List.length_cons] at length
      omega
  · intro h
    exact ⟨[tree], h, List.mem_singleton_self tree⟩

/-! ## Searching in place -/

/-- The row in which the neighbours at a place and the next one are replaced by their join. -/
def joinedAt (row : List JoinTree) (place : Nat) (left right : JoinTree) : List JoinTree :=
  (row.eraseIdx (place + 1)).set place (.join left right)

/-- The row in which the tree at a place is replaced by two neighbours. -/
def partedAt (row : List JoinTree) (place : Nat) (left right : JoinTree) : List JoinTree :=
  (row.set place left).insertIdx (place + 1) right

/-- How far a search for templates is. -/
structure TemplateSearch where
  /-- The trees that are left to be joined. -/
  row : List JoinTree
  /-- The trees that have been found. -/
  found : Std.HashSet DigestedTree

namespace TemplateSearch

/-- Nothing is joined. -/
def start (n : Nat) : TemplateSearch := ⟨singleLeaves n, ∅⟩

/-- Keeps the only tree of a row. -/
def keep (search : TemplateSearch) : TemplateSearch :=
  match search.row with
  | [tree] => { search with found := search.found.insert ⟨tree⟩ }
  | _ => search

/-- Joins the neighbours at a place and the next one, searches on from there, and takes their join
apart. -/
def tryPlace (searchOn : TemplateSearch → TemplateSearch) (search : TemplateSearch) (place : Nat) :
    TemplateSearch :=
  match search.row[place]?, search.row[place + 1]? with
  | some left, some right =>
    let ended := searchOn { search with row := joinedAt search.row place left right }
    { ended with row := partedAt ended.row place left right }
  | _, _ => search

/-- Carries out so many joins in every way. -/
def contract : Nat → TemplateSearch → TemplateSearch
  | 0, search => search.keep
  | joins + 1, search =>
    (List.range (search.row.length - 1)).foldl (tryPlace (contract joins)) search

/-- Joins all trees of the row in every way. -/
def run (search : TemplateSearch) : TemplateSearch := search.contract (search.row.length - 1)

/-- The trees that have been found, in the order of their digests. -/
def trees (search : TemplateSearch) : List JoinTree :=
  JoinTree.sorted (search.found.toList.map DigestedTree.tree)

end TemplateSearch

/-- The templates of `n` slots as the search finds them; none for no slot. -/
def searchedTemplates (n : Nat) : List JoinTree :=
  if n = 0 then [] else (TemplateSearch.start n).run.trees

end JoinOrder
