/-
# The Search Finds the Templates

Every join that the search makes it takes apart again, so the row at the end is the row at the
start, and in between every sequence of contractions is followed to its end.  The finds are
therefore all trees that contractions lead to, and these are the templates.

Main statements: what a search does (`TemplateSearch.explores_contract`), what it finds
(`searchedTemplates_eq`), and the templates as a whole (`templates_exact`).
-/
import Mathlib.Logic.Relation
import JoinOrder.Proofs.Tree.Comparison
import JoinOrder.SearchSpace.Template

namespace JoinOrder

open JoinTree

/-! ## Contractions by place -/

/-- The contractions of a row are the rows in which the neighbours at some place are joined. -/
theorem mem_contractions_iff {row next : List JoinTree} :
    next ∈ contractions row ↔ ∃ place left right,
      row[place]? = some left ∧ row[place + 1]? = some right ∧
        next = joinedAt row place left right := by
  fun_induction contractions row generalizing next with
  | case1 a b rest ih =>
    rw [List.mem_cons, List.mem_map]
    constructor
    · rintro (rfl | ⟨tail, member, rfl⟩)
      · exact ⟨0, a, b, rfl, rfl, rfl⟩
      · obtain ⟨place, left, right, hl, hr, rfl⟩ := ih.1 member
        exact ⟨place + 1, left, right, hl, hr, rfl⟩
    · rintro ⟨place, left, right, hl, hr, rfl⟩
      cases place with
      | zero =>
        cases hl
        cases hr
        exact .inl rfl
      | succ place => exact .inr ⟨_, ih.2 ⟨place, left, right, hl, hr, rfl⟩, rfl⟩
  | case2 row short =>
    -- A row of less than two trees has no neighbours.
    refine iff_of_false List.not_mem_nil ?_
    rintro ⟨place, left, right, -, hr, -⟩
    have inside : place + 1 < row.length := (List.getElem?_eq_some_iff.1 hr).1
    rcases row with _ | ⟨a, _ | ⟨b, rest⟩⟩
    · cases inside
    · simp at inside
    · exact short a b rest rfl

/-- **A join that is taken apart leaves no trace.** -/
theorem partedAt_joinedAt {row : List JoinTree} {place : ℕ} {left right : JoinTree}
    (hl : row[place]? = some left) (hr : row[place + 1]? = some right) :
    partedAt (joinedAt row place left right) place left right = row := by
  induction place generalizing row with
  | zero =>
    rcases row with _ | ⟨a, _ | ⟨b, rest⟩⟩
    · cases hl
    · cases hr
    · cases hl
      cases hr
      rfl
  | succ place ih =>
    cases row with
    | nil => cases hl
    | cons a rest => exact congrArg (a :: ·) (ih hl hr)

/-! ## What a search does -/

/-- One row arises from another by contractions. -/
def ContractsTo : List JoinTree → List JoinTree → Prop :=
  Relation.ReflTransGen fun row next => next ∈ contractions row

/-- A row of several trees is contracted to one tree by a contraction and what follows it. -/
theorem contractsTo_singleton_iff {row : List JoinTree} (several : 1 < row.length)
    {tree : JoinTree} :
    ContractsTo row [tree] ↔ ∃ next ∈ contractions row, ContractsTo next [tree] := by
  rw [ContractsTo, Relation.ReflTransGen.cases_head_iff]
  refine or_iff_right ?_
  rintro rfl
  exact Nat.lt_irrefl _ several

namespace TemplateSearch

/-- What a search on is to do: it leaves the row as it was, and finds the trees to which a row with
so many joins to go is contracted. -/
structure Explores (joins : ℕ) (searchOn : TemplateSearch → TemplateSearch) : Prop where
  /-- The row is as it was. -/
  row : ∀ search, (searchOn search).row = search.row
  /-- The finds are the trees that contractions lead to. -/
  found : ∀ search, search.row.length = joins + 1 → ∀ tree,
    ⟨tree⟩ ∈ (searchOn search).found ↔
      ⟨tree⟩ ∈ search.found ∨ ContractsTo search.row [tree]

variable {searchOn : TemplateSearch → TemplateSearch} {search : TemplateSearch} {joins place : ℕ}

/-- Neighbours are joined, and their join is taken apart after the search. -/
theorem tryPlace_of_neighbours {left right : JoinTree} (hl : search.row[place]? = some left)
    (hr : search.row[place + 1]? = some right) :
    tryPlace searchOn search place =
      let ended := searchOn { search with row := joinedAt search.row place left right }
      { ended with row := partedAt ended.row place left right } := by
  simp only [tryPlace, hl, hr]

/-- Without neighbours nothing is done. -/
theorem tryPlace_of_not_neighbours
    (lone : ¬∃ left right, search.row[place]? = some left ∧ search.row[place + 1]? = some right) :
    tryPlace searchOn search place = search := by
  rw [tryPlace]
  split
  · rename_i left right hl hr
    exact absurd ⟨left, right, hl, hr⟩ lone
  · rfl

/-- Without any join to go the only tree is kept. -/
theorem explores_keep : Explores 0 keep where
  row search := by
    rw [keep]
    split <;> rfl
  found search length tree := by
    obtain ⟨only, single⟩ := List.length_eq_one_iff.1 length
    have kept : search.keep.found = search.found.insert ⟨only⟩ := by rw [keep, single]
    have reached : ContractsTo [only] [tree] ↔ only = tree := by
      rw [ContractsTo, Relation.ReflTransGen.cases_head_iff]
      simp
    rw [kept, Std.HashSet.mem_insert, DigestedTree.beq_iff_eq, DigestedTree.mk.injEq, single,
      reached, or_comm]

namespace Explores

variable (later : Explores joins searchOn)
include later

/-- **One place leaves the row as it was**: the join that is made there is taken apart. -/
theorem row_tryPlace (search : TemplateSearch) (place : ℕ) :
    (tryPlace searchOn search place).row = search.row := by
  by_cases neighbours :
      ∃ left right, search.row[place]? = some left ∧ search.row[place + 1]? = some right
  · obtain ⟨left, right, hl, hr⟩ := neighbours
    rw [tryPlace_of_neighbours hl hr]
    show partedAt (searchOn _).row place left right = search.row
    rw [later.row]
    exact partedAt_joinedAt hl hr
  · rw [tryPlace_of_not_neighbours neighbours]

/-- **One place adds the trees that its contraction leads to**, if there are neighbours. -/
theorem mem_found_tryPlace (length : search.row.length = joins + 2) (place : ℕ) (tree : JoinTree) :
    ⟨tree⟩ ∈ (tryPlace searchOn search place).found ↔
      ⟨tree⟩ ∈ search.found ∨ ∃ left right,
        search.row[place]? = some left ∧ search.row[place + 1]? = some right ∧
          ContractsTo (joinedAt search.row place left right) [tree] := by
  by_cases neighbours :
      ∃ left right, search.row[place]? = some left ∧ search.row[place + 1]? = some right
  · obtain ⟨left, right, hl, hr⟩ := neighbours
    have shorter : (joinedAt search.row place left right).length = joins + 1 := by
      have member := mem_contractions_iff.2 ⟨place, left, right, hl, hr, rfl⟩
      have := length_of_mem_contractions member
      omega
    rw [tryPlace_of_neighbours hl hr]
    show ⟨tree⟩ ∈ (searchOn _).found ↔ _
    rw [later.found _ shorter]
    refine or_congr_right ⟨fun reached => ⟨left, right, hl, hr, reached⟩, ?_⟩
    rintro ⟨left', right', hl', hr', reached⟩
    obtain rfl := Option.some.inj (hl.symm.trans hl')
    obtain rfl := Option.some.inj (hr.symm.trans hr')
    exact reached
  · rw [tryPlace_of_not_neighbours neighbours]
    refine (or_iff_left ?_).symm
    rintro ⟨left, right, hl, hr, -⟩
    exact neighbours ⟨left, right, hl, hr⟩

theorem row_foldl_tryPlace (places : List ℕ) (search : TemplateSearch) :
    (places.foldl (tryPlace searchOn) search).row = search.row := by
  induction places generalizing search with
  | nil => rfl
  | cons place places ih => rw [List.foldl_cons, ih, later.row_tryPlace]

/-- The places that are tried add the trees that one of their contractions leads to. -/
theorem mem_found_foldl_tryPlace (places : List ℕ)
    (length : search.row.length = joins + 2) (tree : JoinTree) :
    ⟨tree⟩ ∈ (places.foldl (tryPlace searchOn) search).found ↔
      ⟨tree⟩ ∈ search.found ∨ ∃ place ∈ places, ∃ left right,
        search.row[place]? = some left ∧ search.row[place + 1]? = some right ∧
          ContractsTo (joinedAt search.row place left right) [tree] := by
  induction places generalizing search with
  | nil => simp
  | cons place places ih =>
    -- The next place finds the row that this one found.
    have same := later.row_tryPlace search place
    rw [List.foldl_cons, ih (same.symm ▸ length), same, later.mem_found_tryPlace length, or_assoc,
      List.exists_mem_cons_iff]

/-- **All places add the trees that the row is contracted to.** -/
theorem foldl_tryPlace : Explores (joins + 1) fun search =>
    (List.range (search.row.length - 1)).foldl (tryPlace searchOn) search where
  row search := later.row_foldl_tryPlace _ search
  found search length tree := by
    rw [later.mem_found_foldl_tryPlace _ length, contractsTo_singleton_iff (by omega)]
    refine or_congr_right ⟨?_, ?_⟩
    · rintro ⟨place, -, left, right, hl, hr, reached⟩
      exact ⟨_, mem_contractions_iff.2 ⟨place, left, right, hl, hr, rfl⟩, reached⟩
    · rintro ⟨next, member, reached⟩
      obtain ⟨place, left, right, hl, hr, rfl⟩ := mem_contractions_iff.1 member
      have inside : place + 1 < search.row.length := (List.getElem?_eq_some_iff.1 hr).1
      exact ⟨place, List.mem_range.2 (by omega), left, right, hl, hr, reached⟩

end Explores

/-- **A search finds what the row is contracted to** and leaves the row as it was. -/
theorem explores_contract (joins : ℕ) : Explores joins (contract joins) := by
  induction joins with
  | zero => exact explores_keep
  | succ joins ih => exact ih.foldl_tryPlace

end TemplateSearch

/-! ## From single leaves -/

/-- The rows after some joins are those that the single leaves are contracted to. -/
theorem contractsTo_singleLeaves_iff {n : ℕ} {row : List JoinTree} :
    ContractsTo (singleLeaves n) row ↔ ∃ joins, row ∈ (rowsAfter n joins).toList := by
  constructor
  · intro reached
    induction reached with
    | refl => exact ⟨0, mem_rowsAfter_zero.2 rfl⟩
    | tail _ step ih =>
      obtain ⟨joins, earlier⟩ := ih
      exact ⟨joins + 1, mem_rowsAfter_succ.2 ⟨_, earlier, step⟩⟩
  · rintro ⟨joins, member⟩
    induction joins generalizing row with
    | zero =>
      rw [mem_rowsAfter_zero.1 member]
      exact .refl
    | succ joins ih =>
      obtain ⟨earlier, before, step⟩ := mem_rowsAfter_succ.1 member
      exact (ih before).tail step

/-- **The templates are the trees that the single leaves are contracted to.** -/
theorem contractsTo_singleton_iff_mem_templates {n : ℕ} {tree : JoinTree} :
    ContractsTo (singleLeaves n) [tree] ↔ tree ∈ templates n := by
  rw [contractsTo_singleLeaves_iff, mem_templates]
  constructor
  · rintro ⟨joins, member⟩
    have length := length_of_mem_rowsAfter member
    rw [List.length_singleton] at length
    obtain rfl : joins = n - 1 := by omega
    exact member
  · exact fun member => ⟨_, member⟩

namespace TemplateSearch

/-- The search ends with the row of single leaves. -/
theorem row_run_start (n : ℕ) : (start n).run.row = singleLeaves n :=
  (explores_contract _).row _

theorem mem_found_run_start {n : ℕ} (pos : 0 < n) (tree : JoinTree) :
    ⟨tree⟩ ∈ (start n).run.found ↔ tree ∈ templates n := by
  have length : (start n).row.length = n := by
    rw [start, singleLeaves, List.length_map, List.length_range]
  rw [run, (explores_contract _).found _ (by omega)]
  refine (or_iff_right Std.HashSet.not_mem_empty).trans ?_
  exact contractsTo_singleton_iff_mem_templates

end TemplateSearch

/-- **The search finds the templates**, listed in the order of their digests. -/
theorem searchedTemplates_eq (n : ℕ) : searchedTemplates n = templates n := by
  rcases Nat.eq_zero_or_pos n with rfl | pos
  · rfl
  · rw [searchedTemplates, if_neg (Nat.ne_of_gt pos), TemplateSearch.trees]
    refine (eq_sorted_iff.2 ⟨?_, ?_⟩).symm
    · rw [List.perm_ext_iff_of_nodup (nodup_templates n) (nodup_trees _)]
      intro tree
      rw [mem_trees_iff, TemplateSearch.mem_found_run_start pos]
    · exact (pairwise_templates n).imp fun before => by rw [before]; rfl

/-- **The templates of `n` slots are the trees over the slots in order**, each once, in strictly
ascending order of the bytes of their digests; for one slot more there are as many as the Catalan
number of `n` says, and for no slot there is none.  They are what the search finds, which leaves its
row as it was at the start. -/
theorem templates_exact (n : ℕ) :
    (∀ tree, (templates n).count tree = if tree.leaves = List.range n then 1 else 0) ∧
    (templates n).Pairwise (fun a b => a.digestBytes < b.digestBytes) ∧
    (templates (n + 1)).length = n.catalanNumber ∧
    templates 0 = [] ∧
    searchedTemplates n = templates n ∧
    (TemplateSearch.start n).run.row = singleLeaves n := by
  refine ⟨fun tree => ?_, (pairwise_templates n).imp compare_eq_lt_iff.1,
    length_templates (Nat.succ_pos n), rfl, searchedTemplates_eq n,
    TemplateSearch.row_run_start n⟩
  rw [(nodup_templates n).count]
  simp only [mem_templates_iff]

end JoinOrder
