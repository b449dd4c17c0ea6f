/-
# What a Finished Count Remembers

A check stops at the first join that is not linked, so it asks about a join only if both of its
sides are free of cross products.  Conversely every two such trees without a common table are asked
about: their join grows to a plan, whose check meets it before anything that may fail.  So when all
plans have been evaluated, the memo holds the verdicts on the pairs of free trees without a common
table, linked or not, and the inputs of the free trees that leave some table out.

Main statements: which joins a count asks about (`mem_askedJoins_iff`) and which trees are their
sides (`mem_sides_askedJoins_iff`), how many there are (`card_askedJoins_eq_sum`,
`card_sides_askedJoins_eq_sum`), and what the memo holds after all evaluations, in turn or side by
side (`finished_memo_holds_free_trees`).
-/
import JoinOrder.Proofs.Counting.Figures
import JoinOrder.Proofs.Counting.Growth
import JoinOrder.Proofs.Enumeration.Schedule

namespace JoinOrder

open JoinTree

variable {conditions : ConditionSet} {tree : JoinTree}

/-- **A join that a check asks about** has free sides, and their leaves are among the leaves of the
tree. -/
theorem JoinTree.free_sides_of_mem_asked {p : JoinTree × JoinTree}
    (h : p ∈ tree.asked conditions) :
    p.1.CrossProductFree conditions ∧ p.2.CrossProductFree conditions ∧
      (p.1.leaves ++ p.2.leaves).Sublist tree.leaves := by
  induction tree with
  | leaf table => cases h
  | join left right ihl ihr =>
    have here : left.leaves.Sublist (join left right).leaves := List.sublist_append_left _ _
    have there : right.leaves.Sublist (join left right).leaves := List.sublist_append_right _ _
    rw [asked] at h
    rcases List.mem_append.1 h with hp | h
    · obtain ⟨freeL, freeR, leaves⟩ := ihl hp
      exact ⟨freeL, freeR, leaves.trans here⟩
    -- The right side is checked only after a free left side, and the join after both.
    · split_ifs at h with hl hr
      · rcases List.mem_append.1 h with hp | hp
        · obtain ⟨freeL, freeR, leaves⟩ := ihr hp
          exact ⟨freeL, freeR, leaves.trans there⟩
        · rw [List.mem_singleton.1 hp]
          exact ⟨hl, hr, List.Sublist.refl _⟩
      · rw [List.append_nil] at h
        obtain ⟨freeL, freeR, leaves⟩ := ihr h
        exact ⟨freeL, freeR, leaves.trans there⟩
      · cases h

namespace JoinGraph

variable {graph : JoinGraph} {left right : JoinTree}

/-! ## Joins and their sides -/

/-- A tree over tables of the graph, none of them twice, without a cross product. -/
structure Admits (graph : JoinGraph) (tree : JoinTree) : Prop where
  /-- No table occurs twice. -/
  distinct : tree.leaves.Nodup
  /-- The leaves are tables. -/
  known : ∀ table ∈ tree.leaves, table < graph.size
  /-- There is no cross product. -/
  free : tree.CrossProductFree graph.conditions

/-- The admitted trees are the free plans over parts of the tables. -/
theorem admits_iff : graph.Admits tree ↔
    tree.leaves.toFinset ⊆ Finset.range graph.size ∧
      tree ∈ freePlans graph.conditions tree.leaves.toFinset := by
  have inside : tree.leaves.toFinset ⊆ Finset.range graph.size ↔
      ∀ table ∈ tree.leaves, table < graph.size := by
    simp only [Finset.subset_iff, List.mem_toFinset, Finset.mem_range]
  rw [inside, mem_freePlans]
  constructor
  · rintro ⟨distinct, known, free⟩
    exact ⟨known, ⟨distinct, rfl⟩, free⟩
  · rintro ⟨known, ⟨distinct, -⟩, free⟩
    exact ⟨distinct, known, free⟩

/-- **The joins that a count asks about** are those of two admitted trees without a common table,
whether or not they are linked. -/
theorem mem_askedJoins_iff (h : 2 ≤ graph.size) :
    (left, right) ∈ graph.askedJoins ↔
      graph.Admits left ∧ graph.Admits right ∧ left.leaves.Disjoint right.leaves := by
  rw [mem_askedJoins h]
  constructor
  · rintro ⟨tree, plan, asked⟩
    obtain ⟨nodup, whole⟩ := mem_plansOver.1 plan
    obtain ⟨freeL, freeR, leaves⟩ := free_sides_of_mem_asked asked
    have known : ∀ table ∈ left.leaves ++ right.leaves, table < graph.size := by
      intro table member
      have among := List.mem_toFinset.2 (leaves.subset member)
      rwa [whole, Finset.mem_range] at among
    obtain ⟨distinctL, distinctR, apart⟩ := List.nodup_append'.1 (nodup.sublist leaves)
    exact ⟨⟨distinctL, fun table member => known table (List.mem_append_left _ member), freeL⟩,
      ⟨distinctR, fun table member => known table (List.mem_append_right _ member), freeR⟩, apart⟩
  · rintro ⟨hl, hr, apart⟩
    have nodup : (join left right).leaves.Nodup := hl.distinct.append hr.distinct apart
    have inside : (join left right).leaves.toFinset ⊆ Finset.range graph.size := by
      rw [leaves_join, List.toFinset_append]
      exact Finset.union_subset (admits_iff.1 hl).1 (admits_iff.1 hr).1
    have asked : (left, right) ∈ (join left right).asked graph.conditions := by
      rw [JoinTree.asked, if_pos hl.free, if_pos hr.free]
      simp
    -- The join is the first part of a plan.
    obtain ⟨tables, plan⟩ := exists_grow_mem_plansOver nodup inside
    exact ⟨_, plan, mem_asked_grow asked tables⟩

/-- **The sides of these joins** are the admitted trees that leave some table out. -/
theorem mem_sides_askedJoins_iff (h : 2 ≤ graph.size) :
    tree ∈ sides graph.askedJoins ↔
      graph.Admits tree ∧ tree.leaves.toFinset ⊂ Finset.range graph.size := by
  constructor
  · intro side
    -- The other side has a leaf, which the tree leaves out.
    have beside : ∀ {other : JoinTree}, graph.Admits tree → graph.Admits other →
        tree.leaves.Disjoint other.leaves →
        tree.leaves.toFinset ⊂ Finset.range graph.size := by
      intro other admitted admitted' apart
      obtain ⟨table, member⟩ := leaves_toFinset_nonempty other
      refine (Finset.ssubset_iff_of_subset (admits_iff.1 admitted).1).2
        ⟨table, (admits_iff.1 admitted').1 member, fun common => ?_⟩
      exact apart (List.mem_toFinset.1 common) (List.mem_toFinset.1 member)
    rcases Finset.mem_union.1 side with side | side
    · obtain ⟨⟨left, right⟩, hp, rfl⟩ := Finset.mem_image.1 side
      obtain ⟨hl, hr, apart⟩ := (mem_askedJoins_iff h).1 hp
      exact ⟨hl, beside hl hr apart⟩
    · obtain ⟨⟨left, right⟩, hp, rfl⟩ := Finset.mem_image.1 side
      obtain ⟨hl, hr, apart⟩ := (mem_askedJoins_iff h).1 hp
      exact ⟨hr, beside hr hl apart.symm⟩
  · rintro ⟨admitted, proper⟩
    obtain ⟨table, known, absent⟩ := Finset.exists_of_ssubset proper
    have single : graph.Admits (leaf table) :=
      ⟨List.nodup_singleton table, by simpa using known, trivial⟩
    have apart : tree.leaves.Disjoint (leaf table).leaves := by
      rw [leaves_leaf, List.disjoint_singleton]
      exact fun member => absent (List.mem_toFinset.2 member)
    exact fst_mem_sides ((mem_askedJoins_iff h).2 ⟨admitted, single, apart⟩)

/-! ## Numbers -/

/-- The ordered pairs of parts of the tables that are not empty and have no common table. -/
def disjointParts (graph : JoinGraph) : Finset (Finset ℕ × Finset ℕ) :=
  {p ∈ (Finset.range graph.size).powerset ×ˢ (Finset.range graph.size).powerset |
    p.1.Nonempty ∧ p.2.Nonempty ∧ Disjoint p.1 p.2}

/-- The parts of the tables that are not empty and leave some table out. -/
def properParts (graph : JoinGraph) : Finset (Finset ℕ) :=
  {s ∈ (Finset.range graph.size).ssubsets | s.Nonempty}

/-- **The number of joins that a count asks about.** -/
theorem card_askedJoins_eq_sum (h : 2 ≤ graph.size) :
    graph.askedJoins.card = ∑ p ∈ graph.disjointParts,
      (freePlans graph.conditions p.1).card * (freePlans graph.conditions p.2).card := by
  -- The joins are told apart by the tables of their sides.
  have parts : ∀ p ∈ graph.askedJoins,
      (p.1.leaves.toFinset, p.2.leaves.toFinset) ∈ graph.disjointParts := by
    rintro ⟨left, right⟩ hp
    obtain ⟨hl, hr, apart⟩ := (mem_askedJoins_iff h).1 hp
    refine Finset.mem_filter.2 ⟨Finset.mem_product.2 ⟨?_, ?_⟩, leaves_toFinset_nonempty left,
      leaves_toFinset_nonempty right, List.disjoint_toFinset_iff_disjoint.2 apart⟩
    · exact Finset.mem_powerset.2 (admits_iff.1 hl).1
    · exact Finset.mem_powerset.2 (admits_iff.1 hr).1
  rw [Finset.card_eq_sum_card_fiberwise parts]
  refine Finset.sum_congr rfl fun part hpart => ?_
  rw [← Finset.card_product]
  congr 1
  ext ⟨left, right⟩
  obtain ⟨first, second⟩ := part
  obtain ⟨inside, -, -, apart⟩ := Finset.mem_filter.1 hpart
  rw [Finset.mem_product, Finset.mem_powerset, Finset.mem_powerset] at inside
  rw [Finset.mem_filter, Finset.mem_product, mem_askedJoins_iff h, admits_iff, admits_iff,
    Prod.mk.injEq]
  constructor
  · rintro ⟨⟨⟨-, hl⟩, ⟨-, hr⟩, -⟩, rfl, rfl⟩
    exact ⟨hl, hr⟩
  · rintro ⟨hl, hr⟩
    obtain ⟨⟨-, rfl⟩, -⟩ := mem_freePlans.1 hl
    obtain ⟨⟨-, rfl⟩, -⟩ := mem_freePlans.1 hr
    exact ⟨⟨⟨inside.1, hl⟩, ⟨inside.2, hr⟩, List.disjoint_toFinset_iff_disjoint.1 apart⟩,
      rfl, rfl⟩

/-- **The number of trees that are a side of such a join.** -/
theorem card_sides_askedJoins_eq_sum (h : 2 ≤ graph.size) :
    (sides graph.askedJoins).card =
      ∑ s ∈ graph.properParts, (freePlans graph.conditions s).card := by
  have parts : ∀ tree ∈ sides graph.askedJoins, tree.leaves.toFinset ∈ graph.properParts := by
    intro tree side
    obtain ⟨-, proper⟩ := (mem_sides_askedJoins_iff h).1 side
    exact Finset.mem_filter.2 ⟨Finset.mem_ssubsets.2 proper, leaves_toFinset_nonempty tree⟩
  rw [Finset.card_eq_sum_card_fiberwise parts]
  refine Finset.sum_congr rfl fun s hs => ?_
  congr 1
  ext tree
  have proper := Finset.mem_ssubsets.1 (Finset.mem_filter.1 hs).1
  rw [Finset.mem_filter, mem_sides_askedJoins_iff h, admits_iff]
  constructor
  · rintro ⟨⟨⟨-, free⟩, -⟩, rfl⟩
    exact free
  · intro free
    obtain ⟨⟨-, rfl⟩, -⟩ := mem_freePlans.1 free
    exact ⟨⟨⟨proper.subset, free⟩, proper⟩, rfl⟩

end JoinGraph

/-! ## Memos -/

/-- The memo holds verdicts on exactly the pairs of admitted trees without a common table, and the
inputs of exactly the admitted trees that leave some table out. -/
structure Memo.HoldsFreeTrees (graph : JoinGraph) (memo : Memo) : Prop where
  /-- The keys with a verdict. -/
  verdicts : ∀ key : JoinKey, key ∈ memo.verdicts ↔
    ∃ left right : JoinTree, key = ⟨left.digest, right.digest⟩ ∧
      graph.Admits left ∧ graph.Admits right ∧ left.leaves.Disjoint right.leaves
  /-- The digests with known inputs. -/
  inputSets : ∀ digest : String, digest ∈ memo.inputSets ↔
    ∃ tree : JoinTree, digest = tree.digest ∧
      graph.Admits tree ∧ tree.leaves.toFinset ⊂ Finset.range graph.size

variable {graph : JoinGraph}

/-- A memo that records what a count asks about holds the free trees. -/
theorem Memo.Records.holdsFreeTrees {memo : Memo} (h : 2 ≤ graph.size)
    (records : memo.Records graph.conditions (sides graph.askedJoins) graph.askedJoins) :
    memo.HoldsFreeTrees graph where
  verdicts := by
    intro key
    rw [records.mem_verdicts]
    constructor
    · rintro ⟨⟨left, right⟩, member, rfl⟩
      exact ⟨left, right, rfl, (JoinGraph.mem_askedJoins_iff h).1 member⟩
    · rintro ⟨left, right, rfl, admitted⟩
      exact ⟨(left, right), (JoinGraph.mem_askedJoins_iff h).2 admitted, rfl⟩
  inputSets := by
    intro digest
    rw [records.mem_inputSets]
    constructor
    · rintro ⟨tree, member, rfl⟩
      exact ⟨tree, rfl, (JoinGraph.mem_sides_askedJoins_iff h).1 member⟩
    · rintro ⟨tree, rfl, admitted⟩
      exact ⟨tree, (JoinGraph.mem_sides_askedJoins_iff h).2 admitted, rfl⟩

/-- **When all plans of at least two tables have been evaluated**, one after another or side by side
on any schedule, the memo holds the verdicts on all pairs of admitted trees without a common table
and the inputs of all admitted trees that leave some table out, and nothing else.  The figures of a
count say how many these are. -/
theorem finished_memo_holds_free_trees {graph : JoinGraph} (h : 2 ≤ graph.size) :
    (∀ report, ∃ sweep,
      Sweep.checkAll graph.conditions (leafOrders graph.size) (templates graph.size) report =
        .ok sweep ∧ sweep.memo.HoldsFreeTrees graph) ∧
    (∀ schedule trace last,
      (Workshop.start graph.conditions graph.pairs).run schedule = some (trace, last) →
      last.Finished → last.memo.HoldsFreeTrees graph) ∧
    ∀ settings statistics, graph.statistics settings = .ok statistics →
      statistics.cachedVerdicts = ∑ p ∈ graph.disjointParts,
        (freePlans graph.conditions p.1).card * (freePlans graph.conditions p.2).card ∧
      statistics.cachedInputSets =
        ∑ s ∈ graph.properParts, (freePlans graph.conditions s).card := by
  refine ⟨?_, ?_, ?_⟩
  · intro report
    have swept := Sweep.checkAll_eq_ok graph.conditions graph.size report
    have agrees := graph.agrees_evaluated h swept
    obtain ⟨records, -⟩ := Sweep.records_foldl_afterTree graph.conditions graph.evaluated
    rw [← agrees.memo] at records
    exact ⟨_, swept, records.holdsFreeTrees h⟩
  · intro schedule trace last ran finished
    obtain ⟨valid, -⟩ := graph.valid_start.run ran
    obtain ⟨records, -⟩ := valid.finished finished
    exact records.holdsFreeTrees h
  · intro settings statistics counted
    rw [JoinGraph.eq_figures_of_statistics h counted]
    exact ⟨JoinGraph.card_askedJoins_eq_sum h, JoinGraph.card_sides_askedJoins_eq_sum h⟩

/-- Two tables without a condition have no free plan, yet the verdicts on both of their joins are
known in the end, and so are the inputs of both tables, but not those of a join.  With three tables
in a row the joins of neighbours are asked about as well: their inputs are known, and the verdict on
joining one of them with the third table. -/
theorem finished_memo_holds_free_trees_unlinked_and_in_a_row :
    (∃ graph sweep trace last statistics,
      JoinGraph.empty.registerAll [.table "A", .table "B"] = (graph, none) ∧
      Sweep.checkAll graph.conditions (leafOrders 2) (templates 2) false = .ok sweep ∧
      ⟨"0", "1"⟩ ∈ sweep.memo.verdicts ∧ "(0x1)" ∉ sweep.memo.inputSets ∧
      (Workshop.start graph.conditions graph.pairs).run [0, 1, 0, 0, 0, 0, 0, 1, 1, 1] =
        some (trace, last) ∧ last.Finished ∧ ⟨"1", "0"⟩ ∈ last.memo.verdicts ∧
      graph.statistics .standard = .ok statistics ∧ statistics.crossProductFree = 0 ∧
      statistics.cachedVerdicts = ∑ p ∈ graph.disjointParts,
        (freePlans graph.conditions p.1).card * (freePlans graph.conditions p.2).card) ∧
    ∃ row sweep,
      JoinGraph.empty.registerAll [.condition "A" "B", .condition "B" "C"] = (row, none) ∧
      Sweep.checkAll row.conditions (leafOrders 3) (templates 3) false = .ok sweep ∧
      ⟨"(0x1)", "2"⟩ ∈ sweep.memo.verdicts ∧ "(1x2)" ∈ sweep.memo.inputSets ∧
      "(0x2)" ∉ sweep.memo.inputSets ∧ row.count .standard = .ok 8 ∧
      14 = ∑ p ∈ row.disjointParts,
        (freePlans row.conditions p.1).card * (freePlans row.conditions p.2).card ∧
      7 = ∑ s ∈ row.properParts, (freePlans row.conditions s).card := by
  constructor
  · obtain ⟨swept, worked, figures⟩ := @finished_memo_holds_free_trees
      (JoinGraph.empty.registerAll [.table "A", .table "B"]).1 (Nat.le_refl 2)
    obtain ⟨sweep, checked, holds⟩ := swept false
    obtain ⟨⟨trace, last⟩, ran, finished⟩ : ∃ run : List (ℕ × Action) × Workshop,
        (Workshop.start (JoinGraph.empty.registerAll [.table "A", .table "B"]).1.conditions
          (JoinGraph.empty.registerAll [.table "A", .table "B"]).1.pairs).run
            [0, 1, 0, 0, 0, 0, 0, 1, 1, 1] = some run ∧
        ∀ job ∈ run.2.jobs, job.step run.2.memo = none := ⟨_, rfl, by decide⟩
    have admitted : ∀ table < 2,
        (JoinGraph.empty.registerAll [.table "A", .table "B"]).1.Admits (leaf table) := by
      intro table small
      refine ⟨List.nodup_singleton table, fun leaf member => ?_, trivial⟩
      rwa [List.mem_singleton.1 member]
    have join : "(0x1)" ∉ sweep.memo.inputSets := by
      intro known
      obtain ⟨tree, same, admits, -⟩ := (holds.inputSets _).1 known
      obtain rfl : join (leaf 0) (leaf 1) = tree := digest_injective same
      exact absurd admits.free (by decide)
    refine ⟨_, sweep, trace, last, _, rfl, checked, ?_, join, ran, finished, ?_, rfl, rfl,
      (figures .standard _ rfl).1⟩
    · exact (holds.verdicts _).2 ⟨leaf 0, leaf 1, rfl, admitted 0 (by decide),
        admitted 1 (by decide), by simp⟩
    · exact ((worked _ _ _ ran finished).verdicts _).2 ⟨leaf 1, leaf 0, rfl,
        admitted 1 (by decide), admitted 0 (by decide), by simp⟩
  · obtain ⟨row, made⟩ : ∃ row,
        JoinGraph.empty.registerAll [.condition "A" "B", .condition "B" "C"] = (row, none) :=
      ⟨_, rfl⟩
    have size : row.size = 3 := by
      cases made
      rfl
    have counted : row.statistics .standard = .ok ⟨3, 6, 2, 12, 8, 7, 14, 6, 0⟩ := by
      cases made
      decide +kernel
    have free : (join (leaf 0) (leaf 1)).CrossProductFree row.conditions ∧
        (join (leaf 1) (leaf 2)).CrossProductFree row.conditions ∧
        ¬ (join (leaf 0) (leaf 2)).CrossProductFree row.conditions := by
      cases made
      decide
    have admitted : ∀ tree : JoinTree, tree.leaves.Nodup → (∀ table ∈ tree.leaves, table < 3) →
        tree.CrossProductFree row.conditions → row.Admits tree :=
      fun tree distinct known free => ⟨distinct, size ▸ known, free⟩
    obtain ⟨swept, -, figures⟩ := @finished_memo_holds_free_trees row (by omega)
    obtain ⟨sweep, checked, holds⟩ := swept false
    rw [size] at checked
    have apart : "(0x2)" ∉ sweep.memo.inputSets := by
      intro known
      obtain ⟨tree, same, admits, -⟩ := (holds.inputSets _).1 known
      obtain rfl : join (leaf 0) (leaf 2) = tree := digest_injective same
      exact free.2.2 admits.free
    refine ⟨row, sweep, made, checked, ?_, ?_, apart, ?_, figures _ _ counted⟩
    · exact (holds.verdicts _).2 ⟨join (leaf 0) (leaf 1), leaf 2, rfl,
        admitted _ (by decide) (by decide) free.1, admitted _ (by decide) (by decide) trivial,
        by simp⟩
    · exact (holds.inputSets _).2 ⟨join (leaf 1) (leaf 2), rfl,
        admitted _ (by decide) (by decide) free.2.1, size ▸ by decide⟩
    · rw [JoinGraph.count, counted]
      rfl

end JoinOrder
