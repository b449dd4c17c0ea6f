/-
# The Figures of a Count

All figures of a count of at least two tables are known from the plans of the tables: how many of
them are free of cross products, which joins their checks ask about, and at how many orders a report
is due.  In particular the sizes of the memo do not depend on which check came first.

Main statements: what checking some trees leaves behind (`Sweep.records_foldl_afterTree`), the
reports on the way (`Sweep.done_foldl_afterRound`), and the figures of a count
(`eq_figures_of_statistics`).
-/
import JoinOrder.Proofs.Connectivity.Footprint
import JoinOrder.Proofs.Counting.Evaluation
import JoinOrder.Proofs.Enumeration.Progress

namespace JoinOrder

open JoinTree

namespace Sweep

/-! ## Checked trees -/

/-- The trees have been checked: what the memo holds is about given joins, the verdicts on all joins
that the checks ask about are known, and the free trees have been counted. -/
structure HasChecked (conditions : ConditionSet) (joins : Finset (JoinTree × JoinTree))
    (trees : List JoinTree) (sweep : Sweep) : Prop where
  /-- The memo is about the given joins. -/
  within : sweep.memo.Within conditions (sides joins) joins
  /-- The joins that were asked about have known verdicts. -/
  known : ∀ tree ∈ trees, ∀ p ∈ tree.asked conditions, joinKey p.1 p.2 ∈ sweep.memo.verdicts
  /-- The free trees have been counted. -/
  found : sweep.found = trees.countP (CrossProductFree conditions)

variable {conditions : ConditionSet} {joins : Finset (JoinTree × JoinTree)}
  {trees more : List JoinTree} {sweep : Sweep}

/-- Checking one more tree, if the joins that it asks about are given. -/
theorem HasChecked.afterTree (h : sweep.HasChecked conditions joins trees) {tree : JoinTree}
    (member : ∀ p ∈ tree.asked conditions, p ∈ joins) :
    (sweep.afterTree conditions tree).HasChecked conditions joins (trees ++ [tree]) := by
  obtain ⟨within, grown, free, settled⟩ :=
    (ensures_checkCrossProducts member subset_rfl).run h.within
  refine ⟨within, ?_, ?_⟩
  · intro other among p hp
    rcases List.mem_append.1 among with among | among
    · exact grown.mem_verdicts (h.known other among p hp)
    · rw [List.mem_singleton.1 among] at hp
      exact settled p hp
  · show (if _ then sweep.found + 1 else sweep.found) = _
    rw [free, List.countP_append, List.countP_singleton, h.found]
    split_ifs <;> simp

/-- **Checking trees one after another**, if the joins that they ask about are given. -/
theorem HasChecked.foldl_afterTree (h : sweep.HasChecked conditions joins trees)
    (member : ∀ tree ∈ more, ∀ p ∈ tree.asked conditions, p ∈ joins) :
    (more.foldl (Sweep.afterTree conditions) sweep).HasChecked conditions joins
      (trees ++ more) := by
  induction more generalizing sweep trees with
  | nil => rwa [List.append_nil]
  | cons tree more ih =>
    rw [List.foldl_cons, List.append_cons]
    exact ih (h.afterTree (member tree List.mem_cons_self))
      fun other among => member other (List.mem_cons_of_mem tree among)

/-- **What checking some trees leaves behind**: the verdicts on the joins that were asked about, the
inputs of their sides, and the number of the free trees. -/
theorem records_foldl_afterTree (conditions : ConditionSet) (trees : List JoinTree) :
    (trees.foldl (Sweep.afterTree conditions) (.start 0 false)).memo.Records conditions
        (sides (askedJoins conditions trees)) (askedJoins conditions trees) ∧
      (trees.foldl (Sweep.afterTree conditions) (.start 0 false)).found =
        trees.countP (CrossProductFree conditions) := by
  have start : (Sweep.start 0 false).HasChecked conditions (askedJoins conditions trees) [] :=
    ⟨Memo.within_empty _ _ _, by simp, rfl⟩
  have done : (trees.foldl (Sweep.afterTree conditions) (.start 0 false)).HasChecked conditions
      (askedJoins conditions trees) trees :=
    start.foldl_afterTree fun tree among p hp => mem_askedJoins.2 ⟨tree, among, hp⟩
  refine ⟨⟨done.within, done.within.covers_sides fun p hp => ?_⟩, done.found⟩
  obtain ⟨tree, among, asked⟩ := mem_askedJoins.1 hp
  exact done.known tree among p asked

/-- The same, if the trees are checked by steps that may fail. -/
theorem records_of_foldlM
    (checked : trees.foldlM (checkTree conditions) (.start 0 false) = .ok sweep) :
    sweep.memo.Records conditions (sides (askedJoins conditions trees))
        (askedJoins conditions trees) ∧
      sweep.found = trees.countP (CrossProductFree conditions) := by
  rw [foldlM_eq_ok fun tree _ sweep => checkTree_eq_ok tree sweep] at checked
  obtain rfl := Except.ok.inj checked
  exact records_foldl_afterTree conditions trees

/-! ## Finished orders -/

/-- Checking trees makes no report. -/
theorem progress_foldl_afterTree (trees : List JoinTree) (sweep : Sweep) :
    (trees.foldl (Sweep.afterTree conditions) sweep).progress = sweep.progress := by
  induction trees generalizing sweep with
  | nil => rfl
  | cons tree trees ih => exact ih _

/-- **Each order is reported if its report is due.** -/
theorem done_foldl_afterRound (conditions : ConditionSet) {orders done : ℕ} {report : Bool}
    (h : sweep.progress.Done orders report done) (rounds : List (List JoinTree)) :
    (rounds.foldl (afterRound conditions) sweep).progress.Done orders report
      (done + rounds.length) := by
  induction rounds generalizing sweep done with
  | nil => exact h
  | cons round rounds ih =>
    have next : (sweep.afterRound conditions round).progress.Done orders report (done + 1) := by
      have before : (round.foldl (Sweep.afterTree conditions) sweep).progress.Done orders report
          done := by rwa [progress_foldl_afterTree]
      exact before.orderCompleted _
    rw [List.foldl_cons, List.length_cons, Nat.add_comm rounds.length, ← Nat.add_assoc]
    exact ih next

end Sweep

/-! ## Figures -/

namespace JoinGraph

/-- The joins that a count asks about. -/
def askedJoins (graph : JoinGraph) : Finset (JoinTree × JoinTree) :=
  JoinOrder.askedJoins graph.conditions graph.evaluated

/-- The figures of a count of at least two tables, but for the time taken. -/
def figures (graph : JoinGraph) (report : Bool) : Statistics where
  inputs := graph.size
  orders := (leafOrders graph.size).length
  templates := (templates graph.size).length
  pairsEvaluated := (leafOrders graph.size).length * (templates graph.size).length
  crossProductFree := planCount graph.conditions (Finset.range graph.size)
  cachedInputSets := (sides graph.askedJoins).card
  cachedVerdicts := graph.askedJoins.card
  progressReports :=
    if report then
      (Progress.dueUpTo (leafOrders graph.size).length (leafOrders graph.size).length).length
    else 0
  elapsedMs := 0

variable {graph : JoinGraph} {settings : Settings} {statistics : Statistics}

/-- A count asks about the joins that the check of some plan asks about. -/
theorem mem_askedJoins (h : 2 ≤ graph.size) {p : JoinTree × JoinTree} :
    p ∈ graph.askedJoins ↔
      ∃ tree ∈ plansOver (Finset.range graph.size), p ∈ tree.asked graph.conditions := by
  rw [askedJoins, JoinOrder.mem_askedJoins]
  simp only [mem_evaluated h, mem_plansOver_range]

/-- **The figures of a count** that returns. -/
theorem eq_figures_of_statistics (h : 2 ≤ graph.size)
    (counted : graph.statistics settings = .ok statistics) :
    statistics = graph.figures settings.logProgress := by
  obtain ⟨sweep, swept, rfl⟩ := exists_sweep_of_statistics h counted
  obtain ⟨-, alone, checked, found, inputSets, verdicts⟩ := Statistics.areOf_evaluated h counted
  obtain ⟨records, -⟩ := Sweep.records_of_foldlM checked
  have free : sweep.found = planCount graph.conditions (Finset.range graph.size) := by
    have count : graph.count settings = .ok sweep.found := by
      rw [count, counted]
      rfl
    exact eq_planCount_of_count count
  have reports : sweep.progress.reports.length =
      if settings.logProgress then
        (Progress.dueUpTo (leafOrders graph.size).length (leafOrders graph.size).length).length
      else 0 := by
    rw [Sweep.checkAll_eq_ok] at swept
    obtain rfl := Except.ok.inj swept
    have start : (Sweep.start (leafOrders graph.size).length settings.logProgress).progress.Done
        (leafOrders graph.size).length settings.logProgress 0 := Progress.done_start _ _
    have done := Sweep.done_foldl_afterRound graph.conditions start
      ((leafOrders graph.size).map (Sweep.round graph.size))
    rw [Nat.zero_add, List.length_map] at done
    exact done.length_reports
  rw [Sweep.statistics, figures, Statistics.mk.injEq]
  exact ⟨rfl, rfl, rfl, rfl, free, inputSets.trans records.inputSetCount_eq_card,
    verdicts.trans records.verdictCount_eq_card, reports, rfl⟩

/-- A count of at least two tables has the figures as its result, unless the sizes are refused. -/
theorem statistics_of_two_le (h : 2 ≤ graph.size) :
    graph.statistics settings =
      (searchSpacePairs settings.verifySearchSpace graph.size (leafOrders graph.size).length
        (templates graph.size).length).map fun _ => graph.figures settings.logProgress := by
  cases sizes : searchSpacePairs settings.verifySearchSpace graph.size
    (leafOrders graph.size).length (templates graph.size).length with
  | error failure => rw [statistics_eq_map_sweep h, sizes]; rfl
  | ok pairs =>
    have counted := statistics_eq_map_sweep h settings
    rw [sizes] at counted
    rw [counted, ← eq_figures_of_statistics h counted]

end JoinGraph

end JoinOrder
