/-
# Statistics of the Whole Search Space

If the number of pairs fits a word, then a count of at least two tables has a result.  The lists
have the sizes that their closed forms say, so verifying them never fails, and every template takes
every order.  What the statistics say is determined by the graph: the settings have a say only in
whether reports are made, and the schedule of the workers has none.

Main statements: a count within range (`statistics_eq_ok_figures`), workers in whatever order
(`Workshop.Valid.ne_error`, `statistics_of_finished`), and all of it together
(`statistics_cover_search_space`).
-/
import JoinOrder.Proofs.Counting.WholeSpace
import JoinOrder.Proofs.Enumeration.Schedule

namespace JoinOrder

open JoinTree

variable {graph : JoinGraph}

/-! ## Counts within range -/

/-- **A count within range has the figures of the graph as its result**, whatever the settings. -/
theorem statistics_eq_ok_figures (two : 2 ≤ graph.size)
    (fits : graph.size.factorial * (graph.size - 1).catalanNumber < wordBound)
    (settings : Settings) :
    graph.statistics settings = .ok (graph.figures settings.logProgress) := by
  have pos : 0 < graph.size := by omega
  have size : searchSpaceSize graph.size =
      .ok (graph.size.factorial * (graph.size - 1).catalanNumber) := by
    rw [searchSpaceSize_eq pos, multiply_eq_ok_iff.2 ⟨rfl, fits⟩]
  rw [JoinGraph.statistics_of_two_le two, searchSpacePairs_eq _ pos, size]
  rfl

/-! ## Workers in whatever order -/

/-- No job ends with an error. -/
theorem Workshop.Valid.ne_error {conditions : ConditionSet} {plans : List JoinTree}
    {shop : Workshop} (h : shop.Valid conditions plans) (e : Error) :
    ∀ job ∈ shop.jobs, job ≠ .checking (.done (.error e)) := by
  have each : List.Forall₂ (fun job plan => job ≠ .checking (.done (.error e)) ∧
      job.Serves conditions (askedJoins conditions plans) shop.memo plan) shop.jobs plans := by
    refine h.serves.imp fun job plan serves => ⟨?_, serves⟩
    rintro rfl
    obtain ⟨verdict, -⟩ := serves shop.memo (.refl shop.memo) h.within
    cases verdict
  exact ((List.forall₂_and_left _ _).1 each).1

/-- Among the evaluated trees are all free plans. -/
theorem JoinGraph.countP_evaluated (two : 2 ≤ graph.size) :
    graph.evaluated.countP (CrossProductFree graph.conditions) =
      planCount graph.conditions (Finset.range graph.size) := by
  rw [← freePairCount_eq_planCount, JoinGraph.evaluated, JoinGraph.pairs_of_two_le two,
    List.countP_map, freePairCount]
  refine List.countP_congr fun pair member => ?_
  rw [isFreePair_iff member, Function.comp_apply, decide_eq_true_iff]

/-- **The statistics of a finished workshop** are the figures of the graph, whatever had been found
at the moments when the orders were done. -/
theorem statistics_of_finished (two : 2 ≤ graph.size) {schedule : List ℕ}
    {trace : List (ℕ × Action)} {last : Workshop}
    (ran : (Workshop.start graph.conditions graph.pairs).run schedule = some (trace, last))
    (finished : last.Finished) (report : Bool) {founds : List ℕ}
    (orders : founds.length = (leafOrders graph.size).length) :
    Sweep.statistics
        ⟨last.memo, last.found, founds.foldl .orderCompleted (.start founds.length report)⟩
        graph.size (leafOrders graph.size).length (templates graph.size).length
        ((leafOrders graph.size).length * (templates graph.size).length) =
      graph.figures report := by
  obtain ⟨records, -, found⟩ := (graph.valid_start.run ran).1.finished finished
  have reports :=
    ((Progress.done_start founds.length report).foldl_orderCompleted founds).length_reports
  rw [Nat.zero_add, orders] at reports
  rw [Sweep.statistics, JoinGraph.figures, Statistics.mk.injEq, orders]
  exact ⟨rfl, rfl, rfl, rfl, found.trans (JoinGraph.countP_evaluated two),
    records.inputSetCount_eq_card, records.verdictCount_eq_card, reports, rfl⟩

/-! ## Statistics -/

/-- **Statistics cover the whole search space.**  If the number of pairs of at least two tables fits
a word, then a count has a result whatever its settings are, and its statistics give the sizes of
the two lists and of the search space.  Two settings make no difference but for the reports, which
depend on the number of tables and on whether they are asked for.  Workers that share the pairs in
whatever order meet no error, and when they are finished, the statistics are the same, whatever had
been found at the moments when the orders were done. -/
theorem statistics_cover_search_space {graph : JoinGraph} (two : 2 ≤ graph.size)
    (fits : graph.size.factorial * (graph.size - 1).catalanNumber < wordBound) :
    (∀ settings, ∃ statistics, graph.statistics settings = .ok statistics ∧
      statistics.inputs = graph.size ∧
      statistics.orders = graph.size.factorial ∧
      statistics.orders = (leafOrders graph.size).length ∧
      statistics.templates = (graph.size - 1).catalanNumber ∧
      statistics.templates = (templates graph.size).length ∧
      searchSpaceSize graph.size = .ok statistics.pairsEvaluated) ∧
    (∀ (settings settings' : Settings) (statistics statistics' : Statistics),
      graph.statistics settings = .ok statistics → graph.statistics settings' = .ok statistics' →
      { statistics with progressReports := statistics'.progressReports } = statistics') ∧
    (∀ (other : JoinGraph) (settings settings' : Settings) (statistics statistics' : Statistics),
      other.size = graph.size → settings'.logProgress = settings.logProgress →
      graph.statistics settings = .ok statistics → other.statistics settings' = .ok statistics' →
      statistics'.progressReports = statistics.progressReports) ∧
    ∀ schedule trace last,
      (Workshop.start graph.conditions graph.pairs).run schedule = some (trace, last) →
      (∀ e, ∀ job ∈ last.jobs, job ≠ .checking (.done (.error e))) ∧
      (last.Finished → ∀ settings (founds : List ℕ),
        founds.length = (leafOrders graph.size).length →
        graph.statistics settings = .ok
          (Sweep.statistics ⟨last.memo, last.found,
              founds.foldl .orderCompleted (.start founds.length settings.logProgress)⟩
            graph.size (leafOrders graph.size).length (templates graph.size).length
            ((leafOrders graph.size).length * (templates graph.size).length))) := by
  have pos : 0 < graph.size := by omega
  have orders := length_leafOrders_eq_factorial graph.size
  have trees := length_templates pos
  refine ⟨?_, ?_, ?_, ?_⟩
  · intro settings
    refine ⟨_, statistics_eq_ok_figures two fits settings, rfl, orders, rfl, trees, rfl, ?_⟩
    rw [searchSpaceSize_eq pos, JoinGraph.figures, orders, trees]
    exact multiply_eq_ok_iff.2 ⟨rfl, fits⟩
  · intro settings settings' statistics statistics' counted counted'
    obtain rfl := JoinGraph.eq_figures_of_statistics two counted
    obtain rfl := JoinGraph.eq_figures_of_statistics two counted'
    rfl
  · intro other settings settings' statistics statistics' size report counted counted'
    obtain rfl := JoinGraph.eq_figures_of_statistics two counted
    obtain rfl := JoinGraph.eq_figures_of_statistics (size ▸ two) counted'
    rw [JoinGraph.figures, JoinGraph.figures, size, report]
  · intro schedule trace last ran
    refine ⟨(graph.valid_start.run ran).1.ne_error, ?_⟩
    intro finished settings founds orders
    rw [statistics_eq_ok_figures two fits settings,
      statistics_of_finished two ran finished settings.logProgress orders]

/-- Two linked tables, counted with the standard settings and with three silent threads that verify
nothing, and a schedule in which the two jobs take turns. -/
theorem statistics_cover_search_space_two_tables :
    ∃ (graph : JoinGraph) (settings : Settings) (statistics statistics' : Statistics)
        (last : Workshop),
      JoinGraph.empty.registerAll [.condition "A" "B"] = (graph, none) ∧
      2 ≤ graph.size ∧ graph.size.factorial * (graph.size - 1).catalanNumber < wordBound ∧
      settings = ⟨some 3, "worker", false, false⟩ ∧ settings.validate = .ok settings ∧
      graph.statistics .standard = .ok statistics ∧ graph.statistics settings = .ok statistics' ∧
      statistics.orders = 2 ∧ searchSpaceSize 2 = .ok statistics.pairsEvaluated ∧
      { statistics with progressReports := statistics'.progressReports } = statistics' ∧
      last.Finished ∧
      graph.statistics .standard = .ok
        (Sweep.statistics ⟨last.memo, last.found,
          [0, 2].foldl .orderCompleted (.start 2 true)⟩ 2 2 1 2) := by
  obtain ⟨⟨trace, last⟩, ran, finished⟩ : ∃ run : List (ℕ × Action) × Workshop,
      (Workshop.start (JoinGraph.empty.registerAll [.condition "A" "B"]).1.conditions
        (JoinGraph.empty.registerAll [.condition "A" "B"]).1.pairs).run
          [0, 0, 0, 0, 1, 1, 0, 1, 1, 0, 1, 0, 1] = some run ∧
      ∀ job ∈ run.2.jobs, job.step run.2.memo = none :=
    ⟨_, rfl, by decide⟩
  have fits : (2).factorial * (2 - 1).catalanNumber < wordBound := by
    rw [Nat.catalanNumber, catalan_one]
    decide
  obtain ⟨returns, agree, -, schedules⟩ := @statistics_cover_search_space
    (JoinGraph.empty.registerAll [.condition "A" "B"]).1 (Nat.le_refl 2) fits
  obtain ⟨statistics, counted, -, orders, -, -, -, size⟩ := returns .standard
  obtain ⟨statistics', counted', -⟩ := returns ⟨some 3, "worker", false, false⟩
  exact ⟨_, _, statistics, statistics', last, rfl, Nat.le_refl 2, fits, rfl, rfl, counted, counted',
    orders, size, agree _ _ _ _ counted counted', finished,
    (schedules _ _ _ ran).2 finished .standard [0, 2] rfl⟩

end JoinOrder
