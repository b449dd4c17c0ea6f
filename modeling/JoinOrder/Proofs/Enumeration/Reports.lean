/-
# The Reports of a Run

Workers that share a progress make the reports that are due, whichever way their steps interleave:
at every moment the numbers that have been reported, together with those whose reports are still
owed, are the due numbers among those taken.  So a finished run has reported every due number once.

If the orders are worked through one after another, then a report says in addition what was found
among the orders before it.  These partial counts never decrease, and the last one is the count.

Main statements: the account that every step keeps (`SharedProgress.Accounts.step`), the reports of
a sweep (`Sweep.reports_foldl_afterRound`) and of a count (`JoinGraph.reports_countRun`), and both
together (`reports_cover_run`).
-/
import Mathlib.Data.List.Induction
import Mathlib.Data.List.Perm.Basic
import JoinOrder.Enumeration.SharedProgress
import JoinOrder.Proofs.Enumeration.Schedule
import JoinOrder.Proofs.SearchSpace.Size

namespace JoinOrder

/-! ## Reports of workers -/

namespace SharedProgress

open Progress

variable {orders : ℕ} {report : Bool} {shared later : SharedProgress}

/-- The numbers that have been reported. -/
def reported (shared : SharedProgress) : List ℕ := shared.progress.reports.map Report.completed

/-- What the workers have done so far fits together. -/
structure Accounts (orders : ℕ) (report : Bool) (shared : SharedProgress) : Prop where
  /-- The number of all orders is right. -/
  total : shared.progress.total = orders
  /-- Whether reports are made is right. -/
  enabled : shared.progress.enabled = report
  /-- No order is forgotten. -/
  waiting : shared.progress.completed + shared.waiting = orders
  /-- The due numbers among those taken are reported or owed. -/
  numbers : (shared.reported ++ shared.owed).Perm
    (if report then dueUpTo orders shared.progress.completed else [])

theorem accounts_start (orders : ℕ) (report : Bool) :
    (start orders report).Accounts orders report where
  total := rfl
  enabled := rfl
  waiting := Nat.zero_add orders
  numbers := by cases report <;> exact .refl []

theorem Accounts.afterTake (h : shared.Accounts orders report)
    (took : shared.step .take = some later) : later.Accounts orders report := by
  obtain ⟨waiting, left, rfl⟩ := step_eq_some_iff_take.1 took
  have sum := h.waiting
  refine ⟨h.total, h.enabled, ?_, ?_⟩
  · show shared.progress.completed + 1 + waiting = orders
    omega
  · have before := h.numbers
    show (shared.reported ++ if owesNext shared.progress then _ else _).Perm
      (if report then dueUpTo orders (shared.progress.completed + 1) else [])
    rw [owesNext, h.enabled, h.total]
    cases report with
    | false => exact before
    | true =>
      rw [if_pos rfl] at before ⊢
      rw [Bool.true_and, dueUpTo_succ]
      split_ifs with due
      · rw [← List.append_assoc]
        exact before.append_right _
      · rwa [List.append_nil]

theorem Accounts.afterReport (h : shared.Accounts orders report) {position found : ℕ}
    (made : shared.step (.report position found) = some later) : later.Accounts orders report := by
  obtain ⟨number, owed, rfl⟩ := step_eq_some_iff_report.1 made
  refine ⟨h.total, h.enabled, h.waiting, .trans ?_ h.numbers⟩
  -- The number moves from the owed ones to the reported ones.
  obtain ⟨inside, rfl⟩ := List.getElem?_eq_some_iff.1 owed
  have moved := (List.getElem_cons_eraseIdx_perm inside).append_left shared.reported
  have reported : (withReport shared.progress shared.owed[position] found).reports.map
      Report.completed = shared.reported ++ [shared.owed[position]] := List.map_append
  rw [SharedProgress.reported, reported, List.append_assoc]
  exact moved

/-- **Every step keeps the account.** -/
theorem Accounts.step (h : shared.Accounts orders report) {next : Step}
    (stepped : shared.step next = some later) : later.Accounts orders report := by
  cases next with
  | take => exact h.afterTake stepped
  | report position found => exact h.afterReport stepped

/-- **Every run keeps the account.** -/
theorem Accounts.run (h : shared.Accounts orders report) {steps : List Step}
    (ran : shared.run steps = some later) : later.Accounts orders report := by
  induction steps generalizing shared with
  | nil => exact Option.some.inj ran ▸ h
  | cons next steps ih =>
    obtain ⟨middle, stepped, rest⟩ := Option.bind_eq_some_iff.1 ran
    exact ih (h.step stepped) rest

/-- When everything is done, the due numbers have been reported. -/
theorem Accounts.reported_perm (h : shared.Accounts orders report) (finished : shared.Finished) :
    shared.reported.Perm (if report then dueUpTo orders orders else []) := by
  have numbers := h.numbers
  have completed : shared.progress.completed = orders := by
    rw [← h.waiting, finished.1, Nat.add_zero]
  rwa [completed, finished.2, List.append_nil] at numbers

/-! ## Workers one after another -/

theorem run_append (shared : SharedProgress) (steps more : List Step) :
    shared.run (steps ++ more) = (shared.run steps).bind fun later => later.run more := by
  induction steps generalizing shared with
  | nil => rfl
  | cons next steps ih => simp only [List.cons_append, run, ih, Option.bind_assoc]

/-- **Orders that are marked one after another** are a finished run. -/
theorem exists_run_foldl_orderCompleted (progress : Progress) (founds : List ℕ) :
    ∃ steps, (⟨progress, founds.length, []⟩ : SharedProgress).run steps =
      some ⟨founds.foldl .orderCompleted progress, 0, []⟩ := by
  induction founds generalizing progress with
  | nil => exact ⟨[], rfl⟩
  | cons found founds ih =>
    obtain ⟨steps, ran⟩ := ih (progress.orderCompleted found)
    refine ⟨(.take :: if owesNext progress then [.report 0 found] else []) ++ steps, ?_⟩
    rw [run_append, List.length_cons, run_undisturbed progress founds.length found]
    exact ran

end SharedProgress

/-! ## Reports of a sweep -/

open JoinTree

variable {conditions : ConditionSet} {n : ℕ}

/-- The number of free pairs whose order is among the first ones. -/
def freePairsUpTo (conditions : ConditionSet) (n k : ℕ) : ℕ :=
  ((leafOrders n).take k ×ˢ templates n).countP (isFreePair conditions)

/-- The more orders, the more free pairs. -/
theorem freePairsUpTo_mono (conditions : ConditionSet) (n : ℕ) :
    Monotone (freePairsUpTo conditions n) := by
  intro k l le
  have orders : ((leafOrders n).take k).Sublist ((leafOrders n).take l) :=
    (List.take_prefix_take_left le).sublist
  exact List.Sublist.countP_le (orders.flatMap _)

theorem freePairsUpTo_length (conditions : ConditionSet) (n : ℕ) :
    freePairsUpTo conditions n (leafOrders n).length = freePairCount conditions n := by
  rw [freePairsUpTo, List.take_length, freePairCount]

/-- The free pairs of the first orders make the free plans of the first rounds. -/
theorem freePairsUpTo_eq_countP (conditions : ConditionSet) (n k : ℕ) :
    freePairsUpTo conditions n k =
      (((leafOrders n).map (Sweep.round n)).take k).flatten.countP
        (CrossProductFree conditions) := by
  rw [← List.map_take, Sweep.flatten_map_round, List.countP_map, freePairsUpTo]
  refine List.countP_congr fun pair member => ?_
  have among : pair ∈ leafOrders n ×ˢ templates n :=
    List.mem_product.2 ((List.mem_product.1 member).imp_left List.mem_of_mem_take)
  rw [isFreePair_iff among, Function.comp_apply, decide_eq_true_iff]

/-- The pairs of the first members of a list are the first of all pairs. -/
theorem take_product {α β : Type} (xs : List α) (ys : List β) (k : ℕ) :
    (xs ×ˢ ys).take (k * ys.length) = xs.take k ×ˢ ys := by
  induction k generalizing xs with
  | zero => rw [Nat.zero_mul, List.take_zero, List.take_zero]; rfl
  | succ k ih =>
    cases xs with
    | nil => simp
    | cons x xs =>
      have block : ys.length = (ys.map fun y => (x, y)).length := (List.length_map _).symm
      rw [List.product_cons, Nat.succ_mul, Nat.add_comm, List.take_succ_cons, List.product_cons,
        ← ih]
      conv_lhs => rw [block]
      rw [List.take_length_add_append, List.length_map]

/-- **Workers that have finished the first orders** and have counted nothing else have found the
free pairs of these orders, in whatever order they have worked. -/
theorem found_of_orders {graph : JoinGraph} (two : 2 ≤ graph.size) {schedule : List ℕ}
    {trace : List (ℕ × Action)} {shop : Workshop}
    (ran : (Workshop.start graph.conditions graph.pairs).run schedule = some (trace, shop)) {k : ℕ}
    (front : ∀ job ∈ shop.jobs.take (k * (templates graph.size).length),
      job.step shop.memo = none)
    (others : ∀ job ∈ shop.jobs.drop (k * (templates graph.size).length), job.isCounted = false) :
    shop.found = freePairsUpTo graph.conditions graph.size k := by
  rw [(graph.valid_start.run ran).1.found_of_front front others, JoinGraph.evaluated,
    ← List.map_take, JoinGraph.pairs_of_two_le two, take_product, freePairsUpTo_eq_countP,
    ← List.map_take, Sweep.flatten_map_round]

namespace Sweep

/-- What some rounds have found. -/
theorem found_foldl_afterRound (conditions : ConditionSet) (orders : ℕ) (report : Bool)
    (rounds : List (List JoinTree)) :
    (rounds.foldl (afterRound conditions) (.start orders report)).found =
      rounds.flatten.countP (CrossProductFree conditions) := by
  have start : (Sweep.start orders report).Agrees (.start 0 false) := ⟨rfl, rfl⟩
  rw [(start.foldl_afterRound rounds).found]
  exact (records_foldl_afterTree conditions rounds.flatten).2

/-- **The reports of some rounds**: each says what was found in the rounds before it. -/
theorem reports_foldl_afterRound (conditions : ConditionSet) (orders : ℕ)
    (rounds : List (List JoinTree)) :
    (rounds.foldl (afterRound conditions) (.start orders true)).progress.reports =
      (Progress.dueUpTo orders rounds.length).map fun k =>
        ⟨k, orders, (rounds.take k).flatten.countP (CrossProductFree conditions)⟩ := by
  induction rounds using List.reverseRecOn with
  | nil => rfl
  | append_singleton rounds round ih =>
    -- The earlier reports stay as they are, since the new round is behind them.
    have earlier : ∀ k ∈ Progress.dueUpTo orders rounds.length,
        (rounds ++ [round]).take k = rounds.take k := fun k due =>
      List.take_append_of_le_length (Progress.mem_dueUpTo.1 due).2.1
    have all : (rounds ++ [round]).take (rounds.length + 1) = rounds ++ [round] :=
      List.take_of_length_le List.length_append.le
    have start : (Sweep.start orders true).progress.Done orders true 0 := Progress.done_start _ _
    have before := done_foldl_afterRound conditions start rounds
    have checked : (round.foldl (afterTree conditions)
        (rounds.foldl (afterRound conditions) (.start orders true))).progress.Done orders true
          rounds.length := by
      rwa [progress_foldl_afterTree, ← Nat.zero_add rounds.length]
    have found := found_foldl_afterRound conditions orders true (rounds ++ [round])
    rw [List.foldl_append, List.foldl_cons, List.foldl_nil, afterRound, finishOrder] at found ⊢
    show (Progress.orderCompleted _ _).reports = _
    rw [checked.reports_orderCompleted, found, progress_foldl_afterTree, ih, List.length_append,
      List.length_singleton, Progress.dueUpTo_succ, List.map_append]
    congr 1
    · exact List.map_congr_left fun k due => by rw [earlier k due]
    · split_ifs
      · rw [List.map_singleton, all]
      · rfl

end Sweep

/-! ## Reports of a count -/

/-- The report that an event makes. -/
def Event.report? : Event → Option Report
  | progress finished total found => some ⟨finished, total, found⟩
  | _ => none

/-- The reports among the events of a run, in their order. -/
def CountRun.reports (run : CountRun) : List Report := run.events.filterMap Event.report?

/-- No event at the start is a report. -/
theorem filterMap_openingEvents (inputs orders templates : ℕ) :
    (openingEvents inputs orders templates).filterMap Event.report? = [] := by
  rw [openingEvents]
  split_ifs <;> rfl

/-- The reports of a sweep are among its events. -/
theorem Sweep.filterMap_events (sweep : Sweep) (inputs : ℕ) :
    (sweep.events inputs).filterMap Event.report? = sweep.progress.reports := by
  have report : (Event.report? ∘ fun r : Report => Event.progress r.completed r.total r.found) =
      some := rfl
  rw [Sweep.events, List.filterMap_append, List.filterMap_map, report, List.filterMap_some]
  exact List.append_nil _

namespace JoinGraph

variable {graph : JoinGraph} {settings : Settings} {statistics : Statistics}

/-- The reports on the orders of a graph: each says how many free pairs there are so far. -/
def dueReports (graph : JoinGraph) : List Report :=
  (Progress.dueUpTo (leafOrders graph.size).length (leafOrders graph.size).length).map fun k =>
    ⟨k, (leafOrders graph.size).length, freePairsUpTo graph.conditions graph.size k⟩

/-- The reports of the sweep over the search space of a graph. -/
theorem reports_sweep (graph : JoinGraph) (report : Bool) :
    (graph.sweep report).progress.reports = if report then graph.dueReports else [] := by
  cases report with
  | false =>
    have start : (Sweep.start (leafOrders graph.size).length false).progress.Done
        (leafOrders graph.size).length false 0 := Progress.done_start _ _
    exact List.map_eq_nil_iff.1 (Sweep.done_foldl_afterRound graph.conditions start _).reports
  | true =>
    rw [sweep, Sweep.reports_foldl_afterRound, List.length_map, if_pos rfl, dueReports]
    simp only [freePairsUpTo_eq_countP]

/-- **The reports of a count** that returns. -/
theorem reports_countRun (counted : graph.statistics settings = .ok statistics) :
    (graph.countRun settings).reports =
      if 2 ≤ graph.size ∧ settings.logProgress = true then graph.dueReports else [] := by
  by_cases two : 2 ≤ graph.size
  · rw [JoinGraph.statistics] at counted
    rw [CountRun.reports]
    rw [countRun_of_two_le two] at counted ⊢
    cases sizes : searchSpacePairs settings.verifySearchSpace graph.size
      (leafOrders graph.size).length (templates graph.size).length with
    | error failure =>
      rw [sizes] at counted
      cases counted
    | ok pairs =>
      dsimp only
      rw [List.filterMap_append, Sweep.filterMap_events, List.filterMap_append,
        filterMap_openingEvents, reports_sweep]
      simp [two, Event.report?]
  · rw [if_neg fun both => two both.1, CountRun.reports, countRun]
    dsimp only
    rw [if_pos (by omega)]
    rfl

/-- The reports of a count follow its orders to the end. -/
structure FollowsOrders (graph : JoinGraph) (statistics : Statistics) (reports : List Report) :
    Prop where
  /-- Every report says how many orders there are. -/
  total : ∀ report ∈ reports, report.total = (leafOrders graph.size).length
  /-- Every report says how many free pairs there are among the orders done. -/
  found : ∀ report ∈ reports,
    report.found = freePairsUpTo graph.conditions graph.size report.completed
  /-- There are more and more orders done. -/
  completed : (reports.map Report.completed).Pairwise (· < ·)
  /-- What was found never decreases. -/
  ascending : (reports.map Report.found).Pairwise (· ≤ ·)
  /-- What was found in the end is the count. -/
  last : ∀ report ∈ reports.getLast?, report.found = statistics.crossProductFree
  /-- The statistics give the number of reports. -/
  length : statistics.progressReports = reports.length

theorem completed_dueReports (graph : JoinGraph) :
    graph.dueReports.map Report.completed =
      Progress.dueUpTo (leafOrders graph.size).length (leafOrders graph.size).length := by
  rw [dueReports, List.map_map]
  exact List.map_id _

/-- **The reports that are due follow the orders.** -/
theorem followsOrders_dueReports (two : 2 ≤ graph.size) (report : settings.logProgress = true)
    (counted : graph.statistics settings = .ok statistics) :
    graph.FollowsOrders statistics graph.dueReports := by
  obtain rfl := eq_figures_of_statistics two counted
  have due := Progress.pairwise_dueUpTo (leafOrders graph.size).length
    (leafOrders graph.size).length
  refine ⟨?_, ?_, ?_, ?_, ?_, ?_⟩
  · exact List.forall_mem_map.2 fun _ _ => rfl
  · exact List.forall_mem_map.2 fun _ _ => rfl
  · rwa [completed_dueReports]
  · rw [dueReports, List.map_map, List.pairwise_map]
    exact due.imp fun less => freePairsUpTo_mono _ _ less.le
  · intro last member
    rw [dueReports, List.getLast?_map,
      Progress.getLast?_dueUpTo (length_leafOrders_pos _)] at member
    obtain rfl := Option.some.inj member
    exact (freePairsUpTo_length _ _).trans (freePairCount_eq_planCount _ _)
  · rw [dueReports, List.length_map, figures, if_pos report]

/-- Without any report there is nothing to follow. -/
theorem followsOrders_nil (h : ¬ (2 ≤ graph.size ∧ settings.logProgress = true))
    (counted : graph.statistics settings = .ok statistics) :
    graph.FollowsOrders statistics [] := by
  refine ⟨by simp, by simp, .nil, .nil, by simp, ?_⟩
  by_cases two : 2 ≤ graph.size
  · obtain rfl := eq_figures_of_statistics two counted
    exact if_neg fun report => h ⟨two, report⟩
  · rw [statistics_of_size_le_one (by omega)] at counted
    rw [← Except.ok.inj counted]
    rfl

end JoinGraph

/-! ## Reports of a run -/

/-- The numbers at which reports on so many orders are made. -/
structure CoversEvenly (total : ℕ) (numbers : List ℕ) : Prop where
  /-- No number is reported twice. -/
  nodup : numbers.Nodup
  /-- The multiples of the interval are reported, and the end. -/
  mem_iff : ∀ k, k ∈ numbers ↔ 0 < k ∧ k ≤ total ∧ (max 1 (total ⌈/⌉ 10) ∣ k ∨ k = total)
  /-- There is a report for each interval. -/
  length : numbers.length = total ⌈/⌉ max 1 (total ⌈/⌉ 10)
  /-- There is a report. -/
  pos : 1 ≤ numbers.length
  /-- There are at most ten reports. -/
  le_ten : numbers.length ≤ 10
  /-- There are ten reports if the orders can be parted evenly. -/
  eq_ten : 10 ∣ total → numbers.length = 10

theorem coversEvenly_of_perm {total : ℕ} (pos : 1 ≤ total) {numbers : List ℕ}
    (h : numbers.Perm (Progress.dueUpTo total total)) : CoversEvenly total numbers where
  nodup := h.nodup_iff.2 ((Progress.pairwise_dueUpTo total total).imp Nat.ne_of_lt)
  mem_iff k := by rw [h.mem_iff, Progress.mem_dueUpTo, Progress.interval_eq]
  length := by rw [h.length_eq, Progress.length_dueUpTo pos, Progress.interval_eq]
  pos := h.length_eq ▸ Progress.length_dueUpTo_pos pos
  le_ten := h.length_eq ▸ Progress.length_dueUpTo_le pos
  eq_ten even := h.length_eq.trans (Progress.length_dueUpTo_eq pos even)

/-- **Reports cover a run exactly.**  When workers have marked all orders as done, in whatever way
their steps interleave, they have reported the multiples of the tenth part of the orders and their
number, each of these once, or nothing at all if no reports are made.  A worker alone that marks one
order after the other takes such steps.  Five or more tables have ten reports.

A count works through its orders one after the other.  If it makes reports, they cover its orders;
each report gives the number of free pairs among the orders done so far, which never decreases and
in the end is the count.  Workers that share out the templates of an order stand at this number too,
when the first orders are finished and nothing else has been counted. -/
theorem reports_cover_run :
    (∀ (total : ℕ) (enabled : Bool), 1 ≤ total →
      (∀ steps shared, (SharedProgress.start total enabled).run steps = some shared →
        shared.Finished →
        (enabled = true → CoversEvenly total (shared.progress.reports.map Report.completed)) ∧
        (enabled = false → shared.progress.reports = [])) ∧
      ∀ founds : List ℕ, founds.length = total →
        ∃ steps shared, (SharedProgress.start total enabled).run steps = some shared ∧
          shared.Finished ∧
          shared.progress = founds.foldl .orderCompleted (.start total enabled)) ∧
    (∀ n, 5 ≤ n → 10 ∣ (leafOrders n).length) ∧
    (∀ (graph : JoinGraph) (settings : Settings) (statistics : Statistics),
      graph.statistics settings = .ok statistics →
      graph.FollowsOrders statistics (graph.countRun settings).reports ∧
      if 2 ≤ graph.size ∧ settings.logProgress = true then
        CoversEvenly (leafOrders graph.size).length
          ((graph.countRun settings).reports.map Report.completed)
      else (graph.countRun settings).reports = []) ∧
    ∀ (graph : JoinGraph) (schedule : List ℕ) (trace : List (ℕ × Action)) (shop : Workshop) (k : ℕ),
      2 ≤ graph.size →
      (Workshop.start graph.conditions graph.pairs).run schedule = some (trace, shop) →
      (∀ job ∈ shop.jobs.take (k * (templates graph.size).length), job.step shop.memo = none) →
      (∀ job ∈ shop.jobs.drop (k * (templates graph.size).length), job.isCounted = false) →
      shop.found = freePairsUpTo graph.conditions graph.size k := by
  refine ⟨?_, ?_, ?_, ?_⟩
  · intro total enabled pos
    refine ⟨?_, ?_⟩
    · intro steps shared ran finished
      have reported :=
        ((SharedProgress.accounts_start total enabled).run ran).reported_perm finished
      refine ⟨?_, ?_⟩
      · rintro rfl
        exact coversEvenly_of_perm pos reported
      · rintro rfl
        exact List.map_eq_nil_iff.1 reported.eq_nil
    · rintro founds rfl
      obtain ⟨steps, ran⟩ := SharedProgress.exists_run_foldl_orderCompleted
        (.start founds.length enabled) founds
      exact ⟨steps, _, ran, ⟨rfl, rfl⟩, rfl⟩
  · intro n five
    rw [length_leafOrders_eq_factorial]
    exact (show 10 ∣ (5).factorial by decide).trans (Nat.factorial_dvd_factorial five)
  · intro graph settings statistics counted
    rw [JoinGraph.reports_countRun counted]
    split_ifs with reported
    · refine ⟨JoinGraph.followsOrders_dueReports reported.1 reported.2 counted, ?_⟩
      rw [JoinGraph.completed_dueReports]
      exact coversEvenly_of_perm (length_leafOrders_pos _) (.refl _)
    · exact ⟨JoinGraph.followsOrders_nil reported counted, rfl⟩
  · intro graph schedule trace shop k two ran front others
    exact found_of_orders two ran front others

/-- Eleven orders that are all taken before the first report is made, and two linked tables with a
report on each of their two orders, the first of which is made when one of two jobs has been carried
out. -/
theorem reports_cover_run_eleven_orders :
    ∃ (shared : SharedProgress) (graph : JoinGraph) (statistics : Statistics)
        (trace : List (ℕ × Action)) (shop : Workshop),
      (SharedProgress.start 11 true).run
        (.replicate 11 .take ++ .report 5 9 :: .replicate 5 (.report 0 7)) = some shared ∧
      shared.progress.reports.map Report.completed = [11, 2, 4, 6, 8, 10] ∧
      CoversEvenly 11 (shared.progress.reports.map Report.completed) ∧
      JoinGraph.empty.registerAll [.condition "A" "B"] = (graph, none) ∧
      graph.statistics .standard = .ok statistics ∧
      (graph.countRun .standard).reports = [⟨1, 2, 1⟩, ⟨2, 2, 2⟩] ∧
      graph.FollowsOrders statistics (graph.countRun .standard).reports ∧
      CoversEvenly 2 ((graph.countRun .standard).reports.map Report.completed) ∧
      (Workshop.start graph.conditions graph.pairs).run (.replicate 7 0) = some (trace, shop) ∧
      shop.found = freePairsUpTo graph.conditions 2 1 := by
  obtain ⟨workers, -, counts, shops⟩ := reports_cover_run
  obtain ⟨follows, covers⟩ := counts (JoinGraph.empty.registerAll [.condition "A" "B"]).1 .standard
    _ rfl
  have eleven := (workers 11 true (by decide)).1
    (.replicate 11 .take ++ .report 5 9 :: .replicate 5 (.report 0 7)) _ rfl ⟨rfl, rfl⟩
  obtain ⟨⟨trace, shop⟩, ran, front, others⟩ : ∃ run : List (ℕ × Action) × Workshop,
      (Workshop.start (JoinGraph.empty.registerAll [.condition "A" "B"]).1.conditions
        (JoinGraph.empty.registerAll [.condition "A" "B"]).1.pairs).run (.replicate 7 0) =
          some run ∧
      (∀ job ∈ run.2.jobs.take (1 * (templates 2).length), job.step run.2.memo = none) ∧
      ∀ job ∈ run.2.jobs.drop (1 * (templates 2).length), job.isCounted = false :=
    ⟨_, rfl, by decide, by decide⟩
  exact ⟨_, _, _, trace, shop, rfl, rfl, eleven.1 rfl, rfl, rfl, rfl, follows, covers, ran,
    shops _ _ _ _ 1 (Nat.le_refl 2) ran front others⟩

end JoinOrder
