/-
# What a Count Counts

A sweep works through the pairs of orders and templates with one memo for all of them.  After any
number of pairs the memo is sound and the count is that of the free pairs so far; hence a finished
count is the number of free plans, which the subset recurrence gives.

Main statements: a sweep as a loop from sweep to sweep (`Sweep.checkAll_eq`), one pair
(`counts_checkPair`), a whole sweep (`exists_checkAll_eq_ok`), and the count of a graph
(`eq_planCount_of_count`, `lt_wordBound_of_count`, `count_follows_recurrence`).
-/
import JoinOrder.Enumeration.Count
import JoinOrder.Proofs.Counting.Pair

namespace JoinOrder

open JoinTree

/-! ## Loops that may fail -/

/-- If every step of a loop succeeds and extends what has been done, then the loop succeeds and has
done all of it. -/
theorem exists_foldlM_eq_ok {σ α β ε : Type} {step : σ → α → Except ε σ}
    {P : List β → σ → Prop} {g : α → List β} {xs : List α}
    (h : ∀ x ∈ xs, ∀ before s, P before s →
      ∃ later, step s x = .ok later ∧ P (before ++ g x) later)
    {before : List β} {s : σ} (start : P before s) :
    ∃ later, xs.foldlM step s = .ok later ∧ P (before ++ xs.flatMap g) later := by
  induction xs generalizing before s with
  | nil => exact ⟨s, rfl, by simpa using start⟩
  | cons x xs ih =>
    obtain ⟨next, stepped, donext⟩ := h x List.mem_cons_self before s start
    obtain ⟨later, rest, dolater⟩ := ih (fun y hy => h y (List.mem_cons_of_mem x hy)) donext
    refine ⟨later, ?_, ?_⟩
    · rw [List.foldlM_cons, stepped]
      exact rest
    · rwa [List.flatMap_cons, ← List.append_assoc]

/-! ## Sweeps as loops -/

namespace Sweep

variable (conditions : ConditionSet) (sweep : Sweep)

/-- The second part of some work starts where the first one has led. -/
theorem after_bind (work more : Work Unit) :
    sweep.after (work >>= fun _ => more) = sweep.after work >>= fun later => later.after more := by
  simp only [after, StateT.run_bind, bind_assoc, pure_bind]

/-- Work on one thing after another goes from sweep to sweep. -/
theorem after_forM {α : Type} (work : α → Work Unit) (xs : List α) :
    sweep.after (xs.forM work) = xs.foldlM (fun sweep x => sweep.after (work x)) sweep := by
  induction xs generalizing sweep with
  | nil => rfl
  | cons x xs ih =>
    show sweep.after (work x >>= fun _ => xs.forM work) = _
    rw [after_bind, List.foldlM_cons]
    exact bind_congr fun later => ih later

/-- A pair is checked by checking its tree. -/
theorem checkPair_eq (order : List ℕ) (template : JoinTree) :
    sweep.checkPair conditions order template =
      template.instantiate order >>= sweep.checkTree conditions := by
  rw [checkPair, after, Evaluator.evaluatePair]
  cases template.instantiate order with
  | error e => rfl
  | ok tree =>
    show sweep.after ((evaluator conditions).check tree) = sweep.checkTree conditions tree
    rw [after]
    show (sweep.checkTree conditions tree >>= fun later => pure ((), later)) >>= _ = _
    rw [bind_assoc]
    exact bind_pure _

/-- An order is checked by checking its pairs, and is then marked as done. -/
theorem checkOrder_eq (templates : List JoinTree) (order : List ℕ) :
    sweep.checkOrder conditions templates order =
      finishOrder <$> templates.foldlM (checkPair conditions order) sweep := by
  rw [checkOrder, Evaluator.evaluateOrder, after_bind, after_forM]
  exact bind_pure_comp _ _

/-- The orders are checked one after another. -/
theorem checkAll_eq (orders : List (List ℕ)) (templates : List JoinTree) (report : Bool) :
    checkAll conditions orders templates report =
      orders.foldlM (checkOrder conditions templates) (start orders.length report) :=
  after_forM _ _ _

end Sweep

/-! ## Counted pairs -/

/-- The sweep has checked these pairs: its memo is sound, and it has found the free pairs among
them. -/
structure Sweep.Counts (conditions : ConditionSet) (pairs : List (List ℕ × JoinTree))
    (sweep : Sweep) : Prop where
  /-- The memo is sound. -/
  sound : sweep.memo.Sound conditions
  /-- The free pairs have been counted. -/
  found : sweep.found = pairs.countP (isFreePair conditions)

variable {conditions : ConditionSet} {n : ℕ} {pairs : List (List ℕ × JoinTree)} {sweep : Sweep}

/-- **Checking a pair succeeds and counts it.** -/
theorem counts_checkPair (counts : sweep.Counts conditions pairs) {order : List ℕ}
    {template : JoinTree} (ho : order ∈ leafOrders n) (ht : template ∈ templates n) :
    ∃ later, sweep.checkPair conditions order template = .ok later ∧
      later.Counts conditions (pairs ++ [(order, template)]) := by
  obtain ⟨value, sound⟩ := yields_checkCrossProducts (planOf (order, template)) sweep.memo
    counts.sound
  have member : (order, template) ∈ leafOrders n ×ˢ templates n := List.mem_product.2 ⟨ho, ht⟩
  rw [Sweep.checkPair_eq, instantiate_of_mem ht ho]
  show ∃ later, sweep.checkTree conditions (planOf (order, template)) = .ok later ∧ _
  -- The walk never fails, and its verdict is right since the memo is sound.
  rw [Sweep.checkTree, askCrossProductFree_eq_lift, run_lift]
  refine ⟨_, rfl, sound, ?_⟩
  show (if _ then sweep.found + 1 else sweep.found) = _
  rw [value, List.countP_append, counts.found, List.countP_singleton]
  by_cases free : (planOf (order, template)).CrossProductFree conditions
  · rw [if_pos (decide_eq_true free), if_pos ((isFreePair_iff member).2 free)]
  · rw [if_neg (by simpa using free), if_neg fun h => free ((isFreePair_iff member).1 h),
      Nat.add_zero]

/-- Checking an order with every template succeeds and counts these pairs. -/
theorem counts_checkOrder (counts : sweep.Counts conditions pairs) {order : List ℕ}
    (ho : order ∈ leafOrders n) :
    ∃ later, sweep.checkOrder conditions (templates n) order = .ok later ∧
      later.Counts conditions (pairs ++ (templates n).map (order, ·)) := by
  obtain ⟨later, checked, counted⟩ := exists_foldlM_eq_ok
    (P := Sweep.Counts conditions) (g := fun template => [(order, template)])
    (fun template ht before s counts => counts_checkPair counts ho ht) counts
  rw [Sweep.checkOrder_eq, checked]
  refine ⟨later.finishOrder, rfl, counted.sound, ?_⟩
  rw [← List.map_eq_flatMap] at counted
  exact counted.found

/-- **A sweep over the whole search space succeeds and counts all free pairs.** -/
theorem exists_checkAll_eq_ok (conditions : ConditionSet) (n : ℕ) (report : Bool) :
    ∃ sweep, Sweep.checkAll conditions (leafOrders n) (templates n) report = .ok sweep ∧
      sweep.found = freePairCount conditions n := by
  have start : (Sweep.start (leafOrders n).length report).Counts conditions [] :=
    ⟨Memo.sound_empty conditions, rfl⟩
  obtain ⟨sweep, checked, counted⟩ := exists_foldlM_eq_ok
    (P := Sweep.Counts conditions) (g := fun order => (templates n).map (order, ·))
    (fun order ho before s counts => counts_checkOrder counts ho) start
  exact ⟨sweep, (Sweep.checkAll_eq conditions _ _ report).trans checked, counted.found⟩

/-! ## Counts -/

variable {graph : JoinGraph} {settings : Settings}

/-- At most one table needs no check. -/
theorem statistics_of_size_le_one (h : graph.size ≤ 1) :
    graph.statistics settings = .ok (.trivial graph.size) := by
  rw [JoinGraph.statistics, JoinGraph.countRun]
  dsimp only
  rw [if_pos h]

/-- The count of at most one table is the number of tables. -/
theorem count_of_size_le_one (h : graph.size ≤ 1) : graph.count settings = .ok graph.size := by
  rw [JoinGraph.count, statistics_of_size_le_one h]
  rfl

/-- With more tables, the count is the number of free pairs unless the sizes are refused. -/
theorem count_of_two_le_size (h : 2 ≤ graph.size) :
    graph.count settings =
      (searchSpacePairs settings.verifySearchSpace graph.size (leafOrders graph.size).length
        (templates graph.size).length).map
        fun _ => freePairCount graph.conditions graph.size := by
  obtain ⟨sweep, checked, found⟩ :=
    exists_checkAll_eq_ok graph.conditions graph.size settings.logProgress
  rw [JoinGraph.count, JoinGraph.statistics, JoinGraph.countRun]
  dsimp only
  rw [if_neg (by omega)]
  cases searchSpacePairs settings.verifySearchSpace graph.size (leafOrders graph.size).length
    (templates graph.size).length with
  | error failure => rfl
  | ok pairs =>
    simp only [checked]
    show Except.ok sweep.found = _
    rw [found]
    rfl

/-- The size of a search space that is not refused is the product of its sides, which fits a
word. -/
theorem eq_mul_of_searchSpacePairs {verify : Bool} {inputs orders templates pairs : ℕ}
    (h : searchSpacePairs verify inputs orders templates = .ok pairs) :
    pairs = orders * templates ∧ orders * templates < wordBound := by
  -- Whatever is verified before, the product is formed last.
  obtain ⟨before, last⟩ : ∃ before : Except Failure Unit,
      searchSpacePairs verify inputs orders templates =
        before >>= fun _ => checked (multiply wordBound orders templates) := by
    cases verify with
    | false => exact ⟨pure (), rfl⟩
    | true => exact ⟨_, (bind_assoc (verifySize "leaf orders" (factorial inputs) orders) _ _).symm⟩
  rw [last] at h
  cases before with
  | error failure => cases h
  | ok _ =>
    cases product : multiply wordBound orders templates with
    | error overflow =>
      simp only [product] at h
      cases h
    | ok value =>
      simp only [product] at h
      obtain rfl : value = pairs := Except.ok.inj h
      exact multiply_eq_ok_iff.1 product

/-- What a count of at least two tables returns is the number of free pairs, and the search space
fits a word. -/
theorem eq_freePairCount_of_count {c : ℕ} (h : 2 ≤ graph.size)
    (counted : graph.count settings = .ok c) :
    c = freePairCount graph.conditions graph.size ∧
      (leafOrders graph.size).length * (templates graph.size).length < wordBound := by
  rw [count_of_two_le_size h] at counted
  cases sizes : searchSpacePairs settings.verifySearchSpace graph.size
    (leafOrders graph.size).length (templates graph.size).length with
  | error failure =>
    rw [sizes] at counted
    cases counted
  | ok pairs =>
    rw [sizes] at counted
    exact ⟨(Except.ok.inj counted).symm, (eq_mul_of_searchSpacePairs sizes).2⟩

/-- **A count is what the recurrence gives for all tables.** -/
theorem eq_planCount_of_count {c : ℕ} (counted : graph.count settings = .ok c) :
    c = planCount graph.conditions (Finset.range graph.size) := by
  by_cases h : 2 ≤ graph.size
  · rw [(eq_freePairCount_of_count h counted).1, freePairCount_eq_planCount]
  · have small : graph.size ≤ 1 := by omega
    rw [count_of_size_le_one small] at counted
    rw [planCount_of_card_le_one (by rwa [Finset.card_range]), Finset.card_range]
    exact (Except.ok.inj counted).symm

/-- **A count fits a word.** -/
theorem lt_wordBound_of_count {c : ℕ} (counted : graph.count settings = .ok c) :
    c < wordBound := by
  by_cases h : 2 ≤ graph.size
  · obtain ⟨rfl, fits⟩ := eq_freePairCount_of_count h counted
    have most := List.countP_le_length (p := isFreePair graph.conditions)
      (l := leafOrders graph.size ×ˢ templates graph.size)
    rw [List.length_product] at most
    exact Nat.lt_of_le_of_lt most fits
  · have small : graph.size ≤ 1 := by omega
    rw [count_of_size_le_one small] at counted
    rw [← Except.ok.inj counted]
    exact Nat.lt_of_le_of_lt small (by decide)

/-- **Counting follows the subset recurrence**: one tree for a single table, the sum over the linked
ordered cuts for more tables, and at the set of all tables both the number of free pairs and every
count that returns. -/
theorem count_follows_recurrence (graph : JoinGraph) :
    (∀ table, planCount graph.conditions {table} = 1) ∧
    (∀ s : Finset ℕ, 2 ≤ s.card →
      planCount graph.conditions s = ∑ p ∈ splits s with graph.conditions.Crosses p.1 p.2,
        planCount graph.conditions p.1 * planCount graph.conditions p.2) ∧
    freePairCount graph.conditions graph.size =
      planCount graph.conditions (Finset.range graph.size) ∧
    (∀ settings c, graph.count settings = .ok c →
      c = planCount graph.conditions (Finset.range graph.size)) ∧
    (graph.size = 0 → ∀ settings, graph.count settings = .ok 0) := by
  refine ⟨planCount_singleton, fun s h => planCount_eq_sum h, freePairCount_eq_planCount _ _,
    fun settings c counted => eq_planCount_of_count counted, ?_⟩
  intro none settings
  rw [count_of_size_le_one (by omega), none]

/-- Three tables in a row have eight trees, and no table has none. -/
theorem count_follows_recurrence_three_in_a_row :
    ∃ graph : JoinGraph,
      (JoinGraph.empty.registerAll [.condition "A" "B", .condition "B" "C"]).1 = graph ∧
      graph.count .standard = .ok 8 ∧
      planCount graph.conditions (Finset.range 3) = 8 ∧
      planCount graph.conditions {0, 1} =
        (∑ p ∈ splits {0, 1} with graph.conditions.Crosses p.1 p.2,
          planCount graph.conditions p.1 * planCount graph.conditions p.2) ∧
      JoinGraph.empty.count .standard = .ok 0 := by
  have counted : (JoinGraph.empty.registerAll
      [.condition "A" "B", .condition "B" "C"]).1.count .standard = .ok 8 := by decide +kernel
  refine ⟨_, rfl, counted, ?_, ?_, ?_⟩
  · exact ((count_follows_recurrence _).2.2.2.1 .standard 8 counted).symm
  · exact (count_follows_recurrence _).2.1 {0, 1} (by decide)
  · exact (count_follows_recurrence JoinGraph.empty).2.2.2.2 rfl .standard

end JoinOrder
