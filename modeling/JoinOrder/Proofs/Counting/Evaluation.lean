/-
# What a Count Evaluates

A count of at least two tables evaluates the trees of all pairs of a leaf order and a template, one
after another.  Every plan of the tables is among them exactly once.  Checking a tree never fails,
so a sweep is a plain fold over the trees, and the reports on the way leave its memo and its count
alone.

Main statements: a sweep as a fold over its trees (`checkAll_eq_ok`, `Agrees.foldl_afterRound`), the
trees that any evaluator of the search space is given (`run_recorded_evaluateAll`), the sweep of a
count agrees with checking the evaluated trees (`agrees_evaluated`, `areOf_evaluated`), and the
search space without loss and repetition (`search_space_exact`).
-/
import JoinOrder.Proofs.Counting.Sweep

namespace JoinOrder

open JoinTree

/-! ## Checking trees -/

/-- A loop whose steps all succeed is a fold. -/
theorem foldlM_eq_ok {σ α ε : Type} {step : σ → α → Except ε σ} {f : σ → α → σ} {xs : List α}
    (h : ∀ x ∈ xs, ∀ s, step s x = .ok (f s x)) (s : σ) :
    xs.foldlM step s = .ok (xs.foldl f s) := by
  induction xs generalizing s with
  | nil => rfl
  | cons x xs ih =>
    rw [List.foldlM_cons, h x List.mem_cons_self]
    exact ih (fun y hy => h y (List.mem_cons_of_mem x hy)) _

variable {conditions : ConditionSet} {n : ℕ}

namespace Sweep

/-- The sweep after one more tree. -/
def afterTree (conditions : ConditionSet) (sweep : Sweep) (tree : JoinTree) : Sweep :=
  let (free, memo) := (tree.checkCrossProducts conditions).run sweep.memo
  { sweep with memo, found := if free then sweep.found + 1 else sweep.found }

/-- The sweep after one more order, with the trees of this order. -/
def afterRound (conditions : ConditionSet) (sweep : Sweep) (round : List JoinTree) : Sweep :=
  (round.foldl (afterTree conditions) sweep).finishOrder

/-- **Checking a tree never fails.** -/
theorem checkTree_eq_ok (tree : JoinTree) (sweep : Sweep) :
    sweep.checkTree conditions tree = .ok (sweep.afterTree conditions tree) := by
  rw [checkTree, askCrossProductFree_eq_lift, run_lift]
  rfl

/-- Checking a pair checks its plan. -/
theorem checkPair_eq_ok {order : List ℕ} {template : JoinTree} (ho : order ∈ leafOrders n)
    (ht : template ∈ templates n) (sweep : Sweep) :
    sweep.checkPair conditions order template =
      .ok (sweep.afterTree conditions (planOf (order, template))) := by
  rw [checkPair_eq, instantiate_of_mem ht ho]
  exact checkTree_eq_ok _ sweep

/-! ## Rounds -/

/-- The plans of a leaf order, one for each template. -/
def round (n : ℕ) (order : List ℕ) : List JoinTree :=
  (templates n).map fun template => planOf (order, template)

/-- The plans of one order after the other are those of the pairs. -/
theorem flatten_map_round (n : ℕ) (orders : List (List ℕ)) :
    (orders.map (round n)).flatten = (orders ×ˢ templates n).map planOf := by
  rw [← List.flatMap_def]
  show _ = List.map planOf (List.flatMap _ _)
  rw [List.map_flatMap]
  congr 1
  funext order
  rw [List.map_map]
  rfl

/-- Checking an order with every template checks its plans. -/
theorem checkOrder_eq_ok {order : List ℕ} (ho : order ∈ leafOrders n) (sweep : Sweep) :
    sweep.checkOrder conditions (templates n) order =
      .ok (sweep.afterRound conditions (round n order)) := by
  rw [checkOrder_eq, foldlM_eq_ok fun template ht sweep => checkPair_eq_ok ho ht sweep, afterRound,
    round, List.foldl_map]
  rfl

/-- **A sweep over the search space** checks the plans of one order after the other. -/
theorem checkAll_eq_ok (conditions : ConditionSet) (n : ℕ) (report : Bool) :
    checkAll conditions (leafOrders n) (templates n) report =
      .ok (((leafOrders n).map (round n)).foldl (afterRound conditions)
        (start (leafOrders n).length report)) := by
  rw [checkAll_eq, foldlM_eq_ok fun order ho sweep => checkOrder_eq_ok ho sweep, List.foldl_map]

/-! ## Reports change nothing -/

/-- Two sweeps that have looked up and found the same, whatever they have reported. -/
structure Agrees (a b : Sweep) : Prop where
  /-- The memos are the same. -/
  memo : a.memo = b.memo
  /-- The counts are the same. -/
  found : a.found = b.found

variable {a b : Sweep}

theorem Agrees.afterTree (h : a.Agrees b) (tree : JoinTree) :
    (a.afterTree conditions tree).Agrees (b.afterTree conditions tree) where
  memo := by simp only [Sweep.afterTree, h.memo]
  found := by simp only [Sweep.afterTree, h.memo, h.found]

theorem Agrees.foldl_afterTree (h : a.Agrees b) (trees : List JoinTree) :
    (trees.foldl (Sweep.afterTree conditions) a).Agrees
      (trees.foldl (Sweep.afterTree conditions) b) := by
  induction trees generalizing a b with
  | nil => exact h
  | cons tree trees ih => exact ih (h.afterTree tree)

/-- Finishing an order is a matter of reports only. -/
theorem Agrees.finishOrder (h : a.Agrees b) : a.finishOrder.Agrees b := ⟨h.memo, h.found⟩

/-- Rounds agree with checking their trees without any report. -/
theorem Agrees.foldl_afterRound (h : a.Agrees b) (rounds : List (List JoinTree)) :
    (rounds.foldl (afterRound conditions) a).Agrees
      (rounds.flatten.foldl (Sweep.afterTree conditions) b) := by
  induction rounds generalizing a b with
  | nil => exact h
  | cons round rounds ih =>
    rw [List.foldl_cons, List.flatten_cons, List.foldl_append]
    exact ih (h.foldl_afterTree round).finishOrder

end Sweep

/-! ## Recorded trees -/

namespace Evaluator

variable {m : Type → Type} [Monad m] [LawfulMonad m]

/-- If each step of a loop does what it did without the record and puts down some trees, then the
loop does what it did and puts down all of them. -/
theorem run_forM_eq {α : Type} {work : α → m Unit} {recording : α → StateT (List JoinTree) m Unit}
    {trees : α → List JoinTree} {xs : List α}
    (h : ∀ x ∈ xs, ∀ seen, (recording x).run seen = do work x; return ((), seen ++ trees x))
    (seen : List JoinTree) :
    (xs.forM recording).run seen = do xs.forM work; return ((), seen ++ xs.flatMap trees) := by
  induction xs generalizing seen with
  | nil =>
    show pure ((), seen) = (pure () >>= fun _ => pure ((), seen ++ []))
    rw [pure_bind, List.append_nil]
  | cons x xs ih =>
    have rest := ih fun y hy => h y (List.mem_cons_of_mem x hy)
    show (recording x >>= fun _ => xs.forM recording).run seen =
      (work x >>= fun _ => xs.forM work) >>= fun _ => pure ((), seen ++ (x :: xs).flatMap trees)
    simp only [StateT.run_bind, h x List.mem_cons_self, bind_assoc, pure_bind, rest,
      List.flatMap_cons, List.append_assoc]

variable [MonadLiftT (Except Error) m] (evaluator : Evaluator m)

/-- The same evaluator, which also puts down the trees that it checks. -/
def recorded : Evaluator (StateT (List JoinTree) m) where
  check tree := do
    modify (· ++ [tree])
    evaluator.check tree
  finishOrder := evaluator.finishOrder

variable [LawfulMonadLiftT (Except Error) m] {n : ℕ} {order : List ℕ} {template : JoinTree}

/-- Evaluating a pair of the search space is checking its plan. -/
theorem evaluatePair_eq_check (ho : order ∈ leafOrders n) (ht : template ∈ templates n) :
    evaluator.evaluatePair order template = evaluator.check (planOf (order, template)) := by
  have made : (liftM (template.instantiate order) : m JoinTree) =
      pure (planOf (order, template)) := by
    rw [instantiate_of_mem ht ho]
    exact liftM_pure _
  rw [evaluatePair, made, pure_bind]

/-- The plan of a pair is put down when it is checked. -/
theorem run_recorded_evaluatePair (ho : order ∈ leafOrders n) (ht : template ∈ templates n)
    (seen : List JoinTree) :
    (evaluator.recorded.evaluatePair order template).run seen = do
      evaluator.evaluatePair order template
      return ((), seen ++ [planOf (order, template)]) := by
  rw [evaluatePair_eq_check _ ho ht, evaluatePair_eq_check _ ho ht, recorded, StateT.run_bind,
    StateT.run_modify, pure_bind]
  rfl

/-- The plans of an order are put down one template after another. -/
theorem run_recorded_evaluateOrder (ho : order ∈ leafOrders n) (seen : List JoinTree) :
    (evaluator.recorded.evaluateOrder (templates n) order).run seen = do
      evaluator.evaluateOrder (templates n) order
      return ((), seen ++ Sweep.round n order) := by
  have pairs := run_forM_eq fun template ht => evaluator.run_recorded_evaluatePair ho ht
  rw [evaluateOrder, evaluateOrder, StateT.run_bind, pairs, Sweep.round, List.map_eq_flatMap,
    bind_assoc, bind_assoc]
  exact bind_congr fun _ => pure_bind _ _

/-- **The plans are checked one order after the other**, whatever a check does. -/
theorem run_recorded_evaluateAll (n : ℕ) :
    (evaluator.recorded.evaluateAll (leafOrders n) (templates n)).run [] = do
      evaluator.evaluateAll (leafOrders n) (templates n)
      return ((), ((leafOrders n).map (Sweep.round n)).flatten) := by
  rw [← List.flatMap_def]
  exact run_forM_eq (fun order ho => evaluator.run_recorded_evaluateOrder ho) []

end Evaluator

namespace Sweep

/-- Checks every order with every template, and puts down the trees that are checked. -/
def recordAll (conditions : ConditionSet) (orders : List (List ℕ)) (templates : List JoinTree)
    (report : Bool) : Except Error (Sweep × List JoinTree) := do
  let work := (evaluator conditions).recorded.evaluateAll orders templates
  let ((_, trees), sweep) ← (work.run []).run (start orders.length report)
  return (sweep, trees)

/-- **The record of a sweep** over the search space: the plans of one order after the other. -/
theorem recordAll_eq (conditions : ConditionSet) (n : ℕ) (report : Bool) :
    recordAll conditions (leafOrders n) (templates n) report =
      (checkAll conditions (leafOrders n) (templates n) report).map
        (·, ((leafOrders n).map (round n)).flatten) := by
  rw [recordAll, Evaluator.run_recorded_evaluateAll, StateT.run_bind, checkAll, after]
  cases ((evaluator conditions).evaluateAll (leafOrders n) (templates n)).run
    (start (leafOrders n).length report) <;> rfl

end Sweep

/-! ## The evaluated trees -/

namespace JoinGraph

/-- The pairs that a count evaluates, in their order; at most one table needs no evaluation. -/
def pairs (graph : JoinGraph) : List (List ℕ × JoinTree) :=
  if graph.size ≤ 1 then [] else leafOrders graph.size ×ˢ templates graph.size

/-- The trees that a count evaluates, in their order. -/
def evaluated (graph : JoinGraph) : List JoinTree := graph.pairs.map planOf

variable {graph : JoinGraph}

theorem pairs_of_two_le (h : 2 ≤ graph.size) :
    graph.pairs = leafOrders graph.size ×ˢ templates graph.size :=
  if_neg (by omega)

theorem mem_product_of_mem_pairs {pair : List ℕ × JoinTree} (h : pair ∈ graph.pairs) :
    pair ∈ leafOrders graph.size ×ˢ templates graph.size := by
  unfold pairs at h
  split at h
  · cases h
  · exact h

/-- The evaluated trees are the plans of one order after the other. -/
theorem evaluated_of_two_le (h : 2 ≤ graph.size) :
    graph.evaluated = ((leafOrders graph.size).map (Sweep.round graph.size)).flatten := by
  rw [evaluated, pairs_of_two_le h, Sweep.flatten_map_round]

/-- **The plans are evaluated, and nothing else.** -/
theorem mem_evaluated (h : 2 ≤ graph.size) {tree : JoinTree} :
    tree ∈ graph.evaluated ↔ tree.leaves.Perm (List.range graph.size) := by
  rw [evaluated, pairs_of_two_le h, List.mem_map, ← mem_plansOver_range]
  constructor
  · rintro ⟨pair, member, rfl⟩
    exact planOf_mem_plansOver member
  · exact exists_planOf_eq

/-- **No plan is evaluated twice.** -/
theorem nodup_evaluated (graph : JoinGraph) : graph.evaluated.Nodup := by
  by_cases h : 2 ≤ graph.size
  · rw [evaluated, pairs_of_two_le h]
    exact ((nodup_leafOrders _).product (nodup_templates _)).map_on
      fun _ hp _ hq same => planOf_injective_of_mem hp hq same
  · rw [evaluated, pairs, if_pos (by omega)]
    exact List.nodup_nil

/-- The evaluated trees are as many as the pairs of an order and a template. -/
theorem length_evaluated (h : 2 ≤ graph.size) :
    graph.evaluated.length =
      (leafOrders graph.size).length * (templates graph.size).length := by
  rw [evaluated, pairs_of_two_le h, List.length_map, List.length_product]

/-- **A sweep has looked up and found** what checking the evaluated trees one after another does,
whatever it has reported. -/
theorem agrees_evaluated (h : 2 ≤ graph.size) {report : Bool} {sweep : Sweep}
    (swept : Sweep.checkAll graph.conditions (leafOrders graph.size) (templates graph.size) report =
      .ok sweep) :
    sweep.Agrees (graph.evaluated.foldl (Sweep.afterTree graph.conditions) (.start 0 false)) := by
  rw [Sweep.checkAll_eq_ok] at swept
  obtain rfl := Except.ok.inj swept
  have start : (Sweep.start (leafOrders graph.size).length report).Agrees (.start 0 false) :=
    ⟨rfl, rfl⟩
  rw [evaluated_of_two_le h]
  exact start.foldl_afterRound _

/-- The sweep that a count of at least two tables makes, with a record of the trees that it
checks. -/
def recordSweep (graph : JoinGraph) (settings : Settings) :
    Except Error (Sweep × List JoinTree) :=
  Sweep.recordAll graph.conditions (leafOrders graph.size) (templates graph.size)
    settings.logProgress

/-- **The evaluated trees are those that are recorded.** -/
theorem recordSweep_eq_ok (h : 2 ≤ graph.size) {settings : Settings} {sweep : Sweep}
    (swept : Sweep.checkAll graph.conditions (leafOrders graph.size) (templates graph.size)
      settings.logProgress = .ok sweep) :
    graph.recordSweep settings = .ok (sweep, graph.evaluated) := by
  rw [recordSweep, Sweep.recordAll_eq, swept, evaluated_of_two_le h]
  rfl

/-! ## Figures -/

/-- The sweep over the search space of a graph. -/
def sweep (graph : JoinGraph) (report : Bool) : Sweep :=
  ((leafOrders graph.size).map (Sweep.round graph.size)).foldl
    (Sweep.afterRound graph.conditions) (.start (leafOrders graph.size).length report)

theorem checkAll_eq_ok_sweep (graph : JoinGraph) (report : Bool) :
    Sweep.checkAll graph.conditions (leafOrders graph.size) (templates graph.size) report =
      .ok (graph.sweep report) :=
  Sweep.checkAll_eq_ok _ _ _

/-- **The run of a count** of at least two tables: unless the sizes are refused, the search space is
swept over. -/
theorem countRun_of_two_le (h : 2 ≤ graph.size) (settings : Settings) :
    graph.countRun settings =
      match searchSpacePairs settings.verifySearchSpace graph.size (leafOrders graph.size).length
        (templates graph.size).length with
      | .error failure => ⟨openingEvents graph.size (leafOrders graph.size).length
          (templates graph.size).length, .error failure⟩
      | .ok pairs => ⟨openingEvents graph.size (leafOrders graph.size).length
          (templates graph.size).length ++ [.started graph.size graph.conditions.size pairs] ++
            (graph.sweep settings.logProgress).events graph.size,
          .ok ((graph.sweep settings.logProgress).statistics graph.size
            (leafOrders graph.size).length (templates graph.size).length pairs)⟩ := by
  rw [countRun]
  dsimp only
  rw [if_neg (by omega)]
  cases searchSpacePairs settings.verifySearchSpace graph.size (leafOrders graph.size).length
    (templates graph.size).length with
  | error failure => rfl
  | ok pairs =>
    dsimp only
    rw [checkAll_eq_ok_sweep]

/-- The statistics of at least two tables are those of the sweep, unless the sizes are refused. -/
theorem statistics_eq_map_sweep (h : 2 ≤ graph.size) (settings : Settings) :
    graph.statistics settings =
      (searchSpacePairs settings.verifySearchSpace graph.size (leafOrders graph.size).length
        (templates graph.size).length).map fun _ =>
          (graph.sweep settings.logProgress).statistics graph.size (leafOrders graph.size).length
            (templates graph.size).length
            ((leafOrders graph.size).length * (templates graph.size).length) := by
  rw [statistics, countRun_of_two_le h]
  cases sizes : searchSpacePairs settings.verifySearchSpace graph.size
    (leafOrders graph.size).length (templates graph.size).length with
  | error failure => rfl
  | ok pairs =>
    rw [← (eq_mul_of_searchSpacePairs sizes).1]
    rfl

/-- The statistics of at least two tables are those of the sweep over the search space. -/
theorem exists_sweep_of_statistics {settings : Settings} {figures : Statistics}
    (h : 2 ≤ graph.size) (counted : graph.statistics settings = .ok figures) :
    ∃ sweep, Sweep.checkAll graph.conditions (leafOrders graph.size) (templates graph.size)
        settings.logProgress = .ok sweep ∧
      figures = sweep.statistics graph.size (leafOrders graph.size).length
        (templates graph.size).length
        ((leafOrders graph.size).length * (templates graph.size).length) := by
  rw [statistics_eq_map_sweep h] at counted
  refine ⟨_, graph.checkAll_eq_ok_sweep settings.logProgress, ?_⟩
  cases sizes : searchSpacePairs settings.verifySearchSpace graph.size
    (leafOrders graph.size).length (templates graph.size).length with
  | error failure =>
    rw [sizes] at counted
    cases counted
  | ok pairs =>
    rw [sizes] at counted
    exact (Except.ok.inj counted).symm

end JoinGraph

/-- The figures say what checking these trees one after another has come to. -/
structure Statistics.AreOf (conditions : ConditionSet) (trees : List JoinTree)
    (figures : Statistics) : Prop where
  /-- All trees were evaluated. -/
  pairsEvaluated : figures.pairsEvaluated = trees.length
  /-- The trees were checked in this order with one memo. -/
  checked : ∃ sweep, trees.foldlM (Sweep.checkTree conditions) (.start 0 false) = .ok sweep ∧
    figures.crossProductFree = sweep.found ∧
    figures.cachedInputSets = sweep.memo.inputSetCount ∧
    figures.cachedVerdicts = sweep.memo.verdictCount

/-- **The figures of a count** are those of checking the evaluated trees. -/
theorem Statistics.areOf_evaluated {graph : JoinGraph} {settings : Settings} {figures : Statistics}
    (h : 2 ≤ graph.size) (counted : graph.statistics settings = .ok figures) :
    figures.AreOf graph.conditions graph.evaluated := by
  obtain ⟨sweep, swept, rfl⟩ := JoinGraph.exists_sweep_of_statistics h counted
  have agrees := JoinGraph.agrees_evaluated h swept
  refine ⟨(JoinGraph.length_evaluated h).symm, _, foldlM_eq_ok
    (fun tree _ sweep => Sweep.checkTree_eq_ok tree sweep) _, agrees.found, ?_, ?_⟩
  · exact congrArg Memo.inputSetCount agrees.memo
  · exact congrArg Memo.verdictCount agrees.memo

/-! ## The search space -/

/-- **The search space has no loss and no repetition**: every template takes every leaf order, two
pairs that make the same tree are the same pair, and the trees that are made are the plans.  A count
of at least two tables that returns has evaluated every plan once, and no other tree: its figures
are those of its sweep, and the sweep with a record puts down these trees. -/
theorem search_space_exact (n : ℕ) :
    (∀ template ∈ templates n, ∀ order ∈ leafOrders n,
      ∃ tree, template.instantiate order = .ok tree) ∧
    (∀ template ∈ templates n, ∀ order ∈ leafOrders n,
      ∀ template' ∈ templates n, ∀ order' ∈ leafOrders n, ∀ tree tree',
      template.instantiate order = .ok tree → template'.instantiate order' = .ok tree' →
      tree.digest = tree'.digest → template = template' ∧ order = order') ∧
    (∀ tree : JoinTree,
      (∃ template ∈ templates n, ∃ order ∈ leafOrders n, template.instantiate order = .ok tree) ↔
        tree.leaves.Perm (List.range n)) ∧
    ∀ (graph : JoinGraph) (settings : Settings) (figures : Statistics),
      graph.size = n → 2 ≤ n → graph.statistics settings = .ok figures →
      figures.AreOf graph.conditions graph.evaluated ∧
        (∃ sweep, Sweep.checkAll graph.conditions (leafOrders n) (templates n)
            settings.logProgress = .ok sweep ∧
          figures = sweep.statistics n (leafOrders n).length (templates n).length
            ((leafOrders n).length * (templates n).length) ∧
          graph.recordSweep settings = .ok (sweep, graph.evaluated)) ∧
        ∀ tree, graph.evaluated.count tree =
          if tree.leaves.Perm (List.range n) then 1 else 0 := by
  refine ⟨?_, ?_, ?_, ?_⟩
  · intro template ht order ho
    exact ⟨_, instantiate_of_mem ht ho⟩
  · intro template ht order ho template' ht' order' ho' tree tree' made made' same
    rw [instantiate_of_mem ht ho] at made
    rw [instantiate_of_mem ht' ho'] at made'
    obtain rfl := Except.ok.inj made
    obtain rfl := Except.ok.inj made'
    exact (relabel_injective_of_mem ht ho ht' ho' (digest_injective same)).symm
  · intro tree
    constructor
    · rintro ⟨template, ht, order, ho, made⟩
      rw [instantiate_of_mem ht ho] at made
      obtain rfl := Except.ok.inj made
      rw [leaves_relabel_of_mem ht ho]
      exact mem_leafOrders_iff.1 ho
    · intro plan
      obtain ⟨order, ho, template, ht, rfl⟩ := exists_relabel_eq plan
      exact ⟨template, ht, order, ho, instantiate_of_mem ht ho⟩
  · rintro graph settings figures rfl large counted
    obtain ⟨sweep, swept, same⟩ := JoinGraph.exists_sweep_of_statistics large counted
    refine ⟨Statistics.areOf_evaluated large counted,
      ⟨sweep, swept, same, JoinGraph.recordSweep_eq_ok large swept⟩, fun tree => ?_⟩
    split_ifs with plan
    · exact List.count_eq_one_of_mem graph.nodup_evaluated ((JoinGraph.mem_evaluated large).2 plan)
    · exact List.count_eq_zero.2 fun member => plan ((JoinGraph.mem_evaluated large).1 member)

/-- The two orders of two tables make two trees, which differ by their digests, and a count
evaluates each of them once. -/
theorem search_space_exact_two_tables :
    ∃ graph figures, JoinGraph.empty.registerAll [.condition "A" "B"] = (graph, none) ∧
      graph.statistics .standard = .ok figures ∧ figures.AreOf graph.conditions graph.evaluated ∧
      (∃ sweep, graph.recordSweep .standard = .ok (sweep, graph.evaluated)) ∧
      graph.evaluated.count (.join (.leaf 1) (.leaf 0)) = 1 ∧
      (∃ template ∈ templates 2, ∃ order ∈ leafOrders 2,
        template.instantiate order = .ok (.join (.leaf 1) (.leaf 0))) ∧
      ∀ order ∈ leafOrders 2, ∀ tree,
        (JoinTree.join (.leaf 0) (.leaf 1)).instantiate order = .ok tree →
        tree.digest = "(1x0)" → order = [1, 0] := by
  have template : JoinTree.join (.leaf 0) (.leaf 1) ∈ templates 2 := mem_templates_iff.2 rfl
  have swapped : [1, 0] ∈ leafOrders 2 := mem_leafOrders_iff.2 (by decide)
  obtain ⟨areOf, ⟨sweep, -, -, recorded⟩, once⟩ := (search_space_exact 2).2.2.2
    (JoinGraph.empty.registerAll [.condition "A" "B"]).1 .standard _ rfl (Nat.le_refl 2) rfl
  refine ⟨_, _, rfl, rfl, areOf, ⟨sweep, recorded⟩, ?_, ?_, ?_⟩
  · exact (once _).trans (if_pos (by decide))
  · exact ((search_space_exact 2).2.2.1 _).2 (by decide)
  · intro order ho tree made same
    exact ((search_space_exact 2).2.1 _ template order ho _ template _ swapped tree
      (.join (.leaf 1) (.leaf 0)) made rfl same).2

/-- **A single table is counted without an evaluation**: there is one plan, but the count has not
evaluated it when it returns. -/
theorem single_table_not_evaluated :
    ∃ graph figures, JoinGraph.empty.registerAll [.table "A"] = (graph, none) ∧ graph.size = 1 ∧
      graph.statistics .standard = .ok figures ∧
      (JoinTree.leaf 0).leaves.Perm (List.range graph.size) ∧
      graph.evaluated.count (.leaf 0) = 0 ∧ figures.pairsEvaluated = 0 :=
  ⟨_, _, rfl, rfl, rfl, List.Perm.refl _, rfl, rfl⟩

end JoinOrder
