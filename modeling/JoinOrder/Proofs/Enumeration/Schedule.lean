/-
# Every Schedule Comes to the Same

Jobs that share a memo may find there what others have written, or work it out themselves; which of
the two happens depends on the schedule.  What a job asks about depends on its plan alone, though,
and every entry that is ever written is right.  So when all jobs are finished, the memo holds the
right entries for everything that the plans ask about, and the counter has been raised once for each
free plan, just as if the pairs had been evaluated one after another.

Main statements: what a step of a workshop keeps (`Valid.step`), and so a run (`Valid.run`), what a
finished workshop has come to (`Valid.finished`, `Valid.count_increment`), every workshop can be
finished (`exists_run_finished`), and the evaluation of the pairs of a graph
(`every_schedule_agrees`).
-/
import JoinOrder.Enumeration.Schedule
import JoinOrder.Proofs.Counting.Figures

namespace JoinOrder

open JoinTree

/-- What is written is right for the tree or the join that it is written for. -/
def Action.Right (conditions : ConditionSet) : Action → Prop
  | writeInputs digest inputs => ∃ tree : JoinTree, tree.digest = digest ∧ inputs = tree.inputs
  | writeVerdict key verdict =>
    ∃ left right, joinKey left right = key ∧ verdict = decide (Linked conditions left right)
  | _ => True

variable {conditions : ConditionSet} {joins : Finset (JoinTree × JoinTree)} {memo later : Memo}
  {action : Action}

/-- Inputs that are written for one digest are the same. -/
theorem Action.Right.inputs_eq {digest : String} {inputs inputs' : List ℕ}
    (h : (writeInputs digest inputs).Right conditions)
    (h' : (writeInputs digest inputs').Right conditions) : inputs = inputs' := by
  obtain ⟨tree, same, rfl⟩ := h
  obtain ⟨tree', same', rfl⟩ := h'
  rw [digest_injective (same.trans same'.symm)]

/-- Verdicts that are written for one key are the same. -/
theorem Action.Right.verdict_eq {key : JoinKey} {verdict verdict' : Bool}
    (h : (writeVerdict key verdict).Right conditions)
    (h' : (writeVerdict key verdict').Right conditions) : verdict = verdict' := by
  obtain ⟨left, right, same, rfl⟩ := h
  obtain ⟨left', right', same', rfl⟩ := h'
  obtain ⟨rfl, rfl⟩ := joinKey_injective (same.trans same'.symm)
  rfl

/-! ## Jobs -/

/-- Whatever else happens to the memo, the job will end with the right verdict on the plan, and then
the verdicts on all joins that the plan asks about are known; a plan that has been counted is
free. -/
def Job.Serves (conditions : ConditionSet) (joins : Finset (JoinTree × JoinTree)) (memo : Memo) :
    Job → JoinTree → Prop
  | checking program, plan =>
    program.Ensures (Memo.Within conditions (sides joins) joins)
      (fun result last => result = .ok (decide (plan.CrossProductFree conditions)) ∧
        ∀ p ∈ plan.asked conditions, joinKey p.1 p.2 ∈ last.verdicts) memo
  | counted, plan =>
    plan.CrossProductFree conditions ∧
      ∀ p ∈ plan.asked conditions, joinKey p.1 p.2 ∈ memo.verdicts

namespace Job

variable {plan : JoinTree} {job next : Job}

/-- A job serves the plan of its pair from the beginning. -/
theorem serves_start {n : ℕ} {pair : List ℕ × JoinTree}
    (member : pair ∈ leafOrders n ×ˢ templates n)
    (asked : ∀ p ∈ (planOf pair).asked conditions, p ∈ joins) :
    (Job.start conditions pair).Serves conditions joins memo (planOf pair) := by
  obtain ⟨ho, ht⟩ := List.mem_product.1 member
  have program : Job.start conditions pair =
      checking ((planOf pair).checkCrossProducts conditions >>= fun free => pure (.ok free)) := by
    rw [Job.start, instantiate_of_mem ht ho]
    show checking (ExceptT.run (askCrossProductFree conditions _)) = _
    rw [askCrossProductFree_eq_lift]
    rfl
  rw [program]
  refine (ensures_checkCrossProducts asked subset_rfl).bind ?_
  rintro _ after - - ⟨rfl, known⟩
  exact fun last grown _ => ⟨rfl, fun p hp => grown.mem_verdicts (known p hp)⟩

/-- The steps of other jobs do not keep a job from serving its plan. -/
theorem Serves.of_extends (h : job.Serves conditions joins memo plan)
    (grown : memo.Extends later) : job.Serves conditions joins later plan := by
  cases job with
  | checking program => exact Access.Ensures.of_extends h grown
  | counted => exact ⟨h.1, fun p hp => grown.mem_verdicts (h.2 p hp)⟩

/-- If the memo is right after a step, then what the step has written is right. -/
theorem right_of_step {α : Type} {program rest : Access α} {trees : Finset JoinTree}
    (within : later.Within conditions trees joins) (acted : program.action? = some action)
    (stepped : program.step memo = some (rest, later)) : action.Right conditions := by
  cases program with
  | done => cases acted
  | readInputs | readVerdict =>
    cases acted
    exact trivial
  | writeInputs digest inputs =>
    cases acted
    cases stepped
    obtain ⟨tree, -, same, right⟩ := within.inputs digest inputs Std.TreeMap.getElem?_insert_self
    exact ⟨tree, same, right⟩
  | writeVerdict key verdict =>
    cases acted
    cases stepped
    obtain ⟨p, -, same, right⟩ := within.verdicts key verdict Std.TreeMap.getElem?_insert_self
    exact ⟨p.1, p.2, same, right⟩

/-- **A step of a job** keeps the memo and its entries right, leaves a job that serves the plan, and
writes nothing wrong. -/
theorem Serves.step (h : job.Serves conditions joins memo plan)
    (within : memo.Within conditions (sides joins) joins)
    (stepped : job.step memo = some (action, next, later)) :
    later.Within conditions (sides joins) joins ∧ memo.Extends later ∧
      next.Serves conditions joins later plan ∧ action.Right conditions := by
  rcases step_cases stepped with ⟨rfl, rfl, rfl, rfl⟩ | ⟨program, rest, rfl, acted, accessed, rfl⟩
  · obtain ⟨verdict, known⟩ := h later (.refl later) within
    have free : plan.CrossProductFree conditions := by
      simpa using (Except.ok.inj verdict).symm
    exact ⟨within, .refl later, ⟨free, known⟩, trivial⟩
  · obtain ⟨kept, grown, serves⟩ := Access.Ensures.step h within accessed
    exact ⟨kept, grown, serves, right_of_step kept acted accessed⟩

/-- A job counts its tree by an increment, and only once. -/
theorem isCounted_of_step (stepped : job.step memo = some (action, next, later)) :
    job.isCounted = false ∧ next.isCounted = decide (action = .increment) := by
  rcases step_cases stepped with ⟨rfl, rfl, rfl, rfl⟩ | ⟨program, rest, rfl, acted, -, rfl⟩
  · exact ⟨rfl, rfl⟩
  · refine ⟨rfl, ?_⟩
    rw [isCounted, eq_comm, decide_eq_false_iff_not]
    rintro rfl
    exact program.action?_ne_increment acted

/-- **A job without a step** has counted its tree exactly if the plan is free, and the verdicts on
the joins that the plan asks about are known. -/
theorem Serves.finished (h : job.Serves conditions joins memo plan)
    (within : memo.Within conditions (sides joins) joins) (last : job.step memo = none) :
    job.isCounted = decide (plan.CrossProductFree conditions) ∧
      ∀ p ∈ plan.asked conditions, joinKey p.1 p.2 ∈ memo.verdicts := by
  rcases eq_of_step_eq_none last with rfl | ⟨verdict, rfl, unfree⟩
  · exact ⟨(decide_eq_true h.1).symm, h.2⟩
  · obtain ⟨rfl, known⟩ := h memo (.refl memo) within
    refine ⟨?_, known⟩
    rw [isCounted, eq_comm, decide_eq_false_iff_not]
    exact fun free => unfree (by rw [decide_eq_true free])

end Job

/-- **Jobs without a step** have counted the trees of the free plans. -/
theorem Job.countP_isCounted {jobs : List Job} {plans : List JoinTree}
    (serves : List.Forall₂ (Serves conditions joins memo) jobs plans)
    (within : memo.Within conditions (sides joins) joins)
    (last : ∀ job ∈ jobs, job.step memo = none) :
    jobs.countP isCounted = plans.countP (CrossProductFree conditions) := by
  induction serves with
  | nil => rfl
  | cons serves _ ih =>
    obtain ⟨first, others⟩ := List.forall_mem_cons.1 last
    rw [List.countP_cons, List.countP_cons, ih others, (serves.finished within first).1]

/-! ## Workshops -/

/-- A member of a list is related to some member of the other list, and it may be replaced by any
that is so related. -/
theorem exists_rel_and_forall₂_set {α β : Type} {R : α → β → Prop} {as : List α} {bs : List β}
    {a : α} {i : ℕ} (h : List.Forall₂ R as bs) (there : as[i]? = some a) :
    ∃ b, R a b ∧ ∀ S : α → β → Prop, (∀ c d, R c d → S c d) → ∀ a', S a' b →
      List.Forall₂ S (as.set i a') bs := by
  induction h generalizing i with
  | nil => cases there
  | @cons first b as bs related rest ih =>
    cases i with
    | zero =>
      obtain rfl := Option.some.inj there
      exact ⟨b, related, fun S others a' kept => .cons kept (rest.imp others)⟩
    | succ i =>
      obtain ⟨other, rel, replace⟩ := ih there
      exact ⟨other, rel, fun S others a' kept =>
        .cons (others first b related) (replace S others a' kept)⟩

namespace Workshop

/-- Whether the tree of a job, given by its position, has been counted. -/
def hasCounted (shop : Workshop) (i : ℕ) : Bool := shop.jobs[i]?.any Job.isCounted

/-- The workshop is at work on the plans: the memo is about the joins that they ask about, each job
serves its plan, and the counter says how many trees have been counted. -/
structure Valid (conditions : ConditionSet) (plans : List JoinTree) (shop : Workshop) : Prop where
  /-- The memo is about the joins that the plans ask about. -/
  within : shop.memo.Within conditions (sides (askedJoins conditions plans))
    (askedJoins conditions plans)
  /-- Each job serves its plan. -/
  serves : List.Forall₂ (Job.Serves conditions (askedJoins conditions plans) shop.memo)
    shop.jobs plans
  /-- The counter is right. -/
  found : shop.found = shop.jobs.countP Job.isCounted

variable {plans : List JoinTree} {shop next last : Workshop} {i : ℕ} {schedule : List ℕ}
  {trace : List (ℕ × Action)}

/-- The evaluations of pairs are at work on the plans of the pairs from the beginning. -/
theorem valid_start {n : ℕ} {pairs : List (List ℕ × JoinTree)}
    (member : ∀ pair ∈ pairs, pair ∈ leafOrders n ×ˢ templates n) :
    (Workshop.start conditions pairs).Valid conditions (pairs.map planOf) where
  within := Memo.within_empty _ _ _
  serves := by
    rw [Workshop.start, List.forall₂_map_left_iff, List.forall₂_map_right_iff, List.forall₂_same]
    intro pair among
    exact Job.serves_start (member pair among) fun p hp =>
      mem_askedJoins.2 ⟨planOf pair, List.mem_map_of_mem among, hp⟩
  found := by
    symm
    rw [Workshop.start, List.countP_map, List.countP_eq_zero]
    rintro pair - counted
    cases counted

/-- In the beginning nothing has been counted. -/
theorem hasCounted_start (pairs : List (List ℕ × JoinTree)) (i : ℕ) :
    (Workshop.start conditions pairs).hasCounted i = false := by
  rw [hasCounted, Workshop.start, List.getElem?_map]
  cases pairs[i]? <;> rfl

/-- **A step of a workshop** keeps it at work on the plans, and writes nothing wrong. -/
theorem Valid.step (h : shop.Valid conditions plans)
    (stepped : shop.step i = some (action, next)) :
    next.Valid conditions plans ∧ action.Right conditions := by
  obtain ⟨job, rest, memo, there, done, rfl⟩ := step_cases stepped
  obtain ⟨plan, serves, replace⟩ := exists_rel_and_forall₂_set h.serves there
  obtain ⟨kept, grown, onward, right⟩ := serves.step h.within done
  refine ⟨⟨kept, ?_, ?_⟩, right⟩
  · exact replace _ (fun job plan serves => serves.of_extends grown) rest onward
  · obtain ⟨before, after⟩ := Job.isCounted_of_step done
    obtain ⟨position, here⟩ := List.getElem?_eq_some_iff.1 there
    show (if action = .increment then shop.found + 1 else shop.found) = _
    rw [List.countP_set position, here, before, after, h.found]
    by_cases counts : action = .increment <;> simp [counts]

/-- **A run of a workshop** keeps it at work on the plans, and writes nothing wrong. -/
theorem Valid.run (h : shop.Valid conditions plans)
    (ran : shop.run schedule = some (trace, last)) :
    last.Valid conditions plans ∧ ∀ done ∈ trace, done.2.Right conditions := by
  induction schedule generalizing shop trace with
  | nil =>
    cases ran
    exact ⟨h, by simp⟩
  | cons i schedule ih =>
    obtain ⟨action, next, rest, stepped, onward, rfl⟩ := run_cons_eq_some_iff.1 ran
    obtain ⟨valid, right⟩ := h.step stepped
    obtain ⟨later, others⟩ := ih valid onward
    exact ⟨later, List.forall_mem_cons.2 ⟨right, others⟩⟩

/-- **A finished workshop** has recorded everything that the plans ask about, and it has counted the
trees of the free plans. -/
theorem Valid.finished (h : shop.Valid conditions plans) (last : shop.Finished) :
    shop.memo.Records conditions (sides (askedJoins conditions plans))
        (askedJoins conditions plans) ∧
      (∀ i plan, plans[i]? = some plan →
        shop.hasCounted i = decide (plan.CrossProductFree conditions)) ∧
      shop.found = plans.countP (CrossProductFree conditions) := by
  have each : List.Forall₂ (fun job plan =>
      job.isCounted = decide (plan.CrossProductFree conditions) ∧
        ∀ p ∈ plan.asked conditions, joinKey p.1 p.2 ∈ shop.memo.verdicts) shop.jobs plans :=
    ((List.forall₂_and_left _ _).2 ⟨last, h.serves⟩).imp fun job plan serves =>
      serves.2.finished h.within serves.1
  have counted : shop.jobs.map Job.isCounted =
      plans.map fun plan => decide (plan.CrossProductFree conditions) := by
    rw [← List.forall₂_eq_eq_eq, List.forall₂_map_left_iff, List.forall₂_map_right_iff]
    exact each.imp fun job plan settled => settled.1
  have known : ∀ plan ∈ plans, ∀ p ∈ plan.asked conditions,
      joinKey p.1 p.2 ∈ shop.memo.verdicts :=
    ((List.forall₂_and_left plans shop.jobs).1
      (List.Forall₂.flip (each.imp fun job plan settled => settled.symm))).1
  refine ⟨⟨h.within, h.within.covers_sides ?_⟩, ?_, ?_⟩
  · intro p hp
    obtain ⟨plan, among, asked⟩ := mem_askedJoins.1 hp
    exact known plan among p asked
  · intro i plan there
    have here := congrArg (fun verdicts => verdicts[i]?) counted
    simp only [List.getElem?_map, there] at here
    obtain ⟨job, here, same⟩ := Option.map_eq_some_iff.1 here
    rw [hasCounted, here, Option.any_some, same]
  · rw [h.found, Job.countP_isCounted h.serves h.within last]

/-- **When the first jobs are finished** and no other tree has been counted, the counter says how
many of the first plans are free. -/
theorem Valid.found_of_front (h : shop.Valid conditions plans) {count : ℕ}
    (front : ∀ job ∈ shop.jobs.take count, job.step shop.memo = none)
    (others : ∀ job ∈ shop.jobs.drop count, job.isCounted = false) :
    shop.found = (plans.take count).countP (CrossProductFree conditions) := by
  have none : (shop.jobs.drop count).countP Job.isCounted = 0 := by
    rw [List.countP_eq_zero]
    exact fun job among => Bool.eq_false_iff.1 (others job among)
  rw [h.found, ← List.take_append_drop count shop.jobs, List.countP_append, none, Nat.add_zero,
    Job.countP_isCounted (List.forall₂_take count h.serves) h.within front]

/-! ## Increments -/

/-- **The counter** is raised once by each increment. -/
theorem found_of_run (ran : shop.run schedule = some (trace, last)) :
    last.found = shop.found + trace.countP (fun done => done.2 = .increment) := by
  induction schedule generalizing shop trace with
  | nil =>
    cases ran
    rfl
  | cons i schedule ih =>
    obtain ⟨action, next, rest, stepped, onward, rfl⟩ := run_cons_eq_some_iff.1 ran
    obtain ⟨job, left, memo, -, -, rfl⟩ := step_cases stepped
    rw [ih onward, List.countP_cons]
    by_cases counts : action = .increment
    · simp only [counts, if_true, decide_true]
      omega
    · simp [counts]

/-- A step changes whether a tree has been counted only if it is an increment of its job. -/
theorem hasCounted_of_step (stepped : shop.step i = some (action, next)) (j : ℕ) :
    (next.hasCounted j).toNat =
      (if (i, action) = (j, .increment) then 1 else 0) + (shop.hasCounted j).toNat := by
  obtain ⟨job, left, memo, there, done, rfl⟩ := step_cases stepped
  obtain ⟨before, after⟩ := Job.isCounted_of_step done
  obtain ⟨position, -⟩ := List.getElem?_eq_some_iff.1 there
  by_cases same : i = j
  · subst same
    simp only [hasCounted, List.getElem?_set_self position, there, Option.any_some, before, after]
    by_cases counts : action = .increment <;> simp [counts]
  · simp [hasCounted, List.getElem?_set_ne same, same]

/-- **No job counts twice**: the increments of a job in a run are one if its tree gets counted in
the run, and none otherwise. -/
theorem count_of_run (ran : shop.run schedule = some (trace, last)) (j : ℕ) :
    (last.hasCounted j).toNat = trace.count (j, .increment) + (shop.hasCounted j).toNat := by
  induction schedule generalizing shop trace with
  | nil =>
    cases ran
    simp
  | cons i schedule ih =>
    obtain ⟨action, next, rest, stepped, onward, rfl⟩ := run_cons_eq_some_iff.1 ran
    rw [ih onward, hasCounted_of_step stepped, List.count_cons, ← Nat.add_assoc]
    simp only [beq_iff_eq]

/-! ## Finishing -/

/-- One run after another is a run. -/
theorem run_append {schedule' : List ℕ} {trace' : List (ℕ × Action)}
    (ran : shop.run schedule = some (trace, next))
    (onward : next.run schedule' = some (trace', last)) :
    shop.run (schedule ++ schedule') = some (trace ++ trace', last) := by
  induction schedule generalizing shop trace with
  | nil =>
    cases ran
    exact onward
  | cons i schedule ih =>
    obtain ⟨action, between, rest, stepped, later, rfl⟩ := run_cons_eq_some_iff.1 ran
    exact run_cons_eq_some_iff.2 ⟨action, between, _, stepped, ih later, rfl⟩

/-- The step of a job is a step of the workshop. -/
theorem step_of_job {job rest : Job} (there : shop.jobs[i]? = some job)
    (stepped : job.step shop.memo = some (action, rest, memo)) :
    shop.step i = some (action, ⟨shop.jobs.set i rest, memo,
      if action = .increment then shop.found + 1 else shop.found⟩) := by
  simp only [Workshop.step, there, stepped, Option.bind_eq_bind, Option.bind_some]
  rfl

/-- Some run finishes the job at a position and leaves the other jobs as they are. -/
def CanFinish (shop : Workshop) (i : ℕ) : Prop :=
  ∃ schedule trace last rest, shop.run schedule = some (trace, last) ∧
    last.jobs = shop.jobs.set i rest ∧ ∀ memo, rest.step memo = none

/-- A job without a step is finished. -/
theorem canFinish_of_finished {job : Job} (there : shop.jobs[i]? = some job)
    (finished : ∀ memo, job.step memo = none) : shop.CanFinish i := by
  obtain ⟨position, rfl⟩ := List.getElem?_eq_some_iff.1 there
  exact ⟨[], [], shop, _, rfl, (List.set_getElem_self position).symm, finished⟩

/-- A job that can be finished after a step can be finished before it. -/
theorem canFinish_of_step {job rest : Job} (there : shop.jobs[i]? = some job)
    (stepped : job.step shop.memo = some (action, rest, memo))
    (onward : ∀ shop : Workshop, shop.jobs[i]? = some rest → shop.CanFinish i) :
    shop.CanFinish i := by
  obtain ⟨position, -⟩ := List.getElem?_eq_some_iff.1 there
  obtain ⟨schedule, trace, last, final, ran, jobs, finished⟩ :=
    onward ⟨shop.jobs.set i rest, memo,
      if action = .increment then shop.found + 1 else shop.found⟩ (List.getElem?_set_self position)
  refine ⟨i :: schedule, _, last, final,
    run_cons_eq_some_iff.2 ⟨action, _, trace, step_of_job there stepped, ran, rfl⟩, ?_, finished⟩
  rw [jobs, List.set_set]

/-- **Every job can be finished**, whatever the others have done so far. -/
theorem canFinish {job : Job} (there : shop.jobs[i]? = some job) : shop.CanFinish i := by
  cases job with
  | counted => exact canFinish_of_finished there fun _ => rfl
  | checking program =>
    -- The job goes on step by step, with what the memo holds when it reads.
    induction program generalizing shop with
    | done verdict =>
      cases verdict with
      | error e => exact canFinish_of_finished there fun _ => rfl
      | ok free =>
        cases free with
        | false => exact canFinish_of_finished there fun _ => rfl
        | true =>
          exact canFinish_of_step there rfl fun shop there =>
            canFinish_of_finished there fun _ => rfl
    | readInputs digest next ih | readVerdict digest next ih =>
      exact canFinish_of_step there rfl fun shop there => ih _ there
    | writeInputs digest inputs next ih | writeVerdict digest inputs next ih =>
      exact canFinish_of_step there rfl fun shop there => ih there

/-- Some run finishes the jobs before a position. -/
theorem exists_run_finishing (shop : Workshop) (count : ℕ) :
    ∃ schedule trace last, shop.run schedule = some (trace, last) ∧
      last.jobs.length = shop.jobs.length ∧
      ∀ i < count, ∀ job, last.jobs[i]? = some job → ∀ memo, job.step memo = none := by
  induction count with
  | zero => exact ⟨[], [], shop, rfl, rfl, by simp⟩
  | succ count ih =>
    obtain ⟨schedule, trace, next, ran, length, finished⟩ := ih
    cases there : next.jobs[count]? with
    | none =>
      refine ⟨schedule, trace, next, ran, length, ?_⟩
      intro i before job here
      rcases Nat.lt_succ_iff_lt_or_eq.1 before with before | rfl
      · exact finished i before job here
      · rw [there] at here
        cases here
    | some job =>
      obtain ⟨more, trace', last, rest, onward, jobs, done⟩ := canFinish there
      refine ⟨schedule ++ more, trace ++ trace', last, run_append ran onward, ?_, ?_⟩
      · rw [jobs, List.length_set, length]
      · intro i before job here
        rw [jobs, List.getElem?_set] at here
        rcases Nat.lt_succ_iff_lt_or_eq.1 before with before | rfl
        · rw [if_neg (by omega)] at here
          exact finished i before job here
        · obtain ⟨position, -⟩ := List.getElem?_eq_some_iff.1 there
          rw [if_pos rfl, if_pos position] at here
          exact Option.some.inj here ▸ done

/-- **Every workshop can be finished.** -/
theorem exists_run_finished (shop : Workshop) :
    ∃ schedule trace last, shop.run schedule = some (trace, last) ∧ last.Finished := by
  obtain ⟨schedule, trace, last, ran, length, finished⟩ :=
    shop.exists_run_finishing shop.jobs.length
  refine ⟨schedule, trace, last, ran, fun job member => ?_⟩
  obtain ⟨i, here⟩ := List.getElem?_of_mem member
  obtain ⟨position, -⟩ := List.getElem?_eq_some_iff.1 here
  exact finished i (length ▸ position) job here last.memo

end Workshop

/-! ## The pairs of a graph -/

namespace JoinGraph

/-- Evaluates the pairs of a graph one after another. -/
def evaluateInTurn (graph : JoinGraph) : Except Error Sweep :=
  graph.pairs.foldlM (fun sweep pair => sweep.checkPair graph.conditions pair.1 pair.2)
    (Sweep.start 0 false)

variable {graph : JoinGraph}

/-- Evaluating the pairs checks their plans. -/
theorem evaluateInTurn_eq (graph : JoinGraph) :
    graph.evaluateInTurn =
      graph.evaluated.foldlM (Sweep.checkTree graph.conditions) (.start 0 false) := by
  have each : ∀ pair ∈ graph.pairs, ∀ sweep : Sweep,
      sweep.checkPair graph.conditions pair.1 pair.2 =
        .ok (sweep.afterTree graph.conditions (planOf pair)) := by
    intro pair member sweep
    obtain ⟨ho, ht⟩ := List.mem_product.1 (mem_product_of_mem_pairs member)
    exact Sweep.checkPair_eq_ok ho ht sweep
  rw [evaluateInTurn, foldlM_eq_ok each,
    foldlM_eq_ok fun tree _ sweep => Sweep.checkTree_eq_ok tree sweep, evaluated, List.foldl_map]

/-- **Evaluating the pairs in turn** succeeds, records what the plans ask about, and finds the free
plans. -/
theorem exists_evaluateInTurn (graph : JoinGraph) :
    ∃ sweep, graph.evaluateInTurn = .ok sweep ∧
      sweep.memo.Records graph.conditions (sides graph.askedJoins) graph.askedJoins ∧
      sweep.found = graph.evaluated.countP (CrossProductFree graph.conditions) := by
  have checked : graph.evaluated.foldlM (Sweep.checkTree graph.conditions) (.start 0 false) =
      .ok (graph.evaluated.foldl (Sweep.afterTree graph.conditions) (.start 0 false)) :=
    foldlM_eq_ok (fun tree _ sweep => Sweep.checkTree_eq_ok tree sweep) _
  exact ⟨_, graph.evaluateInTurn_eq.trans checked, Sweep.records_of_foldlM checked⟩

/-- The evaluations of the pairs of a graph are at work on the plans from the beginning. -/
theorem valid_start (graph : JoinGraph) :
    (Workshop.start graph.conditions graph.pairs).Valid graph.conditions graph.evaluated :=
  Workshop.valid_start fun _ => mem_product_of_mem_pairs

end JoinGraph

/-- The increments of a job in a run that finishes all jobs are one if its plan is free, and none
otherwise. -/
theorem Workshop.Valid.count_increment {plans : List JoinTree}
    {pairs : List (List ℕ × JoinTree)} {last : Workshop} {schedule : List ℕ}
    {trace : List (ℕ × Action)} (h : last.Valid conditions plans) (finished : last.Finished)
    (ran : (Workshop.start conditions pairs).run schedule = some (trace, last)) {i : ℕ}
    {plan : JoinTree} (there : plans[i]? = some plan) :
    trace.count (i, .increment) = if plan.CrossProductFree conditions then 1 else 0 := by
  have counts := Workshop.count_of_run ran i
  rw [Workshop.hasCounted_start, (h.finished finished).2.1 i plan there] at counts
  by_cases free : plan.CrossProductFree conditions
  · rw [decide_eq_true free] at counts
    rw [if_pos free]
    exact counts.symm
  · rw [decide_eq_false free] at counts
    rw [if_neg free]
    exact counts.symm

/-- **Every schedule comes to the same** as evaluating the pairs of a graph one after another.
There are schedules that finish all jobs.  Whatever the schedule is, all values written for one key
are the same, and each increment raises the counter.  When all jobs are finished, each free plan has
been counted once and no other plan has, and the counter and the entries of the memo are those of
the evaluation one after another, which a count reports. -/
theorem every_schedule_agrees (graph : JoinGraph) :
    (∃ schedule trace last,
      (Workshop.start graph.conditions graph.pairs).run schedule = some (trace, last) ∧
        last.Finished) ∧
    ∀ schedule trace last,
      (Workshop.start graph.conditions graph.pairs).run schedule = some (trace, last) →
      (∀ i j digest inputs inputs', (i, .writeInputs digest inputs) ∈ trace →
        (j, .writeInputs digest inputs') ∈ trace → inputs = inputs') ∧
      (∀ i j key verdict verdict', (i, .writeVerdict key verdict) ∈ trace →
        (j, .writeVerdict key verdict') ∈ trace → verdict = verdict') ∧
      last.found = trace.countP (fun done => done.2 = .increment) ∧
      (last.Finished →
        (∀ i plan, graph.evaluated[i]? = some plan → trace.count (i, .increment) =
          if plan.CrossProductFree graph.conditions then 1 else 0) ∧
        ∃ sweep, graph.evaluateInTurn = .ok sweep ∧
          last.found = sweep.found ∧ last.memo.SameEntries sweep.memo ∧
          ∀ settings statistics, 2 ≤ graph.size → graph.statistics settings = .ok statistics →
            statistics.crossProductFree = last.found ∧
            statistics.cachedInputSets = last.memo.inputSetCount ∧
            statistics.cachedVerdicts = last.memo.verdictCount) := by
  refine ⟨Workshop.exists_run_finished _, ?_⟩
  intro schedule trace last ran
  obtain ⟨valid, right⟩ := graph.valid_start.run ran
  refine ⟨?_, ?_, ?_, ?_⟩
  · intro i j digest inputs inputs' first second
    exact (right _ first).inputs_eq (right _ second)
  · intro i j key verdict verdict' first second
    exact (right _ first).verdict_eq (right _ second)
  · rw [Workshop.found_of_run ran]
    exact Nat.zero_add _
  · intro finished
    obtain ⟨records, -, found⟩ := valid.finished finished
    obtain ⟨sweep, evaluated, records', found'⟩ := graph.exists_evaluateInTurn
    refine ⟨fun i plan there => valid.count_increment finished ran there, sweep, evaluated,
      found.trans found'.symm, records.sameEntries records', ?_⟩
    intro settings statistics h counted
    -- The figures of a count are those of the same evaluation.
    obtain ⟨-, same, checked, free, inputSets, verdicts⟩ := Statistics.areOf_evaluated h counted
    obtain rfl := Except.ok.inj (checked.symm.trans (graph.evaluateInTurn_eq.symm.trans evaluated))
    refine ⟨?_, ?_, ?_⟩
    · rw [free, found, found']
    · rw [inputSets, records'.inputSetCount_eq_card, records.inputSetCount_eq_card,
        JoinGraph.askedJoins]
    · rw [verdicts, records'.verdictCount_eq_card, records.verdictCount_eq_card,
        JoinGraph.askedJoins]

/-- Two jobs that both find the inputs of one tree unknown and both write them. -/
theorem every_schedule_agrees_two_tables :
    ∃ graph trace last sweep,
      JoinGraph.empty.registerAll [.condition "A" "B"] = (graph, none) ∧
      (Workshop.start graph.conditions graph.pairs).run [0, 0, 0, 0, 1, 1, 0, 1, 1, 0, 1, 0, 1] =
        some (trace, last) ∧
      last.Finished ∧
      (0, .writeInputs "1" [1]) ∈ trace ∧ (1, .writeInputs "1" [1]) ∈ trace ∧
      trace.count (1, .increment) = 1 ∧
      graph.evaluateInTurn = .ok sweep ∧
      last.found = sweep.found ∧ last.memo.SameEntries sweep.memo := by
  obtain ⟨⟨trace, last⟩, ran, finished, race⟩ : ∃ run : List (ℕ × Action) × Workshop,
      (Workshop.start (JoinGraph.empty.registerAll [.condition "A" "B"]).1.conditions
        (JoinGraph.empty.registerAll [.condition "A" "B"]).1.pairs).run
          [0, 0, 0, 0, 1, 1, 0, 1, 1, 0, 1, 0, 1] = some run ∧
      (∀ job ∈ run.2.jobs, job.step run.2.memo = none) ∧
      (0, .writeInputs "1" [1]) ∈ run.1 ∧ (1, .writeInputs "1" [1]) ∈ run.1 :=
    ⟨_, rfl, by decide, by decide, by decide⟩
  obtain ⟨once, sweep, swept, found, same, -⟩ :=
    ((every_schedule_agrees _).2 _ _ _ ran).2.2.2 finished
  have counted : trace.count (1, .increment) = 1 :=
    (once 1 (.join (.leaf 1) (.leaf 0)) rfl).trans (if_pos (by decide))
  exact ⟨_, trace, last, sweep, rfl, ran, finished, race.1, race.2, counted, swept, found, same⟩

end JoinOrder
