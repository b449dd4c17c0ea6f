/-
# Evaluating Side by Side

The pairs of a count may be evaluated side by side.  Each evaluation is a job of its own; all jobs
share one memo and one counter.  A job goes on by single steps, each of which reads or writes one
entry of the memo or adds one to the counter, and a schedule says whose step comes next.

Main statements: what a step of a job and of a workshop can be (`Job.step_cases`,
`Workshop.step_cases`), and the steps of a run one by one (`Workshop.run_cons_eq_some_iff`).
-/
import JoinOrder.Connectivity.Checker
import JoinOrder.Tree.Instantiate

namespace JoinOrder

/-- What is done in one step. -/
inductive Action where
  /-- The inputs of a tree are read. -/
  | readInputs (digest : String)
  /-- The inputs of a tree are written. -/
  | writeInputs (digest : String) (inputs : List Nat)
  /-- The verdict on a join is read. -/
  | readVerdict (key : JoinKey)
  /-- The verdict on a join is written. -/
  | writeVerdict (key : JoinKey) (verdict : Bool)
  /-- A tree is counted. -/
  | increment
  deriving DecidableEq, Repr

/-- What a program does in its next step. -/
def Access.action? {α : Type} : Access α → Option Action
  | done _ => none
  | readInputs digest _ => some (.readInputs digest)
  | writeInputs digest inputs _ => some (.writeInputs digest inputs)
  | readVerdict key _ => some (.readVerdict key)
  | writeVerdict key verdict _ => some (.writeVerdict key verdict)

/-! ## Jobs -/

/-- The evaluation of a pair. -/
inductive Job where
  /-- The check goes on, and this is left of it. -/
  | checking (program : Access (Except Error Bool))
  /-- The tree has been counted. -/
  | counted

namespace Job

/-- The evaluation of a pair from its beginning. -/
def start (conditions : ConditionSet) (pair : List Nat × JoinTree) : Job :=
  let check : ExceptT Error Access Bool := do
    let tree ← pair.2.instantiate pair.1
    tree.askCrossProductFree conditions
  checking check.run

/-- One step of a job: the check comes first, and if the tree is free, it is counted. -/
def step : Job → Memo → Option (Action × Job × Memo)
  | counted, _ => none
  | checking (.done (.ok true)), memo => some (.increment, counted, memo)
  | checking program, memo => do
    let action ← program.action?
    let (next, later) ← program.step memo
    return (action, checking next, later)

/-- Whether the tree of a job has been counted. -/
def isCounted : Job → Bool
  | checking _ => false
  | counted => true

end Job

/-! ## Workshops -/

/-- Jobs with the memo and the counter that they share. -/
structure Workshop where
  /-- The jobs. -/
  jobs : List Job
  /-- The memo. -/
  memo : Memo
  /-- The counter. -/
  found : Nat

namespace Workshop

/-- No job has taken a step. -/
def start (conditions : ConditionSet) (pairs : List (List Nat × JoinTree)) : Workshop :=
  ⟨pairs.map (Job.start conditions), .empty, 0⟩

/-- The step of one job, given by its position. -/
def step (shop : Workshop) (i : Nat) : Option (Action × Workshop) := do
  let job ← shop.jobs[i]?
  let (action, next, memo) ← job.step shop.memo
  let found := if action = .increment then shop.found + 1 else shop.found
  return (action, ⟨shop.jobs.set i next, memo, found⟩)

/-- The steps of the jobs on a schedule: which job did what, and the workshop afterwards.  A
schedule that asks for a step of a job that has none left is not carried out. -/
def run (shop : Workshop) : List Nat → Option (List (Nat × Action) × Workshop)
  | [] => some ([], shop)
  | i :: schedule => do
    let (action, next) ← shop.step i
    let (trace, last) ← next.run schedule
    return ((i, action) :: trace, last)

/-- No job has a step left. -/
def Finished (shop : Workshop) : Prop := ∀ job ∈ shop.jobs, job.step shop.memo = none

end Workshop

/-! ## What a step can be -/

/-- Checking is not counting. -/
theorem Access.action?_ne_increment {α : Type} (program : Access α) :
    program.action? ≠ some .increment := by
  cases program <;> simp [action?]

/-- **A step of a job** counts its tree, or it is a step of the check. -/
theorem Job.step_cases {job next : Job} {memo later : Memo} {action : Action}
    (h : job.step memo = some (action, next, later)) :
    (job = checking (.done (.ok true)) ∧ action = .increment ∧ next = counted ∧ later = memo) ∨
      ∃ program rest, job = checking program ∧ program.action? = some action ∧
        program.step memo = some (rest, later) ∧ next = checking rest := by
  unfold step at h
  split at h
  · cases h
  · cases h
    exact .inl ⟨rfl, rfl, rfl, rfl⟩
  · rename_i program _
    simp only [Option.bind_eq_bind, Option.bind_eq_some_iff] at h
    obtain ⟨action, acted, ⟨rest, after⟩, stepped, h⟩ := h
    cases h
    exact .inr ⟨program, rest, rfl, acted, stepped, rfl⟩

/-- A job without a step has counted its tree, or its check has ended without the verdict that the
tree is free. -/
theorem Job.eq_of_step_eq_none {job : Job} {memo : Memo} (h : job.step memo = none) :
    job = counted ∨ ∃ verdict, job = checking (.done verdict) ∧ verdict ≠ .ok true := by
  cases job with
  | counted => exact .inl rfl
  | checking program =>
    cases program with
    | done verdict =>
      refine .inr ⟨verdict, rfl, ?_⟩
      rintro rfl
      cases h
    | readInputs | writeInputs | readVerdict | writeVerdict => cases h

/-- **A step of a workshop** is a step of the job at the given position, the others staying as they
are. -/
theorem Workshop.step_cases {shop next : Workshop} {i : Nat} {action : Action}
    (h : shop.step i = some (action, next)) :
    ∃ job rest memo, shop.jobs[i]? = some job ∧ job.step shop.memo = some (action, rest, memo) ∧
      next = ⟨shop.jobs.set i rest, memo,
        if action = .increment then shop.found + 1 else shop.found⟩ := by
  unfold step at h
  simp only [Option.bind_eq_bind, Option.bind_eq_some_iff] at h
  obtain ⟨job, there, ⟨action, rest, memo⟩, stepped, h⟩ := h
  cases h
  exact ⟨job, rest, memo, there, stepped, rfl⟩

/-- **A run** takes the first step of its schedule and goes on with the others. -/
theorem Workshop.run_cons_eq_some_iff {shop last : Workshop} {i : Nat} {schedule : List Nat}
    {trace : List (Nat × Action)} :
    shop.run (i :: schedule) = some (trace, last) ↔
      ∃ action next rest, shop.step i = some (action, next) ∧
        next.run schedule = some (rest, last) ∧ trace = (i, action) :: rest := by
  rw [run]
  simp only [Option.bind_eq_bind, Option.bind_eq_some_iff]
  constructor
  · rintro ⟨⟨action, next⟩, stepped, ⟨rest, after⟩, ran, h⟩
    cases h
    exact ⟨action, next, rest, stepped, ran, rfl⟩
  · rintro ⟨action, next, rest, stepped, ran, rfl⟩
    exact ⟨(action, next), stepped, (rest, last), ran, rfl⟩

end JoinOrder
