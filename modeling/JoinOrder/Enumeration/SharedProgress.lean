/-
# Progress That Workers Share

Workers that finish leaf orders side by side share one progress.  To mark an order as done, a worker
first takes the next number, in a single step.  If a report is due at this number, the worker then
makes it, in a step of its own, with whatever has been found by that moment.  Between the two steps
other workers may take numbers and make reports.

Main statements: what a step can be (`step_eq_some_iff_take`, `step_eq_some_iff_report`), and a
worker that is not interrupted marks its order as `Progress.orderCompleted` does
(`run_undisturbed`).
-/
import JoinOrder.Enumeration.Progress

namespace JoinOrder

/-- Progress with the workers that are about to use it. -/
structure SharedProgress where
  /-- The progress, of which the finished orders are those with a number. -/
  progress : Progress
  /-- The number of orders that still have to be marked as done. -/
  waiting : Nat
  /-- The numbers whose reports are due, but have not been made. -/
  owed : List Nat
  deriving DecidableEq, Repr

namespace SharedProgress

/-- A single step. -/
inductive Step where
  /-- A worker takes the next number. -/
  | take
  /-- The report on one of the owed numbers, given by its position, is made with what has been
  found. -/
  | report (position found : Nat)
  deriving DecidableEq, Repr

/-- No order is marked as done yet. -/
def start (total : Nat) (enabled : Bool) : SharedProgress := ⟨.start total enabled, total, []⟩

/-- Whether the next number to be taken needs a report. -/
def owesNext (progress : Progress) : Bool :=
  progress.enabled && Progress.isDue progress.total (progress.completed + 1)

/-- The progress with one more number taken. -/
def withNumber (progress : Progress) : Progress :=
  { progress with completed := progress.completed + 1 }

/-- The progress with one more report. -/
def withReport (progress : Progress) (number found : Nat) : Progress :=
  { progress with reports := progress.reports ++ [⟨number, progress.total, found⟩] }

/-- Takes a step, if it can be taken. -/
def step (shared : SharedProgress) : Step → Option SharedProgress
  | .take =>
    match shared.waiting with
    | 0 => none
    | waiting + 1 =>
      some ⟨withNumber shared.progress, waiting,
        if owesNext shared.progress then shared.owed ++ [shared.progress.completed + 1]
        else shared.owed⟩
  | .report position found =>
    match shared.owed[position]? with
    | none => none
    | some number =>
      some ⟨withReport shared.progress number found, shared.waiting, shared.owed.eraseIdx position⟩

/-- Takes steps one after another; a step that cannot be taken is not carried out. -/
def run (shared : SharedProgress) : List Step → Option SharedProgress
  | [] => some shared
  | next :: steps => (shared.step next).bind fun later => later.run steps

/-- All orders are marked as done, and all reports have been made. -/
def Finished (shared : SharedProgress) : Prop := shared.waiting = 0 ∧ shared.owed = []

/-! ## What a step can be -/

variable {shared later : SharedProgress}

theorem step_eq_some_iff_take :
    shared.step .take = some later ↔ ∃ waiting, shared.waiting = waiting + 1 ∧
      later = ⟨withNumber shared.progress, waiting,
        if owesNext shared.progress then shared.owed ++ [shared.progress.completed + 1]
        else shared.owed⟩ := by
  rw [step]
  cases shared.waiting with
  | zero => simp
  | succ waiting =>
    simp only [Option.some.injEq, Nat.add_right_cancel_iff, exists_eq_left', eq_comm]

theorem step_eq_some_iff_report {position found : Nat} :
    shared.step (.report position found) = some later ↔
      ∃ number, shared.owed[position]? = some number ∧
        later = ⟨withReport shared.progress number found, shared.waiting,
          shared.owed.eraseIdx position⟩ := by
  rw [step]
  cases shared.owed[position]? with
  | none => simp
  | some number => simp only [Option.some.injEq, exists_eq_left', @eq_comm _ later]

/-- **A worker that is not interrupted** marks its order as done with a report if one is due. -/
theorem run_undisturbed (progress : Progress) (waiting found : Nat) :
    (⟨progress, waiting + 1, []⟩ : SharedProgress).run
        (.take :: if owesNext progress then [.report 0 found] else []) =
      some ⟨progress.orderCompleted found, waiting, []⟩ := by
  have taken : (⟨progress, waiting + 1, []⟩ : SharedProgress).step .take =
      some ⟨withNumber progress, waiting,
        if owesNext progress then [progress.completed + 1] else []⟩ := rfl
  rw [run, taken]
  cases due : owesNext progress with
  | false =>
    rw [owesNext] at due
    simp [run, Progress.orderCompleted, withNumber, due]
  | true =>
    rw [owesNext] at due
    simp [run, step, Progress.orderCompleted, withNumber, withReport, due]

end SharedProgress

end JoinOrder
