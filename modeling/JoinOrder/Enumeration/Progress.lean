/-
# Progress

A count works through the leaf orders one after another and reports now and then how far it is:
after every tenth part of the orders, rounded up, and after the last one.
-/

namespace JoinOrder

/-- What is said at a time: how many orders are done, of how many, and what was found in them. -/
structure Report where
  /-- The orders that are done. -/
  completed : Nat
  /-- All orders. -/
  total : Nat
  /-- The cross-product free trees among the finished orders. -/
  found : Nat
  deriving DecidableEq, Repr

/-- The state of the reporting. -/
structure Progress where
  /-- All orders. -/
  total : Nat
  /-- Whether reports are made. -/
  enabled : Bool
  /-- The orders that are done. -/
  completed : Nat
  /-- The reports made so far, the first one first. -/
  reports : List Report
  deriving DecidableEq, Repr

namespace Progress

/-- The number of parts after which a report is due. -/
def parts : Nat := 10

/-- The number of orders from one report to the next. -/
def interval (total : Nat) : Nat := max 1 ((total + (parts - 1)) / parts)

/-- Whether a report is due when so many orders are done. -/
def isDue (total completed : Nat) : Bool :=
  completed % interval total = 0 || completed = total

/-- Nothing is done yet. -/
def start (total : Nat) (enabled : Bool) : Progress := ⟨total, enabled, 0, []⟩

/-- One more order is done, and so much has been found by now. -/
def orderCompleted (progress : Progress) (found : Nat) : Progress :=
  let completed := progress.completed + 1
  { progress with
    completed
    reports :=
      if progress.enabled && isDue progress.total completed then
        progress.reports ++ [⟨completed, progress.total, found⟩]
      else progress.reports }

theorem interval_pos (total : Nat) : 0 < interval total :=
  Nat.lt_of_lt_of_le Nat.one_pos (Nat.le_max_left _ _)

@[simp] theorem completed_orderCompleted (progress : Progress) (found : Nat) :
    (progress.orderCompleted found).completed = progress.completed + 1 := rfl

/-- Without reporting there is no report. -/
theorem reports_orderCompleted_of_disabled {progress : Progress} (h : progress.enabled = false)
    (found : Nat) : (progress.orderCompleted found).reports = progress.reports := by
  simp [orderCompleted, h]

end Progress

end JoinOrder
