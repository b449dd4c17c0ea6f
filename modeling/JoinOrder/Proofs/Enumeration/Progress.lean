/-
# Reports on the Way

While orders are finished one after another, a report is made whenever one is due.  The reports that
have been made after some orders are therefore known from the number of the orders alone, up to what
was found in them.

The numbers at which reports are due are the multiples of the interval and the number of all orders.
There are at most ten of them, and ten if the orders can be parted evenly.

Main statements: finishing one more order keeps the account of the reports (`Done.orderCompleted`),
and so finishing many does (`Done.foldl_orderCompleted`); the due numbers (`mem_dueUpTo`), and how
many they are (`length_dueUpTo`, `length_dueUpTo_le`, `length_dueUpTo_eq`).
-/
import Mathlib.Algebra.Order.Floor.Div
import Mathlib.Data.List.Range
import Mathlib.GroupTheory.GroupAction.Ring
import JoinOrder.Enumeration.Progress

namespace JoinOrder.Progress

/-- The numbers of finished orders at which reports are due, up to the given one. -/
def dueUpTo (total completed : ℕ) : List ℕ :=
  (List.range' 1 completed).filter (isDue total)

/-- So many of the orders are done, and the due reports have been made if reports are made at
all. -/
structure Done (orders : ℕ) (report : Bool) (done : ℕ) (progress : Progress) : Prop where
  /-- The number of all orders is right. -/
  total : progress.total = orders
  /-- Whether reports are made is right. -/
  enabled : progress.enabled = report
  /-- So many orders are done. -/
  completed : progress.completed = done
  /-- The due reports were made. -/
  reports : progress.reports.map Report.completed = if report then dueUpTo orders done else []

variable {orders done : ℕ} {report : Bool} {progress : Progress}

theorem done_start (orders : ℕ) (report : Bool) : (start orders report).Done orders report 0 where
  total := rfl
  enabled := rfl
  completed := rfl
  reports := by cases report <;> rfl

/-- The next report is due or not. -/
theorem dueUpTo_succ (orders done : ℕ) :
    dueUpTo orders (done + 1) =
      dueUpTo orders done ++ if isDue orders (done + 1) then [done + 1] else [] := by
  rw [dueUpTo, List.range'_concat, List.filter_append, dueUpTo, Nat.one_mul, Nat.add_comm 1,
    List.filter_singleton, Bool.cond_eq_ite]

/-- One more order is reported if its report is due. -/
theorem Done.reports_orderCompleted (h : progress.Done orders true done) (found : ℕ) :
    (progress.orderCompleted found).reports =
      progress.reports ++ if isDue orders (done + 1) then [⟨done + 1, orders, found⟩] else [] := by
  simp only [Progress.orderCompleted, h.enabled, h.total, h.completed, Bool.true_and]
  cases isDue orders (done + 1) <;> simp

/-- **One more order** keeps the account, whatever was found in it. -/
theorem Done.orderCompleted (h : progress.Done orders report done) (found : ℕ) :
    (progress.orderCompleted found).Done orders report (done + 1) where
  total := h.total
  enabled := h.enabled
  completed := by rw [completed_orderCompleted, h.completed]
  reports := by
    have before := h.reports
    cases report with
    | false => rwa [reports_orderCompleted_of_disabled h.enabled]
    | true =>
      rw [if_pos rfl] at before ⊢
      rw [h.reports_orderCompleted, List.map_append, before, dueUpTo_succ]
      split_ifs <;> rfl

/-- **Many more orders** keep the account, whatever was found in them. -/
theorem Done.foldl_orderCompleted (h : progress.Done orders report done) (founds : List ℕ) :
    (founds.foldl Progress.orderCompleted progress).Done orders report (done + founds.length) := by
  induction founds generalizing progress done with
  | nil => exact h
  | cons found founds ih =>
    rw [List.foldl_cons, List.length_cons, Nat.add_comm founds.length, ← Nat.add_assoc]
    exact ih (h.orderCompleted found)

/-- The number of reports is known from the number of finished orders. -/
theorem Done.length_reports (h : progress.Done orders report done) :
    progress.reports.length = if report then (dueUpTo orders done).length else 0 := by
  rw [← List.length_map Report.completed, h.reports]
  split_ifs <;> rfl

/-! ## Due numbers -/

variable {total k : ℕ}

/-- **The interval** is the tenth part of the orders, rounded up, and at least one order. -/
theorem interval_eq (total : ℕ) : interval total = max 1 (total ⌈/⌉ 10) := rfl

/-- A report is due at the multiples of the interval and when all orders are done. -/
theorem isDue_iff : isDue total k = true ↔ interval total ∣ k ∨ k = total := by
  rw [isDue, Bool.or_eq_true, decide_eq_true_iff, decide_eq_true_iff, Nat.dvd_iff_mod_eq_zero]

/-- **The due numbers** up to a given one. -/
theorem mem_dueUpTo {completed : ℕ} :
    k ∈ dueUpTo total completed ↔ 0 < k ∧ k ≤ completed ∧ (interval total ∣ k ∨ k = total) := by
  rw [dueUpTo, List.mem_filter, isDue_iff, List.mem_range'_1, Nat.add_comm 1, Nat.lt_succ_iff,
    and_assoc]
  rfl

/-- The due numbers are in ascending order. -/
theorem pairwise_dueUpTo (total completed : ℕ) : (dueUpTo total completed).Pairwise (· < ·) :=
  List.Pairwise.filter _ List.pairwise_lt_range'

/-- Among the first numbers there are as many multiples of another as it goes into the last one. -/
theorem length_filter_dvd (d m : ℕ) :
    ((List.range' 1 m).filter fun k => decide (d ∣ k)).length = m / d := by
  induction m with
  | zero => rw [Nat.zero_div]; rfl
  | succ m ih =>
    rw [List.range'_concat, List.filter_append, List.length_append, ih, Nat.one_mul, Nat.add_comm 1,
      List.filter_singleton, Nat.succ_div]
    by_cases multiple : d ∣ m + 1 <;> simp [multiple]

/-- **There are as many due numbers as intervals**, the last of which may be shorter than the
others. -/
theorem length_dueUpTo (pos : 0 < total) :
    (dueUpTo total total).length = total ⌈/⌉ interval total := by
  obtain ⟨m, rfl⟩ : ∃ m, total = m + 1 := ⟨total - 1, by omega⟩
  -- The last number is due in any case, and before it only multiples are.
  have before : dueUpTo (m + 1) m =
      (List.range' 1 m).filter fun k => decide (interval (m + 1) ∣ k) := by
    refine List.filter_congr fun k member => ?_
    have small := (List.mem_range'_1.1 member).2
    rw [Bool.eq_iff_iff, isDue_iff, decide_eq_true_iff, or_iff_left (by omega)]
  have last : isDue (m + 1) (m + 1) = true := isDue_iff.2 (.inr rfl)
  rw [dueUpTo_succ, if_pos last, List.length_append, before, length_filter_dvd,
    List.length_singleton, Nat.ceilDiv_eq_add_pred_div, Nat.add_right_comm, Nat.add_sub_cancel,
    Nat.add_div_right _ (interval_pos _)]

/-- There is a report. -/
theorem length_dueUpTo_pos (pos : 0 < total) : 0 < (dueUpTo total total).length :=
  List.length_pos_of_mem (mem_dueUpTo.2 ⟨pos, le_rfl, .inr rfl⟩)

/-- The last report is due when all orders are done. -/
theorem getLast?_dueUpTo (pos : 0 < total) : (dueUpTo total total).getLast? = some total := by
  obtain ⟨m, rfl⟩ : ∃ m, total = m + 1 := ⟨total - 1, by omega⟩
  have last : isDue (m + 1) (m + 1) = true := isDue_iff.2 (.inr rfl)
  rw [dueUpTo_succ, if_pos last, List.getLast?_concat]

/-- **There are at most ten reports.** -/
theorem length_dueUpTo_le (pos : 0 < total) : (dueUpTo total total).length ≤ 10 := by
  have parted : total ≤ 10 * (total ⌈/⌉ 10) := le_smul_ceilDiv (show 0 < 10 by decide)
  have interval : total ⌈/⌉ 10 ≤ interval total := Nat.le_max_right _ _
  rw [length_dueUpTo pos, ceilDiv_le_iff_le_mul (interval_pos total)]
  omega

/-- **There are ten reports** if the orders can be parted evenly. -/
theorem length_dueUpTo_eq (pos : 0 < total) (even : 10 ∣ total) :
    (dueUpTo total total).length = 10 := by
  obtain ⟨m, rfl⟩ := even
  have interval : interval (10 * m) = m := by
    have parted : (10 * m) ⌈/⌉ 10 = m := smul_ceilDiv (show 0 < 10 by decide) m
    rw [interval_eq, parted]
    omega
  rw [length_dueUpTo pos, interval, Nat.mul_comm]
  exact smul_ceilDiv (by omega) 10

end JoinOrder.Progress
