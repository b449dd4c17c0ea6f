/-
# Sessions Answer Rightly

Whatever has been asked before, a question is answered as if there were no memo.

Main statements: a question to a sound memo gets a right answer and leaves a sound memo
(`isAnsweredBy_ask`), and so does every question of a session that starts with an empty memo
(`askAll_answers`).
-/
import Mathlib.Data.List.Forall2
import JoinOrder.Connectivity.Checker
import JoinOrder.Proofs.Connectivity.Memo
import JoinOrder.Proofs.Connectivity.Walk

namespace JoinOrder

/-! ## What a right answer is -/

namespace JoinTree

/-- The two sides of every join of a tree, from the leaves up. -/
def joins : JoinTree → List (JoinTree × JoinTree)
  | leaf _ => []
  | join left right => left.joins ++ right.joins ++ [(left, right)]

/-- A tree is free of cross products exactly when every join at any depth is linked. -/
theorem crossProductFree_iff (conditions : ConditionSet) (tree : JoinTree) :
    tree.CrossProductFree conditions ↔ ∀ p ∈ tree.joins, Linked conditions p.1 p.2 := by
  induction tree with
  | leaf index => simp [CrossProductFree, joins]
  | join left right ihl ihr =>
    rw [CrossProductFree, ihl, ihr, joins]
    simp only [List.mem_append, List.mem_singleton]
    constructor
    · rintro ⟨hl, hr, h⟩ p ((hp | hp) | rfl)
      · exact hl p hp
      · exact hr p hp
      · exact h
    · intro h
      exact ⟨fun p hp => h p (.inl (.inl hp)), fun p hp => h p (.inl (.inr hp)),
        h _ (.inr rfl)⟩

end JoinTree

/-- The right answers to a question: the inputs are the set of the leaf indices in ascending order,
and a verdict is about pairs of leaves with a condition between them. -/
def Question.IsAnsweredBy (conditions : ConditionSet) : Question → Answer → Prop
  | inputs tree, .inputs tables =>
    tables.Pairwise (· < ·) ∧ ∀ table, table ∈ tables ↔ table ∈ tree.leaves
  | linked left right, .verdict holds =>
    holds = true ↔ ∃ a ∈ left.leaves, ∃ b ∈ right.leaves, .between a b ∈ conditions.toList
  | crossProductFree tree, .verdict holds =>
    holds = true ↔ ∀ p ∈ tree.joins, ∃ a ∈ p.1.leaves, ∃ b ∈ p.2.leaves,
      .between a b ∈ conditions.toList
  | forget, .forgotten => True
  | _, _ => False

/-! ## One question -/

variable {conditions : ConditionSet}

/-- A lifted program never fails. -/
theorem run_lift {α : Type} (program : Access α) (memo : Memo) :
    (ExceptT.lift program : ExceptT Error Access α).run.run memo =
      (.ok (program.run memo).1, (program.run memo).2) :=
  Access.run_bind program _ memo

/-- Two trees are linked exactly when a condition stands between leaves of theirs. -/
theorem linked_iff_mem (left right : JoinTree) :
    JoinTree.Linked conditions left right ↔
      ∃ a ∈ left.leaves, ∃ b ∈ right.leaves, .between a b ∈ conditions.toList := by
  simp only [JoinTree.Linked, ConditionSet.contains_iff_mem]

/-- **A question to a sound memo** gets a right answer, and the memo stays sound. -/
theorem isAnsweredBy_ask (question : Question) {memo : Memo} (sound : memo.Sound conditions) :
    (∃ answer, (question.ask conditions memo).1 = .ok answer ∧
      question.IsAnsweredBy conditions answer) ∧
      (question.ask conditions memo).2.Sound conditions := by
  cases question with
  | inputs tree =>
    obtain ⟨value, later⟩ := JoinTree.yields_lookUpInputs tree memo sound
    rw [Question.ask, JoinTree.askInputs_eq_lift, run_lift]
    refine ⟨⟨_, rfl, ?_⟩, later⟩
    rw [value]
    exact ⟨tree.pairwise_inputs, tree.mem_inputs⟩
  | linked left right =>
    obtain ⟨value, later⟩ := JoinTree.yields_lookUpLinked left right memo sound
    rw [Question.ask, JoinTree.askLinked_eq_lift, run_lift]
    refine ⟨⟨_, rfl, ?_⟩, later⟩
    rw [value, Question.IsAnsweredBy, decide_eq_true_iff]
    exact linked_iff_mem left right
  | crossProductFree tree =>
    obtain ⟨value, later⟩ := JoinTree.yields_checkCrossProducts tree memo sound
    rw [Question.ask, JoinTree.askCrossProductFree_eq_lift, run_lift]
    refine ⟨⟨_, rfl, ?_⟩, later⟩
    rw [value, Question.IsAnsweredBy, decide_eq_true_iff, JoinTree.crossProductFree_iff]
    simp only [linked_iff_mem]
  | forget => exact ⟨⟨.forgotten, rfl, trivial⟩, Memo.sound_empty conditions⟩

/-! ## A session -/

/-- A session keeps a sound memo sound. -/
theorem sound_askAll (questions : List Question) {memo : Memo} (sound : memo.Sound conditions) :
    (askAll conditions memo questions).2.Sound conditions := by
  induction questions generalizing memo with
  | nil => exact sound
  | cons question questions ih => exact ih (isAnsweredBy_ask question sound).2

/-- From a sound memo on, all answers are right. -/
theorem forall₂_askAll_of_sound (questions : List Question) {memo : Memo}
    (sound : memo.Sound conditions) :
    List.Forall₂
      (fun question result => ∃ answer, result = .ok answer ∧
        question.IsAnsweredBy conditions answer)
      questions (askAll conditions memo questions).1 := by
  induction questions generalizing memo with
  | nil => exact .nil
  | cons question questions ih =>
    -- The next question meets the memo that this one leaves.
    obtain ⟨answered, later⟩ := isAnsweredBy_ask question sound
    exact .cons answered (ih later)

/-- **Every question of a session succeeds and is answered rightly**, whatever trees were asked
about before and whenever the memo was emptied. -/
theorem askAll_answers (conditions : ConditionSet) (questions : List Question) :
    List.Forall₂
      (fun question result => ∃ answer, result = .ok answer ∧
        question.IsAnsweredBy conditions answer)
      questions (askAll conditions .empty questions).1 :=
  forall₂_askAll_of_sound questions (Memo.sound_empty conditions)

end JoinOrder
