/-
# What a Session Leaves Behind

The memo after a session holds the verdicts on the joins that were asked about since everything was
forgotten last, and the inputs of their sides and of the trees whose inputs were asked for.  A
question about a tree asks about its joins from the leaves up, as far as the first one that is not
linked.  What was known before and what had to be worked out makes no difference, and neither does
the order.

Main statements: the joins that a check asks about (`asked_eq_upToFailure`), one question
(`records_ask`), a session (`records_askAll`), and the sizes of the memo (`session_memo_sizes`).
-/
import Mathlib.Data.List.DropRight
import JoinOrder.Proofs.Connectivity.Footprint
import JoinOrder.Proofs.Connectivity.Session

namespace JoinOrder

open JoinTree

/-! ## Joins up to the first failure -/

section

variable {α : Type} {test : α → Bool} {xs : List α}

/-- The members of a list as far as the first one that fails a test, which is the last. -/
def upToFailure (test : α → Bool) : List α → List α
  | [] => []
  | x :: xs => if test x then x :: upToFailure test xs else [x]

/-- Where nothing fails, the list goes on. -/
theorem upToFailure_append_of_forall (h : ∀ x ∈ xs, test x = true) (ys : List α) :
    upToFailure test (xs ++ ys) = xs ++ upToFailure test ys := by
  induction xs with
  | nil => rfl
  | cons x xs ih =>
    rw [List.cons_append, upToFailure, if_pos (h x List.mem_cons_self),
      ih fun y hy => h y (List.mem_cons_of_mem x hy), List.cons_append]

/-- Where something fails, the rest of the list does not matter. -/
theorem upToFailure_append_of_not_forall (h : ¬∀ x ∈ xs, test x = true) (ys : List α) :
    upToFailure test (xs ++ ys) = upToFailure test xs := by
  induction xs with
  | nil => simp at h
  | cons x xs ih =>
    rw [List.cons_append, upToFailure, upToFailure]
    by_cases passed : test x = true
    · have later : ¬∀ y ∈ xs, test y = true := fun all => h (List.forall_mem_cons.2 ⟨passed, all⟩)
      rw [if_pos passed, if_pos passed, ih later]
    · rw [if_neg passed, if_neg passed]

theorem upToFailure_of_forall (h : ∀ x ∈ xs, test x = true) : upToFailure test xs = xs := by
  have all := upToFailure_append_of_forall h []
  rwa [List.append_nil, upToFailure, List.append_nil] at all

theorem upToFailure_singleton (test : α → Bool) (x : α) : upToFailure test [x] = [x] := by
  rw [upToFailure, upToFailure, ite_self]

end

variable {conditions : ConditionSet}

/-- Whether the two sides of a join are linked. -/
def isLinked (conditions : ConditionSet) (p : JoinTree × JoinTree) : Bool :=
  decide (Linked conditions p.1 p.2)

/-- A tree is free of cross products if none of its joins fails. -/
theorem crossProductFree_iff_isLinked (tree : JoinTree) :
    tree.CrossProductFree conditions ↔ ∀ p ∈ tree.joins, isLinked conditions p = true := by
  simp only [crossProductFree_iff, isLinked, decide_eq_true_iff]

/-- **The joins that a check asks about** are those of the tree from the leaves up, as far as the
first one that is not linked. -/
theorem asked_eq_upToFailure (tree : JoinTree) :
    tree.asked conditions = upToFailure (isLinked conditions) tree.joins := by
  induction tree with
  | leaf index => rfl
  | join left right ihl ihr =>
    rw [asked, joins, List.append_assoc, ihl, ihr]
    by_cases hl : left.CrossProductFree conditions
    · have free := (crossProductFree_iff_isLinked left).1 hl
      rw [if_pos hl, upToFailure_append_of_forall free, upToFailure_of_forall free]
      congr 1
      by_cases hr : right.CrossProductFree conditions
      · have free := (crossProductFree_iff_isLinked right).1 hr
        rw [if_pos hr, upToFailure_append_of_forall free, upToFailure_of_forall free,
          upToFailure_singleton]
      · rw [if_neg hr, List.append_nil,
          upToFailure_append_of_not_forall (mt (crossProductFree_iff_isLinked right).2 hr)]
    · rw [if_neg hl, List.append_nil,
        upToFailure_append_of_not_forall (mt (crossProductFree_iff_isLinked left).2 hl)]

/-! ## What is asked about -/

namespace Question

/-- The joins that a question is about: the join that it names, or those of the tree that it names
as far as the first one that is not linked. -/
def joins (conditions : ConditionSet) : Question → Finset (JoinTree × JoinTree)
  | linked left right => {(left, right)}
  | crossProductFree tree => (upToFailure (isLinked conditions) tree.joins).toFinset
  | inputs _ | forget => ∅

/-- The tree whose inputs a question asks for. -/
def trees : Question → Finset JoinTree
  | inputs tree => {tree}
  | linked _ _ | crossProductFree _ | forget => ∅

end Question

/-- The questions after the last one that makes everything be forgotten. -/
def sinceForgotten (questions : List Question) : List Question :=
  questions.rtakeWhile (· ≠ .forget)

/-- The joins that some questions are about. -/
def joinsOf (conditions : ConditionSet) (questions : List Question) :
    Finset (JoinTree × JoinTree) :=
  questions.toFinset.biUnion (Question.joins conditions)

/-- The trees whose inputs some questions ask for. -/
def treesOf (questions : List Question) : Finset JoinTree :=
  questions.toFinset.biUnion Question.trees

theorem joinsOf_concat (questions : List Question) (question : Question) :
    joinsOf conditions (questions ++ [question]) =
      joinsOf conditions questions ∪ question.joins conditions := by
  rw [joinsOf, List.toFinset_append, Finset.union_biUnion, List.toFinset_cons, List.toFinset_nil,
    insert_empty_eq, Finset.singleton_biUnion, joinsOf]

theorem treesOf_concat (questions : List Question) (question : Question) :
    treesOf (questions ++ [question]) = treesOf questions ∪ question.trees := by
  rw [treesOf, List.toFinset_append, Finset.union_biUnion, List.toFinset_cons, List.toFinset_nil,
    insert_empty_eq, Finset.singleton_biUnion, treesOf]

/-- What was asked before something is forgotten does not count, and all that was asked since
does. -/
theorem sinceForgotten_append (questions more : List Question) :
    sinceForgotten (questions ++ more) =
      if .forget ∈ more then sinceForgotten more else sinceForgotten questions ++ more := by
  induction more using List.reverseRecOn with
  | nil => simp
  | append_singleton more question ih =>
    rw [← List.append_assoc, sinceForgotten, List.rtakeWhile_concat, sinceForgotten,
      List.rtakeWhile_concat]
    by_cases last : question = .forget
    · simp [last]
    · have goesOn : sinceForgotten (questions ++ more) = _ := ih
      rw [sinceForgotten] at goesOn
      simp only [ne_eq, last, not_false_eq_true, decide_true, if_true, goesOn, List.mem_append,
        List.mem_singleton, Ne.symm last, or_false]
      split <;> simp [sinceForgotten]

/-! ## Questions and sessions -/

variable {memo : Memo} {trees : Finset JoinTree} {joins : Finset (JoinTree × JoinTree)}

theorem records_empty (conditions : ConditionSet) : Memo.empty.Records conditions ∅ ∅ where
  within := Memo.within_empty conditions ∅ ∅
  covers := ⟨by simp, by simp⟩

/-- **After one more question** the memo also holds what this one is about, and nothing else. -/
theorem records_ask {question : Question} (h : memo.Records conditions trees joins)
    (keeps : question ≠ .forget) :
    (question.ask conditions memo).2.Records conditions
      (trees ∪ (question.trees ∪ sides (question.joins conditions)))
      (joins ∪ question.joins conditions) := by
  have begun : memo.Within conditions
      (trees ∪ (question.trees ∪ sides (question.joins conditions)))
      (joins ∪ question.joins conditions) :=
    h.within.mono Finset.subset_union_left Finset.subset_union_left
  have known : sides (joins ∪ question.joins conditions) ⊆
      trees ∪ (question.trees ∪ sides (question.joins conditions)) := by
    rw [sides_union]
    exact Finset.union_subset_union h.sides_subset Finset.subset_union_right
  cases question with
  | inputs tree =>
    have member : tree ∈ trees ∪ (Question.trees (.inputs tree) ∪
        sides (Question.joins conditions (.inputs tree))) := by
      simp [Question.trees]
    obtain ⟨within, grown, -, found⟩ := (ensures_lookUpInputs member).run begun
    rw [Question.ask, askInputs_eq_lift, run_lift]
    refine h.of_extends grown within ?_ (by simp [Question.joins])
    intro other same
    rwa [Finset.mem_singleton.1 same]
  | linked left right =>
    obtain ⟨within, grown, -, found⟩ := (ensures_lookUpLinked
      (Finset.mem_union_right joins (Finset.mem_singleton_self (left, right))) known).run begun
    rw [Question.ask, askLinked_eq_lift, run_lift]
    refine h.of_extends grown within (by simp [Question.trees]) ?_
    intro p same
    rwa [Finset.mem_singleton.1 same]
  | crossProductFree tree =>
    have asked : ∀ p, p ∈ tree.asked conditions ↔
        p ∈ Question.joins conditions (.crossProductFree tree) := by
      intro p
      rw [asked_eq_upToFailure, Question.joins, List.mem_toFinset]
    obtain ⟨within, grown, -, found⟩ := (ensures_checkCrossProducts
      (fun p hp => Finset.mem_union_right joins ((asked p).1 hp)) known).run begun
    rw [Question.ask, askCrossProductFree_eq_lift, run_lift]
    exact h.of_extends grown within (by simp [Question.trees]) fun p hp => found p ((asked p).2 hp)
  | forget => exact absurd rfl keeps

/-- A session may be held in two parts. -/
theorem snd_askAll_append (questions more : List Question) :
    (askAll conditions memo (questions ++ more)).2 =
      (askAll conditions (askAll conditions memo questions).2 more).2 := by
  induction questions generalizing memo with
  | nil => rfl
  | cons question questions ih => exact ih

/-- **After a session** the memo holds what the questions since the last forgetting were about, and
nothing else. -/
theorem records_askAll (conditions : ConditionSet) (questions : List Question) :
    (askAll conditions .empty questions).2.Records conditions
      (treesOf (sinceForgotten questions) ∪ sides (joinsOf conditions (sinceForgotten questions)))
      (joinsOf conditions (sinceForgotten questions)) := by
  induction questions using List.reverseRecOn with
  | nil => exact records_empty conditions
  | append_singleton questions question ih =>
    rw [snd_askAll_append]
    by_cases forgets : question = .forget
    · have nothing : sinceForgotten (questions ++ [question]) = [] := by
        simp [sinceForgotten, forgets]
      rw [nothing, forgets]
      exact records_empty conditions
    · have onward : sinceForgotten (questions ++ [question]) =
          sinceForgotten questions ++ [question] := by
        simp [sinceForgotten, forgets]
      rw [onward, treesOf_concat, joinsOf_concat, sides_union, Finset.union_union_union_comm]
      exact records_ask ih forgets

/-! ## Sizes -/

/-- What was asked since the last forgetting is asked in another order, if questions between two
forgettings are. -/
theorem sinceForgotten_perm {block block' : List Question} (same : block.Perm block')
    (keeps : .forget ∉ block) (before after : List Question) :
    (sinceForgotten (before ++ block ++ after)).Perm
      (sinceForgotten (before ++ block' ++ after)) := by
  have keeps' : .forget ∉ block' := mt same.mem_iff.2 keeps
  rw [sinceForgotten_append, sinceForgotten_append (before ++ block')]
  split
  · exact List.Perm.refl _
  · rw [sinceForgotten_append, sinceForgotten_append, if_neg keeps, if_neg keeps']
    exact (same.append_left _).append_right after

/-- **The sizes of the memo** after a session are decided by what was asked since everything was
forgotten last.  There is a verdict for each join that was asked about, and inputs for each side of
such a join and for each tree whose inputs were asked for; so a verdict never comes without the
inputs of both sides, and the order of the questions between two forgettings does not matter. -/
theorem session_memo_sizes (conditions : ConditionSet) (questions : List Question) :
    let joins := joinsOf conditions (sinceForgotten questions)
    let memo := (askAll conditions .empty questions).2
    memo.verdictCount = joins.card ∧
    memo.inputSetCount = (treesOf (sinceForgotten questions) ∪ sides joins).card ∧
    (∀ key ∈ memo.verdicts, key.left ∈ memo.inputSets ∧ key.right ∈ memo.inputSets) ∧
    ∀ before block after block' : List Question, questions = before ++ block ++ after →
      .forget ∉ block → block.Perm block' →
      (askAll conditions .empty (before ++ block' ++ after)).2.verdictCount = memo.verdictCount ∧
      (askAll conditions .empty (before ++ block' ++ after)).2.inputSetCount =
        memo.inputSetCount := by
  have records := records_askAll conditions questions
  refine ⟨records.verdictCount_eq_card, records.inputSetCount_eq_card, ?_, ?_⟩
  · intro key known
    obtain ⟨p, -, rfl⟩ := records.mem_verdicts.1 known
    exact records.within.sides _ _ known
  · rintro before block after block' rfl keeps same
    have reordered := records_askAll conditions (before ++ block' ++ after)
    have asked : (sinceForgotten (before ++ block' ++ after)).toFinset =
        (sinceForgotten (before ++ block ++ after)).toFinset :=
      List.toFinset_eq_of_perm _ _ (sinceForgotten_perm same keeps before after).symm
    rw [treesOf, joinsOf, asked] at reordered
    exact ⟨reordered.verdictCount_eq_card.trans records.verdictCount_eq_card.symm,
      reordered.inputSetCount_eq_card.trans records.inputSetCount_eq_card.symm⟩

/-- A tree fails at its first join, so its root is not asked about; then everything is forgotten,
and a tree without a failure is asked about, one of its joins again, and the inputs of a table that
is in none of them. -/
theorem session_memo_sizes_after_forgetting :
    let conditions := ConditionSet.ofPairs [(0, 1), (1, 2)]
    let failing := JoinTree.join (.join (.leaf 0) (.leaf 2)) (.leaf 1)
    let free := JoinTree.join (.join (.leaf 0) (.leaf 1)) (.leaf 2)
    let once := (askAll conditions .empty [.crossProductFree failing]).2
    let memo := (askAll conditions .empty
      [.crossProductFree failing, .forget, .crossProductFree free, .linked (.leaf 0) (.leaf 1),
        .inputs (.leaf 7)]).2
    let reordered := (askAll conditions .empty
      [.crossProductFree failing, .forget, .inputs (.leaf 7), .crossProductFree free,
        .linked (.leaf 0) (.leaf 1)]).2
    once.verdictCount = 1 ∧ once.inputSetCount = 2 ∧ memo.verdictCount = 2 ∧
      memo.inputSetCount = 5 ∧ reordered.verdictCount = 2 ∧ reordered.inputSetCount = 5 ∧
      ((JoinTree.leaf 0).joinKey (.leaf 1) ∈ memo.verdicts → "0" ∈ memo.inputSets) := by
  intro conditions failing free once memo reordered
  obtain ⟨verdicts, inputSets, -, -⟩ := session_memo_sizes conditions [.crossProductFree failing]
  obtain ⟨verdicts', inputSets', sided, anyOrder⟩ := session_memo_sizes conditions
    [.crossProductFree failing, .forget, .crossProductFree free, .linked (.leaf 0) (.leaf 1),
      .inputs (.leaf 7)]
  obtain ⟨same, same'⟩ := anyOrder [.crossProductFree failing, .forget]
    [.crossProductFree free, .linked (.leaf 0) (.leaf 1), .inputs (.leaf 7)] []
    [.inputs (.leaf 7), .crossProductFree free, .linked (.leaf 0) (.leaf 1)] rfl (by decide)
    (by decide)
  have two : memo.verdictCount = 2 := verdicts'.trans (by decide)
  have five : memo.inputSetCount = 5 := inputSets'.trans (by decide)
  exact ⟨verdicts.trans (by decide), inputSets.trans (by decide), two, five, same.trans two,
    same'.trans five, fun known => (sided _ known).1⟩

end JoinOrder
