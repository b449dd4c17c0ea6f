/-
# Mirrored Trees

The two sides of a join may change places.  A tree in which the sides of some joins have done so has
other digests and another order of look-ups, but the same tables on the sides of its joins, so a
check comes to the same verdict, whatever was asked before.

Since every tree with `n` leaves has `n - 1` joins, the trees without a cross product come in groups
of `2 ^ (n - 1)`, which differ from each other in the places of sides only.

Main statements: mirroring keeps freedom from cross products (`crossProductFree_mirror`), the number
of trees is divided by the power of two (`pow_dvd_planCount`), and both together about questions and
counts (`mirroring_keeps_verdicts`).
-/
import JoinOrder.Proofs.Connectivity.Session
import JoinOrder.Proofs.Counting.Sweep
import JoinOrder.Tree.Way

namespace JoinOrder

/-! ## Mirroring -/

namespace JoinTree

/-- The tree with the sides of the chosen joins in each other's place.  A join is named by the way
to it in the tree as it was. -/
def mirror (chosen : Way → Bool) : JoinTree → JoinTree
  | leaf index => leaf index
  | join left right =>
    let left := left.mirror fun way => chosen (.left :: way)
    let right := right.mirror fun way => chosen (.right :: way)
    if chosen [] then join right left else join left right

@[simp] theorem mirror_leaf (chosen : Way → Bool) (index : ℕ) :
    (leaf index).mirror chosen = leaf index := rfl

theorem mirror_join (chosen : Way → Bool) (left right : JoinTree) :
    (join left right).mirror chosen =
      if chosen [] then
        join (right.mirror fun way => chosen (.right :: way))
          (left.mirror fun way => chosen (.left :: way))
      else
        join (left.mirror fun way => chosen (.left :: way))
          (right.mirror fun way => chosen (.right :: way)) := rfl

/-- Mirroring moves leaves about and keeps each of them. -/
theorem leaves_mirror_perm (chosen : Way → Bool) (tree : JoinTree) :
    (tree.mirror chosen).leaves.Perm tree.leaves := by
  induction tree generalizing chosen with
  | leaf index => exact List.Perm.refl _
  | join left right ihl ihr =>
    rw [mirror_join]
    split
    · exact List.perm_append_comm.trans ((ihl _).append (ihr _))
    · exact (ihl _).append (ihr _)

variable {conditions : ConditionSet}

/-- Whether two trees are linked depends on their leaves only. -/
theorem linked_congr {left right left' right' : JoinTree} (hl : left'.leaves.Perm left.leaves)
    (hr : right'.leaves.Perm right.leaves) :
    Linked conditions left' right' ↔ Linked conditions left right := by
  simp only [Linked, hl.mem_iff, hr.mem_iff]

/-- **Mirroring keeps freedom from cross products**, whatever joins are chosen. -/
theorem crossProductFree_mirror (chosen : Way → Bool) (tree : JoinTree) :
    (tree.mirror chosen).CrossProductFree conditions ↔ tree.CrossProductFree conditions := by
  induction tree generalizing chosen with
  | leaf index => rfl
  | join left right ihl ihr =>
    have linked : Linked conditions (left.mirror fun way => chosen (.left :: way))
        (right.mirror fun way => chosen (.right :: way)) ↔ Linked conditions left right :=
      linked_congr (leaves_mirror_perm _ left) (leaves_mirror_perm _ right)
    rw [mirror_join]
    split
    · rw [CrossProductFree, CrossProductFree, ihl, ihr, linked_comm, linked, and_left_comm]
    · rw [CrossProductFree, CrossProductFree, ihl, ihr, linked]

end JoinTree

/-! ## Questions -/

variable {conditions : ConditionSet} {memo : Memo}

/-- What a question about a tree is answered. -/
theorem ask_crossProductFree (sound : memo.Sound conditions) (tree : JoinTree) :
    ((Question.crossProductFree tree).ask conditions memo).1 =
      .ok (.verdict (decide (tree.CrossProductFree conditions))) := by
  rw [Question.ask, JoinTree.askCrossProductFree_eq_lift, run_lift,
    (JoinTree.yields_checkCrossProducts tree memo sound).1]
  rfl

/-- What a question about a join is answered. -/
theorem ask_linked (sound : memo.Sound conditions) (left right : JoinTree) :
    ((Question.linked left right).ask conditions memo).1 =
      .ok (.verdict (decide (JoinTree.Linked conditions left right))) := by
  rw [Question.ask, JoinTree.askLinked_eq_lift, run_lift,
    (JoinTree.yields_lookUpLinked left right memo sound).1]
  rfl

/-! ## Counts -/

/-- **The trees over a set come in groups**: their number is divided by two for each join. -/
theorem pow_dvd_planCount (conditions : ConditionSet) (s : Finset ℕ) :
    2 ^ (s.card - 1) ∣ planCount conditions s := by
  induction n : s.card using Nat.strong_induction_on generalizing s with
  | _ n ih =>
    subst n
    by_cases small : s.card ≤ 1
    · rw [Nat.sub_eq_zero_of_le small, Nat.pow_zero]
      exact Nat.one_dvd _
    · obtain ⟨root, hr⟩ : s.Nonempty := Finset.card_pos.1 (by omega)
      have halves : s.card - 1 = (s.card - 2) + 1 := by omega
      rw [planCount_eq_two_mul_sum (by omega) hr, halves, Nat.pow_succ, Nat.mul_comm]
      -- The root of a tree accounts for one factor, and the joins of both parts for the others.
      refine Nat.mul_dvd_mul_left 2 (Finset.dvd_sum fun p member => ?_)
      have cut := (Finset.mem_filter.1 member).1
      obtain ⟨left, right⟩ := card_lt_of_mem_splits cut
      obtain ⟨nonempty, nonempty', apart, whole⟩ := mem_splits.1 cut
      have joins : s.card - 2 = (p.1.card - 1) + (p.2.card - 1) := by
        have := nonempty.card_pos
        have := nonempty'.card_pos
        rw [← whole, Finset.card_union_of_disjoint apart]
        omega
      rw [joins, Nat.pow_add]
      exact Nat.mul_dvd_mul (ih _ left p.1 rfl) (ih _ right p.2 rfl)

/-- **Mirroring changes no verdict.**  A tree and the tree with any of its joins mirrored are both
free of cross products or both not, and a join and its mirror image are both linked or both not,
whatever was asked before on either memo.  Hence the count of a graph with tables is divided by two
as often as its trees have joins. -/
theorem mirroring_keeps_verdicts :
    (∀ (conditions : ConditionSet) (before before' : List Question),
      (∀ (tree : JoinTree) (chosen : Way → Bool), ∃ free,
        ((Question.crossProductFree tree).ask conditions
          (askAll conditions .empty before).2).1 = .ok (.verdict free) ∧
        ((Question.crossProductFree (tree.mirror chosen)).ask conditions
          (askAll conditions .empty before').2).1 = .ok (.verdict free)) ∧
      ∀ left right : JoinTree, ∃ linked,
        ((Question.linked left right).ask conditions
          (askAll conditions .empty before).2).1 = .ok (.verdict linked) ∧
        ((Question.linked right left).ask conditions
          (askAll conditions .empty before').2).1 = .ok (.verdict linked)) ∧
    ∀ (graph : JoinGraph) (settings : Settings) (c : ℕ),
      graph.count settings = .ok c → 2 ^ (graph.size - 1) ∣ c := by
  refine ⟨fun conditions before before' => ?_, fun graph settings c counted => ?_⟩
  · have sound := sound_askAll before (Memo.sound_empty conditions)
    have sound' := sound_askAll before' (Memo.sound_empty conditions)
    refine ⟨fun tree chosen => ⟨_, ask_crossProductFree sound tree, ?_⟩,
      fun left right => ⟨_, ask_linked sound left right, ?_⟩⟩
    · rw [ask_crossProductFree sound', decide_eq_decide.2 (JoinTree.crossProductFree_mirror _ tree)]
    · rw [ask_linked sound', decide_eq_decide.2 (JoinTree.linked_comm conditions right left)]
  · have divides := pow_dvd_planCount graph.conditions (Finset.range graph.size)
    rwa [Finset.card_range, ← eq_planCount_of_count counted] at divides

/-- Three tables in a row: both joins of a tree are mirrored after the tree itself was asked about,
and the trees of the row come in groups of four. -/
theorem mirroring_keeps_verdicts_three_in_a_row :
    ∃ (graph : JoinGraph) (tree mirrored : JoinTree) (free : Bool),
      (JoinGraph.empty.registerAll [.condition "A" "B", .condition "B" "C"]).1 = graph ∧
      tree = .join (.join (.leaf 0) (.leaf 1)) (.leaf 2) ∧
      mirrored = .join (.leaf 2) (.join (.leaf 1) (.leaf 0)) ∧
      ((Question.crossProductFree tree).ask graph.conditions
        (askAll graph.conditions .empty []).2).1 = .ok (.verdict free) ∧
      ((Question.crossProductFree mirrored).ask graph.conditions
        (askAll graph.conditions .empty [.crossProductFree tree]).2).1 = .ok (.verdict free) ∧
      graph.count .standard = .ok 8 ∧ 2 ^ 2 ∣ 8 := by
  have counted : (JoinGraph.empty.registerAll
      [.condition "A" "B", .condition "B" "C"]).1.count .standard = .ok 8 := by
    decide +kernel
  obtain ⟨free, answer, answer'⟩ := (mirroring_keeps_verdicts.1
    (JoinGraph.empty.registerAll [.condition "A" "B", .condition "B" "C"]).1.conditions []
    [.crossProductFree (.join (.join (.leaf 0) (.leaf 1)) (.leaf 2))]).1
    (.join (.join (.leaf 0) (.leaf 1)) (.leaf 2)) fun way => way = [] ∨ way = [.left]
  exact ⟨_, _, _, free, rfl, rfl, rfl, answer, answer', counted,
    mirroring_keeps_verdicts.2 _ _ _ counted⟩

end JoinOrder
