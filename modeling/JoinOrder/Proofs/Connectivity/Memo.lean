/-
# Sound Memos

A memo is sound for a set of conditions when every entry is what would be worked out afresh.  The
entries stand under digests, so soundness rests on digests being injective.

Main statements: on every sound memo the look-ups end with the right value and leave a sound memo
(`yields_lookUpInputs`, `yields_lookUpLinked`, `yields_checkCrossProducts`).
-/
import JoinOrder.Connectivity.Checker
import JoinOrder.Tree.Digest

namespace JoinOrder

open JoinTree

/-- Every entry of the memo is right for the trees whose digests it stands under. -/
structure Memo.Sound (conditions : ConditionSet) (memo : Memo) : Prop where
  /-- Known inputs are the inputs. -/
  inputs : ∀ (tree : JoinTree) found, memo.inputSets[tree.digest]? = some found →
    found = tree.inputs
  /-- A known verdict says whether the sides are linked. -/
  verdicts : ∀ (left right : JoinTree) verdict, memo.verdicts[joinKey left right]? = some verdict →
    verdict = decide (Linked conditions left right)

variable {conditions : ConditionSet} {memo : Memo} {α β : Type}

/-! ## What keeps a memo sound -/

theorem Memo.sound_empty (conditions : ConditionSet) : Memo.empty.Sound conditions where
  inputs := by simp [Memo.empty]
  verdicts := by simp [Memo.empty]

/-- Two joins with one key are the same join. -/
theorem joinKey_injective {l r l' r' : JoinTree} (h : joinKey l r = joinKey l' r') :
    l = l' ∧ r = r' := by
  rw [joinKey, joinKey, JoinKey.mk.injEq] at h
  exact ⟨digest_injective h.1, digest_injective h.2⟩

/-- Remembering the inputs of a tree keeps a memo sound, since no other tree has its digest. -/
theorem Memo.Sound.insertInputs (h : memo.Sound conditions) (tree : JoinTree) :
    Memo.Sound conditions
      { memo with inputSets := memo.inputSets.insert tree.digest tree.inputs } where
  inputs := by
    intro other found known
    rw [Std.TreeMap.getElem?_insert] at known
    split at known
    · rename_i same
      have : tree = other := digest_injective (Std.LawfulEqOrd.eq_of_compare same)
      rw [← this]
      exact (Option.some.inj known).symm
    · exact h.inputs other found known
  verdicts := h.verdicts

/-- Remembering the right verdict on a join keeps a memo sound. -/
theorem Memo.Sound.insertVerdict (h : memo.Sound conditions) (left right : JoinTree) :
    Memo.Sound conditions
      { memo with
        verdicts := memo.verdicts.insert (joinKey left right)
          (decide (Linked conditions left right)) } where
  inputs := h.inputs
  verdicts := by
    intro l r verdict known
    rw [Std.TreeMap.getElem?_insert] at known
    split at known
    · rename_i same
      obtain ⟨rfl, rfl⟩ := joinKey_injective (Std.LawfulEqOrd.eq_of_compare same)
      exact (Option.some.inj known).symm
    · exact h.verdicts l r verdict known

/-! ## What a program yields -/

/-- On every sound memo the program ends with the given value and leaves a sound memo. -/
def Access.Yields (conditions : ConditionSet) (program : Access α) (value : α) : Prop :=
  ∀ memo : Memo, memo.Sound conditions →
    (program.run memo).1 = value ∧ (program.run memo).2.Sound conditions

namespace Access

theorem yields_pure (value : α) : Yields conditions (pure value) value :=
  fun _ sound => ⟨rfl, sound⟩

/-- One program after another yields what the second one does with the value of the first. -/
theorem Yields.bind {program : Access α} {f : α → Access β} {a : α} {b : β}
    (first : Yields conditions program a) (second : Yields conditions (f a) b) :
    Yields conditions (program >>= f) b := by
  intro memo sound
  obtain ⟨value, later⟩ := first memo sound
  have run : (program >>= f).run memo = (f (program.run memo).1).run (program.run memo).2 :=
    run_bind program f memo
  rw [run, value]
  exact second _ later

end Access

namespace JoinTree

/-- **The inputs come out right**, known or not. -/
theorem yields_lookUpInputs (tree : JoinTree) :
    Access.Yields conditions tree.lookUpInputs tree.inputs := by
  intro memo sound
  rw [lookUpInputs, Access.run]
  cases known : memo.inputSets[tree.digest]? with
  | some found => exact ⟨sound.inputs tree found known, sound⟩
  | none => exact ⟨rfl, sound.insertInputs tree⟩

/-- **The verdict on a join comes out right**, known or not. -/
theorem yields_lookUpLinked (left right : JoinTree) :
    Access.Yields conditions (lookUpLinked conditions left right)
      (decide (Linked conditions left right)) := by
  intro memo sound
  rw [lookUpLinked, Access.run]
  cases known : memo.verdicts[joinKey left right]? with
  | some verdict => exact ⟨sound.verdicts left right verdict known, sound⟩
  | none =>
    have settle : Access.Yields conditions
        (Access.writeVerdict (joinKey left right) (conditions.links left.inputs right.inputs)
          (.done (conditions.links left.inputs right.inputs)))
        (decide (Linked conditions left right)) := by
      intro memo sound
      rw [links_inputs_eq_decide]
      exact ⟨rfl, sound.insertVerdict left right⟩
    -- The inputs of both sides are looked up before the verdict is written.
    exact (yields_lookUpInputs left).bind ((yields_lookUpInputs right).bind settle) memo sound

/-- **The verdict on a tree comes out right**, whatever is known. -/
theorem yields_checkCrossProducts (tree : JoinTree) :
    Access.Yields conditions (tree.checkCrossProducts conditions)
      (decide (tree.CrossProductFree conditions)) := by
  induction tree with
  | leaf index => exact Access.yields_pure true
  | join left right ihl ihr =>
    rw [checkCrossProducts]
    -- A side that is not free settles the verdict, and what comes after it is not looked up.
    refine ihl.bind ?_
    by_cases hl : left.CrossProductFree conditions
    · rw [if_pos (decide_eq_true hl)]
      refine ihr.bind ?_
      by_cases hr : right.CrossProductFree conditions
      · have whole : decide ((join left right).CrossProductFree conditions) =
            decide (Linked conditions left right) := by
          simp [CrossProductFree, hl, hr]
        rw [if_pos (decide_eq_true hr), whole]
        exact yields_lookUpLinked left right
      · have whole : decide ((join left right).CrossProductFree conditions) = false := by
          simp [CrossProductFree, hr]
        rw [decide_eq_false hr, whole]
        exact Access.yields_pure false
    · have whole : decide ((join left right).CrossProductFree conditions) = false := by
        simp [CrossProductFree, hl]
      rw [decide_eq_false hl, whole]
      exact Access.yields_pure false

end JoinTree

end JoinOrder
