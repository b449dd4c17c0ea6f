/-
# What a Check Asks

The check of a tree asks about its joins from the leaves up, as far as the first one that is not
linked.  Which joins these are depends on the tree alone, not on what is known.  A memo that has
seen some checks therefore holds the verdicts on exactly the joins asked about, and the inputs of
exactly their sides, whatever was taken from the memo and whatever was worked out.

Main statements: what look-ups ensure among others (`ensures_lookUpLinked`,
`ensures_checkCrossProducts`), and what a memo records determines its entries
(`Records.sameEntries`) and its size (`Records.inputSetCount_eq_card`,
`Records.verdictCount_eq_card`).
-/
import Mathlib.Data.Finset.Prod
import JoinOrder.Connectivity.Checker
import JoinOrder.Proofs.Connectivity.Interference
import JoinOrder.Proofs.Connectivity.Memo

namespace JoinOrder

open JoinTree

/-! ## Footprints -/

/-- The joins that the check of a tree asks about, in this order. -/
def JoinTree.asked (conditions : ConditionSet) : JoinTree → List (JoinTree × JoinTree)
  | leaf _ => []
  | join left right =>
    left.asked conditions ++
      if left.CrossProductFree conditions then
        right.asked conditions ++
          if right.CrossProductFree conditions then [(left, right)] else []
      else []

/-- The joins that the checks of some trees ask about. -/
def askedJoins (conditions : ConditionSet) (trees : List JoinTree) :
    Finset (JoinTree × JoinTree) :=
  (trees.flatMap (asked conditions)).toFinset

/-- The trees that are a side of some join. -/
def sides (joins : Finset (JoinTree × JoinTree)) : Finset JoinTree :=
  joins.image Prod.fst ∪ joins.image Prod.snd

variable {conditions : ConditionSet} {trees : Finset JoinTree}
  {joins : Finset (JoinTree × JoinTree)} {memo later : Memo} {left right tree : JoinTree}

theorem mem_askedJoins {checked : List JoinTree} {p : JoinTree × JoinTree} :
    p ∈ askedJoins conditions checked ↔ ∃ tree ∈ checked, p ∈ tree.asked conditions := by
  rw [askedJoins, List.mem_toFinset, List.mem_flatMap]

theorem sides_union (joins joins' : Finset (JoinTree × JoinTree)) :
    sides (joins ∪ joins') = sides joins ∪ sides joins' := by
  rw [sides, Finset.image_union, Finset.image_union, Finset.union_union_union_comm]
  rfl

theorem fst_mem_sides (h : (left, right) ∈ joins) : left ∈ sides joins :=
  Finset.mem_union_left _ (Finset.mem_image_of_mem Prod.fst h)

theorem snd_mem_sides (h : (left, right) ∈ joins) : right ∈ sides joins :=
  Finset.mem_union_right _ (Finset.mem_image_of_mem Prod.snd h)

/-! ## Memos within a footprint -/

/-- The memo holds nothing but inputs of the given trees and right verdicts on the given joins, and
with a verdict it holds the inputs of both sides. -/
structure Memo.Within (conditions : ConditionSet) (trees : Finset JoinTree)
    (joins : Finset (JoinTree × JoinTree)) (memo : Memo) : Prop where
  /-- Known inputs are those of a given tree. -/
  inputs : ∀ (digest : String) found, memo.inputSets[digest]? = some found →
    ∃ tree ∈ trees, tree.digest = digest ∧ found = tree.inputs
  /-- Known verdicts are right and about a given join. -/
  verdicts : ∀ (key : JoinKey) verdict, memo.verdicts[key]? = some verdict →
    ∃ p ∈ joins, joinKey p.1 p.2 = key ∧ verdict = decide (Linked conditions p.1 p.2)
  /-- The sides of a join with a known verdict have known inputs. -/
  sides : ∀ left right, joinKey left right ∈ memo.verdicts →
    left.digest ∈ memo.inputSets ∧ right.digest ∈ memo.inputSets

/-- The memo holds the inputs of all given trees and the verdicts on all given joins. -/
structure Memo.Covers (trees : Finset JoinTree) (joins : Finset (JoinTree × JoinTree))
    (memo : Memo) : Prop where
  /-- The inputs of the trees are known. -/
  inputs : ∀ tree ∈ trees, tree.digest ∈ memo.inputSets
  /-- The verdicts on the joins are known. -/
  verdicts : ∀ p ∈ joins, joinKey p.1 p.2 ∈ memo.verdicts

namespace Memo

theorem within_empty (conditions : ConditionSet) (trees : Finset JoinTree)
    (joins : Finset (JoinTree × JoinTree)) : Memo.empty.Within conditions trees joins where
  inputs := by simp [Memo.empty]
  verdicts := by simp [Memo.empty]
  sides := by simp [Memo.empty]

namespace Within

/-- What is within a footprint is within each larger one. -/
theorem mono (h : memo.Within conditions trees joins) {trees' : Finset JoinTree}
    {joins' : Finset (JoinTree × JoinTree)} (ht : trees ⊆ trees') (hj : joins ⊆ joins') :
    memo.Within conditions trees' joins' where
  inputs digest found known :=
    (h.inputs digest found known).imp fun _ about => ⟨ht about.1, about.2⟩
  verdicts key verdict known :=
    (h.verdicts key verdict known).imp fun _ about => ⟨hj about.1, about.2⟩
  sides := h.sides

/-- Known inputs of a tree are its inputs. -/
theorem eq_inputs (h : memo.Within conditions trees joins) {found : List ℕ}
    (known : memo.inputSets[tree.digest]? = some found) : found = tree.inputs := by
  obtain ⟨other, -, same, rfl⟩ := h.inputs _ _ known
  rw [digest_injective same]

/-- A known verdict on a join says whether it is linked. -/
theorem eq_linked (h : memo.Within conditions trees joins) {verdict : Bool}
    (known : memo.verdicts[joinKey left right]? = some verdict) :
    verdict = decide (Linked conditions left right) := by
  obtain ⟨p, -, same, rfl⟩ := h.verdicts _ _ known
  obtain ⟨rfl, rfl⟩ := joinKey_injective same
  rfl

/-- A known verdict on a join covers its sides. -/
theorem covers_sides (h : memo.Within conditions trees joins)
    (known : ∀ p ∈ joins, joinKey p.1 p.2 ∈ memo.verdicts) :
    memo.Covers (JoinOrder.sides joins) joins where
  inputs := by
    intro tree member
    rcases Finset.mem_union.1 member with side | side
    · obtain ⟨p, hp, rfl⟩ := Finset.mem_image.1 side
      exact (h.sides _ _ (known p hp)).1
    · obtain ⟨p, hp, rfl⟩ := Finset.mem_image.1 side
      exact (h.sides _ _ (known p hp)).2
  verdicts := known

/-- Remembering the inputs of a given tree adds an entry at most. -/
theorem insertInputs (h : memo.Within conditions trees joins) (member : tree ∈ trees) :
    Memo.Within conditions trees joins
        { memo with inputSets := memo.inputSets.insert tree.digest tree.inputs } ∧
      memo.Extends { memo with inputSets := memo.inputSets.insert tree.digest tree.inputs } := by
  refine ⟨⟨?_, h.verdicts, ?_⟩, ⟨?_, fun _ _ known => known⟩⟩
  · intro digest found known
    rw [Std.TreeMap.getElem?_insert] at known
    split at known
    · rename_i same
      exact ⟨tree, member, Std.LawfulEqOrd.eq_of_compare same, (Option.some.inj known).symm⟩
    · exact h.inputs digest found known
  · intro left right known
    obtain ⟨hl, hr⟩ := h.sides left right known
    exact ⟨Std.TreeMap.mem_insert.2 (.inr hl), Std.TreeMap.mem_insert.2 (.inr hr)⟩
  · intro digest found known
    rw [Std.TreeMap.getElem?_insert]
    split
    · rename_i same
      -- What was known about the digest is what is remembered once more.
      obtain rfl : tree.digest = digest := Std.LawfulEqOrd.eq_of_compare same
      rw [h.eq_inputs known]
    · exact known

/-- Remembering the verdict on a given join, both of whose sides have known inputs, adds an entry at
most. -/
theorem insertVerdict (h : memo.Within conditions trees joins) (member : (left, right) ∈ joins)
    (hl : left.digest ∈ memo.inputSets) (hr : right.digest ∈ memo.inputSets) :
    Memo.Within conditions trees joins
        { memo with
          verdicts := memo.verdicts.insert (joinKey left right)
            (decide (Linked conditions left right)) } ∧
      memo.Extends
        { memo with
          verdicts := memo.verdicts.insert (joinKey left right)
            (decide (Linked conditions left right)) } := by
  refine ⟨⟨h.inputs, ?_, ?_⟩, ⟨fun _ _ known => known, ?_⟩⟩
  · intro key verdict known
    rw [Std.TreeMap.getElem?_insert] at known
    split at known
    · rename_i same
      exact ⟨(left, right), member, Std.LawfulEqOrd.eq_of_compare same,
        (Option.some.inj known).symm⟩
    · exact h.verdicts key verdict known
  · intro l r known
    rcases Std.TreeMap.mem_insert.1 known with same | known
    · obtain ⟨rfl, rfl⟩ := joinKey_injective (Std.LawfulEqOrd.eq_of_compare same)
      exact ⟨hl, hr⟩
    · exact h.sides l r known
  · intro key verdict known
    rw [Std.TreeMap.getElem?_insert]
    split
    · rename_i same
      obtain rfl : joinKey left right = key := Std.LawfulEqOrd.eq_of_compare same
      rw [h.eq_linked known]
    · exact known

end Within

end Memo

/-! ## What look-ups ensure -/

/-- **Looking up the inputs of a given tree**, they come out right and are known afterwards. -/
theorem ensures_lookUpInputs (member : tree ∈ trees) :
    tree.lookUpInputs.Ensures (Memo.Within conditions trees joins)
      (fun found last => found = tree.inputs ∧ tree.digest ∈ last.inputSets) memo := by
  intro later _ within
  cases known : later.inputSets[tree.digest]? with
  | some found =>
    intro last grown _
    refine ⟨within.eq_inputs known, ?_⟩
    rw [Std.TreeMap.mem_iff_isSome_getElem?, grown.inputs _ _ known]
    rfl
  | none =>
    intro last _ within
    obtain ⟨kept, wrote⟩ := within.insertInputs member
    exact ⟨kept, wrote, fun final grown _ =>
      ⟨rfl, grown.mem_inputSets Std.TreeMap.mem_insert_self⟩⟩

/-- **Looking up the verdict on a given join**, it comes out right and is known afterwards. -/
theorem ensures_lookUpLinked (member : (left, right) ∈ joins) (known : sides joins ⊆ trees) :
    (lookUpLinked conditions left right).Ensures (Memo.Within conditions trees joins)
      (fun verdict last => verdict = decide (Linked conditions left right) ∧
        joinKey left right ∈ last.verdicts) memo := by
  intro later _ within
  cases found : later.verdicts[joinKey left right]? with
  | some verdict =>
    intro last grown _
    refine ⟨within.eq_linked found, ?_⟩
    rw [Std.TreeMap.mem_iff_isSome_getElem?, grown.verdicts _ _ found]
    rfl
  | none =>
    refine (ensures_lookUpInputs (known (fst_mem_sides member))).bind ?_
    rintro lefts afterLeft - - ⟨rfl, hl⟩
    refine (ensures_lookUpInputs (known (snd_mem_sides member))).bind ?_
    rintro rights afterRight grown - ⟨rfl, hr⟩
    rw [links_inputs_eq_decide]
    -- By now the inputs of both sides are known, and they still are when the verdict is written.
    intro last ext within
    obtain ⟨kept, wrote⟩ := within.insertVerdict member
      ((grown.trans ext).mem_inputSets hl) (ext.mem_inputSets hr)
    exact ⟨kept, wrote, fun final grown _ =>
      ⟨rfl, grown.mem_verdicts Std.TreeMap.mem_insert_self⟩⟩

/-- **Checking a tree whose joins are given as far as it asks about them**, the verdict comes out
right, and the verdicts on all these joins are known afterwards. -/
theorem ensures_checkCrossProducts (member : ∀ p ∈ tree.asked conditions, p ∈ joins)
    (known : sides joins ⊆ trees) :
    (tree.checkCrossProducts conditions).Ensures (Memo.Within conditions trees joins)
      (fun free last => free = decide (tree.CrossProductFree conditions) ∧
        ∀ p ∈ tree.asked conditions, joinKey p.1 p.2 ∈ last.verdicts) memo := by
  induction tree generalizing memo with
  | leaf index => exact fun last _ _ => ⟨rfl, by simp [asked]⟩
  | join left right ihl ihr =>
    rw [asked] at member ⊢
    rw [checkCrossProducts]
    refine (ihl fun p hp => member p (List.mem_append_left _ hp)).bind ?_
    rintro _ afterLeft - - ⟨rfl, askedLeft⟩
    by_cases hl : left.CrossProductFree conditions
    · rw [if_pos (decide_eq_true hl)]
      rw [if_pos hl] at member ⊢
      refine (ihr fun p hp =>
        member p (List.mem_append_right _ (List.mem_append_left _ hp))).bind ?_
      rintro _ afterRight grown - ⟨rfl, askedRight⟩
      by_cases hr : right.CrossProductFree conditions
      · rw [if_pos (decide_eq_true hr)]
        rw [if_pos hr] at member ⊢
        refine (ensures_lookUpLinked (member _ (by simp)) known).mono ?_
        rintro _ last ext ⟨rfl, settled⟩
        refine ⟨by simp [CrossProductFree, hl, hr], ?_⟩
        intro p hp
        rcases List.mem_append.1 hp with hp | hp
        · exact (grown.trans ext).mem_verdicts (askedLeft p hp)
        rcases List.mem_append.1 hp with hp | hp
        · exact ext.mem_verdicts (askedRight p hp)
        · obtain rfl := List.mem_singleton.1 hp
          exact settled
      · rw [decide_eq_false hr, if_neg Bool.false_ne_true, if_neg hr]
        intro last ext _
        refine ⟨by simp [CrossProductFree, hr], ?_⟩
        intro p hp
        rcases List.mem_append.1 hp with hp | hp
        · exact (grown.trans ext).mem_verdicts (askedLeft p hp)
        · exact ext.mem_verdicts (askedRight p (by simpa using hp))
    · rw [decide_eq_false hl, if_neg Bool.false_ne_true, if_neg hl]
      intro last ext _
      refine ⟨by simp [CrossProductFree, hl], ?_⟩
      intro p hp
      exact ext.mem_verdicts (askedLeft p (by simpa using hp))

/-! ## Memos that are filled -/

namespace Memo

/-- The memo holds the inputs of the given trees and the right verdicts on the given joins, and
nothing else. -/
structure Records (conditions : ConditionSet) (trees : Finset JoinTree)
    (joins : Finset (JoinTree × JoinTree)) (memo : Memo) : Prop where
  /-- There is nothing else. -/
  within : memo.Within conditions trees joins
  /-- There is nothing missing. -/
  covers : memo.Covers trees joins

/-- Two memos hold the same entries. -/
structure SameEntries (memo other : Memo) : Prop where
  /-- The inputs are the same. -/
  inputs : ∀ digest : String, memo.inputSets[digest]? = other.inputSets[digest]?
  /-- The verdicts are the same. -/
  verdicts : ∀ key : JoinKey, memo.verdicts[key]? = other.verdicts[key]?

namespace Records

/-- The known inputs are those of the given trees. -/
theorem getElem?_inputSets_eq_some_iff (h : memo.Records conditions trees joins) {digest : String}
    {found : List ℕ} :
    memo.inputSets[digest]? = some found ↔
      ∃ tree ∈ trees, tree.digest = digest ∧ found = tree.inputs := by
  constructor
  · exact h.within.inputs digest found
  · rintro ⟨tree, member, rfl, rfl⟩
    have known := h.covers.inputs tree member
    rw [Std.TreeMap.mem_iff_isSome_getElem?, Option.isSome_iff_exists] at known
    obtain ⟨found, known⟩ := known
    rw [known, h.within.eq_inputs known]

/-- The known verdicts are the right ones on the given joins. -/
theorem getElem?_verdicts_eq_some_iff (h : memo.Records conditions trees joins) {key : JoinKey}
    {verdict : Bool} :
    memo.verdicts[key]? = some verdict ↔
      ∃ p ∈ joins, joinKey p.1 p.2 = key ∧ verdict = decide (Linked conditions p.1 p.2) := by
  constructor
  · exact h.within.verdicts key verdict
  · rintro ⟨p, member, rfl, rfl⟩
    have known := h.covers.verdicts p member
    rw [Std.TreeMap.mem_iff_isSome_getElem?, Option.isSome_iff_exists] at known
    obtain ⟨verdict, known⟩ := known
    rw [known, h.within.eq_linked known]

/-- **The entries of a memo** are determined by what it records. -/
theorem sameEntries (h : memo.Records conditions trees joins)
    (h' : later.Records conditions trees joins) : memo.SameEntries later where
  inputs := by
    intro digest
    ext found
    rw [h.getElem?_inputSets_eq_some_iff, h'.getElem?_inputSets_eq_some_iff]
  verdicts := by
    intro key
    ext verdict
    rw [h.getElem?_verdicts_eq_some_iff, h'.getElem?_verdicts_eq_some_iff]

/-- The sides of the given joins are given trees, as their inputs are known. -/
theorem sides_subset (h : memo.Records conditions trees joins) : sides joins ⊆ trees := by
  intro tree side
  have known := (h.within.covers_sides h.covers.verdicts).inputs tree side
  rw [Std.TreeMap.mem_iff_isSome_getElem?, Option.isSome_iff_exists] at known
  obtain ⟨found, known⟩ := known
  obtain ⟨other, member, same, -⟩ := h.within.inputs _ _ known
  rwa [← digest_injective same]

/-- **A memo that has grown** within some more trees and joins records them too, if their inputs and
the verdicts on them have become known. -/
theorem of_extends (h : memo.Records conditions trees joins) (grown : memo.Extends later)
    {trees' : Finset JoinTree} {joins' : Finset (JoinTree × JoinTree)}
    (within : later.Within conditions (trees ∪ (trees' ∪ sides joins')) (joins ∪ joins'))
    (inputs : ∀ tree ∈ trees', tree.digest ∈ later.inputSets)
    (verdicts : ∀ p ∈ joins', joinKey p.1 p.2 ∈ later.verdicts) :
    later.Records conditions (trees ∪ (trees' ∪ sides joins')) (joins ∪ joins') := by
  have known : ∀ p ∈ joins ∪ joins', joinKey p.1 p.2 ∈ later.verdicts := by
    intro p member
    rcases Finset.mem_union.1 member with old | added
    · exact grown.mem_verdicts (h.covers.verdicts p old)
    · exact verdicts p added
  refine ⟨within, ⟨fun tree member => ?_, known⟩⟩
  rcases Finset.mem_union.1 member with old | added
  · exact grown.mem_inputSets (h.covers.inputs tree old)
  rcases Finset.mem_union.1 added with asked | side
  · exact inputs tree asked
  · exact (within.covers_sides known).inputs tree
      (sides_union joins joins' ▸ Finset.mem_union_right _ side)

/-- The digests with known inputs are those of the given trees. -/
theorem mem_inputSets (h : memo.Records conditions trees joins) {digest : String} :
    digest ∈ memo.inputSets ↔ ∃ tree ∈ trees, tree.digest = digest := by
  rw [Std.TreeMap.mem_iff_isSome_getElem?, Option.isSome_iff_exists]
  simp only [h.getElem?_inputSets_eq_some_iff]
  constructor
  · rintro ⟨found, tree, member, same, -⟩
    exact ⟨tree, member, same⟩
  · rintro ⟨tree, member, same⟩
    exact ⟨tree.inputs, tree, member, same, rfl⟩

/-- The keys with known verdicts are those of the given joins. -/
theorem mem_verdicts (h : memo.Records conditions trees joins) {key : JoinKey} :
    key ∈ memo.verdicts ↔ ∃ p ∈ joins, joinKey p.1 p.2 = key := by
  rw [Std.TreeMap.mem_iff_isSome_getElem?, Option.isSome_iff_exists]
  simp only [h.getElem?_verdicts_eq_some_iff]
  constructor
  · rintro ⟨verdict, p, member, same, -⟩
    exact ⟨p, member, same⟩
  · rintro ⟨p, member, same⟩
    exact ⟨decide (Linked conditions p.1 p.2), p, member, same, rfl⟩

end Records

end Memo

/-- A map whose keys are the images of a finite set, different members having different images, is
as large as the set. -/
theorem size_eq_card {α β γ : Type} [Ord β] [Std.TransOrd β] [Std.LawfulEqOrd β] [DecidableEq β]
    {map : Std.TreeMap β γ} {s : Finset α} (key : α → β) (injective : Function.Injective key)
    (keys : ∀ k, k ∈ map ↔ ∃ a ∈ s, key a = k) : map.size = s.card := by
  rw [← Std.TreeMap.length_keys, ← List.toFinset_card_of_nodup Std.TreeMap.nodup_keys,
    ← Finset.card_image_of_injective s injective]
  congr 1
  ext k
  rw [List.mem_toFinset, Std.TreeMap.mem_keys, keys, Finset.mem_image]

namespace Memo.Records

/-- **The number of known inputs** is that of the given trees. -/
theorem inputSetCount_eq_card (h : memo.Records conditions trees joins) :
    memo.inputSetCount = trees.card :=
  size_eq_card digest (fun _ _ same => digest_injective same) fun _ => h.mem_inputSets

/-- **The number of known verdicts** is that of the given joins. -/
theorem verdictCount_eq_card (h : memo.Records conditions trees joins) :
    memo.verdictCount = joins.card := by
  refine size_eq_card (fun p : JoinTree × JoinTree => joinKey p.1 p.2) ?_ fun _ => h.mem_verdicts
  intro p q same
  exact Prod.ext (joinKey_injective same).1 (joinKey_injective same).2

end Memo.Records

end JoinOrder
