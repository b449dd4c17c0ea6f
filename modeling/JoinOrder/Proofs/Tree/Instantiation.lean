/-
# Instantiation Is Substitution

Instantiating a template replaces its leaves and keeps its joins.  It fails at the first leaf from
the left that the order has no table for, whatever the leaves behind it are, and otherwise not at
all.  Instantiating twice is instantiating once, with the tables of the first order looked up in the
second.

Main statements: the failure (`instantiate_eq_error`), the result as a whole
(`instantiate_eq_match`), trees that hold their digests (`AnnotatedTree.map_tree_instantiate`,
`AnnotatedTree.isExact_of_instantiate`), instantiating twice (`instantiate_bind_instantiate`), and
all of it together (`instantiation_is_substitution`).
-/
import Mathlib.Data.List.GetD
import JoinOrder.Proofs.Counting.Renaming
import JoinOrder.Proofs.SearchSpace.Size
import JoinOrder.Tree.Instantiate

namespace JoinOrder

namespace JoinTree

variable {template plan : JoinTree} {order : List ℕ}

/-! ## Relabelled trees -/

/-- Relabelling keeps the joins. -/
theorem skeleton_relabel (f : ℕ → ℕ) (tree : JoinTree) :
    (tree.relabel f).skeleton = tree.skeleton := by
  induction tree with
  | leaf index => rfl
  | join left right ihl ihr => rw [relabel, skeleton, ihl, ihr, skeleton]

/-- What other numbers would be replaced by does not matter. -/
theorem relabel_congr {f g : ℕ → ℕ} {tree : JoinTree} (h : ∀ a ∈ tree.leaves, f a = g a) :
    tree.relabel f = tree.relabel g := by
  refine eq_of_skeleton_eq ?_ ?_
  · rw [skeleton_relabel, skeleton_relabel]
  · rw [leaves_relabel, leaves_relabel]
    exact List.map_congr_left h

/-! ## Failure -/

/-- The order has a table for each slot if there is none that it has none for. -/
theorem find?_slots_eq_none_iff :
    template.leaves.find? (order.length ≤ ·) = none ↔
      ∀ slot ∈ template.leaves, slot < order.length := by
  simp [List.find?_eq_none]

/-- **The leftmost slot without a table is reported.** -/
theorem instantiate_eq_error {slot : ℕ}
    (h : template.leaves.find? (order.length ≤ ·) = some slot) :
    template.instantiate order = .error (.slotOutsideOrder slot order.length) := by
  induction template with
  | leaf index =>
    obtain ⟨outside, rfl⟩ : order.length ≤ index ∧ index = slot := by simpa using h
    rw [instantiate_leaf, List.getElem?_eq_none outside]
  | join left right ihl ihr =>
    rw [leaves_join, List.find?_append] at h
    rw [instantiate_join]
    cases first : left.leaves.find? (order.length ≤ ·) with
    | some other =>
      rw [first, Option.some_or, Option.some.injEq] at h
      rw [ihl (first.trans (congrArg some h))]
      rfl
    | none =>
      -- The left side is instantiated, so the failure is that of the right side.
      rw [first, Option.none_or] at h
      rw [instantiate_eq_ok (find?_slots_eq_none_iff.1 first), ihr h]
      rfl

/-- **What instantiation gives**: a relabelled tree, or a report on the leftmost slot without a
table. -/
theorem instantiate_eq_match (template : JoinTree) (order : List ℕ) :
    template.instantiate order =
      match template.leaves.find? (order.length ≤ ·) with
      | none => .ok (template.relabel fun slot => order.getD slot 0)
      | some slot => .error (.slotOutsideOrder slot order.length) := by
  split
  · rename_i none
    exact instantiate_eq_ok (find?_slots_eq_none_iff.1 none)
  · rename_i slot first
    exact instantiate_eq_error first

/-- A template is instantiated exactly if the order has a table for each slot. -/
theorem instantiate_eq_ok_iff :
    template.instantiate order = .ok plan ↔ (∀ slot ∈ template.leaves, slot < order.length) ∧
      (template.relabel fun slot => order.getD slot 0) = plan := by
  rw [instantiate_eq_match, ← find?_slots_eq_none_iff]
  cases template.leaves.find? (order.length ≤ ·) <;> simp

/-! ## Instantiating twice -/

/-- **Instantiating twice is instantiating once**, with the tables of the first order looked up in
the second. -/
theorem instantiate_bind_instantiate {p q : List ℕ}
    (slots : ∀ slot ∈ template.leaves, slot < p.length)
    (inside : ∀ i ∈ p, i < q.length) :
    (template.instantiate p >>= fun plan => plan.instantiate q) =
      template.instantiate (p.pmap (fun i (known : i < q.length) => q[i]) inside) := by
  have between : ∀ slot ∈ (template.relabel fun slot => p.getD slot 0).leaves, slot < q.length := by
    intro table member
    rw [leaves_relabel, List.mem_map] at member
    obtain ⟨slot, among, rfl⟩ := member
    rw [List.getD_eq_getElem _ _ (slots slot among)]
    exact inside _ (List.getElem_mem _)
  have slots' : ∀ slot ∈ template.leaves,
      slot < (p.pmap (fun i (known : i < q.length) => q[i]) inside).length := by
    rwa [List.length_pmap]
  rw [instantiate_eq_ok slots, instantiate_eq_ok slots']
  show (template.relabel _).instantiate q = _
  rw [instantiate_eq_ok between, relabel_relabel]
  congr 1
  refine relabel_congr fun slot among => ?_
  rw [Function.comp_apply, List.getD_eq_getElem _ _ (slots slot among),
    List.getD_eq_getElem _ _ (slots' slot among), List.getElem_pmap, List.getD_eq_getElem]

end JoinTree

/-! ## Digests -/

namespace AnnotatedTree

variable {annotated built : AnnotatedTree} {order : List ℕ}

/-- **A tree that holds its digests is instantiated like any other.** -/
theorem map_tree_instantiate (annotated : AnnotatedTree) (order : List ℕ) :
    (annotated.instantiate order).map tree = annotated.tree.instantiate order := by
  induction annotated with
  | leaf slot digest =>
    rw [instantiate, tree, JoinTree.instantiate_leaf]
    cases order[slot]? <;> rfl
  | join left right digest ihl ihr =>
    rw [instantiate, tree, JoinTree.instantiate_join, ← ihl, ← ihr]
    cases left.instantiate order with
    | error e => rfl
    | ok l => cases right.instantiate order <;> rfl

/-- **The new tree holds the digests of its own nodes**, whatever the template held. -/
theorem isExact_of_instantiate (made : annotated.instantiate order = .ok built) :
    built.IsExact := by
  induction annotated generalizing built with
  | leaf slot digest =>
    rw [instantiate] at made
    cases table : order[slot]? with
    | none =>
      rw [table] at made
      cases made
    | some id =>
      rw [table] at made
      cases made
      exact isExact_ofIndex id
  | join left right digest ihl ihr =>
    rw [instantiate] at made
    cases first : left.instantiate order with
    | error e =>
      rw [first] at made
      cases made
    | ok l =>
      cases second : right.instantiate order with
      | error e =>
        rw [first, second] at made
        cases made
      | ok r =>
        rw [first, second] at made
        cases made
        exact isExact_ofSides (ihl first) (ihr second)

end AnnotatedTree

/-! ## Substitution -/

/-- **Instantiation is substitution.**  It succeeds if and only if the order has a table for each
slot of the template; then the joins are kept and each leaf is the table of its slot.  Otherwise the
leftmost slot without a table is reported, with the length of the order.  Trees that hold their
digests are instantiated alike, and each node of the new tree holds its own.  If the tables of one
order are slots of another, then instantiating by the one and then by the other is instantiating by
the tables of these slots. -/
theorem instantiation_is_substitution :
    (∀ (template : JoinTree) (order : List ℕ),
      ((∃ plan, template.instantiate order = .ok plan) ↔
        ∀ slot ∈ template.leaves, slot < order.length) ∧
      (∀ plan, template.instantiate order = .ok plan → plan.skeleton = template.skeleton ∧
        List.Forall₂ (fun slot table => order[slot]? = some table) template.leaves plan.leaves) ∧
      ∀ e, template.instantiate order = .error e →
        ∃ slot, template.leaves.find? (order.length ≤ ·) = some slot ∧
          e = .invalidOperation ("Template slot " ++ slot.repr ++ " is outside an order of " ++
            order.length.repr ++ " tables")) ∧
    (∀ (annotated : AnnotatedTree) (order : List ℕ),
      (annotated.instantiate order).map AnnotatedTree.tree = annotated.tree.instantiate order ∧
      ∀ built, annotated.instantiate order = .ok built →
        built.IsExact ∧ built.digest = built.tree.digest) ∧
    ∀ (template : JoinTree) (p q : List ℕ), (∃ plan, template.instantiate p = .ok plan) →
      ∀ inside : ∀ i ∈ p, i < q.length,
        (template.instantiate p >>= fun plan => plan.instantiate q) =
          template.instantiate (p.pmap (fun i (known : i < q.length) => q[i]) inside) := by
  refine ⟨fun template order => ⟨?_, ?_, ?_⟩, fun annotated order => ⟨?_, ?_⟩, ?_⟩
  · simp only [JoinTree.instantiate_eq_ok_iff, exists_and_left, exists_eq', and_true]
  · intro plan made
    obtain ⟨slots, rfl⟩ := JoinTree.instantiate_eq_ok_iff.1 made
    refine ⟨JoinTree.skeleton_relabel _ template, ?_⟩
    rw [JoinTree.leaves_relabel, List.forall₂_map_right_iff, List.forall₂_same]
    intro slot among
    rw [List.getD_eq_getElem _ _ (slots slot among), List.getElem?_eq_getElem (slots slot among)]
  · intro e failed
    rw [JoinTree.instantiate_eq_match] at failed
    cases first : template.leaves.find? (order.length ≤ ·) with
    | none =>
      rw [first] at failed
      cases failed
    | some slot =>
      rw [first] at failed
      exact ⟨slot, rfl, (Except.error.inj failed).symm⟩
  · exact annotated.map_tree_instantiate order
  · intro built made
    have exact := AnnotatedTree.isExact_of_instantiate made
    exact ⟨exact, exact.digest_eq⟩
  · rintro template p q ⟨plan, made⟩ inside
    exact JoinTree.instantiate_bind_instantiate (JoinTree.instantiate_eq_ok_iff.1 made).1 inside

/-- A template with a slot twice, put into one order and then into another; and two slots without a
table, of which the left one is reported. -/
theorem instantiation_is_substitution_repeated_slot :
    (∃ plan, (JoinTree.join (.join (.leaf 1) (.leaf 0)) (.leaf 1)).instantiate [2, 0] = .ok plan ∧
      plan.leaves = [0, 2, 0]) ∧
    (∀ i ∈ [2, 0], i < [7, 8, 9].length) ∧
    ((JoinTree.join (.join (.leaf 1) (.leaf 0)) (.leaf 1)).instantiate [2, 0] >>=
        fun plan => plan.instantiate [7, 8, 9]) =
      (JoinTree.join (.join (.leaf 1) (.leaf 0)) (.leaf 1)).instantiate [9, 7] ∧
    (∀ e, (JoinTree.join (.leaf 0) (.join (.leaf 5) (.leaf 3))).instantiate [4] = .error e →
      e = .slotOutsideOrder 5 1) ∧
    ∃ built, (AnnotatedTree.join (.leaf 0 "") (.leaf 0 "") "?").instantiate [10] = .ok built ∧
      built.digest = "(10x10)" := by
  obtain ⟨single, annotated, twice⟩ := instantiation_is_substitution
  have slots : ∀ slot ∈ (JoinTree.join (.join (.leaf 1) (.leaf 0)) (.leaf 1)).leaves,
      slot < [2, 0].length := by decide
  have inside : ∀ i ∈ [2, 0], i < [7, 8, 9].length := by decide
  obtain ⟨plan, made⟩ := (single _ _).1.2 slots
  have ones : (AnnotatedTree.join (.leaf 0 "") (.leaf 0 "") "?").instantiate [10] =
      .ok (.ofSides (.ofIndex 10) (.ofIndex 10)) := rfl
  refine ⟨⟨plan, made, ?_⟩, inside, twice _ _ _ ⟨plan, made⟩ inside, ?_, _, ones, ?_⟩
  · cases made
    rfl
  · intro e failed
    obtain ⟨slot, first, rfl⟩ := (single _ _).2.2 e failed
    obtain rfl : 5 = slot := Option.some.inj first
    rfl
  · exact ((annotated _ [10]).2 _ ones).2.trans (by decide)

end JoinOrder
