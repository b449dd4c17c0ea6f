/-
# Leaf Orders Are the Permutations

The picks from a pool are told apart by their first member, and those with the same first member by
the picks from the rest of the pool.

Main statements: a list of tables is a leaf order exactly when it is a permutation of all tables
(`mem_leafOrders_iff`), each leaf order is listed once (`nodup_leafOrders`), and the picks from an
ascending pool are listed in lexicographic order (`pairwise_arrangements`).
-/
import Mathlib.Data.List.Flatten
import Mathlib.Data.List.Nodup
import Mathlib.Data.List.Perm.Basic
import JoinOrder.SearchSpace.LeafOrder

namespace JoinOrder

/-- Picking all members of a pool gives the permutations of the pool. -/
theorem mem_arrangements_iff_perm {k : ℕ} {pool xs : List ℕ} (h : pool.length = k) :
    xs ∈ arrangements k pool ↔ xs.Perm pool := by
  induction k generalizing pool xs with
  | zero =>
    rw [List.eq_nil_of_length_eq_zero h, arrangements_zero, List.mem_singleton, List.perm_nil]
  | succ k ih =>
    rw [arrangements_succ, List.mem_flatMap]
    have rest {x : ℕ} (hx : x ∈ pool) {ys : List ℕ} :
        ys ∈ arrangements k (pool.erase x) ↔ ys.Perm (pool.erase x) := by
      apply ih
      rw [List.length_erase_of_mem hx, h, Nat.add_sub_cancel]
    constructor
    · rintro ⟨x, hx, hxs⟩
      obtain ⟨ys, hys, rfl⟩ := List.mem_map.1 hxs
      exact List.cons_perm_iff_perm_erase.2 ⟨hx, (rest hx).1 hys⟩
    · intro perm
      cases xs with
      | nil =>
        have := perm.length_eq
        rw [h] at this
        cases this
      | cons x ys =>
        obtain ⟨hx, hys⟩ := List.cons_perm_iff_perm_erase.1 perm
        exact ⟨x, hx, List.mem_map.2 ⟨ys, (rest hx).2 hys, rfl⟩⟩

/-- From a pool without repetition no arrangement is made twice. -/
theorem nodup_arrangements (k : ℕ) {pool : List ℕ} (h : pool.Nodup) :
    (arrangements k pool).Nodup := by
  induction k generalizing pool with
  | zero => exact List.nodup_singleton _
  | succ k ih =>
    rw [arrangements_succ, List.nodup_flatMap]
    refine ⟨fun x _ => ?_, h.imp ?_⟩
    · exact (ih (h.erase x)).map List.cons_injective
    · -- Arrangements with different first picks are different.
      intro a b hab xs ha hb
      obtain ⟨ys, -, rfl⟩ := List.mem_map.1 ha
      obtain ⟨zs, -, same⟩ := List.mem_map.1 hb
      exact hab (List.cons.inj same).1.symm

/-- **From an ascending pool the arrangements are listed in lexicographic order.** -/
theorem pairwise_arrangements (k : ℕ) {pool : List ℕ} (h : pool.Pairwise (· < ·)) :
    (arrangements k pool).Pairwise (List.Lex (· < ·)) := by
  induction k generalizing pool with
  | zero => exact List.pairwise_singleton _ _
  | succ k ih =>
    rw [arrangements_succ, List.pairwise_flatMap]
    refine ⟨fun x _ => ?_, h.imp ?_⟩
    · -- After the same first pick the rest decides.
      rw [List.pairwise_map]
      exact (ih (h.sublist List.erase_sublist)).imp List.Lex.cons
    · intro x y before xs hx ys hy
      obtain ⟨_, -, rfl⟩ := List.mem_map.1 hx
      obtain ⟨_, -, rfl⟩ := List.mem_map.1 hy
      exact List.Lex.rel before

/-- **The leaf orders are the permutations of the tables.** -/
theorem mem_leafOrders_iff {n : ℕ} {order : List ℕ} :
    order ∈ leafOrders n ↔ order.Perm (List.range n) :=
  mem_arrangements_iff_perm List.length_range

/-- **Each leaf order is listed once.** -/
theorem nodup_leafOrders (n : ℕ) : (leafOrders n).Nodup :=
  nodup_arrangements n List.nodup_range

end JoinOrder
