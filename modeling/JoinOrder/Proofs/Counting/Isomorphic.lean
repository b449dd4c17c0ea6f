/-
# Counts of Isomorphic Graphs

If the shapes of two graphs are isomorphic, then the tables of one graph get other numbers in the
other graph, but between different tables there are the same conditions.  So the plans, the joins
that their checks ask about and the sides of these joins are renamed one by one, and every figure of
a count is the same.  Names, the order and the form of registrations and conditions of a table with
itself leave no trace.

Main statements: the renaming (`renames_renumbering`), the joins that a count asks about
(`askedJoins_of_iso`), and the statistics (`statistics_eq_of_iso`).
-/
import Mathlib.Data.Fintype.Card
import JoinOrder.Proofs.Counting.Figures
import JoinOrder.Proofs.Counting.Renaming
import JoinOrder.Proofs.Graph.Shape

namespace JoinOrder

open JoinTree

namespace JoinGraph

variable {graph graph' : JoinGraph}

/-! ## Isomorphisms by numbers -/

/-- Graphs with the same conditions between different tables, up to the numbers of the tables, have
isomorphic shapes. -/
def isoOfNumbers (numbers : Fin graph.size ≃ Fin graph'.size)
    (same : ∀ i j, i ≠ j →
      graph'.conditions.contains (numbers i) (numbers j) = graph.conditions.contains i j) :
    graph.shape ≃g graph'.shape where
  toEquiv := graph.numbering.symm.trans (numbers.trans graph'.numbering)
  map_rel_iff' := by
    intro a b
    obtain ⟨i, rfl⟩ := graph.numbering.surjective a
    obtain ⟨j, rfl⟩ := graph.numbering.surjective b
    simp only [Equiv.trans_apply, Equiv.symm_apply_apply]
    rw [shape_adj_numbering, shape_adj_numbering, numbers.injective.ne_iff]
    exact and_congr_right fun apart => by rw [same i j apart]

/-- The number of the table that an isomorphism makes of each table. -/
def isoNumbers (iso : graph.shape ≃g graph'.shape) : Fin graph.size ≃ Fin graph'.size :=
  graph.numbering.trans (iso.toEquiv.trans graph'.numbering.symm)

/-- Graphs with isomorphic shapes have equally many tables. -/
theorem size_eq_of_iso (iso : graph.shape ≃g graph'.shape) : graph.size = graph'.size := by
  simpa using Fintype.card_congr (isoNumbers iso)

/-- Between different tables there are the same conditions. -/
theorem contains_isoNumbers (iso : graph.shape ≃g graph'.shape) {i j : Fin graph.size}
    (apart : i ≠ j) :
    graph'.conditions.contains (isoNumbers iso i) (isoNumbers iso j) =
      graph.conditions.contains i j := by
  have kept : graph'.shape.Adj (iso (graph.numbering i)) (iso (graph.numbering j)) ↔
      graph.shape.Adj (graph.numbering i) (graph.numbering j) := iso.map_adj_iff
  have image : ∀ k, iso (graph.numbering k) = graph'.numbering (isoNumbers iso k) := by
    intro k
    simp [isoNumbers]
  rw [image, image, shape_adj_numbering, shape_adj_numbering,
    (isoNumbers iso).injective.ne_iff, and_congr_right_iff] at kept
  exact Bool.eq_iff_iff.2 (kept apart)

/-! ## The renaming -/

/-- The renaming of the tables by an isomorphism; other numbers are left alone. -/
def renumbering (iso : graph.shape ≃g graph'.shape) (a : ℕ) : ℕ :=
  if h : a < graph.size then isoNumbers iso ⟨a, h⟩ else a

variable (iso : graph.shape ≃g graph'.shape)

theorem renumbering_val (i : Fin graph.size) : renumbering iso i = isoNumbers iso i :=
  dif_pos i.2

theorem renumbering_injective : Function.Injective (renumbering iso) := by
  have size := size_eq_of_iso iso
  intro a b same
  by_cases ha : a < graph.size <;> by_cases hb : b < graph.size
  · rw [renumbering, renumbering, dif_pos ha, dif_pos hb, Fin.val_inj,
      (isoNumbers iso).injective.eq_iff] at same
    exact Fin.mk.inj same
  -- A table gets the number of a table, and no other number does.
  · rw [renumbering, renumbering, dif_pos ha, dif_neg hb] at same
    have := (isoNumbers iso ⟨a, ha⟩).2
    omega
  · rw [renumbering, renumbering, dif_neg ha, dif_pos hb] at same
    have := (isoNumbers iso ⟨b, hb⟩).2
    omega
  · rwa [renumbering, renumbering, dif_neg ha, dif_neg hb] at same

/-- The tables become the tables. -/
theorem image_renumbering :
    (Finset.range graph.size).image (renumbering iso) = Finset.range graph'.size := by
  ext b
  rw [Finset.mem_image, Finset.mem_range]
  constructor
  · rintro ⟨a, ha, rfl⟩
    rw [renumbering, dif_pos (Finset.mem_range.1 ha)]
    exact Fin.is_lt _
  · intro hb
    obtain ⟨i, hi⟩ := (isoNumbers iso).surjective ⟨b, hb⟩
    exact ⟨i, Finset.mem_range.2 i.2, (renumbering_val iso i).trans (congrArg Fin.val hi)⟩

/-- **An isomorphism renames the tables.** -/
theorem renames_renumbering :
    Renames graph.conditions graph'.conditions (Finset.range graph.size) (renumbering iso) where
  injective := renumbering_injective iso
  contains := by
    intro a ha b hb apart
    lift a to Fin graph.size using Finset.mem_range.1 ha
    lift b to Fin graph.size using Finset.mem_range.1 hb
    rw [renumbering_val, renumbering_val]
    exact contains_isoNumbers iso fun same => apart (congrArg Fin.val same)

/-! ## Figures -/

/-- **The joins that a count asks about** are renamed. -/
theorem askedJoins_of_iso (h : 2 ≤ graph.size) :
    graph'.askedJoins = graph.askedJoins.image (renameSides (renumbering iso)) := by
  have h' : 2 ≤ graph'.size := size_eq_of_iso iso ▸ h
  have renames := renames_renumbering iso
  -- The check of a renamed plan asks about the renamed joins.
  have asked : ∀ tree ∈ plansOver (Finset.range graph.size),
      (tree.relabel (renumbering iso)).asked graph'.conditions =
        (tree.asked graph.conditions).map (renameSides (renumbering iso)) := by
    intro tree plan
    obtain ⟨nodup, whole⟩ := mem_plansOver.1 plan
    exact renames.asked_relabel nodup whole.le
  ext p
  rw [mem_askedJoins h', ← image_renumbering iso, plansOver_image renames.injective,
    Finset.mem_image]
  constructor
  · rintro ⟨tree, plan, hp⟩
    obtain ⟨origin, member, rfl⟩ := Finset.mem_image.1 plan
    rw [asked origin member, List.mem_map] at hp
    obtain ⟨q, hq, rfl⟩ := hp
    exact ⟨q, (mem_askedJoins h).2 ⟨origin, member, hq⟩, rfl⟩
  · rintro ⟨q, hq, rfl⟩
    obtain ⟨origin, plan, hq⟩ := (mem_askedJoins h).1 hq
    refine ⟨origin.relabel (renumbering iso), Finset.mem_image_of_mem _ plan, ?_⟩
    rw [asked origin plan]
    exact List.mem_map_of_mem hq

include iso in
/-- **The figures of isomorphic graphs are the same.** -/
theorem figures_eq_of_iso (h : 2 ≤ graph.size) (report : Bool) :
    graph'.figures report = graph.figures report := by
  have renames := renames_renumbering iso
  have free : planCount graph'.conditions (Finset.range graph'.size) =
      planCount graph.conditions (Finset.range graph.size) := by
    rw [← image_renumbering iso, renames.planCount_image]
  have verdicts : graph'.askedJoins.card = graph.askedJoins.card := by
    rw [askedJoins_of_iso iso h,
      Finset.card_image_of_injective _ (renameSides_injective renames.injective)]
  have inputSets : (sides graph'.askedJoins).card = (sides graph.askedJoins).card := by
    rw [askedJoins_of_iso iso h, sides_image,
      Finset.card_image_of_injective _ (relabel_injective renames.injective)]
  rw [figures, figures, free, verdicts, inputSets, size_eq_of_iso iso]

include iso in
/-- **Counts of isomorphic graphs with the same settings end in the same way.** -/
theorem statistics_congr_of_iso (settings : Settings) :
    graph'.statistics settings = graph.statistics settings := by
  have size := size_eq_of_iso iso
  by_cases h : 2 ≤ graph.size
  · rw [statistics_of_two_le h, statistics_of_two_le (size ▸ h), figures_eq_of_iso iso h, size]
  · rw [statistics_of_size_le_one (by omega), statistics_of_size_le_one (by omega), size]

end JoinGraph

/-- **Counts of isomorphic graphs have the same statistics**, whatever the tables are called,
however they and the conditions were registered, and whatever conditions tables have with
themselves; the reports are equally many if both counts make them or neither does. -/
theorem statistics_eq_of_iso {graph graph' : JoinGraph} (iso : graph.shape ≃g graph'.shape)
    {settings settings' : Settings} {statistics statistics' : Statistics}
    (counted : graph.statistics settings = .ok statistics)
    (counted' : graph'.statistics settings' = .ok statistics') :
    statistics.inputs = statistics'.inputs ∧
      statistics.orders = statistics'.orders ∧
      statistics.templates = statistics'.templates ∧
      statistics.pairsEvaluated = statistics'.pairsEvaluated ∧
      statistics.crossProductFree = statistics'.crossProductFree ∧
      statistics.cachedInputSets = statistics'.cachedInputSets ∧
      statistics.cachedVerdicts = statistics'.cachedVerdicts ∧
      (settings.logProgress = settings'.logProgress →
        statistics.progressReports = statistics'.progressReports) := by
  have size := JoinGraph.size_eq_of_iso iso
  by_cases h : 2 ≤ graph.size
  · have figures := JoinGraph.eq_figures_of_statistics h counted
    have figures' := JoinGraph.eq_figures_of_statistics (size ▸ h) counted'
    -- But for the reports, the figures do not depend on the settings.
    rw [JoinGraph.figures_eq_of_iso iso h] at figures'
    subst figures figures'
    exact ⟨rfl, rfl, rfl, rfl, rfl, rfl, rfl, fun same => by rw [same]⟩
  · rw [statistics_of_size_le_one (by omega)] at counted counted'
    obtain rfl := Except.ok.inj counted
    obtain rfl := Except.ok.inj counted'
    rw [size]
    exact ⟨rfl, rfl, rfl, rfl, rfl, rfl, rfl, fun _ => rfl⟩

/-- Three tables in a row, registered from one end to the other, and three tables of other names,
the middle one registered last, with a condition given twice and one of a table with itself. -/
theorem statistics_eq_of_iso_three_in_a_row :
    ∃ graph graph' statistics statistics',
      JoinGraph.empty.registerAll [.condition "A" "B", .condition "B" "C"] = (graph, none) ∧
      JoinGraph.empty.registerAll [.table "X", .condition "X" "X", .table "Z", .condition "Z" "Y",
        .condition "Y" "X", .condition "X" "Y"] = (graph', none) ∧
      graph.statistics .standard = .ok statistics ∧
      graph'.statistics .standard = .ok statistics' ∧
      statistics.crossProductFree = statistics'.crossProductFree ∧
      statistics.cachedInputSets = statistics'.cachedInputSets ∧
      statistics.cachedVerdicts = statistics'.cachedVerdicts ∧
      statistics.progressReports = statistics'.progressReports := by
  have counted : (JoinGraph.empty.registerAll
      [.condition "A" "B", .condition "B" "C"]).1.statistics .standard =
        .ok ⟨3, 6, 2, 12, 8, 7, 14, 6, 0⟩ := by decide +kernel
  have counted' : (JoinGraph.empty.registerAll [.table "X", .condition "X" "X", .table "Z",
      .condition "Z" "Y", .condition "Y" "X", .condition "X" "Y"]).1.statistics .standard =
        .ok ⟨3, 6, 2, 12, 8, 7, 14, 6, 0⟩ := by decide +kernel
  refine ⟨_, _, _, _, rfl, rfl, counted, counted', ?_⟩
  -- The middle table has number 1 in one graph and number 2 in the other.
  let numbers : Fin 3 ≃ Fin 3 := Equiv.swap 1 2
  have same := fun iso => statistics_eq_of_iso iso counted counted'
  obtain ⟨-, -, -, -, free, inputSets, verdicts, reports⟩ :=
    same (JoinGraph.isoOfNumbers numbers (by decide +kernel))
  exact ⟨free, inputSets, verdicts, reports rfl⟩

end JoinOrder
