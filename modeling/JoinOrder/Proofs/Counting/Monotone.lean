/-
# Adding a Condition

A further condition between two tables keeps every free plan free.  It makes a new free plan as soon
as all cuts are crossed: the plan that joins the two tables first and then grows.  A condition of a
table with itself, or one that is there already, changes nothing.

Main statements: more conditions, more trees (`planCount_mono`), strictly more if the tables are
connected afterwards (`planCount_lt_planCount_insert`), and the counts before and after a condition
is added (`count_addCondition`).
-/
import JoinOrder.Proofs.Counting.Connected
import JoinOrder.Proofs.Counting.Renaming
import JoinOrder.Proofs.Topology.Build

namespace JoinOrder

open JoinTree

variable {conditions conditions' : ConditionSet} {s : Finset ℕ} {a b : ℕ}

/-! ## More conditions -/

/-- With more conditions a free tree stays free. -/
theorem JoinTree.CrossProductFree.mono {tree : JoinTree}
    (more : ∀ a b, conditions.contains a b = true → conditions'.contains a b = true)
    (h : tree.CrossProductFree conditions) : tree.CrossProductFree conditions' := by
  induction tree with
  | leaf table => trivial
  | join left right ihl ihr =>
    obtain ⟨freeL, freeR, a, ha, b, hb, linked⟩ := h
    exact ⟨ihl freeL, ihr freeR, a, ha, b, hb, more a b linked⟩

theorem freePlans_subset
    (more : ∀ a b, conditions.contains a b = true → conditions'.contains a b = true) :
    freePlans conditions s ⊆ freePlans conditions' s := by
  intro tree h
  obtain ⟨plan, free⟩ := mem_freePlans.1 h
  exact mem_freePlans.2 ⟨plan, free.mono more⟩

/-- **With more conditions there are no fewer trees.** -/
theorem planCount_mono
    (more : ∀ a b, conditions.contains a b = true → conditions'.contains a b = true) :
    planCount conditions s ≤ planCount conditions' s := by
  rw [← card_freePlans, ← card_freePlans]
  exact Finset.card_le_card (freePlans_subset more)

/-! ## One more condition -/

theorem contains_insert_of_contains (a b : ℕ) :
    ∀ c d, conditions.contains c d = true → (conditions.insert a b).2.contains c d = true :=
  fun c d h => (ConditionSet.contains_insert conditions a b c d).2 (Or.inr h)

/-- A condition of a table with itself does not matter. -/
theorem planCount_insert_self (conditions : ConditionSet) (s : Finset ℕ) (a : ℕ) :
    planCount (conditions.insert a a).2 s = planCount conditions s := by
  refine planCount_congr fun c _ d _ apart => Bool.eq_iff_iff.2 ?_
  rw [ConditionSet.contains_insert, or_iff_right]
  omega

/-- **A new condition makes a new tree** if each cut is crossed with it. -/
theorem planCount_lt_planCount_insert (ha : a ∈ s) (hb : b ∈ s) (apart : a ≠ b)
    (isNew : conditions.contains a b = false)
    (crossed : ∀ q ∈ splits s, (conditions.insert a b).2.Crosses q.1 q.2) :
    planCount conditions s < planCount (conditions.insert a b).2 s := by
  -- The two tables are joined first, which is free with the new condition only.
  have linked : (conditions.insert a b).2.contains a b = true :=
    (ConditionSet.contains_insert conditions a b a b).2 (Or.inl (Or.inl ⟨rfl, rfl⟩))
  have single : leaf a ∈ freePlans (conditions.insert a b).2 {a} :=
    mem_freePlans.2 ⟨⟨List.nodup_singleton a, by simp⟩, trivial⟩
  have start : join (leaf a) (leaf b) ∈ freePlans (conditions.insert a b).2 (insert b {a}) :=
    join_leaf_mem_freePlans single (Finset.mem_singleton_self a)
      (fun same => apart (Finset.mem_singleton.1 same).symm) linked
  have subset : insert b {a} ⊆ s :=
    Finset.insert_subset hb (Finset.singleton_subset_iff.2 ha)
  obtain ⟨tables, grown⟩ := exists_grow_mem_freePlans crossed subset start
  have unfree : (join (leaf a) (leaf b)).grow tables ∉ freePlans conditions s := by
    intro h
    obtain ⟨-, -, c, hc, d, hd, old⟩ := crossProductFree_of_grow (mem_freePlans.1 h).2
    rw [List.mem_singleton.1 hc, List.mem_singleton.1 hd, isNew] at old
    cases old
  rw [← card_freePlans, ← card_freePlans]
  apply Finset.card_lt_card
  exact (Finset.ssubset_iff_of_subset (freePlans_subset (contains_insert_of_contains a b))).2
    ⟨_, grown, unfree⟩

/-! ## Counts -/

namespace JoinGraph

variable {graph : JoinGraph}

/-- A registered table has a number. -/
theorem exists_id?_eq_some {name : String} (h : name ∈ graph.tables.names) :
    ∃ i : Fin graph.size, graph.tables.id? name = some i.1 := by
  obtain ⟨i, same⟩ := graph.numbering.surjective ⟨name, h⟩
  refine ⟨i, ?_⟩
  have number := id?_numbering i
  rwa [same] at number

/-- A condition between two registered tables is always accepted, and only the conditions change. -/
theorem exists_addCondition_of_mem {left right : String} {a b : ℕ}
    (hl : graph.tables.id? left = some a) (hr : graph.tables.id? right = some b) :
    ∃ later, graph.addCondition left right = .ok later ∧ later.size = graph.size ∧
      later.conditions = (graph.conditions.insert a b).2 := by
  have named : ∀ {name : String} {id : ℕ}, graph.tables.id? name = some id → name ≠ "" := by
    rintro name id known rfl
    have refused := graph.tables.resolve_empty
    rw [Registry.resolve_of_id?_eq_some known] at refused
    cases refused
  obtain ⟨later, added, tables, conditions⟩ := exists_addCondition_eq_ok (named hl) (named hr)
    (Registry.resolve_of_id?_eq_some hl) (Registry.resolve_of_id?_eq_some hr)
  exact ⟨later, added, congrArg Registry.size tables, conditions⟩

end JoinGraph

/-- **Adding a condition** between two registered tables is always accepted.  If it is a condition
of a table with itself, or if the two tables had one in either direction, the count stays as it is.
Otherwise the count does not fall, it rises exactly when the tables are connected afterwards, and if
they are not, it is zero before and after. -/
theorem count_addCondition {graph : JoinGraph} {left right : String}
    (hl : left ∈ graph.tables.names) (hr : right ∈ graph.tables.names) :
    ∃ later, graph.addCondition left right = .ok later ∧
      ∀ settings settings' c c', graph.count settings = .ok c → later.count settings' = .ok c' →
        (left = right ∨ graph.hasCondition left right = true ∨
            graph.hasCondition right left = true → c' = c) ∧
        (¬ (left = right ∨ graph.hasCondition left right = true ∨
            graph.hasCondition right left = true) →
          c ≤ c' ∧ (c < c' ↔ later.shape.Connected) ∧
            (¬ later.shape.Connected → c = 0 ∧ c' = 0)) := by
  obtain ⟨a, first⟩ := JoinGraph.exists_id?_eq_some hl
  obtain ⟨b, second⟩ := JoinGraph.exists_id?_eq_some hr
  obtain ⟨later, added, size, conditions⟩ := JoinGraph.exists_addCondition_of_mem first second
  refine ⟨later, added, ?_⟩
  intro settings settings' c c' before after
  have was : graph.hasCondition left right = graph.conditions.contains a b := by
    rw [JoinGraph.hasCondition, first, second]
  have same : left = right ↔ a = b := by
    constructor
    · rintro rfl
      exact Fin.ext (Option.some.inj (first.symm.trans second))
    · rintro rfl
      have names :=
        (Registry.id?_eq_some_iff.1 first).symm.trans (Registry.id?_eq_some_iff.1 second)
      exact Option.some.inj names
  have connected : later.shape.Connected ↔ c' ≠ 0 := by
    rw [← planCount_ne_zero_iff_connected, ← eq_planCount_of_count after]
  rw [eq_planCount_of_count before]
  rw [eq_planCount_of_count after, size, conditions] at connected ⊢
  have grown : planCount graph.conditions (Finset.range graph.size) ≤
      planCount (graph.conditions.insert a b).2 (Finset.range graph.size) :=
    planCount_mono (contains_insert_of_contains a b)
  rw [JoinGraph.hasCondition_comm graph right left, or_self, was, same]
  refine ⟨?_, ?_⟩
  · rintro (rfl | known)
    · exact planCount_insert_self _ _ _
    · rw [ConditionSet.insert_of_contains known]
  · intro isNew
    obtain ⟨apart, unlinked⟩ := not_or.1 isNew
    rw [Bool.not_eq_true] at unlinked
    refine ⟨grown, ⟨fun rises => connected.2 (by omega), fun joined => ?_⟩, fun parted => ?_⟩
    · exact planCount_lt_planCount_insert (Finset.mem_range.2 a.2) (Finset.mem_range.2 b.2)
        (fun equal => apart (Fin.ext equal)) unlinked
        (crosses_of_planCount_ne_zero (connected.1 joined))
    · have none := not_not.1 (mt connected.2 parted)
      omega

/-- A third condition between three tables in a row closes a triangle, which has four more trees;
the same condition again, from its other end, adds none. -/
theorem count_addCondition_triangle :
    ∃ row triangle again,
      JoinGraph.empty.registerAll [.condition "A" "B", .condition "B" "C"] = (row, none) ∧
      row.count .standard = .ok 8 ∧
      row.addCondition "A" "C" = .ok triangle ∧ triangle.count .standard = .ok 12 ∧
      triangle.shape.Connected ∧
      triangle.addCondition "C" "A" = .ok again ∧
      ∀ c, again.count .standard = .ok c → c = 12 := by
  obtain ⟨triangle, added, counts⟩ := @count_addCondition
    (JoinGraph.empty.registerAll [.condition "A" "B", .condition "B" "C"]).1 "A" "C"
    (by decide) (by decide)
  have eight : (JoinGraph.empty.registerAll
      [.condition "A" "B", .condition "B" "C"]).1.count .standard = .ok 8 := by decide +kernel
  have twelve : triangle.count .standard = .ok 12 := by
    cases added
    decide +kernel
  have isNew : ¬ ("A" = "C" ∨
      (JoinGraph.empty.registerAll [.condition "A" "B", .condition "B" "C"]).1.hasCondition
        "A" "C" = true ∨
      (JoinGraph.empty.registerAll [.condition "A" "B", .condition "B" "C"]).1.hasCondition
        "C" "A" = true) := by decide
  obtain ⟨-, rises, -⟩ := (counts .standard .standard 8 12 eight twelve).2 isNew
  have names : "A" ∈ triangle.tables.names ∧ "C" ∈ triangle.tables.names := by
    cases added
    decide
  have known : triangle.hasCondition "A" "C" = true := by
    cases added
    rfl
  obtain ⟨again, added', counts'⟩ := count_addCondition names.2 names.1
  refine ⟨_, triangle, again, rfl, eight, added, twelve, rises.1 (by decide), added', ?_⟩
  intro c counted
  exact (counts' .standard .standard 12 c twelve counted).1 (Or.inr (Or.inr known))

end JoinOrder
