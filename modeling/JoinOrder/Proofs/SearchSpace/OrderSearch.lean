/-
# Leaf Orders Are Found in Lexicographic Order

The search fills the open slots with the tables that are not used, which are a pool for the slots:
what it finds are the arrangements of this pool, behind the order that was begun.  Each table is
taken back, so the search ends with the order and the marks that it began with.

Main statements: what a search does (`OrderSearch.fill_eq`), and the leaf orders as a whole
(`leafOrders_exact`).
-/
import JoinOrder.Proofs.SearchSpace.Size

namespace JoinOrder

/-! ## What a search does -/

namespace OrderSearch

variable {search : OrderSearch} {table slots : ℕ}

/-- The tables that the order does not have, in ascending order. -/
def unused (search : OrderSearch) : List ℕ :=
  (List.range search.used.length).filter search.lacks

/-- The same search with more orders completed. -/
def adding (search : OrderSearch) (orders : List (List ℕ)) : OrderSearch :=
  { search with found := search.found ++ orders }

theorem adding_nil : search.adding [] = search := by
  rw [adding, List.append_nil]

theorem adding_adding (orders more : List (List ℕ)) :
    (search.adding orders).adding more = search.adding (orders ++ more) := by
  simp only [adding, List.append_assoc]

theorem unused_start (n : ℕ) : (start n).unused = List.range n := by
  rw [unused, start, List.length_replicate, List.filter_eq_self]
  intro table h
  rw [lacks, List.getElem?_replicate_of_lt (List.mem_range.1 h)]
  rfl

/-- A table that is chosen is no longer unused. -/
theorem unused_choose (h : search.lacks table = true) :
    (search.choose table).unused = search.unused.erase table := by
  have inside : table < search.used.length :=
    (List.getElem?_eq_some_iff.1 (of_decide_eq_true h)).1
  have nodup : search.unused.Nodup := List.nodup_range.filter _
  rw [nodup.erase_eq_filter, unused, unused, choose, List.length_set, List.filter_filter]
  apply List.filter_congr
  intro other _
  by_cases same : table = other
  · subst same
    simp [lacks, List.getElem?_set_self inside]
  · simp [lacks, List.getElem?_set_ne same, Ne.symm same]

/-- **A table is taken back without a trace**, whatever has been completed behind it. -/
theorem takeBack_adding_choose (h : search.lacks table = true) (orders : List (List ℕ)) :
    ((search.choose table).adding orders).takeBack table = search.adding orders := by
  obtain ⟨inside, mark⟩ := List.getElem?_eq_some_iff.1 (of_decide_eq_true h)
  have marks : (search.used.set table true).set table false = search.used := by
    rw [List.set_set, ← mark, List.set_getElem_self]
  simp only [takeBack, adding, choose, List.dropLast_concat, marks]

/-- A table that is not used adds the orders that go on with it. -/
theorem tryTable_of_unused {searchOn : OrderSearch → OrderSearch}
    (later : ∀ search : OrderSearch, searchOn search =
      search.adding ((arrangements slots search.unused).map (search.current ++ ·)))
    (h : search.lacks table = true) :
    tryTable searchOn search table = search.adding
      ((arrangements slots (search.unused.erase table)).map (search.current ++ table :: ·)) := by
  have behind : (search.choose table).current = search.current ++ [table] := rfl
  rw [tryTable, if_pos h, later, unused_choose h, behind, takeBack_adding_choose h]
  simp only [List.append_assoc, List.singleton_append]

/-- The tables that are tried add the orders that go on with one of them, those that are used
none. -/
theorem foldl_tryTable {searchOn : OrderSearch → OrderSearch}
    (later : ∀ search : OrderSearch, searchOn search =
      search.adding ((arrangements slots search.unused).map (search.current ++ ·)))
    (tables : List ℕ) (search : OrderSearch) :
    tables.foldl (tryTable searchOn) search = search.adding
      ((tables.filter search.lacks).flatMap fun table =>
        (arrangements slots (search.unused.erase table)).map (search.current ++ table :: ·)) := by
  induction tables generalizing search with
  | nil => exact adding_nil.symm
  | cons table tables ih =>
    rw [List.foldl_cons]
    by_cases h : search.lacks table = true
    · -- The search goes on with the same order and the same marks.
      rw [tryTable_of_unused later h, ih, List.filter_cons_of_pos h,
        List.flatMap_cons]
      exact adding_adding _ _
    · rw [tryTable, if_neg h, ih, List.filter_cons_of_neg h]

/-- **A search adds the arrangements of the unused tables**, each behind the order that was begun,
and changes nothing else. -/
theorem fill_eq (slots : ℕ) (search : OrderSearch) :
    search.fill slots =
      search.adding ((arrangements slots search.unused).map (search.current ++ ·)) := by
  induction slots generalizing search with
  | zero => simp [fill, complete, adding]
  | succ slots ih =>
    rw [fill, foldl_tryTable ih, arrangements_succ, List.map_flatMap]
    simp only [List.map_map]
    rfl

/-- From the start a search finds the leaf orders. -/
theorem run_start (n : ℕ) : (start n).run = (start n).adding (leafOrders n) := by
  have slots : (start n).used.length - (start n).current.length = n := List.length_replicate
  rw [run, slots, fill_eq, unused_start]
  exact congrArg _ (List.map_id _)

example : (start 2).run = ⟨[], [false, false], [[0, 1], [1, 0]]⟩ := by decide

end OrderSearch

/-! ## The leaf orders -/

/-- **The leaf orders are the permutations of the tables in lexicographic order**, each once, and
there are `n!` of them; for no table there is one, the empty order.  They are what the search finds,
which leaves the order and the marks as they were at the start. -/
theorem leafOrders_exact (n : ℕ) :
    (∀ order, (leafOrders n).count order = if order.Perm (List.range n) then 1 else 0) ∧
    (leafOrders n).Pairwise (List.Lex (· < ·)) ∧
    (leafOrders n).length = n.factorial ∧
    leafOrders 0 = [[]] ∧
    (OrderSearch.start n).run = { OrderSearch.start n with found := leafOrders n } := by
  refine ⟨fun order => ?_, pairwise_arrangements n List.pairwise_lt_range,
    length_leafOrders_eq_factorial n, rfl, OrderSearch.run_start n⟩
  rw [(nodup_leafOrders n).count]
  simp only [mem_leafOrders_iff]

end JoinOrder
