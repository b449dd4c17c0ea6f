/-
# Join Conditions

A condition links two tables, which may be the same one.  It has no direction, so it is held with
the smaller number first, and a set of conditions holds each of them once.
-/
import Std.Data.ExtTreeSet

namespace JoinOrder

/-- An unordered pair of tables, the smaller number first. -/
structure Condition where
  /-- The smaller number. -/
  first : Nat
  /-- The larger number. -/
  second : Nat
  /-- The numbers are in order. -/
  ordered : first ≤ second
  deriving DecidableEq, Repr

namespace Condition

/-- The condition between two tables. -/
def between (a b : Nat) : Condition :=
  if h : a ≤ b then ⟨a, b, h⟩ else ⟨b, a, Nat.le_of_not_le h⟩

/-- Conditions are ordered by their first table, then by their second. -/
instance : Ord Condition where
  compare := compareLex (compareOn first) (compareOn second)

instance : Std.TransOrd Condition :=
  inferInstanceAs (Std.TransCmp (compareLex (compareOn first) (compareOn second)))

instance : Std.LawfulEqOrd Condition where
  eq_of_compare {a b} h := by
    -- A lexicographic comparison is equal only if both of its parts are.
    have ends : compare a.first b.first = .eq ∧ compare a.second b.second = .eq :=
      Ordering.then_eq_eq.1 h
    cases a
    cases b
    rw [Condition.mk.injEq]
    exact ⟨Std.LawfulEqOrd.eq_of_compare ends.1, Std.LawfulEqOrd.eq_of_compare ends.2⟩

/-- Two pairs make one condition exactly when they are the same pair up to order. -/
theorem between_eq_between_iff {a b c d : Nat} :
    between a b = between c d ↔ (a = c ∧ b = d) ∨ (a = d ∧ b = c) := by
  unfold between
  split <;> split <;> rw [Condition.mk.injEq] <;> omega

/-- **A condition has no direction.** -/
theorem between_comm (a b : Nat) : between a b = between b a :=
  between_eq_between_iff.2 (Or.inr ⟨rfl, rfl⟩)

/-- A condition is the one between its ends. -/
theorem between_ends (e : Condition) : between e.first e.second = e := dif_pos e.ordered

/-- The larger table of a condition is the larger of the two numbers. -/
theorem second_between (a b : Nat) : (between a b).second = max a b := by
  unfold between
  split
  · rename_i h
    exact (Nat.max_eq_right h).symm
  · rename_i h
    exact (Nat.max_eq_left (Nat.le_of_not_le h)).symm

/-- The smaller table of a condition is the smaller of the two numbers. -/
theorem first_between (a b : Nat) : (between a b).first = min a b := by
  unfold between
  split
  · rename_i h
    exact (Nat.min_eq_left h).symm
  · rename_i h
    exact (Nat.min_eq_right (Nat.le_of_not_le h)).symm

end Condition

/-- A set of conditions, in a search tree, so that a membership test takes logarithmic time. -/
structure ConditionSet where
  /-- The conditions. -/
  members : Std.ExtTreeSet Condition

namespace ConditionSet

/-- No conditions. -/
def empty : ConditionSet := ⟨∅⟩

/-- The conditions in ascending order. -/
def toList (set : ConditionSet) : List Condition := set.members.toList

/-- The number of conditions. -/
def size (set : ConditionSet) : Nat := set.members.size

/-- Whether two tables are linked. -/
def contains (set : ConditionSet) (a b : Nat) : Bool :=
  set.members.contains (.between a b)

/-- Adds the condition between two tables, and says whether it was not there yet. -/
def insert (set : ConditionSet) (a b : Nat) : Bool × ConditionSet :=
  (!set.contains a b, ⟨set.members.insert (.between a b)⟩)

/-- The conditions of a list of pairs. -/
def ofPairs (pairs : List (Nat × Nat)) : ConditionSet :=
  pairs.foldl (fun set pair => (set.insert pair.1 pair.2).2) empty

@[simp] theorem toList_empty : empty.toList = [] := by
  refine List.eq_nil_iff_forall_not_mem.2 fun c hc => ?_
  exact Std.ExtTreeSet.not_mem_empty (Std.ExtTreeSet.mem_toList.1 hc)

theorem length_toList (set : ConditionSet) : set.toList.length = set.size :=
  Std.ExtTreeSet.length_toList

/-- Two tables are linked exactly when the condition between them is listed. -/
theorem contains_iff_mem {set : ConditionSet} {a b : Nat} :
    set.contains a b = true ↔ .between a b ∈ set.toList := by
  rw [contains, toList, Std.ExtTreeSet.mem_toList, Std.ExtTreeSet.contains_iff_mem]

/-- **A set is determined by its members.** -/
@[ext] theorem ext {s t : ConditionSet} (h : ∀ c, c ∈ s.toList ↔ c ∈ t.toList) : s = t := by
  cases s
  cases t
  simp only [toList, Std.ExtTreeSet.mem_toList] at h
  rw [mk.injEq]
  exact Std.ExtTreeSet.ext_mem fun c => h c

/-- The conditions are listed in strictly ascending order, hence each of them once. -/
theorem pairwise_toList (set : ConditionSet) :
    set.toList.Pairwise fun c d => compare c d = .lt :=
  Std.ExtTreeSet.ordered_toList

/-- A set lists each of its conditions once. -/
theorem nodup_toList (set : ConditionSet) : set.toList.Nodup := by
  refine set.pairwise_toList.imp ?_
  rintro c _ ascending rfl
  have same : compare c c = .eq := Std.ReflCmp.compare_self
  rw [same] at ascending
  cases ascending

/-- Insertion adds one condition and nothing else. -/
theorem mem_insert (set : ConditionSet) (a b : Nat) (c : Condition) :
    c ∈ (set.insert a b).2.toList ↔ c = .between a b ∨ c ∈ set.toList := by
  rw [toList, toList, insert, Std.ExtTreeSet.mem_toList, Std.ExtTreeSet.mem_toList,
    Std.ExtTreeSet.mem_insert, Std.LawfulEqCmp.compare_eq_iff_eq, eq_comm]

/-- **Containment after an insertion**: the new pair in either order, and what was there. -/
theorem contains_insert (set : ConditionSet) (a b c d : Nat) :
    (set.insert a b).2.contains c d = true ↔
      ((c = a ∧ d = b) ∨ (c = b ∧ d = a)) ∨ set.contains c d = true := by
  simp only [contains_iff_mem, mem_insert, Condition.between_eq_between_iff]

/-- Containment has no direction. -/
theorem contains_comm (set : ConditionSet) (a b : Nat) : set.contains a b = set.contains b a := by
  rw [contains, contains, Condition.between_comm]

/-- Inserting a condition that is there changes nothing, and this is what is said. -/
theorem insert_of_contains {set : ConditionSet} {a b : Nat} (h : set.contains a b = true) :
    set.insert a b = (false, set) := by
  have same : (set.insert a b).2 = set := by
    ext c
    rw [mem_insert, or_iff_right_of_imp]
    rintro rfl
    exact contains_iff_mem.1 h
  exact Prod.ext (congrArg not h) same

/-- **An insertion says whether the set has grown.** -/
theorem size_insert (set : ConditionSet) (a b : Nat) :
    (set.insert a b).2.size = set.size + (set.insert a b).1.toNat := by
  have size : (set.insert a b).2.size = if set.contains a b then set.size else set.size + 1 :=
    Std.ExtTreeSet.size_insert
  rw [size, insert]
  cases set.contains a b <;> rfl

end ConditionSet

end JoinOrder
