/-
# Table Registries

A registry gives each table name a number: the names are numbered from zero in the order in which
they are first seen, and a name keeps its number.  The empty text is no name.

A search tree from names to numbers stands beside the list of names, so that finding a number takes
logarithmic time; the tree says nothing that the list does not say (`Registry.ext`).
-/
import Std.Data.ExtTreeMap
import JoinOrder.Error

namespace JoinOrder

/-- Distinct table names; the number of a table is its place in the order of first sight. -/
structure Registry where
  /-- The names, the latest first. -/
  latestFirst : List String
  /-- The number of each name. -/
  numbers : Std.ExtTreeMap String Nat
  /-- No name occurs twice. -/
  distinct : latestFirst.Nodup
  /-- No table has the empty name. -/
  named : "" ∉ latestFirst
  /-- The number of a name is its place in the order of first sight. -/
  numbered : ∀ name, numbers[name]? = latestFirst.reverse.idxOf? name
  /-- Every name has a number. -/
  counted : numbers.size = latestFirst.length

namespace Registry

/-- The registry without tables. -/
def empty : Registry where
  latestFirst := []
  numbers := ∅
  distinct := List.nodup_nil
  named := by simp
  numbered := by simp
  counted := by simp

/-- The names in the order of first sight. -/
def names (registry : Registry) : List String := registry.latestFirst.reverse

/-- The number of tables. -/
def size (registry : Registry) : Nat := registry.numbers.size

/-- The number of the table with a name. -/
def id? (registry : Registry) (name : String) : Option Nat := registry.numbers[name]?

/-- The name of the table with a number. -/
def name? (registry : Registry) (id : Nat) : Option String := registry.names[id]?

theorem nodup_names (registry : Registry) : registry.names.Nodup :=
  List.pairwise_reverse.2 (registry.distinct.imp Ne.symm)

theorem length_names (registry : Registry) : registry.names.length = registry.size := by
  rw [names, size, List.length_reverse, registry.counted]

theorem id?_eq_idxOf? (registry : Registry) (name : String) :
    registry.id? name = registry.names.idxOf? name :=
  registry.numbered name

/-- A name has no number exactly when it has not been seen. -/
theorem id?_eq_none_iff {registry : Registry} {name : String} :
    registry.id? name = none ↔ name ∉ registry.names := by
  rw [id?_eq_idxOf?, List.idxOf?_eq_none_iff]

/-- A new name at the end gets the next place, and the others keep theirs. -/
theorem idxOf?_concat {names : List String} {name : String} (isNew : name ∉ names)
    (other : String) :
    (names ++ [name]).idxOf? other =
      if name = other then some names.length else names.idxOf? other := by
  rw [List.idxOf?, List.findIdx?_append]
  change (names.idxOf? other).or _ = _
  by_cases same : name = other
  · subst same
    simp [List.idxOf?_eq_none_iff.2 isNew]
  · simp [same, List.idxOf?]

/-- Adds a new name at the end. -/
def append (registry : Registry) (name : String) (isNamed : name ≠ "")
    (isNew : name ∉ registry.names) : Registry where
  latestFirst := name :: registry.latestFirst
  numbers := registry.numbers.insert name registry.size
  distinct := List.nodup_cons.2 ⟨fun h => isNew (List.mem_reverse.2 h), registry.distinct⟩
  named := by
    intro h
    rcases List.mem_cons.1 h with h | h
    · exact isNamed h.symm
    · exact registry.named h
  numbered := by
    intro other
    have isNew' : name ∉ registry.latestFirst.reverse := isNew
    rw [Std.ExtTreeMap.getElem?_insert, registry.numbered, List.reverse_cons,
      idxOf?_concat isNew']
    simp [size, registry.counted]
  counted := by
    have absent : registry.numbers.contains name = false := by
      rw [Std.ExtTreeMap.contains_eq_isSome_getElem?]
      exact Option.isSome_eq_false_iff.2 (Option.isNone_iff_eq_none.2 (id?_eq_none_iff.2 isNew))
    rw [Std.ExtTreeMap.size_insert, absent, if_neg Bool.false_ne_true, registry.counted,
      List.length_cons]

/-- The number of a name, which is added if it is new. -/
def resolve (registry : Registry) (name : String) : Except Error (Nat × Registry) :=
  if isNamed : name = "" then .error .emptyTableName
  else
    match unseen : registry.id? name with
    | some id => .ok (id, registry)
    | none => .ok (registry.size, registry.append name isNamed (id?_eq_none_iff.1 unseen))

/-! ## Facts about numbers -/

@[simp] theorem names_append (registry : Registry) (name : String) (isNamed : name ≠ "")
    (isNew : name ∉ registry.names) :
    (registry.append name isNamed isNew).names = registry.names ++ [name] :=
  List.reverse_cons

theorem size_append (registry : Registry) (name : String) (isNamed : name ≠ "")
    (isNew : name ∉ registry.names) :
    (registry.append name isNamed isNew).size = registry.size + 1 := by
  simp [← length_names]

/-- Two registries with the same names are the same. -/
@[ext] theorem ext {a b : Registry} (h : a.names = b.names) : a = b := by
  have numbers : a.numbers = b.numbers := by
    refine Std.ExtTreeMap.ext_getElem? fun name => ?_
    exact (a.id?_eq_idxOf? name).trans (h ▸ (b.id?_eq_idxOf? name).symm)
  have latestFirst : a.latestFirst = b.latestFirst := List.reverse_inj.1 h
  cases a
  cases b
  cases numbers
  cases latestFirst
  rfl

/-- **A name has number `i` exactly when it stands at place `i`.** -/
theorem id?_eq_some_iff {registry : Registry} {name : String} {i : Nat} :
    registry.id? name = some i ↔ registry.name? i = some name := by
  rw [id?_eq_idxOf?, name?, List.idxOf?_eq_some_iff, List.getElem?_eq_some_iff]
  constructor
  · rintro ⟨h, same, -⟩
    exact ⟨h, same⟩
  · rintro ⟨h, same⟩
    refine ⟨h, same, fun j hj other => ?_⟩
    exact List.pairwise_iff_getElem.1 registry.nodup_names j i (by omega) h hj
      (other.trans same.symm)

/-- A name's number is below the number of tables. -/
theorem id_lt_size {registry : Registry} {name : String} {id : Nat}
    (h : registry.id? name = some id) : id < registry.size := by
  rw [id?_eq_some_iff, name?, List.getElem?_eq_some_iff] at h
  exact registry.length_names ▸ h.1

/-- The empty text is refused. -/
theorem resolve_empty (registry : Registry) : registry.resolve "" = .error .emptyTableName := by
  simp [resolve]

/-- A known name changes nothing. -/
theorem resolve_of_id?_eq_some {registry : Registry} {name : String} {id : Nat}
    (h : registry.id? name = some id) : registry.resolve name = .ok (id, registry) := by
  have isNamed : name ≠ "" := by
    rintro rfl
    have unseen : registry.id? "" = none :=
      id?_eq_none_iff.2 fun member => registry.named (List.mem_reverse.1 member)
    rw [unseen] at h
    cases h
  unfold resolve
  rw [dif_neg isNamed]
  split
  · rename_i other same
    rw [h] at same
    cases same
    rfl
  · rename_i unseen
    rw [h] at unseen
    cases unseen

/-- A new name goes to the end. -/
theorem resolve_of_not_mem {registry : Registry} {name : String} (isNamed : name ≠ "")
    (isNew : name ∉ registry.names) :
    registry.resolve name = .ok (registry.size, registry.append name isNamed isNew) := by
  unfold resolve
  rw [dif_neg isNamed]
  split
  · rename_i id seen
    rw [id?_eq_none_iff.2 isNew] at seen
    cases seen
  · rfl

end Registry

end JoinOrder
