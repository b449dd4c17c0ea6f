/-
# Fields Given in Part

What a value gives of the fields that a record declares, when members of other names stand among
them.  The declared fields are given if each of them stands there once at most, and nothing is given
if one of them is repeated.  An array is the record of the first fields in the order of declaration.

Main statements: when no field is repeated (`nodup_known_iff`), a repeated field
(`fields?_of_repeated`), and the two forms (`fields?_array_eq_record`).
-/
import JoinOrder.Json.Fields
import Mathlib.Data.List.Count
import Mathlib.Data.List.Nodup

namespace JoinOrder.Json

variable {declared : List String} {fields : List Field} {name : String}

/-- The members whose names are declared, by their names. -/
theorem map_fst_known (declared : List String) (fields : List Field) :
    (fields.filter fun field => field.1 ∈ declared).map Prod.fst =
      (fields.map Prod.fst).filter (· ∈ declared) := by
  rw [List.filter_map]
  rfl

/-- **No declared field is repeated** if each of them stands there once at most. -/
theorem nodup_known_iff :
    ((fields.filter fun field => field.1 ∈ declared).map Prod.fst).Nodup ↔
      ∀ name ∈ declared, (fields.map Prod.fst).count name ≤ 1 := by
  have kept : ∀ name ∈ declared, ((fields.map Prod.fst).filter (· ∈ declared)).count name =
      (fields.map Prod.fst).count name :=
    fun name known => List.count_filter (by simpa using known)
  rw [map_fst_known, List.nodup_iff_count_le_one]
  constructor
  · intro once name known
    rw [← kept name known]
    exact once name
  · intro once name
    by_cases known : name ∈ declared
    · rw [kept name known]
      exact once name known
    · have missing : name ∉ (fields.map Prod.fst).filter (· ∈ declared) :=
        fun member => known (of_decide_eq_true (List.mem_filter.1 member).2)
      rw [List.count_eq_zero_of_not_mem missing]
      exact Nat.zero_le 1

/-- A declared field is found among the members of other names. -/
theorem lookup_known (known : name ∈ declared) :
    (fields.filter fun field => field.1 ∈ declared).lookup name = fields.lookup name := by
  induction fields with
  | nil => rfl
  | cons field fields ih =>
    obtain ⟨other, value⟩ := field
    by_cases declares : other ∈ declared
    · rw [List.filter_cons_of_pos (by simpa using declares), List.lookup_cons, List.lookup_cons, ih]
    · have different : (name == other) = false := by
        refine beq_false_of_ne ?_
        rintro rfl
        exact declares known
      rw [List.filter_cons_of_neg (by simpa using declares), List.lookup_cons, different, ih]

/-- **A declared field is read** as if there were no members of other names. -/
theorem optional_known (known : name ∈ declared) {α : Type} (decode : Json → Option α)
    (fallback : α) :
    optional (fields.filter fun field => field.1 ∈ declared) name decode fallback =
      optional fields name decode fallback := by
  rw [optional, optional, lookup_known known]

/-- Members whose names all denote texts are those of a record. -/
theorem eq_of_namedMembers? {members : List (Text × Json)}
    (named : namedMembers? members = some fields) :
    members = fields.map fun field => (.proper field.1, field.2) := by
  induction members generalizing fields with
  | nil =>
    cases named
    rfl
  | cons member members ih =>
    obtain ⟨label, value⟩ := member
    rw [namedMembers?, List.mapM_cons] at named
    obtain ⟨field, first, more⟩ := Option.bind_eq_some_iff.1 named
    obtain ⟨name, proper, rfl⟩ := Option.map_eq_some_iff.1 first
    obtain ⟨later, others, made⟩ := Option.bind_eq_some_iff.1 more
    cases made
    rw [List.map_cons, ih others]
    cases label with
    | proper text =>
      cases proper
      rfl
    | unpaired => cases proper

/-- **Nothing is given when a declared field is repeated.** -/
theorem fields?_of_repeated {members : List (Text × Json)} (known : name ∈ declared)
    (repeated : 2 ≤ (members.map Prod.fst).count (.proper name)) :
    (Json.object members).fields? declared = none := by
  rw [fields?]
  cases named : namedMembers? members with
  | none => rfl
  | some fields =>
    have names : members.map Prod.fst = (fields.map Prod.fst).map Text.proper := by
      rw [eq_of_namedMembers? named, List.map_map, List.map_map]
      rfl
    have proper : Function.Injective Text.proper := fun _ _ => Text.proper.inj
    rw [names, List.count_map_of_injective _ _ proper] at repeated
    show (if _ then _ else _) = _
    rw [if_neg]
    intro distinct
    have once := nodup_known_iff.1 distinct name known
    omega

/-- **An array gives what the record of the first fields gives.** -/
theorem fields?_array_eq_record {items : List Json} (distinct : declared.Nodup)
    (short : items.length ≤ declared.length) :
    (Json.array items).fields? declared = (record (declared.zip items)).fields? declared := by
  have known : (declared.zip items).filter (fun field => field.1 ∈ declared) =
      declared.zip items := by
    rw [List.filter_eq_self]
    rintro ⟨name, value⟩ member
    exact decide_eq_true (List.of_mem_zip member).1
  have names : (declared.zip items).map Prod.fst = declared.take items.length := by
    rw [List.zip_eq_zip_take_min, Nat.min_eq_right short, List.take_length]
    exact List.map_fst_zip (List.length_take_le _ _)
  rw [fields?_array short, fields?_record_of_nodup, known]
  rw [known, names]
  exact distinct.sublist (List.take_sublist _ _)

end JoinOrder.Json
