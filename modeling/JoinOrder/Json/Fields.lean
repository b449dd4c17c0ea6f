/-
# Records in JSON

How a record of named fields is read from a value.  Two forms are accepted: an object, whose members
may come in any order and among unknown ones, and an array, whose elements are the fields in the
order of declaration.  A known field may be given once only, every name of the object must denote a
text, and an array may be shorter than the record but not longer.

Main statements: an array gives the fields in order (`fields?_array`), and a record gives those of
its fields that are declared (`fields?_record_of_nodup`, `fields?_record`).
-/
import JoinOrder.Json.Value

namespace JoinOrder.Json

/-- A field that was given, with its value. -/
abbrev Field := String × Json

/-- The members of an object whose names all denote texts. -/
def namedMembers? (members : List (Text × Json)) : Option (List Field) :=
  members.mapM fun member => member.1.proper?.map fun name => (name, member.2)

/-- The fields given by a value, of those that the record declares. -/
def fields? (declared : List String) : Json → Option (List Field)
  | .array items =>
    if items.length ≤ declared.length then some (declared.zip items) else none
  | .object members => do
    let named ← namedMembers? members
    let known := named.filter fun field => field.1 ∈ declared
    if (known.map Prod.fst).Nodup then some known else none
  | _ => none

/-- The value of a field that may be left out. -/
def optional {α : Type} (fields : List Field) (name : String) (decode : Json → Option α)
    (fallback : α) : Option α :=
  match fields.lookup name with
  | none => some fallback
  | some json => decode json

/-- The value of a field that must be given. -/
def required {α : Type} (fields : List Field) (name : String) (decode : Json → Option α) :
    Option α :=
  (fields.lookup name).bind decode

/-- An array gives the fields in order. -/
theorem fields?_array {declared : List String} {items : List Json}
    (h : items.length ≤ declared.length) :
    (Json.array items).fields? declared = some (declared.zip items) := by
  simp [fields?, h]

/-- The names of a record all denote texts. -/
theorem namedMembers?_record (fields : List Field) :
    namedMembers? (fields.map fun field => (.proper field.1, field.2)) = some fields := by
  induction fields with
  | nil => rfl
  | cons field fields ih =>
    rw [namedMembers?] at ih ⊢
    rw [List.map_cons, List.mapM_cons, ih]
    rfl

/-- **A record gives those of its fields that are declared**, if none of them is repeated. -/
theorem fields?_record_of_nodup {declared : List String} {fields : List Field}
    (distinct : ((fields.filter fun field => field.1 ∈ declared).map Prod.fst).Nodup) :
    (record fields).fields? declared = some (fields.filter fun field => field.1 ∈ declared) := by
  rw [record, fields?, namedMembers?_record]
  exact if_pos distinct

/-- **A record gives its own fields**, if they are the declared ones. -/
theorem fields?_record {declared : List String} {fields : List Field}
    (names : fields.map Prod.fst = declared) (distinct : declared.Nodup) :
    (record fields).fields? declared = some fields := by
  have known : fields.filter (fun field => field.1 ∈ declared) = fields := by
    rw [List.filter_eq_self]
    intro field member
    exact decide_eq_true (names ▸ List.mem_map_of_mem member)
  have unrepeated : ((fields.filter fun field => field.1 ∈ declared).map Prod.fst).Nodup := by
    rw [known, names]
    exact distinct
  rw [fields?_record_of_nodup unrepeated, known]

end JoinOrder.Json
