/-
# Edge Texts

An edge is written `left:right`.  The first colon separates the names, white space around a name is
dropped, and both names must be left non-empty.

Main statements: where a text is parted (`splitAtColon_eq_some_iff`), and what parsing gives
(`parse_eq_ok_iff_parts`).
-/
import JoinOrder.Error
import JoinOrder.Text.Blank

namespace JoinOrder.EdgeText

/-- The parts before and after the first colon. -/
def splitAtColon (cs : List Char) : Option (List Char × List Char) :=
  match cs.dropWhile (· ≠ ':') with
  | [] => none
  | _ :: after => some (cs.takeWhile (· ≠ ':'), after)

/-- The two names of an edge text given as characters. -/
def parseChars (cs : List Char) : Option (List Char × List Char) :=
  match splitAtColon cs with
  | some (before, after) =>
    let left := Text.trimChars before
    let right := Text.trimChars after
    if left = [] ∨ right = [] then none else some (left, right)
  | none => none

/-- The two names of an edge text. -/
def parse (edge : String) : Except Error (String × String) :=
  match parseChars edge.toList with
  | some (left, right) => .ok (String.ofList left, String.ofList right)
  | none => .error (.malformedEdge edge)

/-- The first colon separates the parts, whatever follows it. -/
theorem splitAtColon_append {before : List Char} (h : ':' ∉ before) (after : List Char) :
    splitAtColon (before ++ ':' :: after) = some (before, after) := by
  -- All characters in front of the first colon are taken, and the colon is not.
  have plain : ∀ c ∈ before, (c ≠ ':') = true := by
    intro c hc
    simpa using fun same : c = ':' => h (same ▸ hc)
  have taken : (before ++ ':' :: after).takeWhile (· ≠ ':') = before := by
    rw [List.takeWhile_append_of_pos (by simpa using plain)]
    simp
  have dropped : (before ++ ':' :: after).dropWhile (· ≠ ':') = ':' :: after := by
    rw [List.dropWhile_append_of_pos (by simpa using plain)]
    simp
  unfold splitAtColon
  rw [dropped, taken]

/-- **The parts of a text**: the one in front of a colon has none itself. -/
theorem splitAtColon_eq_some_iff {cs before after : List Char} :
    splitAtColon cs = some (before, after) ↔ ':' ∉ before ∧ cs = before ++ ':' :: after := by
  constructor
  · intro parted
    unfold splitAtColon at parted
    split at parted
    · cases parted
    · rename_i c rest dropped
      obtain ⟨rfl, rfl⟩ := Prod.mk.inj (Option.some.inj parted)
      -- What is left starts with the character that stopped the dropping.
      have stop := Text.head?_dropWhile_not (fun d => decide (d ≠ ':')) cs c (by rw [dropped]; rfl)
      obtain rfl : c = ':' := Decidable.of_not_not (of_decide_eq_false stop)
      have plain : ∀ d ∈ cs.takeWhile (· ≠ ':'), d ≠ ':' := fun d hd =>
        of_decide_eq_true (List.all_eq_true.1 List.all_takeWhile d hd)
      refine ⟨fun member => plain _ member rfl, ?_⟩
      rw [← dropped, List.takeWhile_append_dropWhile]
  · rintro ⟨plain, rfl⟩
    exact splitAtColon_append plain after

/-- **What parsing gives**: the trimmed parts, both of which are needed. -/
theorem parse_eq_ok_iff_parts {edge left right : String} :
    parse edge = .ok (left, right) ↔
      ∃ before after, splitAtColon edge.toList = some (before, after) ∧
        Text.trimChars before = left.toList ∧ Text.trimChars after = right.toList ∧
        left ≠ "" ∧ right ≠ "" := by
  have named : ∀ name : String, name ≠ "" ↔ name.toList ≠ [] := fun name =>
    (not_congr String.toList_eq_nil_iff).symm
  unfold parse parseChars
  cases splitAtColon edge.toList with
  | none => simp
  | some parts =>
    obtain ⟨before, after⟩ := parts
    simp only [Option.some.injEq, Prod.mk.injEq, named]
    by_cases unnamed : Text.trimChars before = [] ∨ Text.trimChars after = []
    · rw [if_pos unnamed]
      constructor
      · intro parsed
        cases parsed
      · rintro ⟨_, _, ⟨rfl, rfl⟩, first, second, left, right⟩
        exact absurd unnamed (not_or.2 ⟨first ▸ left, second ▸ right⟩)
    · rw [if_neg unnamed]
      constructor
      · intro parsed
        obtain ⟨rfl, rfl⟩ := Prod.mk.inj (Except.ok.inj parsed)
        refine ⟨before, after, ⟨rfl, rfl⟩, String.toList_ofList.symm, String.toList_ofList.symm, ?_⟩
        rw [String.toList_ofList, String.toList_ofList]
        exact not_or.1 unnamed
      · rintro ⟨_, _, ⟨rfl, rfl⟩, first, second, -⟩
        simp only [first, second, String.ofList_toList]

end JoinOrder.EdgeText
