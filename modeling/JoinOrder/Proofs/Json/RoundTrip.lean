/-
# Values Read Back

A value is written in one of its spellings, in every layout whose white space is that of the
grammar.  Its text therefore denotes it and is read as it.

Main statements: the spelling of a written value (`spells_renderAt`, by recursion on the value), and
whole texts (`denotes_render`, `parse_render`).
-/
import JoinOrder.Proofs.Json.Reading

namespace JoinOrder.Json

/-! ## Layouts of white space -/

/-- The layout leaves nothing but white space. -/
structure Layout.IsBlank (layout : Layout) : Prop where
  /-- Before elements. -/
  gap : ∀ depth, Json.IsBlank (layout.gap depth)
  /-- After colons. -/
  colonGap : Json.IsBlank layout.colonGap

theorem Layout.isBlank_compact : compact.IsBlank where
  gap _ := by simp [compact, Json.IsBlank]
  colonGap := by simp [compact, Json.IsBlank]

theorem Layout.isBlank_indented : indented.IsBlank where
  gap depth := by
    intro c hc
    rcases List.mem_cons.1 hc with rfl | hc
    · rfl
    · rw [List.eq_of_mem_replicate hc]
      rfl
  colonGap := by simp [indented, Json.IsBlank, isGap]

/-! ## Written values -/

variable {layout : Layout}

theorem isBlank_nil : IsBlank [] := fun _ h => absurd h List.not_mem_nil

/-- A name is written with nothing in front of its colon. -/
theorem spellsName_render (name : Text) : SpellsName name (name.render ++ [':']) :=
  .labelled (spellsText_render name) isBlank_nil

mutual

/-- **A value is written in one of its spellings.** -/
theorem spells_renderAt (blank : layout.IsBlank) (depth : Nat) :
    (json : Json) → Spells (.value json) (renderAt layout depth json)
  | .null => .null
  | .bool true => .true
  | .bool false => .false
  | .number n => .number (spellsNumeral_render n)
  | .string t => .string (spellsText_render t)
  | .array [] => .emptyArray isBlank_nil
  | .array (item :: items) => by
    have first := spells_renderAt blank (depth + 1) item
    have inside := spells_renderItems blank (depth + 1) (blank.gap depth) items first
    simp only [renderAt, List.cons_append, List.append_assoc]
    exact .array (.spaced (blank.gap _) inside)
  | .object [] => .emptyObject isBlank_nil
  | .object ((name, value) :: members) => by
    have first := (spells_renderAt blank (depth + 1) value).spaced blank.colonGap
    have inside := spells_renderMembers blank (depth + 1) (blank.gap depth) members name first
    simp only [renderAt, List.cons_append, List.append_assoc] at inside ⊢
    exact .object (.spaced (blank.gap _) inside)

/-- The elements of an array are written in one of their spellings if the first of them is. -/
theorem spells_renderItems (blank : layout.IsBlank) (depth : Nat) {close : List Char}
    (closing : IsBlank close) :
    (items : List Json) → {item : Json} → {cs : List Char} → Spells (.value item) cs →
      Spells (.items (item :: items)) (cs ++ (renderItems layout depth items ++ (close ++ [']'])))
  | [], _, _, first => .lastItem first closing
  | next :: items, _, _, first => by
    have second := spells_renderAt blank depth next
    have later := spells_renderItems blank depth closing items second
    simp only [renderItems, List.cons_append, List.append_assoc]
    exact .item first isBlank_nil (.spaced (blank.gap depth) later)

/-- The members of an object are written in one of their spellings if the value of the first of them
is. -/
theorem spells_renderMembers (blank : layout.IsBlank) (depth : Nat) {close : List Char}
    (closing : IsBlank close) :
    (members : List (Text × Json)) → (name : Text) → {value : Json} → {cs : List Char} →
      Spells (.value value) cs → Spells (.members ((name, value) :: members))
        (name.render ++ ':' :: (cs ++ (renderMembers layout depth members ++ (close ++ ['\x7d']))))
  | [], name, _, _, first => by
    have all := Spells.lastMember (spellsName_render name) first closing
    rw [List.append_assoc] at all
    exact all
  | (next, value) :: members, name, _, _, first => by
    have second := (spells_renderAt blank depth value).spaced blank.colonGap
    have later := spells_renderMembers blank depth closing members next second
    have all := Spells.member (spellsName_render name) first isBlank_nil
      (.spaced (blank.gap depth) later)
    simpa only [renderMembers, List.cons_append, List.nil_append, List.append_assoc] using all

end

/-! ## Whole texts -/

/-- **The text of a value denotes it**, in every layout of white space. -/
theorem denotes_render (blank : layout.IsBlank) (json : Json) :
    Denotes (json.render layout) json := by
  refine ⟨_, [], spells_renderAt blank 0 json, isBlank_nil, ?_⟩
  rw [render, String.toList_ofList, List.append_nil]

/-- **The text of a value is read as it**, in every layout of white space. -/
theorem parse_render (blank : layout.IsBlank) (json : Json) :
    parse (json.render layout) = some json :=
  parse_of_denotes (denotes_render blank json)

/-- The text of a value without white space is read as it. -/
theorem parse_compact (json : Json) : parse json.compact = some json :=
  parse_render Layout.isBlank_compact json

/-- The text of a value with a line for each element is read as it. -/
theorem parse_indented (json : Json) : parse json.indented = some json :=
  parse_render Layout.isBlank_indented json

end JoinOrder.Json
