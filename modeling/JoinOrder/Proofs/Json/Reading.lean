/-
# What Is Spelled Is Read

A text that spells a value, with white space around it, is read as that value.  The reader has two
steps for each character, which is always enough: one for a value itself, and one for its place in
an array or object.

Main statements: the parts of a text (`Spells.isRead`, by induction on the spelling), and whole
texts (`parse_of_denotes`).
-/
import JoinOrder.Proofs.Json.Literal
import Mathlib.Data.List.DropRight

namespace JoinOrder.Json

/-! ## White space -/

theorem eq_of_isGap {c : Char} (h : isGap c = true) : c = ' ' ∨ c = '\t' ∨ c = '\n' ∨ c = '\r' := by
  simpa [isGap, or_assoc] using h

/-- White space in front is skipped. -/
theorem skipGap_append {gap : List Char} (blank : IsBlank gap) (cs : List Char) :
    skipGap (gap ++ cs) = skipGap cs :=
  List.dropWhile_append_of_pos blank

/-- Where something else begins, nothing is skipped. -/
theorem skipGap_cons {c : Char} (h : isGap c = false) (cs : List Char) :
    skipGap (c :: cs) = c :: cs :=
  List.dropWhile_cons_of_neg (by rw [h]; decide)

/-- White space is skipped at once. -/
theorem skipGap_skipGap (cs : List Char) : skipGap (skipGap cs) = skipGap cs :=
  List.dropWhile_idempotent _ _

/-- White space in front of something else is skipped up to there. -/
theorem skipGap_append_cons {gap : List Char} (blank : IsBlank gap) {c : Char} (h : isGap c = false)
    (cs : List Char) : skipGap (gap ++ c :: cs) = c :: cs := by
  rw [skipGap_append blank, skipGap_cons h]

/-- White space does not go on with a number if what follows it does not. -/
theorem IsBlank.endsNumeral {gap cs : List Char} (blank : IsBlank gap) (h : EndsNumeral cs) :
    EndsNumeral (gap ++ cs) := by
  cases gap with
  | nil => exact h
  | cons c gap =>
    intro d first
    obtain rfl := Option.some.inj first
    rcases eq_of_isGap (blank c List.mem_cons_self) with rfl | rfl | rfl | rfl <;> decide

/-- What separates or closes does not go on with a number. -/
theorem endsNumeral_cons {c : Char} (closing : c = ',' ∨ c = ']' ∨ c = '\x7d') (cs : List Char) :
    EndsNumeral (c :: cs) := by
  rintro d first
  obtain rfl := Option.some.inj first
  rcases closing with rfl | rfl | rfl <;> decide

variable {steps : Nat} {cs ds rest : List Char}

/-! ## Steps of the reader

White space in front makes no difference to a step. -/

theorem readValue_congr (h : skipGap cs = skipGap ds) :
    readValue steps cs = readValue steps ds := by
  cases steps with
  | zero => rfl
  | succ steps => rw [readValue, readValue, h]

theorem readItems_congr (h : skipGap cs = skipGap ds) :
    readItems steps cs = readItems steps ds := by
  cases steps with
  | zero => rfl
  | succ steps => rw [readItems, readItems, readValue_congr h]

theorem readMembers_congr (h : skipGap cs = skipGap ds) :
    readMembers steps cs = readMembers steps ds := by
  cases steps with
  | zero => rfl
  | succ steps => rw [readMembers, readMembers, h]

/-- A number starts with nothing that another value starts with. -/
theorem ne_of_first {c : Char} (first : c = '-' ∨ c.isDigit = true) {d : Char}
    (other : d ≠ '-' ∧ d.isDigit = false) : c ≠ d := by
  rintro rfl
  rcases first with rfl | digit
  · exact other.1 rfl
  · rw [digit] at other
    cases other.2

theorem not_isGap_of_first {c : Char} (first : c = '-' ∨ c.isDigit = true) : isGap c = false := by
  cases gap : isGap c with
  | false => rfl
  | true =>
    rcases eq_of_isGap gap with same | same | same | same <;>
      exact absurd same (ne_of_first first (by decide))

theorem readValue_numeral {c : Char} (first : c = '-' ∨ c.isDigit = true) (cs : List Char) :
    readValue (steps + 1) (c :: cs) =
      (readNumeral (c :: cs)).map fun (n, rest) => (.number n, rest) := by
  rw [readValue, skipGap_cons (not_isGap_of_first first)]
  split
  case h_7 => rfl
  all_goals
    rename_i same
    exact absurd (List.cons.inj same).1 (ne_of_first first (by decide))

theorem readValue_array {c : Char} {inside : List Char} (inner : skipGap inside = c :: cs)
    (nonempty : c ≠ ']') :
    readValue (steps + 1) ('[' :: inside) =
      (readItems steps inside).map fun (items, rest) => (.array items, rest) := by
  have again : skipGap (c :: cs) = skipGap inside := by rw [← inner, skipGap_skipGap]
  rw [readValue, skipGap_cons (by decide), ← readItems_congr again]
  simp only [inner]
  split
  · rename_i same
    exact absurd (List.cons.inj same).1 nonempty
  · rfl

theorem readValue_object {c : Char} {inside : List Char} (inner : skipGap inside = c :: cs)
    (nonempty : c ≠ '\x7d') :
    readValue (steps + 1) ('\x7b' :: inside) =
      (readMembers steps inside).map fun (members, rest) => (.object members, rest) := by
  have again : skipGap (c :: cs) = skipGap inside := by rw [← inner, skipGap_skipGap]
  rw [readValue, skipGap_cons (by decide), ← readMembers_congr again]
  simp only [inner]
  split
  · rename_i same
    exact absurd (List.cons.inj same).1 nonempty
  · rfl

theorem readValue_emptyArray {gap : List Char} (blank : IsBlank gap) (rest : List Char) :
    readValue (steps + 1) ('[' :: (gap ++ ']' :: rest)) = some (.array [], rest) := by
  rw [readValue, skipGap_cons (by decide)]
  simp only [skipGap_append_cons blank (c := ']') rfl]

theorem readValue_emptyObject {gap : List Char} (blank : IsBlank gap) (rest : List Char) :
    readValue (steps + 1) ('\x7b' :: (gap ++ '\x7d' :: rest)) = some (.object [], rest) := by
  rw [readValue, skipGap_cons (by decide)]
  simp only [skipGap_append_cons blank (c := '\x7d') rfl]

variable {json : Json} {items : List Json} {members : List (Text × Json)} {name : Text}
  {label gap others : List Char}

theorem readItems_last (first : readValue steps cs = some (json, gap ++ ']' :: rest))
    (blank : IsBlank gap) : readItems (steps + 1) cs = some ([json], rest) := by
  rw [readItems, first]
  simp only [Option.bind_eq_bind, Option.bind_some, skipGap_append_cons blank (c := ']') rfl]
  rfl

theorem readItems_cons (first : readValue steps cs = some (json, gap ++ ',' :: others))
    (blank : IsBlank gap) (later : readItems steps others = some (items, rest)) :
    readItems (steps + 1) cs = some (json :: items, rest) := by
  rw [readItems, first]
  simp only [Option.bind_eq_bind, Option.bind_some, skipGap_append_cons blank (c := ',') rfl, later]
  rfl

/-- A member starts with the quote of its name, which is read up to the colon. -/
theorem SpellsName.exists_cons (h : SpellsName name label) (cs : List Char) :
    ∃ others behind, label ++ cs = '"' :: others ∧ readText others = some (name, behind) ∧
      skipGap behind = ':' :: cs := by
  obtain @⟨spelled, space, text, blank⟩ := h
  obtain ⟨others, shape, read⟩ := text.exists_cons (space ++ ':' :: cs)
  refine ⟨others, space ++ ':' :: cs, ?_, read, skipGap_append_cons blank rfl cs⟩
  rw [← shape, List.append_assoc, List.append_assoc]
  rfl

theorem readMembers_last (named : SpellsName name label)
    (value : readValue steps cs = some (json, gap ++ '\x7d' :: rest)) (blank : IsBlank gap) :
    readMembers (steps + 1) (label ++ cs) = some ([(name, json)], rest) := by
  obtain ⟨others, behind, shape, text, colon⟩ := named.exists_cons cs
  rw [shape, readMembers, skipGap_cons (by decide)]
  simp only [Option.bind_eq_bind, text, Option.bind_some, colon, value,
    skipGap_append_cons blank (c := '\x7d') rfl]
  rfl

theorem readMembers_cons (named : SpellsName name label)
    (value : readValue steps cs = some (json, gap ++ ',' :: others)) (blank : IsBlank gap)
    (later : readMembers steps others = some (members, rest)) :
    readMembers (steps + 1) (label ++ cs) = some ((name, json) :: members, rest) := by
  obtain ⟨others, behind, shape, text, colon⟩ := named.exists_cons cs
  rw [shape, readMembers, skipGap_cons (by decide)]
  simp only [Option.bind_eq_bind, text, Option.bind_some, colon, value,
    skipGap_append_cons blank (c := ',') rfl, later]
  rfl

/-! ## Parts of a text -/

/-- A part starts with something that closes no array and no object. -/
theorem Spells.exists_skipGap_eq {part : Part} (h : Spells part cs) (rest : List Char) :
    ∃ c others, skipGap (cs ++ rest) = c :: others ∧ c ≠ ']' ∧ c ≠ '\x7d' := by
  induction h generalizing rest with
  | null | true | false | emptyArray | array | emptyObject | object =>
    exact ⟨_, _, rfl, by decide, by decide⟩
  | number spelled =>
    obtain ⟨c, others, shape, first⟩ := spelled.exists_cons rest
    refine ⟨c, others, ?_, ne_of_first first (by decide), ne_of_first first (by decide)⟩
    rw [shape, skipGap_cons (not_isGap_of_first first)]
  | string spelled =>
    obtain ⟨others, shape, -⟩ := spelled.exists_cons rest
    exact ⟨'"', others, by rw [shape]; rfl, by decide, by decide⟩
  | lastItem item blank ih | item item blank later ih =>
    rw [List.append_assoc]
    exact ih _
  | lastMember named | member named =>
    rw [List.append_assoc]
    obtain ⟨others, behind, shape, -⟩ := named.exists_cons _
    exact ⟨'"', others, by rw [shape]; rfl, by decide, by decide⟩
  | spaced blank spelled ih =>
    rw [List.append_assoc, skipGap_append blank]
    exact ih rest

theorem Spells.length_pos {part : Part} (h : Spells part cs) : 0 < cs.length := by
  obtain ⟨c, others, shape, -⟩ := h.exists_skipGap_eq []
  cases cs with
  | nil => cases shape
  | cons c cs => exact Nat.succ_pos _

/-- The characters of a part are read as that part, with two steps for each of them. -/
def Part.IsRead (cs : List Char) : Part → Prop
  | .value json => ∀ steps rest, 2 * cs.length ≤ steps + 1 → EndsNumeral rest →
    readValue steps (cs ++ rest) = some (json, rest)
  | .items inside => ∀ steps rest, 2 * cs.length ≤ steps →
    readItems steps (cs ++ rest) = some (inside, rest)
  | .members inside => ∀ steps rest, 2 * cs.length ≤ steps →
    readMembers steps (cs ++ rest) = some (inside, rest)

/-- A value takes one step at least. -/
theorem Part.isRead_value (visible : 0 < cs.length)
    (step : ∀ steps rest, 2 * cs.length ≤ steps + 2 → EndsNumeral rest →
      readValue (steps + 1) (cs ++ rest) = some (json, rest)) : (Part.value json).IsRead cs := by
  rintro (_ | steps) rest enough stop
  · omega
  · exact step steps rest enough stop

/-- White space in front is read with a part. -/
theorem Part.IsRead.spaced {part : Part} (h : part.IsRead cs) (blank : IsBlank gap) :
    part.IsRead (gap ++ cs) := by
  have skipped : ∀ rest, skipGap (gap ++ cs ++ rest) = skipGap (cs ++ rest) := by
    intro rest
    rw [List.append_assoc, skipGap_append blank]
  cases part with
  | value json =>
    intro steps rest enough stop
    rw [List.length_append] at enough
    rw [readValue_congr (skipped rest)]
    exact h steps rest (by omega) stop
  | items inside =>
    intro steps rest enough
    rw [List.length_append] at enough
    rw [readItems_congr (skipped rest)]
    exact h steps rest (by omega)
  | members inside =>
    intro steps rest enough
    rw [List.length_append] at enough
    rw [readMembers_congr (skipped rest)]
    exact h steps rest (by omega)

/-- **A part is read as what it spells.** -/
theorem Spells.isRead {part : Part} (h : Spells part cs) : part.IsRead cs := by
  induction h with
  | null | true | false => exact Part.isRead_value (by decide) fun steps rest _ _ => rfl
  | @number n cs spelled =>
    refine Part.isRead_value (Spells.number spelled).length_pos fun steps rest _ stop => ?_
    obtain ⟨c, others, shape, first⟩ := spelled.exists_cons rest
    rw [shape, readValue_numeral first, ← shape, readNumeral_of_spells spelled stop]
    rfl
  | @string t cs spelled =>
    refine Part.isRead_value (Spells.string spelled).length_pos fun steps rest _ _ => ?_
    obtain ⟨others, shape, read⟩ := spelled.exists_cons rest
    rw [shape]
    show (readText others).map _ = _
    rw [read]
    rfl
  | @emptyArray gap blank =>
    refine Part.isRead_value (Nat.succ_pos _) fun steps rest _ _ => ?_
    rw [List.cons_append, List.append_assoc]
    exact readValue_emptyArray blank rest
  | @array items cs inside ih =>
    refine Part.isRead_value (Nat.succ_pos _) fun steps rest enough _ => ?_
    obtain ⟨c, others, inner, nonempty, -⟩ := inside.exists_skipGap_eq rest
    rw [List.length_cons] at enough
    rw [List.cons_append, readValue_array inner nonempty, ih steps rest (by omega)]
    rfl
  | @emptyObject gap blank =>
    refine Part.isRead_value (Nat.succ_pos _) fun steps rest _ _ => ?_
    rw [List.cons_append, List.append_assoc]
    exact readValue_emptyObject blank rest
  | @object members cs inside ih =>
    refine Part.isRead_value (Nat.succ_pos _) fun steps rest enough _ => ?_
    obtain ⟨c, others, inner, -, nonempty⟩ := inside.exists_skipGap_eq rest
    rw [List.length_cons] at enough
    rw [List.cons_append, readValue_object inner nonempty, ih steps rest (by omega)]
    rfl
  | @lastItem json cs gap item blank ih =>
    rintro (_ | steps) rest enough
    · simp at enough
    · simp only [List.append_assoc, List.length_append, List.length_singleton] at enough ⊢
      have first := ih steps (gap ++ ']' :: rest) (by omega)
        (blank.endsNumeral (endsNumeral_cons (by simp) rest))
      exact readItems_last first blank
  | @item json items cs gap others item blank later ihItem ihLater =>
    rintro (_ | steps) rest enough
    · simp at enough
    · simp only [List.append_assoc, List.length_append, List.length_cons] at enough ⊢
      have first := ihItem steps (gap ++ ',' :: (others ++ rest)) (by omega)
        (blank.endsNumeral (endsNumeral_cons (by simp) _))
      exact readItems_cons first blank (ihLater steps rest (by omega))
  | @lastMember name json label cs gap named value blank ih =>
    rintro (_ | steps) rest enough
    · simp at enough
    · simp only [List.append_assoc, List.length_append, List.length_singleton] at enough ⊢
      have first := ih steps (gap ++ '\x7d' :: rest) (by omega)
        (blank.endsNumeral (endsNumeral_cons (by simp) rest))
      exact readMembers_last named first blank
  | @member name json members label cs gap others named value blank later ihValue ihLater =>
    rintro (_ | steps) rest enough
    · simp at enough
    · simp only [List.append_assoc, List.length_append, List.length_cons] at enough ⊢
      have first := ihValue steps (gap ++ ',' :: (others ++ rest)) (by omega)
        (blank.endsNumeral (endsNumeral_cons (by simp) _))
      exact readMembers_cons named first blank (ihLater steps rest (by omega))
  | spaced blank spelled ih => exact ih.spaced blank

/-! ## Whole texts -/

/-- **A text that denotes a value is read as it.** -/
theorem parse_of_denotes {text : String} (h : Denotes text json) : parse text = some json := by
  obtain ⟨cs, gap, spelled, blank, shape⟩ := h
  have stop : EndsNumeral (gap ++ []) := blank.endsNumeral (by simp [EndsNumeral])
  have read := spelled.isRead (2 * (cs ++ gap).length + 2) gap
    (by rw [List.length_append]; omega) (List.append_nil gap ▸ stop)
  have nothing : skipGap gap = [] := List.dropWhile_eq_nil_iff.2 blank
  rw [parse, parseChars, shape, read]
  show (if skipGap gap = [] then _ else _) = _
  rw [if_pos nothing]

end JoinOrder.Json
