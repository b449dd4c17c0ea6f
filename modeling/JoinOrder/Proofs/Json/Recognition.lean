/-
# What Is Read Is Spelled

The reader accepts nothing but the spellings of the grammar: what it takes from the front of a text
spells what it returns.  Since every spelling is read as well, a text is read as a value exactly if
it denotes it.

Main statements: numbers and string literals (`of_readNumeral`, `of_readUnits`), the parts of a text
(`accepts`, by induction on the steps of the reader), and whole texts (`parse_eq_some_iff`).
-/
import JoinOrder.Proofs.Json.Reading

namespace JoinOrder.Json

variable {digits cs rest : List Char}

/-! ## Numbers -/

theorem of_readDigits (h : readDigits cs = some (digits, rest)) :
    IsDigits digits ∧ cs = digits ++ rest := by
  unfold readDigits at h
  split at h
  · cases h
  · rename_i nonempty
    cases h
    exact ⟨⟨nonempty, fun c hc => List.mem_takeWhile_imp hc⟩, List.takeWhile_append_dropWhile.symm⟩

theorem of_readWhole {n : Nat} (h : readWhole cs = some (n, rest)) :
    cs = Nat.toDigits 10 n ++ rest := by
  obtain ⟨⟨digits, others⟩, read, made⟩ := Option.bind_eq_some_iff.1 h
  obtain ⟨number, shape⟩ := of_readDigits read
  dsimp only at made
  split at made
  · cases made
  · rename_i proper
    cases made
    have alone : digits.head? = some '0' → digits.length = 1 :=
      fun zero => Decidable.not_not.1 fun long => proper ⟨zero, long⟩
    rw [Text.toDigits_ofDigitChars number.nonempty number.digits alone]
    exact shape

theorem digitChar_digitOf {c : Char} (h : c.isDigit = true) :
    Nat.digitChar (digitOf c).val = c := by
  obtain ⟨same, value⟩ := Text.digitChar_of_isDigit h
  have exact : (digitOf c).val = c.toNat - '0'.toNat := Nat.mod_eq_of_lt value
  rw [exact, same]

theorem of_readFraction {fraction : List (Fin 10)} (h : readFraction cs = some (fraction, rest)) :
    cs = Numeral.renderFraction fraction ++ rest := by
  unfold readFraction at h
  split at h
  · obtain ⟨⟨digits, others⟩, read, made⟩ := Option.map_eq_some_iff.1 h
    obtain ⟨number, rfl⟩ := of_readDigits read
    cases made
    have back : (digits.map digitOf).map (fun d => Nat.digitChar d.val) = digits := by
      rw [List.map_map]
      exact (List.map_congr_left fun c hc => digitChar_digitOf (number.digits c hc)).trans
        (List.map_id _)
    have written : Numeral.renderFraction (digits.map digitOf) =
        '.' :: (digits.map digitOf).map fun d => Nat.digitChar d.val := by
      cases digits with
      | nil => exact absurd rfl number.nonempty
      | cons digit digits => rfl
    rw [written, back]
    rfl
  · cases h
    rfl

/-- What is read behind the mark of an exponent spells the exponent with its mark. -/
theorem of_readExponentDigits {e : Int} (h : readExponentDigits cs = some (e, rest)) {mark : Char}
    (marked : mark = 'e' ∨ mark = 'E') :
    ∃ spelled, SpellsExponent (some e) (mark :: spelled) ∧ cs = spelled ++ rest := by
  unfold readExponentDigits at h
  split at h
  all_goals
    obtain ⟨⟨digits, others⟩, read, made⟩ := Option.map_eq_some_iff.1 h
    obtain ⟨number, rfl⟩ := of_readDigits read
    cases made
  · exact ⟨_, .negative marked number, rfl⟩
  · exact ⟨_, .positive marked number, rfl⟩
  · exact ⟨_, .unsigned marked number, rfl⟩

theorem of_readExponent {exponent : Option Int} (h : readExponent cs = some (exponent, rest)) :
    ∃ marked, SpellsExponent exponent marked ∧ cs = marked ++ rest := by
  unfold readExponent at h
  split at h
  · obtain ⟨⟨e, others⟩, read, made⟩ := Option.map_eq_some_iff.1 h
    cases made
    obtain ⟨spelled, marked, rfl⟩ := of_readExponentDigits read (.inl rfl)
    exact ⟨_, marked, rfl⟩
  · obtain ⟨⟨e, others⟩, read, made⟩ := Option.map_eq_some_iff.1 h
    cases made
    obtain ⟨spelled, marked, rfl⟩ := of_readExponentDigits read (.inr rfl)
    exact ⟨_, marked, rfl⟩
  · cases h
    exact ⟨[], .absent, rfl⟩

theorem of_readUnsigned {negative : Bool} {n : Numeral}
    (h : readUnsigned negative cs = some (n, rest)) :
    ∃ spelled, SpellsNumeral n ((if negative then ['-'] else []) ++ spelled) ∧
      cs = spelled ++ rest := by
  obtain ⟨⟨whole, behindWhole⟩, readsWhole, h⟩ := Option.bind_eq_some_iff.1 h
  obtain ⟨⟨fraction, behindFraction⟩, readsFraction, h⟩ := Option.bind_eq_some_iff.1 h
  obtain ⟨⟨exponent, behindExponent⟩, readsExponent, made⟩ := Option.bind_eq_some_iff.1 h
  obtain ⟨marked, scaled, shape⟩ := of_readExponent readsExponent
  cases made
  refine ⟨_, .parts scaled, ?_⟩
  rw [of_readWhole readsWhole, of_readFraction readsFraction, shape, List.append_assoc,
    List.append_assoc]

/-- **What is read as a number** spells it. -/
theorem of_readNumeral {n : Numeral} (h : readNumeral cs = some (n, rest)) :
    ∃ spelled, SpellsNumeral n spelled ∧ cs = spelled ++ rest := by
  unfold readNumeral at h
  split at h
  all_goals
    obtain ⟨spelled, parts, rfl⟩ := of_readUnsigned h
    exact ⟨_, parts, rfl⟩

/-! ## Strings -/

/-- **What is read as the units of a string literal** spells them. -/
theorem of_readUnits {units : List Nat} (h : readUnits cs = some (units, rest)) :
    ∃ spelled, SpellsUnits units spelled ∧ cs = spelled ++ rest := by
  induction cs using readUnits.induct generalizing units with
  | case1 => cases h
  | case2 behind =>
    cases h
    exact ⟨_, .close, rfl⟩
  | case3 a b c d behind ih =>
    obtain ⟨unit, escaped, h⟩ := Option.bind_eq_some_iff.1 h
    obtain ⟨⟨others, rest⟩, read, made⟩ := Option.bind_eq_some_iff.1 h
    cases made
    obtain ⟨spelled, later, rfl⟩ := ih read
    exact ⟨_, .digits escaped later, rfl⟩
  | case4 c behind notDigits ih =>
    rw [readUnits] at h
    · obtain ⟨unit, escaped, h⟩ := Option.bind_eq_some_iff.1 h
      obtain ⟨⟨others, rest⟩, read, made⟩ := Option.bind_eq_some_iff.1 h
      cases made
      obtain ⟨spelled, later, rfl⟩ := ih read
      exact ⟨_, .letter escaped later, rfl⟩
    · exact notDigits
  | case5 c behind notQuote notDigits notLetter control =>
    rw [readUnits, if_pos control] at h
    · cases h
    · exact notQuote
    · exact notDigits
    · exact notLetter
  | case6 c behind notQuote notDigits notLetter printed ih =>
    rw [readUnits, if_neg printed] at h
    · obtain ⟨⟨others, rest⟩, read, made⟩ := Option.bind_eq_some_iff.1 h
      cases made
      have notBackslash : c ≠ '\\' := by
        -- A backslash is followed by something, because the closing quote is still to come.
        intro backslash
        cases behind with
        | nil => cases read
        | cons next behind => exact notLetter next behind backslash rfl
      obtain ⟨spelled, later, rfl⟩ := ih read
      exact ⟨_, .plain notQuote notBackslash printed later, rfl⟩
    · exact notQuote
    · exact notDigits
    · exact notLetter

/-- **What is read as a string literal** behind its opening quote spells it with that quote. -/
theorem of_readText {t : Text} (h : readText cs = some (t, rest)) :
    ∃ spelled, SpellsText t ('"' :: spelled) ∧ cs = spelled ++ rest := by
  obtain ⟨⟨units, others⟩, read, made⟩ := Option.map_eq_some_iff.1 h
  cases made
  obtain ⟨spelled, body, rfl⟩ := of_readUnits read
  exact ⟨spelled, .quoted body, rfl⟩

/-! ## Parts of a text -/

/-- The front of a text spells a part, and the rest follows. -/
def Part.Fronts (part : Part) (cs rest : List Char) : Prop :=
  ∃ spelled, Spells part spelled ∧ cs = spelled ++ rest

/-- What is skipped is white space. -/
theorem exists_gap (cs : List Char) : ∃ gap, IsBlank gap ∧ gap ++ skipGap cs = cs :=
  ⟨cs.takeWhile isGap, fun _ => List.mem_takeWhile_imp, List.takeWhile_append_dropWhile⟩

/-- White space in front belongs to what is spelled behind it. -/
theorem Part.Fronts.of_skipGap {part : Part} (h : part.Fronts (skipGap cs) rest) :
    part.Fronts cs rest := by
  obtain ⟨spelled, part, shape⟩ := h
  obtain ⟨gap, blank, front⟩ := exists_gap cs
  exact ⟨gap ++ spelled, .spaced blank part, by rw [← front, shape, List.append_assoc]⟩

/-- So many steps read nothing but what is spelled. -/
structure Accepts (steps : Nat) : Prop where
  /-- Values. -/
  value : ∀ {cs json rest}, readValue steps cs = some (json, rest) →
    (Part.value json).Fronts cs rest
  /-- The elements of an array. -/
  items : ∀ {cs items rest}, readItems steps cs = some (items, rest) →
    (Part.items items).Fronts cs rest
  /-- The members of an object. -/
  members : ∀ {cs members rest}, readMembers steps cs = some (members, rest) →
    (Part.members members).Fronts cs rest

theorem accepts_zero : Accepts 0 where
  value h := by cases h
  items h := by cases h
  members h := by cases h

namespace Accepts

variable {steps : Nat} (h : Accepts steps)
include h

/-- **One step more reads a value** that is spelled. -/
theorem value_succ {json : Json} (read : readValue (steps + 1) cs = some (json, rest)) :
    (Part.value json).Fronts cs rest := by
  refine Part.Fronts.of_skipGap ?_
  rw [readValue] at read
  split at read
  case h_1 behind shape =>
    cases read
    exact ⟨_, .null, shape⟩
  case h_2 behind shape =>
    cases read
    exact ⟨_, .true, shape⟩
  case h_3 behind shape =>
    cases read
    exact ⟨_, .false, shape⟩
  case h_4 behind shape =>
    obtain ⟨⟨t, others⟩, text, made⟩ := Option.map_eq_some_iff.1 read
    cases made
    obtain ⟨spelled, literal, rfl⟩ := of_readText text
    rw [shape]
    exact ⟨_, .string literal, rfl⟩
  case h_5 inside shape =>
    rw [shape]
    split at read
    · rename_i empty
      cases read
      obtain ⟨gap, blank, front⟩ := exists_gap inside
      rw [empty] at front
      exact ⟨_, .emptyArray blank, by simp [← front]⟩
    · obtain ⟨⟨items, others⟩, elements, made⟩ := Option.map_eq_some_iff.1 read
      cases made
      obtain ⟨spelled, part, rfl⟩ := (h.items elements).of_skipGap
      exact ⟨_, .array part, rfl⟩
  case h_6 inside shape =>
    rw [shape]
    split at read
    · rename_i empty
      cases read
      obtain ⟨gap, blank, front⟩ := exists_gap inside
      rw [empty] at front
      exact ⟨_, .emptyObject blank, by simp [← front]⟩
    · obtain ⟨⟨members, others⟩, elements, made⟩ := Option.map_eq_some_iff.1 read
      cases made
      obtain ⟨spelled, part, rfl⟩ := (h.members elements).of_skipGap
      exact ⟨_, .object part, rfl⟩
  case h_7 =>
    obtain ⟨⟨n, others⟩, numeral, made⟩ := Option.map_eq_some_iff.1 read
    cases made
    obtain ⟨spelled, literal, shape⟩ := of_readNumeral numeral
    exact ⟨_, .number literal, shape⟩

/-- **One step more reads the elements of an array** that are spelled. -/
theorem items_succ {items : List Json} (read : readItems (steps + 1) cs = some (items, rest)) :
    (Part.items items).Fronts cs rest := by
  obtain ⟨⟨item, behind⟩, first, more⟩ := Option.bind_eq_some_iff.1 read
  obtain ⟨spelled, value, rfl⟩ := h.value first
  obtain ⟨gap, blank, front⟩ := exists_gap behind
  dsimp only at more
  split at more
  · rename_i others comma
    obtain ⟨⟨others, rest⟩, later, made⟩ := Option.bind_eq_some_iff.1 more
    cases made
    obtain ⟨following, part, rfl⟩ := h.items later
    rw [comma] at front
    exact ⟨_, .item value blank part, by simp [← front]⟩
  · rename_i others close
    cases more
    rw [close] at front
    exact ⟨_, .lastItem value blank, by simp [← front]⟩
  · cases more

/-- **One step more reads the members of an object** that are spelled. -/
theorem members_succ {members : List (Text × Json)}
    (read : readMembers (steps + 1) cs = some (members, rest)) :
    (Part.members members).Fronts cs rest := by
  refine Part.Fronts.of_skipGap ?_
  rw [readMembers] at read
  split at read
  · rename_i quoted shape
    rw [shape]
    obtain ⟨⟨name, behindName⟩, text, labelled⟩ := Option.bind_eq_some_iff.1 read
    obtain ⟨literal, spelled, rfl⟩ := of_readText text
    obtain ⟨space, spaceBlank, nameFront⟩ := exists_gap behindName
    dsimp only at labelled
    split at labelled
    · rename_i behindColon colon
      rw [colon] at nameFront
      obtain ⟨⟨json, behind⟩, first, more⟩ := Option.bind_eq_some_iff.1 labelled
      obtain ⟨valued, value, rfl⟩ := h.value first
      obtain ⟨gap, blank, front⟩ := exists_gap behind
      have label := SpellsName.labelled spelled spaceBlank
      dsimp only at more
      split at more
      · rename_i others comma
        obtain ⟨⟨others, rest⟩, later, made⟩ := Option.bind_eq_some_iff.1 more
        cases made
        obtain ⟨following, part, rfl⟩ := h.members later
        rw [comma] at front
        exact ⟨_, .member label value blank part, by simp [← front, ← nameFront]⟩
      · rename_i others close
        cases more
        rw [close] at front
        exact ⟨_, .lastMember label value blank, by simp [← front, ← nameFront]⟩
      · cases more
    · cases labelled
  · cases read

end Accepts

/-- **The reader accepts nothing but what is spelled.** -/
theorem accepts (steps : Nat) : Accepts steps := by
  induction steps with
  | zero => exact accepts_zero
  | succ steps ih => exact ⟨ih.value_succ, ih.items_succ, ih.members_succ⟩

/-! ## Whole texts -/

/-- **A text is read as a value exactly if it denotes it.** -/
theorem parse_eq_some_iff {text : String} {json : Json} :
    parse text = some json ↔ Denotes text json := by
  refine ⟨fun read => ?_, parse_of_denotes⟩
  obtain ⟨⟨found, rest⟩, value, made⟩ := Option.bind_eq_some_iff.1 read
  obtain ⟨spelled, part, shape⟩ := (accepts _).value value
  dsimp only at made
  split at made
  · rename_i nothing
    cases made
    exact ⟨spelled, rest, part, List.dropWhile_eq_nil_iff.1 nothing, shape⟩
  · cases made

end JoinOrder.Json
