/-
# Literals Are Read

Every spelling of a number and of a string is read as what it spells.  A number is read in front of
anything that does not go on with it; a string literal has its end in itself.  The literals that are
written are spellings.

Main statements: numbers (`readNumeral_of_spells`), string literals (`SpellsText.exists_cons`), and
what is written (`spellsNumeral_render`, `spellsText_render`).
-/
import JoinOrder.Json.Grammar
import JoinOrder.Text.Digits

namespace JoinOrder.Json

/-! ## Digits -/

/-- A text that does not go on with a number: no digit, no point and no exponent is at its front. -/
def EndsNumeral (cs : List Char) : Prop :=
  ∀ c ∈ cs.head?, c.isDigit = false ∧ c ≠ '.' ∧ c ≠ 'e' ∧ c ≠ 'E'

variable {digits cs rest : List Char}

theorem EndsNumeral.endsNumber (h : EndsNumeral rest) : Text.EndsNumber rest :=
  fun c first => (h c first).1

/-- A number is written in digits. -/
theorem isDigits_toDigits (n : Nat) : IsDigits (Nat.toDigits 10 n) where
  nonempty := Nat.toDigits_ne_nil
  digits _ := Text.isDigit_of_mem_toDigits

/-- A text that starts with digits starts with nothing else. -/
theorem IsDigits.append_ne (number : IsDigits digits) {c : Char} (other : c.isDigit = false) :
    digits ++ rest ≠ c :: cs := by
  cases digits with
  | nil => exact absurd rfl number.nonempty
  | cons d digits =>
    intro same
    have digit := number.digits d List.mem_cons_self
    rw [(List.cons.inj same).1, other] at digit
    cases digit

/-- Digits are taken whole. -/
theorem readDigits_append (number : IsDigits digits) (stop : Text.EndsNumber rest) :
    readDigits (digits ++ rest) = some (digits, rest) := by
  have taken := Text.takeWhile_digits_append digits rest number.digits stop
  unfold readDigits
  rw [taken.1, taken.2]
  split
  · exact absurd rfl number.nonempty
  · rfl

/-! ## Numbers -/

/-- **The integer part** is read. -/
theorem readWhole_toDigits (n : Nat) (stop : Text.EndsNumber rest) :
    readWhole (Nat.toDigits 10 n ++ rest) = some (n, rest) := by
  have proper : ¬((Nat.toDigits 10 n).head? = some '0' ∧ (Nat.toDigits 10 n).length ≠ 1) := by
    rintro ⟨zero, long⟩
    by_cases none : n = 0
    · subst none
      exact long rfl
    · exact Text.head?_toDigits_ne none zero
  rw [readWhole, readDigits_append (isDigits_toDigits n) stop]
  show (if _ then _ else _) = _
  rw [if_neg proper, Nat.ofDigitChars_ten_toDigits]

theorem digitOf_digitChar (digit : Fin 10) : digitOf (Nat.digitChar digit) = digit := by
  revert digit
  decide

/-- **The digits after the point** are read. -/
theorem readFraction_render (fraction : List (Fin 10)) (stop : Text.EndsNumber rest)
    (pointless : ∀ cs, rest ≠ '.' :: cs) :
    readFraction (Numeral.renderFraction fraction ++ rest) = some (fraction, rest) := by
  cases fraction with
  | nil =>
    rw [Numeral.renderFraction, List.nil_append, readFraction]
    exact pointless
  | cons digit digits =>
    have number : IsDigits ((digit :: digits).map fun d => Nat.digitChar d.val) := by
      refine ⟨by simp, fun c hc => ?_⟩
      obtain ⟨d, -, rfl⟩ := List.mem_map.1 hc
      exact Nat.isDigit_digitChar.trans (decide_eq_true d.isLt)
    have back : ((digit :: digits).map fun d : Fin 10 => Nat.digitChar d.val).map digitOf =
        digit :: digits := by
      rw [List.map_map]
      exact (List.map_congr_left fun digit _ => digitOf_digitChar digit).trans (List.map_id _)
    rw [Numeral.renderFraction, List.cons_append, readFraction, readDigits_append number stop]
    · exact congrArg (fun digits => some (digits, rest)) back
    · simp

/-- The digits of an exponent without a sign are read. -/
theorem readExponentDigits_append (number : IsDigits digits) (stop : Text.EndsNumber rest) :
    readExponentDigits (digits ++ rest) =
      some ((Nat.ofDigitChars 10 digits 0 : Int), rest) := by
  rw [readExponentDigits, readDigits_append number stop]
  · rfl
  · exact fun _ => number.append_ne (by decide)
  · exact fun _ => number.append_ne (by decide)

theorem readExponent_cons {mark : Char} (marked : mark = 'e' ∨ mark = 'E') (cs : List Char) :
    readExponent (mark :: cs) = (readExponentDigits cs).map fun (e, rest) => (some e, rest) := by
  rcases marked with rfl | rfl <;> rfl

variable {exponent : Option Int}

/-- **The exponent** is read. -/
theorem readExponent_of_spells (h : SpellsExponent exponent cs) (stop : EndsNumeral rest) :
    readExponent (cs ++ rest) = some (exponent, rest) := by
  cases h with
  | absent =>
    rw [List.nil_append, readExponent]
    · rintro cs rfl
      exact (stop 'e' rfl).2.2.1 rfl
    · rintro cs rfl
      exact (stop 'E' rfl).2.2.2 rfl
  | unsigned marked number =>
    rw [List.cons_append, readExponent_cons marked,
      readExponentDigits_append number stop.endsNumber]
    rfl
  | positive marked number =>
    rw [List.cons_append, readExponent_cons marked, List.cons_append, readExponentDigits,
      readDigits_append number stop.endsNumber]
    rfl
  | negative marked number =>
    rw [List.cons_append, readExponent_cons marked, List.cons_append, readExponentDigits,
      readDigits_append number stop.endsNumber]
    rfl

/-- An exponent, spelled or not, starts with no digit and no point. -/
theorem SpellsExponent.append (h : SpellsExponent exponent cs) (stop : EndsNumeral rest) :
    Text.EndsNumber (cs ++ rest) ∧ ∀ others, cs ++ rest ≠ '.' :: others := by
  have behind : ∀ {mark : Char} (cs : List Char), mark = 'e' ∨ mark = 'E' →
      Text.EndsNumber (mark :: cs) ∧ ∀ others, mark :: cs ≠ '.' :: others := by
    rintro mark cs (rfl | rfl)
    all_goals
      refine ⟨fun c first => ?_, fun others same => absurd (List.cons.inj same).1 (by decide)⟩
      obtain rfl := Option.some.inj first
      rfl
  cases h with
  | absent =>
    refine ⟨stop.endsNumber, ?_⟩
    rintro others rfl
    exact (stop '.' rfl).2.1 rfl
  | unsigned marked number => exact behind _ marked
  | positive marked number => exact behind _ marked
  | negative marked number => exact behind _ marked

/-- A fraction, written or not, starts with no digit. -/
theorem renderFraction_append (fraction : List (Fin 10)) (stop : Text.EndsNumber rest) :
    Text.EndsNumber (Numeral.renderFraction fraction ++ rest) := by
  cases fraction with
  | nil => exact stop
  | cons digit digits =>
    rintro c first
    obtain rfl := Option.some.inj first
    rfl

/-- The parts of a number are read. -/
theorem readUnsigned_of_spells (negative : Bool) (whole : Nat) (fraction : List (Fin 10))
    (h : SpellsExponent exponent cs) (stop : EndsNumeral rest) :
    readUnsigned negative (Nat.toDigits 10 whole ++
      (Numeral.renderFraction fraction ++ (cs ++ rest))) =
        some (⟨negative, whole, fraction, exponent⟩, rest) := by
  obtain ⟨endsFraction, pointless⟩ := h.append stop
  rw [readUnsigned, readWhole_toDigits _ (renderFraction_append _ endsFraction)]
  show (readFraction _ >>= _) = _
  rw [readFraction_render _ endsFraction pointless]
  show (readExponent _ >>= _) = _
  rw [readExponent_of_spells h stop]
  rfl

variable {n : Numeral}

/-- **A number is read** in front of anything that does not go on with it. -/
theorem readNumeral_of_spells (h : SpellsNumeral n cs) (stop : EndsNumeral rest) :
    readNumeral (cs ++ rest) = some (n, rest) := by
  cases h with
  | @parts negative whole fraction exponent marked scaled =>
    have parts := readUnsigned_of_spells negative whole fraction scaled stop
    simp only [List.append_assoc]
    cases negative with
    | true => exact parts
    | false =>
      rw [if_neg (by decide), List.nil_append, readNumeral]
      · exact parts
      · exact fun _ => (isDigits_toDigits whole).append_ne (by decide)

/-- A number starts with a sign or a digit. -/
theorem SpellsNumeral.exists_cons (h : SpellsNumeral n cs) (rest : List Char) :
    ∃ c others, cs ++ rest = c :: others ∧ (c = '-' ∨ c.isDigit = true) := by
  cases h with
  | @parts negative whole fraction exponent marked scaled =>
    simp only [List.append_assoc]
    cases negative with
    | true => exact ⟨_, _, rfl, .inl rfl⟩
    | false =>
      obtain ⟨d, digits, shape, digit⟩ := Text.exists_toDigits_eq whole
      rw [shape]
      exact ⟨d, _, rfl, .inr digit⟩

/-- **A number is written in one of its spellings.** -/
theorem spellsNumeral_render (n : Numeral) : SpellsNumeral n n.render := by
  have marked : SpellsExponent n.exponent (Numeral.renderExponent n.exponent) := by
    cases n.exponent with
    | none => exact .absent
    | some e =>
      rw [Numeral.renderExponent]
      by_cases negative : e < 0
      · have spelled := SpellsExponent.negative (.inl rfl) (isDigits_toDigits e.natAbs)
        rw [Nat.ofDigitChars_ten_toDigits, Int.ofNat_natAbs_of_nonpos (Int.le_of_lt negative),
          Int.neg_neg] at spelled
        rw [if_pos negative]
        exact spelled
      · have spelled := SpellsExponent.unsigned (.inl rfl) (isDigits_toDigits e.natAbs)
        rw [Nat.ofDigitChars_ten_toDigits, Int.natAbs_of_nonneg (Int.not_lt.1 negative)] at spelled
        rw [if_neg negative]
        exact spelled
  have spelled := @SpellsNumeral.parts n.negative n.whole n.fraction _ _ marked
  simpa only [Numeral.render, List.append_assoc] using spelled

/-! ## Strings -/

variable {units : List Nat} {t : Text}

/-- **The units of a string literal are read**, up to and including its closing quote. -/
theorem readUnits_of_spells (h : SpellsUnits units cs) (rest : List Char) :
    readUnits (cs ++ rest) = some (units, rest) := by
  induction h with
  | close => rfl
  | plain notQuote notBackslash printed others ih =>
    rw [List.cons_append, readUnits, if_neg printed, ih]
    · rfl
    · exact notQuote
    · exact fun _ _ _ _ _ same => absurd same notBackslash
    · exact fun _ _ same => absurd same notBackslash
  | letter escaped others ih =>
    rw [List.cons_append, List.cons_append, readUnits, escaped, ih]
    · rfl
    · -- The letter of four digits is no escape of its own.
      rintro _ _ _ _ _ rfl _
      cases escaped
  | @digits a b c d unit units cs escaped others ih =>
    show (hexUnit a b c d >>= fun unit => readUnits (cs ++ rest) >>= _) = _
    rw [escaped, ih]
    rfl

/-- **A string literal** starts with a quote, and what follows the quote is read. -/
theorem SpellsText.exists_cons (h : SpellsText t cs) (rest : List Char) :
    ∃ others, cs ++ rest = '"' :: others ∧ readText others = some (t, rest) := by
  cases h with
  | quoted body =>
    refine ⟨_, List.cons_append, ?_⟩
    rw [readText, readUnits_of_spells body]
    rfl

/-- A hexadecimal digit has the value that it was written for. -/
theorem hexValue_digitChar {k : Nat} (h : k < 16) : Text.hexValue (Nat.digitChar k) = some k := by
  have each : ∀ k : Fin 16, Text.hexValue (Nat.digitChar k) = some k.val := by decide
  exact each ⟨k, h⟩

/-- A character is written as an escape of one letter, as one of hexadecimal digits or as it is. -/
theorem escape_cases (c : Char) :
    (∃ letter, escape c = ['\\', letter] ∧ letterEscape letter = some c.toNat) ∨
      (c.toNat < 0x20 ∧ escape c = ['\\', 'u', '0', '0', Nat.digitChar (c.toNat / 16),
        Nat.digitChar (c.toNat % 16)]) ∨
      (c ≠ '"' ∧ c ≠ '\\' ∧ ¬c.toNat < 0x20 ∧ escape c = [c]) := by
  by_cases letter : c = '"' ∨ c = '\\' ∨ c = '\x08' ∨ c = '\t' ∨ c = '\n' ∨ c = '\x0c' ∨ c = '\r'
  · rcases letter with rfl | rfl | rfl | rfl | rfl | rfl | rfl <;> exact .inl ⟨_, rfl, by decide⟩
  · simp only [not_or] at letter
    obtain ⟨quote, backslash, back, tab, line, form, carriage⟩ := letter
    have others : escape c = if c.toNat < 0x20 then ['\\', 'u', '0', '0',
        Nat.digitChar (c.toNat / 16), Nat.digitChar (c.toNat % 16)] else [c] := by
      rw [escape, if_neg quote, if_neg backslash, if_neg back, if_neg tab, if_neg line,
        if_neg form, if_neg carriage]
    by_cases control : c.toNat < 0x20
    · exact .inr (.inl ⟨control, others.trans (if_pos control)⟩)
    · exact .inr (.inr ⟨quote, backslash, control, others.trans (if_neg control)⟩)

/-- **A character is written in one of its spellings.** -/
theorem spellsUnits_escape (c : Char) (h : SpellsUnits units cs) :
    SpellsUnits (c.toNat :: units) (escape c ++ cs) := by
  rcases escape_cases c with ⟨letter, shape, value⟩ | ⟨control, shape⟩ |
    ⟨quote, backslash, printed, shape⟩
  · rw [shape]
    exact .letter value h
  · have unit : hexUnit '0' '0' (Nat.digitChar (c.toNat / 16)) (Nat.digitChar (c.toNat % 16)) =
        some c.toNat := by
      rw [hexUnit, hexValue_digitChar (by omega), hexValue_digitChar (by omega)]
      show some (0 * 256 + (c.toNat / 16 * 16 + c.toNat % 16)) = some c.toNat
      congr 1
      omega
    rw [shape]
    exact .digits unit h
  · rw [shape]
    exact .plain quote backslash printed h

/-- The characters of a string literal are its units. -/
theorem spellsUnits_flatMap_escape (cs : List Char) :
    SpellsUnits (cs.map Char.toNat) (cs.flatMap escape ++ ['"']) := by
  induction cs with
  | nil => exact .close
  | cons c cs ih =>
    rw [List.flatMap_cons, List.append_assoc]
    exact spellsUnits_escape c ih

/-- No character is a surrogate. -/
theorem not_isSurrogate (c : Char) :
    isHighSurrogate c.toNat = false ∧ isLowSurrogate c.toNat = false := by
  have valid : c.toNat < 0xd800 ∨ 0xdfff < c.toNat ∧ c.toNat < 0x110000 := c.valid
  simp only [isHighSurrogate, isLowSurrogate, Bool.and_eq_false_iff, decide_eq_false_iff_not]
  omega

/-- **Characters as units** are those characters. -/
theorem pairUnits_map_toNat (cs : List Char) : pairUnits (cs.map Char.toNat) = some cs := by
  induction cs with
  | nil => rfl
  | cons c cs ih =>
    obtain ⟨high, low⟩ := not_isSurrogate c
    cases cs with
    | nil => simp [pairUnits, high, low]
    | cons d cs =>
      rw [List.map_cons] at ih
      rw [List.map_cons, List.map_cons, pairUnits, high, low, ih]
      simp

/-- **A text is written in one of its spellings.** -/
theorem spellsText_render (t : Text) : SpellsText t t.render := by
  cases t with
  | proper text =>
    have spelled := SpellsText.quoted (spellsUnits_flatMap_escape text.toList)
    rw [Text.ofUnits, pairUnits_map_toNat] at spelled
    simpa only [Text.render, String.ofList_toList, List.cons_append] using spelled
  | unpaired =>
    exact .quoted (.digits (show hexUnit 'd' '8' '0' '0' = some 0xd800 by decide) .close)

end JoinOrder.Json
