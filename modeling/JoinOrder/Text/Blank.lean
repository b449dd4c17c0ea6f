/-
# White Space Around Names

The white space that may surround a name, and the trimming of a text.  Trimming removes blank
characters at both ends and nothing else.

Main statements: a trimmed text neither starts nor ends with a blank (`head?_trimChars`,
`getLast?_trimChars`), trimming leaves such a text alone (`trimChars_eq_self`), and what is left of
a text is known by these two facts (`trimChars_eq_iff`).
-/

namespace JoinOrder.Text

/-! ## Blank characters -/

/-- The characters with the property White_Space: the ASCII controls from tab to carriage return,
the space, next line, the no-break space, and the spaces and line separators of the other blocks. -/
def isBlank (c : Char) : Bool :=
  let code := c.toNat
  (0x09 ≤ code && code ≤ 0x0d) || code == 0x20 || code == 0x85 || code == 0xa0 || code == 0x1680 ||
    (0x2000 ≤ code && code ≤ 0x200a) || code == 0x2028 || code == 0x2029 || code == 0x202f ||
    code == 0x205f || code == 0x3000

/-! ## Trimming -/

/-- The characters without the blanks at the end. -/
def trimEnd (cs : List Char) : List Char :=
  (cs.reverse.dropWhile isBlank).reverse

/-- The characters without the blanks at either end. -/
def trimChars (cs : List Char) : List Char :=
  trimEnd (cs.dropWhile isBlank)

/-- What is left after dropping leading members of a class does not start with one. -/
theorem head?_dropWhile_not {α : Type} (p : α → Bool) (xs : List α) :
    ∀ x ∈ (xs.dropWhile p).head?, p x = false := by
  induction xs with
  | nil => simp
  | cons y ys ih =>
    by_cases h : p y
    · simpa [List.dropWhile_cons, h] using ih
    · simp [h]

/-- Trimming the end of a text that does not start with a blank leaves its first character. -/
theorem head?_trimEnd (cs : List Char) (h : ∀ c ∈ cs.head?, isBlank c = false) :
    ∀ c ∈ (trimEnd cs).head?, isBlank c = false := by
  cases cs with
  | nil => simp [trimEnd]
  | cons a rest =>
    have ha : isBlank a = false := h a (by simp)
    -- The first character is not blank, so it is the last one at which dropping can stop.
    have kept :
        (rest.reverse ++ [a]).dropWhile isBlank = rest.reverse.dropWhile isBlank ++ [a] := by
      rw [List.dropWhile_append]
      by_cases empty : (rest.reverse.dropWhile isBlank).isEmpty
      · simp [List.isEmpty_iff.1 empty, ha]
      · rw [if_neg empty]
    rw [trimEnd, List.reverse_cons, kept, List.reverse_append]
    simp [ha]

/-- A trimmed text does not start with a blank. -/
theorem head?_trimChars (cs : List Char) :
    ∀ c ∈ (trimChars cs).head?, isBlank c = false :=
  head?_trimEnd _ (head?_dropWhile_not isBlank cs)

/-- A trimmed text does not end with a blank. -/
theorem getLast?_trimChars (cs : List Char) :
    ∀ c ∈ (trimChars cs).getLast?, isBlank c = false := by
  simpa [trimChars, trimEnd] using head?_dropWhile_not isBlank (cs.dropWhile isBlank).reverse

/-- Nothing is dropped from a list whose first member is outside the class. -/
theorem dropWhile_eq_self {α : Type} (p : α → Bool) (xs : List α)
    (h : ∀ x ∈ xs.head?, p x = false) : xs.dropWhile p = xs := by
  cases xs with
  | nil => rfl
  | cons x rest => simp [h x (by simp)]

/-- **Trimming leaves a trimmed text alone.** -/
theorem trimChars_eq_self (cs : List Char) (first : ∀ c ∈ cs.head?, isBlank c = false)
    (last : ∀ c ∈ cs.getLast?, isBlank c = false) : trimChars cs = cs := by
  have back : cs.reverse.dropWhile isBlank = cs.reverse :=
    dropWhile_eq_self isBlank cs.reverse (by simpa using last)
  rw [trimChars, dropWhile_eq_self isBlank cs first, trimEnd, back, List.reverse_reverse]

/-! ## What trimming removes -/

/-- A text of blanks alone, which may be empty. -/
def IsBlank (cs : List Char) : Prop := ∀ c ∈ cs, isBlank c = true

instance (cs : List Char) : Decidable (IsBlank cs) :=
  decidable_of_iff (cs.all isBlank = true) List.all_eq_true

/-- A text that neither starts nor ends with a blank. -/
structure IsTrimmed (cs : List Char) : Prop where
  /-- It does not start with a blank. -/
  first : ∀ c ∈ cs.head?, isBlank c = false
  /-- It does not end with a blank. -/
  last : ∀ c ∈ cs.getLast?, isBlank c = false

instance (cs : List Char) : Decidable (IsTrimmed cs) :=
  decidable_of_iff ((cs.head?.all (!isBlank ·) && cs.getLast?.all (!isBlank ·)) = true) <| by
    rw [Bool.and_eq_true, Option.all_eq_true, Option.all_eq_true]
    simp only [Bool.not_eq_true']
    exact ⟨fun both => ⟨both.1, both.2⟩, fun trimmed => ⟨trimmed.first, trimmed.last⟩⟩

theorem isTrimmed_trimChars (cs : List Char) : IsTrimmed (trimChars cs) :=
  ⟨head?_trimChars cs, getLast?_trimChars cs⟩

/-- Blanks in front are removed. -/
theorem trimChars_blank_append {before : List Char} (blank : IsBlank before) (cs : List Char) :
    trimChars (before ++ cs) = trimChars cs := by
  rw [trimChars, List.dropWhile_append_of_pos blank, trimChars]

/-- Blanks at the end are removed. -/
theorem trimEnd_append_blank {after : List Char} (blank : IsBlank after) (cs : List Char) :
    trimEnd (cs ++ after) = trimEnd cs := by
  have reversed : ∀ c ∈ after.reverse, isBlank c = true := fun c hc =>
    blank c (List.mem_reverse.1 hc)
  rw [trimEnd, List.reverse_append, List.dropWhile_append_of_pos reversed, trimEnd]

/-- Blanks behind a text are removed, also if it is blank itself. -/
theorem trimChars_append_blank {after : List Char} (blank : IsBlank after) (cs : List Char) :
    trimChars (cs ++ after) = trimChars cs := by
  rw [trimChars, List.dropWhile_append, trimChars]
  by_cases empty : (cs.dropWhile isBlank).isEmpty
  · have gone : (after ++ []).dropWhile isBlank = [] := List.dropWhile_append_of_pos blank
    rw [List.append_nil] at gone
    rw [if_pos empty, gone, List.isEmpty_iff.1 empty]
  · rw [if_neg empty, trimEnd_append_blank blank]

/-- Trimming removes blanks at both ends and nothing else. -/
theorem exists_eq_append_trimChars (cs : List Char) :
    ∃ before after, IsBlank before ∧ IsBlank after ∧ cs = before ++ trimChars cs ++ after := by
  have taken : ∀ ds : List Char, IsBlank (ds.takeWhile isBlank) := fun ds c hc =>
    List.all_eq_true.1 List.all_takeWhile c hc
  have behind : cs.dropWhile isBlank =
      trimChars cs ++ ((cs.dropWhile isBlank).reverse.takeWhile isBlank).reverse := by
    rw [trimChars, trimEnd, ← List.reverse_append, List.takeWhile_append_dropWhile,
      List.reverse_reverse]
  refine ⟨cs.takeWhile isBlank, ((cs.dropWhile isBlank).reverse.takeWhile isBlank).reverse,
    taken cs, fun c hc => taken _ c (List.mem_reverse.1 hc), ?_⟩
  rw [List.append_assoc, ← behind, List.takeWhile_append_dropWhile]

/-- **What trimming leaves**: a text between blanks that neither starts nor ends with one. -/
theorem trimChars_eq_iff {cs kept : List Char} :
    trimChars cs = kept ↔ IsTrimmed kept ∧
      ∃ before after, IsBlank before ∧ IsBlank after ∧ cs = before ++ kept ++ after := by
  constructor
  · rintro rfl
    exact ⟨isTrimmed_trimChars cs, exists_eq_append_trimChars cs⟩
  · rintro ⟨trimmed, before, after, blank, blank', rfl⟩
    rw [trimChars_append_blank blank', trimChars_blank_append blank,
      trimChars_eq_self kept trimmed.first trimmed.last]

/-- Nothing is left of a blank text, and of no other. -/
theorem trimChars_eq_nil_iff {cs : List Char} : trimChars cs = [] ↔ IsBlank cs := by
  constructor
  · intro none
    obtain ⟨before, after, blank, blank', whole⟩ := exists_eq_append_trimChars cs
    rw [none, List.append_nil] at whole
    intro c hc
    rw [whole] at hc
    exact (List.mem_append.1 hc).elim (blank c) (blank' c)
  · intro blank
    have none := trimChars_blank_append blank []
    rwa [List.append_nil] at none

end JoinOrder.Text
