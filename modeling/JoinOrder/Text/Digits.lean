/-
# Digits

The decimal digits at the front of a text and those of a number, and the values of hexadecimal
digits.

Main statements: digits in front of a text that does not go on with a digit are taken whole
(`takeWhile_digits_append`), no number but zero is written with a zero in front
(`head?_toDigits_ne`), and digits without a zero in front are those of the number that they denote
(`toDigits_ofDigitChars`).
-/

namespace JoinOrder.Text

/-! ## Hexadecimal digits -/

/-- The value of a hexadecimal digit of either case. -/
def hexValue (c : Char) : Option Nat :=
  if '0' ≤ c ∧ c ≤ '9' then some (c.toNat - '0'.toNat)
  else if 'a' ≤ c ∧ c ≤ 'f' then some (c.toNat - 'a'.toNat + 10)
  else if 'A' ≤ c ∧ c ≤ 'F' then some (c.toNat - 'A'.toNat + 10)
  else none

/-! ## Decimal digits -/

/-- A text that does not start with a digit. -/
def EndsNumber (cs : List Char) : Prop :=
  ∀ c ∈ cs.head?, c.isDigit = false

/-- Digits in front of a text that does not go on with a digit are taken whole. -/
theorem takeWhile_digits_append (digits rest : List Char)
    (h : ∀ c ∈ digits, c.isDigit = true) (stop : EndsNumber rest) :
    (digits ++ rest).takeWhile Char.isDigit = digits ∧
      (digits ++ rest).dropWhile Char.isDigit = rest := by
  induction digits with
  | nil =>
    cases rest with
    | nil => simp
    | cons c rest => simp [stop c (by simp)]
  | cons d digits ih =>
    have here := h d (by simp)
    have later := ih fun c hc => h c (by simp [hc])
    simp [here, later.1, later.2]

/-- A number is written in decimal digits. -/
theorem isDigit_of_mem_toDigits {n : Nat} {c : Char} (h : c ∈ Nat.toDigits 10 n) :
    c.isDigit = true :=
  Nat.isDigit_of_mem_toDigits (by decide) (by decide) h

/-- A number starts with a digit. -/
theorem exists_toDigits_eq (n : Nat) :
    ∃ d digits, Nat.toDigits 10 n = d :: digits ∧ d.isDigit = true := by
  cases shape : Nat.toDigits 10 n with
  | nil => exact absurd shape Nat.toDigits_ne_nil
  | cons d digits => exact ⟨d, digits, rfl, isDigit_of_mem_toDigits (shape ▸ List.mem_cons_self)⟩

/-- A text that starts with a number starts with nothing else. -/
theorem toDigits_append_ne {c : Char} (h : c.isDigit = false) (n : Nat) (rest cs : List Char) :
    Nat.toDigits 10 n ++ rest ≠ c :: cs := by
  intro same
  obtain ⟨d, digits, shape, digit⟩ := exists_toDigits_eq n
  rw [shape] at same
  rw [(List.cons.inj same).1, h] at digit
  cases digit

/-- No number but zero is written with a zero in front. -/
theorem head?_toDigits_ne {n : Nat} (h : n ≠ 0) : (Nat.toDigits 10 n).head? ≠ some '0' := by
  induction n using Nat.strongRecOn with
  | ind n ih =>
    rcases Nat.lt_or_ge n 10 with small | large
    · rw [Nat.toDigits_of_lt_base small, List.head?_cons]
      intro zero
      exact h (Nat.digitChar_eq_zero.1 (Option.some.inj zero))
    · -- The first digit is that of the number without its last digit.
      have first := ih (n / 10) (by omega) (by omega)
      obtain ⟨d, digits, shape, -⟩ := exists_toDigits_eq (n / 10)
      rw [Nat.toDigits_of_base_le (by decide) large, shape]
      rwa [shape] at first

/-- A digit is the character of its value. -/
theorem digitChar_of_isDigit {c : Char} (h : c.isDigit = true) :
    Nat.digitChar (c.toNat - '0'.toNat) = c ∧ c.toNat - '0'.toNat < 10 := by
  have each : ∀ k : Fin 10, Nat.digitChar k.val = Char.ofNat ('0'.toNat + k.val) := by decide
  have nine : '9'.toNat = '0'.toNat + 9 := rfl
  obtain ⟨low, high⟩ := Char.isDigit_iff_toNat.1 h
  have value : c.toNat - '0'.toNat < 10 := by omega
  have same := each ⟨c.toNat - '0'.toNat, value⟩
  rw [Nat.add_sub_cancel' low, Char.ofNat_toNat] at same
  exact ⟨same, value⟩

/-- Digits that go on with those of a positive number are written behind them. -/
theorem toDigits_ofDigitChars_of_pos {digits : List Char} (all : ∀ c ∈ digits, c.isDigit = true)
    {n : Nat} (positive : 0 < n) :
    Nat.toDigits 10 (Nat.ofDigitChars 10 digits n) = Nat.toDigits 10 n ++ digits := by
  induction digits generalizing n with
  | nil => rw [Nat.ofDigitChars_nil, List.append_nil]
  | cons c digits ih =>
    obtain ⟨same, value⟩ := digitChar_of_isDigit (all c List.mem_cons_self)
    have later : ∀ d ∈ digits, d.isDigit = true := fun d hd => all d (List.mem_cons_of_mem c hd)
    have last := Nat.toDigits_append_toDigits (b := 10) (by decide) positive value
    rw [Nat.toDigits_of_lt_base value, same] at last
    rw [Nat.ofDigitChars_cons, ih later (by omega), ← last, List.append_assoc]
    rfl

/-- **Digits are those of the number that they denote**, if they are a zero alone or have no zero in
front. -/
theorem toDigits_ofDigitChars {digits : List Char} (nonempty : digits ≠ [])
    (all : ∀ c ∈ digits, c.isDigit = true)
    (proper : digits.head? = some '0' → digits.length = 1) :
    Nat.toDigits 10 (Nat.ofDigitChars 10 digits 0) = digits := by
  cases digits with
  | nil => exact absurd rfl nonempty
  | cons c digits =>
    obtain ⟨same, value⟩ := digitChar_of_isDigit (all c List.mem_cons_self)
    have later : ∀ d ∈ digits, d.isDigit = true := fun d hd => all d (List.mem_cons_of_mem c hd)
    rw [Nat.ofDigitChars_cons, Nat.mul_zero, Nat.zero_add]
    rcases Nat.eq_zero_or_pos (c.toNat - '0'.toNat) with zero | positive
    · -- A zero in front stands alone.
      rw [zero] at same
      obtain rfl : digits = [] := by
        have alone := proper (congrArg some same.symm)
        exact List.length_eq_zero_iff.1 (Nat.succ.inj alone)
      rw [zero, Nat.ofDigitChars_nil, ← same]
      rfl
    · rw [toDigits_ofDigitChars_of_pos later positive, Nat.toDigits_of_lt_base value, same]
      rfl

end JoinOrder.Text
