import NodeCapture.Proofs.Numerals

/-! # Numbers in decimal

    A number that is written in decimal digits is read back, up to the length
    that a numeral may have.  The digits that a number is printed with are one
    way to write it; leading zeros are another. -/

namespace NodeCapture

/-- A text of decimal digits writes a number. -/
structure Writes (digits : List Char) (n : Nat) : Prop where
  nonempty : digits ≠ []
  decimal : ∀ c ∈ digits, isDecimal c = true
  value : ofDigits (digits.filterMap digitValue?) = n

/-- The character of a digit has its value. -/
theorem digitValue?_digitChar {d : Nat} (h : d < 10) : digitValue? (digitChar d) = some d := by
  have hall : ∀ e ∈ List.range 10, digitValue? (digitChar e) = some e := by decide
  exact hall d (List.mem_range.mpr h)

/-- The character of a digit is a digit. -/
theorem isDigit_digitChar {d : Nat} (h : d < 10) : (digitChar d).isDigit = true := by
  have hall : ∀ e ∈ List.range 10, (digitChar e).isDigit = true := by decide
  exact hall d (List.mem_range.mpr h)

/-- A single digit writes its value. -/
theorem writes_digitChar {d : Nat} (h : d < 10) : Writes [digitChar d] d where
  nonempty := List.cons_ne_nil _ _
  decimal := by
    intro c hc
    rw [List.mem_singleton.mp hc, isDecimal, digitValue?_digitChar h]
    rfl
  value := by simp [digitValue?_digitChar h, ofDigits]

/-- A digit behind a numeral counts once, what is in front of it ten times. -/
theorem Writes.snoc {digits : List Char} {c : Char} {n d : Nat} (h : Writes digits n)
    (hc : digitValue? c = some d) : Writes (digits ++ [c]) (10 * n + d) where
  nonempty := List.append_ne_nil_of_left_ne_nil h.nonempty _
  decimal := by
    intro x hx
    rcases List.mem_append.mp hx with hx | hx
    · exact h.decimal x hx
    · rw [List.mem_singleton.mp hx, isDecimal, hc]
      rfl
  value := by
    have hvalue := h.value
    rw [ofDigits] at hvalue
    rw [List.filterMap_append, ofDigits, List.foldl_append, hvalue]
    simp [hc]

/-- The digits that a number is printed with write it. -/
theorem writes_decimalChars (n : Nat) : Writes (decimalChars n) n := by
  induction n using decimalChars.induct with
  | case1 n hsmall =>
      rw [decimalChars, if_pos hsmall]
      exact writes_digitChar hsmall
  | case2 n hlarge ih =>
      have hsnoc := ih.snoc (digitValue?_digitChar (Nat.mod_lt n (by decide : 0 < 10)))
      rw [decimalChars, if_neg hlarge]
      rwa [Nat.div_add_mod] at hsnoc

/-- Different numbers are written differently. -/
theorem decimalChars_injective : Function.Injective decimalChars := by
  intro n n' h
  rw [← (writes_decimalChars n).value, h, (writes_decimalChars n').value]

/-- A number is written in digits. -/
theorem isDigit_of_mem_decimalChars {n : Nat} : ∀ c ∈ decimalChars n, c.isDigit = true := by
  induction n using decimalChars.induct with
  | case1 n hsmall =>
      rw [decimalChars, if_pos hsmall, List.forall_mem_singleton]
      exact isDigit_digitChar hsmall
  | case2 n hlarge ih =>
      rw [decimalChars, if_neg hlarge, List.forall_mem_append, List.forall_mem_singleton]
      exact ⟨ih, isDigit_digitChar (Nat.mod_lt n (by decide))⟩

/-- Whatever writes a number consists of digits. -/
theorem Writes.isDigitSymbol {digits : List Char} {n : Nat} (h : Writes digits n) :
    ∀ c ∈ digits, isDigitSymbol c = true := by
  intro c hc
  rw [NodeCapture.isDigitSymbol, h.decimal c hc]
  rfl

/-- It counts as a text of digits. -/
theorem Writes.allDigitSymbols {digits : List Char} {n : Nat} (h : Writes digits n) :
    allDigitSymbols digits = true := by
  rw [NodeCapture.allDigitSymbols, Bool.and_eq_true, List.all_eq_true]
  exact ⟨by simpa using h.nonempty, h.isDigitSymbol⟩

/-- A written number that is not too long is read, also with white space
    around it. -/
theorem Writes.lineNumber_eq {digits text : List Char} {n : Nat} (h : Writes digits n)
    (hlimit : digits.length ≤ numeralDigitLimit) (htext : trim isWhiteSpace text = digits) :
    lineNumber text = .ok n := by
  have hplain : ∀ {d : Char}, isNumberChar d = false → ∀ c ∈ digits, c ≠ d := by
    intro d hd c hc
    refine ne_of_isNumberChar ?_ hd
    rw [isNumberChar, h.isDigitSymbol c hc, Bool.or_true]
  have hlength := List.filterMap_length_eq_length.mpr h.decimal
  have hread : readInteger text = .ok (n : Int) := by
    simp only [readInteger, htext, takeSign_eq (hplain (d := '+') (by decide))
      (hplain (d := '-') (by decide)), takeDigits_eq false (hplain (d := '_') (by decide)),
      List.takeWhile_eq_self_iff.mpr h.decimal, List.dropWhile_eq_nil_iff.mpr h.decimal]
    cases hvalues : digits.filterMap digitValue? with
    | nil =>
        rw [hvalues] at hlength
        exact absurd (List.length_eq_zero_iff.mp hlength.symm) h.nonempty
    | cons d ds =>
        rw [hvalues] at hlength
        have hvalue := h.value
        rw [hvalues] at hvalue
        dsimp only
        rw [if_neg (by omega), hvalue]
        rfl
  rw [lineNumber, readWhole, String.toList_ofList, hread]

/-- A number as it is written, with a length that a numeral may have. -/
structure Numeral where
  digits : List Char
  value : Nat
  writes : Writes digits value
  short : digits.length ≤ numeralDigitLimit

/-- The numeral that a number is printed as. -/
def Numeral.ofNat (n : Nat) (short : (decimalChars n).length ≤ numeralDigitLimit) : Numeral :=
  ⟨decimalChars n, n, writes_decimalChars n, short⟩

theorem Numeral.isDigitSymbol (n : Numeral) : ∀ c ∈ n.digits, isDigitSymbol c = true :=
  n.writes.isDigitSymbol

/-- A numeral on a line is read as its value. -/
theorem Numeral.lineNumber_eq (n : Numeral) : lineNumber n.digits = .ok n.value :=
  n.writes.lineNumber_eq n.short
    (trim_eq_self fun c hc => isWhiteSpace_of_isDigitSymbol (n.isDigitSymbol c hc))

end NodeCapture
