import Mathlib.Data.List.TakeWhile
import NodeCapture.Kubectl.Listing

/-! # Which texts are numerals

    Output is searched for numbers by looking at digit symbols, but is then
    read as a numeral.  The two differ: a digit symbol need not be a decimal
    digit, a numeral is limited in length, and the information separators are
    blanks but no white space.  `readWhole_eq_ok_iff` says which texts of
    digit symbols are numerals. -/

namespace NodeCapture

/-! ## Trimming -/

/-- The characters of a trimmed text are those of the text. -/
theorem mem_of_mem_trim {drop : Char → Bool} {c : Char} {text : List Char}
    (h : c ∈ trim drop text) : c ∈ text := by
  have hdropped : c ∈ (text.dropWhile drop).reverse.dropWhile drop := List.mem_reverse.mp h
  have hkept := (List.dropWhile_sublist drop).mem hdropped
  exact (List.dropWhile_sublist drop).mem (List.mem_reverse.mp hkept)

/-- What is lost by dropping from the front is of the set. -/
theorem mem_dropWhile_of_not {drop : Char → Bool} {c : Char} {text : List Char} (h : c ∈ text)
    (hkeep : drop c = false) : c ∈ text.dropWhile drop := by
  have hmem : c ∈ text.takeWhile drop ++ text.dropWhile drop := by
    rw [List.takeWhile_append_dropWhile]
    exact h
  rcases List.mem_append.mp hmem with htaken | hrest
  · rw [List.all_eq_true.mp List.all_takeWhile c htaken] at hkeep
    cases hkeep
  · exact hrest

/-- What is lost by trimming is of the set. -/
theorem mem_trim_of_not {drop : Char → Bool} {c : Char} {text : List Char} (h : c ∈ text)
    (hkeep : drop c = false) : c ∈ trim drop text :=
  List.mem_reverse.mpr
    (mem_dropWhile_of_not (List.mem_reverse.mpr (mem_dropWhile_of_not h hkeep)) hkeep)

/-- A text that holds nothing of the set loses nothing by trimming. -/
theorem trim_eq_self {drop : Char → Bool} {text : List Char} (h : ∀ c ∈ text, drop c = false) :
    trim drop text = text := by
  have hdrop : ∀ {part : List Char}, (∀ c ∈ part, drop c = false) → part.dropWhile drop = part := by
    intro part hpart
    refine List.dropWhile_eq_self_iff.mpr fun hl => ?_
    rw [hpart _ (List.getElem_mem hl)]
    decide
  rw [trim, hdrop h, hdrop (fun c hc => h c (List.mem_reverse.mp hc)), List.reverse_reverse]

/-! ## Digit symbols -/

/-- The code points of the blanks. -/
def blankCodes : List Nat :=
  [9, 10, 11, 12, 13, 28, 29, 30, 31, 32, 133, 160, 5760, 8192, 8193, 8194, 8195, 8196, 8197, 8198,
    8199, 8200, 8201, 8202, 8232, 8233, 8239, 8287, 12288]

/-- The code of a blank is in the list. -/
theorem mem_blankCodes {c : Char} (h : isBlank c = true) : c.toNat ∈ blankCodes := by
  simp only [isBlank, isWhiteSpace, Bool.or_eq_true, Bool.and_eq_true, decide_eq_true_eq,
    beq_iff_eq] at h
  simp only [blankCodes, List.mem_cons, List.not_mem_nil, or_false]
  omega

/-- Decimal digits are told by their ranges. -/
theorem isDecimal_eq_inRanges (c : Char) : isDecimal c = inRanges decimalRanges c.toNat := by
  rw [isDecimal, digitValue?, inRanges]
  cases hfound : decimalRanges.find? (fun r => r.1 ≤ c.toNat && c.toNat ≤ r.2) with
  | none =>
      have hnone := List.find?_eq_none.mp hfound
      symm
      rw [Option.isSome_none, List.any_eq_false]
      exact hnone
  | some r =>
      have hin : (decide (r.1 ≤ c.toNat) && decide (c.toNat ≤ r.2)) = true := by
        have hfits := List.find?_some hfound
        exact hfits
      symm
      rw [Option.isSome_some, List.any_eq_true]
      exact ⟨r, List.mem_of_find?_eq_some hfound, hin⟩

/-- No blank is a digit symbol. -/
theorem isBlank_of_isDigitSymbol {c : Char} (h : isDigitSymbol c = true) : isBlank c = false := by
  have hcodes : ∀ n ∈ blankCodes,
      inRanges decimalRanges n = false ∧ inRanges digitSymbolRanges n = false := by decide
  rw [Bool.eq_false_iff]
  intro hblank
  obtain ⟨hdecimal, hsymbol⟩ := hcodes _ (mem_blankCodes hblank)
  rw [isDigitSymbol, isDecimal_eq_inRanges, hdecimal, hsymbol] at h
  cases h

/-- No digit is white space. -/
theorem isWhiteSpace_of_isDigitSymbol {c : Char} (h : isDigitSymbol c = true) :
    isWhiteSpace c = false := by
  have hblank := isBlank_of_isDigitSymbol h
  rw [isBlank, Bool.or_eq_false_iff] at hblank
  exact hblank.1

/-- A character that may stand in a text that is searched for a number. -/
def isNumberChar (c : Char) : Bool := isBlank c || isDigitSymbol c

/-- A character of a number is none that is not. -/
theorem ne_of_isNumberChar {c d : Char} (h : isNumberChar c = true)
    (hd : isNumberChar d = false) : c ≠ d := by
  rintro rfl
  rw [h] at hd
  cases hd

/-- Behind its blanks a text of digit symbols holds nothing else. -/
theorem isNumberChar_of_mem {text : List Char} (h : allDigitSymbols (strip text) = true) {c : Char}
    (hc : c ∈ text) : isNumberChar c = true := by
  rw [allDigitSymbols, Bool.and_eq_true, List.all_eq_true] at h
  rw [isNumberChar]
  cases hblank : isBlank c with
  | true => rfl
  | false => exact h.2 c (mem_trim_of_not hc hblank)

/-! ## Numerals -/

/-- The digits at the head of a text without underscores. -/
theorem takeDigits_eq (afterDigit : Bool) {text : List Char} (h : ∀ c ∈ text, c ≠ '_') :
    takeDigits afterDigit text
      = some ((text.takeWhile isDecimal).filterMap digitValue?, text.dropWhile isDecimal) := by
  induction text generalizing afterDigit with
  | nil => rfl
  | cons c rest ih =>
      have hrest := ih true (fun x hx => h x (List.mem_cons_of_mem _ hx))
      cases hvalue : digitValue? c with
      | some d =>
          have hdecimal : isDecimal c = true := by rw [isDecimal, hvalue]; rfl
          simp [takeDigits, hvalue, hdecimal, hrest]
      | none =>
          have hdecimal : isDecimal c = false := by rw [isDecimal, hvalue]; rfl
          have hline : (c == '_') = false := by
            simpa using h c List.mem_cons_self
          simp [takeDigits, hvalue, hdecimal, hline]

/-- A text is a numeral: decimal digits with white space around them, no more
    than the limit. -/
def IsNumeral (text : List Char) : Prop :=
  (∀ c ∈ trim isWhiteSpace text, isDecimal c = true)
    ∧ (trim isWhiteSpace text).length ≤ numeralDigitLimit

/-- Without a sign, nothing is taken. -/
theorem takeSign_eq {text : List Char} (hplus : ∀ c ∈ text, c ≠ '+')
    (hminus : ∀ c ∈ text, c ≠ '-') :
    takeSign text = (false, text) := by
  cases text with
  | nil => rfl
  | cons c rest =>
      have hp := hplus c List.mem_cons_self
      have hm := hminus c List.mem_cons_self
      unfold takeSign
      split
      · next heq => exact absurd (List.cons.inj heq).1 hm
      · next heq => exact absurd (List.cons.inj heq).1 hp
      · rfl

/-- A text without a sign and underscores is read as a whole number exactly if
    it is a numeral with a digit at least. -/
theorem readInteger_eq_ok_iff {text : List Char} (hnumber : ∀ c ∈ text, isNumberChar c = true) :
    (∃ n, readInteger text = .ok n) ↔ trim isWhiteSpace text ≠ [] ∧ IsNumeral text := by
  have hplain : ∀ {d : Char}, isNumberChar d = false → ∀ c ∈ trim isWhiteSpace text, c ≠ d := by
    intro d hd c hc
    exact ne_of_isNumberChar (hnumber c (mem_of_mem_trim hc)) hd
  have hsign := takeSign_eq (hplain (d := '+') (by decide)) (hplain (d := '-') (by decide))
  have hdigits := takeDigits_eq false (hplain (d := '_') (by decide))
  have hall : ∀ c ∈ (trim isWhiteSpace text).takeWhile isDecimal, isDecimal c = true :=
    List.all_eq_true.mp List.all_takeWhile
  have hlength := List.filterMap_length_eq_length.mpr hall
  simp only [readInteger, hsign, hdigits, IsNumeral]
  generalize trim isWhiteSpace text = core at *
  constructor
  · rintro ⟨n, hn⟩
    cases hvalues : (core.takeWhile isDecimal).filterMap digitValue? with
    | nil => simp [hvalues] at hn
    | cons d ds =>
        rw [hvalues] at hlength hn
        dsimp only at hn
        split at hn
        · cases hn
        · next hlimit =>
            split at hn
            · next hrest =>
                -- nothing follows the digits, so that they are the whole text
                have hcore : core.takeWhile isDecimal = core := by
                  have happend := List.takeWhile_append_dropWhile (p := isDecimal) (l := core)
                  rw [List.isEmpty_iff.mp hrest, List.append_nil] at happend
                  exact happend
                rw [hcore] at hall hlength
                refine ⟨?_, hall, by omega⟩
                rintro rfl
                cases hlength
            · cases hn
  · rintro ⟨hne, hdecimal, hlimit⟩
    rw [List.takeWhile_eq_self_iff.mpr hdecimal] at hlength ⊢
    rw [List.dropWhile_eq_nil_iff.mpr hdecimal]
    cases hvalues : core.filterMap digitValue? with
    | nil =>
        rw [hvalues] at hlength
        exact absurd (List.length_eq_zero_iff.mp hlength.symm) hne
    | cons d ds =>
        rw [hvalues] at hlength
        dsimp only
        rw [if_neg (by omega)]
        exact ⟨_, rfl⟩

/-- A text of digit symbols and blanks around them is read as a whole number
    exactly if it is a numeral. -/
theorem readWhole_eq_ok_iff {text : List Char} (h : allDigitSymbols (strip text) = true) :
    (∃ n, lineNumber text = .ok n) ↔ IsNumeral text := by
  have hread : (∃ n, lineNumber text = .ok n) ↔ ∃ n, readInteger text = .ok n := by
    rw [lineNumber, readWhole, String.toList_ofList]
    cases readInteger text with
    | ok n => simp
    | error e => cases e <;> simp
  rw [hread, readInteger_eq_ok_iff (fun c hc => isNumberChar_of_mem h hc)]
  -- a digit symbol is no white space, so that something is left between it
  have hsome : trim isWhiteSpace text ≠ [] := by
    rw [allDigitSymbols, Bool.and_eq_true, List.all_eq_true] at h
    cases hstripped : strip text with
    | nil => simp [hstripped] at h
    | cons c rest =>
        have hc : c ∈ strip text := by
          rw [hstripped]
          exact List.mem_cons_self
        have hkept := mem_trim_of_not (mem_of_mem_trim hc)
          (isWhiteSpace_of_isDigitSymbol (h.2 c hc))
        exact List.ne_nil_of_mem hkept
  exact and_iff_right hsome

/-- Digits are left as they are. -/
theorem strip_of_allDigitSymbols {text : List Char} (h : allDigitSymbols text = true) :
    strip text = text := by
  rw [allDigitSymbols, Bool.and_eq_true, List.all_eq_true] at h
  exact trim_eq_self (fun c hc => isBlank_of_isDigitSymbol (h.2 c hc))

end NodeCapture
