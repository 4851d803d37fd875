import NodeCapture.Proofs.Numerals
import NodeCapture.Text.Basic

/-! # Lines and words of output

    The records of a listing are cut out of text that was stripped as a whole.
    `recordLines_eq` says that this makes no difference: they are the stripped
    lines of the text itself, without the empty ones.

    The rest is on stripping and on cutting off words, each for a text of
    which the parts are known, and back. -/

namespace NodeCapture

/-- A text of blanks. -/
def IsBlankText (text : List Char) : Prop := ∀ c ∈ text, isBlank c = true

/-- A text without blanks. -/
def IsSolid (text : List Char) : Prop := ∀ c ∈ text, isBlank c = false

instance (text : List Char) : Decidable (IsBlankText text) :=
  decidable_of_iff (text.all isBlank = true) List.all_eq_true

instance (text : List Char) : Decidable (IsSolid text) :=
  decidable_of_iff (text.any isBlank = false) (by simp [IsSolid])

/-- Texts without blanks may be joined. -/
theorem IsSolid.append {front text : List Char} (hfront : IsSolid front) (htext : IsSolid text) :
    IsSolid (front ++ text) :=
  List.forall_mem_append.mpr ⟨hfront, htext⟩

/-- A text that begins with a word begins with no blank. -/
theorem IsSolid.head?_append {word : List Char} (h : IsSolid word) (hne : word ≠ [])
    (rest : List Char) : ∀ c, (word ++ rest).head? = some c → isBlank c = false := by
  obtain ⟨d, more, rfl⟩ := List.exists_cons_of_ne_nil hne
  rintro c ⟨⟩
  exact h d List.mem_cons_self

/-- A text that ends with a word ends with no blank. -/
theorem IsSolid.getLast?_append {word : List Char} (h : IsSolid word) (hne : word ≠ [])
    (front : List Char) : ∀ c, (front ++ word).getLast? = some c → isBlank c = false := by
  intro c hc
  rw [List.getLast?_append, List.getLast?_eq_some_getLast hne] at hc
  cases hc
  exact h _ (List.getLast_mem hne)

/-- What is left after dropping begins with something that is kept. -/
theorem not_of_head?_dropWhile {drop : Char → Bool} {text : List Char} {c : Char}
    (h : (text.dropWhile drop).head? = some c) : drop c = false := by
  have hhead := List.head?_dropWhile_not drop text
  rw [h] at hhead
  exact hhead

/-! ## Stripping -/

/-- Blanks in front are left out. -/
theorem IsBlankText.dropWhile {text : List Char} (h : IsBlankText text) (rest : List Char) :
    (text ++ rest).dropWhile isBlank = rest.dropWhile isBlank := by
  rw [List.dropWhile_append, List.dropWhile_eq_nil_iff.mpr h]
  rfl

/-- A text that starts with no blank is left as it is. -/
theorem dropWhile_isBlank_of_head {text : List Char}
    (h : ∀ c, text.head? = some c → isBlank c = false) : text.dropWhile isBlank = text := by
  cases text with
  | nil => rfl
  | cons c rest =>
      rw [List.dropWhile_cons, h c rfl]
      rfl

/-- Blanks in front of a text are dropped. -/
theorem strip_append_left {pad : List Char} (h : IsBlankText pad) (text : List Char) :
    strip (pad ++ text) = strip text := by
  rw [strip, trim, h.dropWhile]
  rfl

/-- Blanks behind a text are dropped. -/
theorem strip_append_right {pad : List Char} (h : IsBlankText pad) (text : List Char) :
    strip (text ++ pad) = strip text := by
  have hreverse : IsBlankText pad.reverse := fun c hc => h c (List.mem_reverse.mp hc)
  rw [strip, strip, trim, trim, List.dropWhile_append]
  by_cases hempty : text.dropWhile isBlank = []
  · rw [hempty, List.isEmpty_nil, if_pos rfl, List.dropWhile_eq_nil_iff.mpr h]
  · rw [List.isEmpty_eq_false_iff.mpr hempty, if_neg Bool.false_ne_true, List.reverse_append,
      hreverse.dropWhile]

/-- Nothing is left of blanks. -/
theorem strip_of_blank {text : List Char} (h : IsBlankText text) : strip text = [] := by
  rw [strip, trim, List.dropWhile_eq_nil_iff.mpr h]
  rfl

/-- What is left of a text is the part of it between blanks. -/
theorem eq_append_strip (text : List Char) :
    ∃ before behind, IsBlankText before ∧ IsBlankText behind
      ∧ text = before ++ strip text ++ behind := by
  refine ⟨text.takeWhile isBlank, ((text.dropWhile isBlank).reverse.takeWhile isBlank).reverse,
    List.all_eq_true.mp List.all_takeWhile, ?_, ?_⟩
  · intro c hc
    exact List.all_eq_true.mp List.all_takeWhile c (List.mem_reverse.mp hc)
  · rw [strip, trim, List.append_assoc, ← List.reverse_append, List.takeWhile_append_dropWhile,
      List.reverse_reverse, List.takeWhile_append_dropWhile]

/-- A text that has no blanks at its ends is kept, with what follows it apart
    from blanks at the end. -/
theorem strip_append_of_ends {text : List Char} (hne : text ≠ [])
    (hfirst : ∀ c, text.head? = some c → isBlank c = false)
    (hlast : ∀ c, text.getLast? = some c → isBlank c = false) (rest : List Char) :
    ∃ kept, kept <+: rest ∧ strip (text ++ rest) = text ++ kept := by
  refine ⟨(rest.reverse.dropWhile isBlank).reverse, ?_, ?_⟩
  · rw [← List.reverse_suffix, List.reverse_reverse]
    exact List.dropWhile_suffix isBlank
  · have hfront : (text ++ rest).dropWhile isBlank = text ++ rest := by
      refine dropWhile_isBlank_of_head fun c hc => hfirst c ?_
      rw [List.head?_append, List.head?_eq_some_head hne] at hc
      rw [List.head?_eq_some_head hne]
      exact hc
    have hback : (rest.reverse ++ text.reverse).dropWhile isBlank
        = rest.reverse.dropWhile isBlank ++ text.reverse := by
      rw [List.dropWhile_append]
      split
      · next hempty =>
          rw [List.isEmpty_iff.mp hempty, List.nil_append, dropWhile_isBlank_of_head]
          intro c hc
          exact hlast c (by rwa [List.head?_reverse] at hc)
      · rfl
    rw [strip, trim, hfront, List.reverse_append, hback, List.reverse_append, List.reverse_reverse]

/-! ## Lines -/

/-- The stripped lines that are not empty. -/
def heldLines (lines : List (List Char)) : List (List Char) :=
  (lines.map strip).filter (fun line => !line.isEmpty)

/-- Each line holds its own record. -/
theorem heldLines_cons (line : List Char) (lines : List (List Char)) :
    heldLines (line :: lines) = heldLines [line] ++ heldLines lines := by
  show heldLines ([line] ++ lines) = _
  rw [heldLines, List.map_append, List.filter_append]
  rfl

/-- The first line counts as empty where there is none. -/
theorem heldLines_eq_headD_tail (lines : List (List Char)) :
    heldLines lines = heldLines [lines.headD []] ++ heldLines lines.tail := by
  cases lines with
  | nil => rfl
  | cons line rest => exact heldLines_cons line rest

/-- Blank lines hold no records. -/
theorem heldLines_of_blank {lines : List (List Char)} (h : ∀ line ∈ lines, IsBlankText line) :
    heldLines lines = [] := by
  rw [heldLines, List.filter_eq_nil_iff]
  intro line hline
  obtain ⟨text, htext, rfl⟩ := List.mem_map.mp hline
  rw [strip_of_blank (h text htext)]
  decide

/-- A line boundary ends an empty line; what comes behind it holds the same
    records, also where two characters are one boundary. -/
theorem splitLines_boundary {c : Char} (h : isLineBoundary c = true) (text : List Char) :
    ∃ lines, splitLines (c :: text) = [] :: lines
      ∧ heldLines lines = heldLines (splitLines text) := by
  cases text with
  | nil => exact ⟨[], by simp [splitLines, h], rfl⟩
  | cons d rest =>
      by_cases hpair : c = '\r' ∧ d = '\n'
      · obtain ⟨rfl, rfl⟩ := hpair
        have hfeed : splitLines ('\n' :: rest) = [] :: splitLines rest := by
          rw [splitLines.eq_3 _ _ (by simp)]
          exact if_pos (by decide)
        refine ⟨splitLines rest, by rw [splitLines], ?_⟩
        rw [hfeed, heldLines_cons]
        rfl
      · refine ⟨splitLines (d :: rest), ?_, rfl⟩
        rw [splitLines.eq_3 _ _ (by rintro rest' rfl heq; exact hpair ⟨rfl, (List.cons.inj heq).1⟩),
          if_pos h]

/-- Any other character stands at the head of the first line. -/
theorem splitLines_other {c : Char} (h : isLineBoundary c = false) (text : List Char) :
    splitLines (c :: text)
      = (c :: (splitLines text).headD []) :: (splitLines text).tail := by
  rw [splitLines.eq_3 _ _ (by rintro rest rfl; exact absurd h (by decide)),
    if_neg (Bool.eq_false_iff.mp h)]
  cases splitLines text <;> rfl

/-- The lines of a text hold characters of the text. -/
theorem mem_of_mem_splitLines {text : List Char} :
    ∀ line ∈ splitLines text, ∀ c ∈ line, c ∈ text := by
  fun_induction splitLines text with
  | case1 => exact fun _ hline => nomatch hline
  | case2 rest ih =>
      intro line hline c hc
      rcases List.mem_cons.mp hline with rfl | hline
      · cases hc
      · exact List.mem_cons_of_mem _ (List.mem_cons_of_mem _ (ih line hline c hc))
  | case3 d rest hpair hboundary ih =>
      intro line hline c hc
      rcases List.mem_cons.mp hline with rfl | hline
      · cases hc
      · exact List.mem_cons_of_mem _ (ih line hline c hc)
  | case4 d rest hpair hother hnil ih =>
      intro line hline c hc
      obtain rfl := List.mem_singleton.mp hline
      rw [List.mem_singleton.mp hc]
      exact List.mem_cons_self
  | case5 d rest hpair hother first lines hlines ih =>
      rw [hlines] at ih
      intro line hline c hc
      rcases List.mem_cons.mp hline with rfl | hline
      · rcases List.mem_cons.mp hc with rfl | hc
        · exact List.mem_cons_self
        · exact List.mem_cons_of_mem _ (ih first List.mem_cons_self c hc)
      · exact List.mem_cons_of_mem _ (ih line (List.mem_cons_of_mem _ hline) c hc)

/-! ## Records -/

/-- Two lists of lines hold the same records, also where something is put in
    front of both. -/
def SameRecords (lines lines' : List (List Char)) : Prop :=
  (∀ front, strip (front ++ lines.headD []) = strip (front ++ lines'.headD []))
    ∧ heldLines lines.tail = heldLines lines'.tail

/-- Lines with the same records hold the same. -/
theorem SameRecords.heldLines_eq {lines lines' : List (List Char)} (h : SameRecords lines lines') :
    heldLines lines = heldLines lines' := by
  have hfirst : heldLines [lines.headD []] = heldLines [lines'.headD []] := by
    rw [heldLines, heldLines, List.map_singleton, List.map_singleton,
      show strip (lines.headD []) = strip (lines'.headD []) from h.1 []]
  rw [heldLines_eq_headD_tail lines, heldLines_eq_headD_tail lines', hfirst, h.2]

/-- Blanks at the end of a text change no record. -/
theorem splitLines_append_blank {pad : List Char} (h : IsBlankText pad) (text : List Char) :
    SameRecords (splitLines (text ++ pad)) (splitLines text) := by
  have hblank : ∀ line ∈ splitLines pad, IsBlankText line :=
    fun line hline c hc => h c (mem_of_mem_splitLines line hline c hc)
  -- the first lines are compared behind any front, since the front grows along the first line
  induction text with
  | nil =>
      refine ⟨?_, ?_⟩
      · intro front
        rw [List.nil_append, show (splitLines ([] : List Char)).headD [] = [] by simp [splitLines],
          List.append_nil]
        cases hlines : splitLines pad with
        | nil => rw [List.headD_nil, List.append_nil]
        | cons line lines =>
            exact strip_append_right (hblank line (hlines ▸ List.mem_cons_self)) front
      · rw [List.nil_append, heldLines_of_blank (fun line hline =>
          hblank line (List.mem_of_mem_tail hline))]
        simp [splitLines, heldLines]
  | cons c rest ih =>
      cases hboundary : isLineBoundary c with
      | true =>
          obtain ⟨lines, hlines, hheld⟩ := splitLines_boundary hboundary (rest ++ pad)
          obtain ⟨lines', hlines', hheld'⟩ := splitLines_boundary hboundary rest
          rw [List.cons_append, hlines, hlines']
          exact ⟨fun _ => rfl, hheld.trans (ih.heldLines_eq.trans hheld'.symm)⟩
      | false =>
          rw [List.cons_append, splitLines_other hboundary, splitLines_other hboundary]
          refine ⟨?_, ih.2⟩
          intro front
          have hfront := ih.1 (front ++ [c])
          rw [List.append_assoc, List.append_assoc] at hfront
          exact hfront

/-- Blanks at the head of a text change no record. -/
theorem heldLines_splitLines_append {pad : List Char} (h : IsBlankText pad) (text : List Char) :
    heldLines (splitLines (pad ++ text)) = heldLines (splitLines text) := by
  induction pad with
  | nil => rfl
  | cons c rest ih =>
      have hrest := ih (fun d hd => h d (List.mem_cons_of_mem _ hd))
      cases hboundary : isLineBoundary c with
      | true =>
          obtain ⟨lines, hlines, hheld⟩ := splitLines_boundary hboundary (rest ++ text)
          rw [List.cons_append, hlines, heldLines_cons, hheld, hrest]
          rfl
      | false =>
          have hfirst : strip (c :: (splitLines (rest ++ text)).headD [])
              = strip ((splitLines (rest ++ text)).headD []) := by
            have hpad : IsBlankText [c] :=
              fun d hd => h d (List.mem_singleton.mp hd ▸ List.mem_cons_self)
            exact strip_append_left hpad _
          rw [List.cons_append, splitLines_other hboundary, heldLines_cons, ← hrest,
            heldLines_eq_headD_tail (splitLines (rest ++ text)), heldLines, List.map_singleton,
            hfirst]
          rfl

/-- The records of a text are its stripped lines that are not empty. -/
theorem recordLines_eq (output : List Char) :
    recordLines output = heldLines (splitLines output) := by
  obtain ⟨before, behind, hbefore, hbehind, houtput⟩ := eq_append_strip output
  show heldLines (splitLines (strip output)) = _
  conv => rhs; rw [houtput]
  rw [(splitLines_append_blank hbehind (before ++ strip output)).heldLines_eq,
    heldLines_splitLines_append hbefore]

/-! ## Words -/

/-- Blanks in front of the first word do not count. -/
theorem splitWords_append_left {pad : List Char} (h : IsBlankText pad) (n : Nat)
    (text : List Char) : splitWords n (pad ++ text) = splitWords n text := by
  rw [splitWords.eq_def, splitWords.eq_def n text]
  dsimp only
  rw [h.dropWhile]

/-- A word ends where a blank or nothing follows it. -/
theorem IsSolid.takeWhile_dropWhile {word : List Char} (h : IsSolid word) {rest : List Char}
    (hrest : ∀ c, rest.head? = some c → isBlank c = true) :
    (word ++ rest).takeWhile (fun c => !isBlank c) = word
      ∧ (word ++ rest).dropWhile (fun c => !isBlank c) = rest := by
  induction word with
  | nil =>
      cases rest with
      | nil => exact ⟨rfl, rfl⟩
      | cons c more => simp [hrest c rfl]
  | cons c more ih =>
      have hc := h c List.mem_cons_self
      obtain ⟨htake, hdrop⟩ := ih (fun d hd => h d (List.mem_cons_of_mem _ hd))
      simp only [List.cons_append, List.takeWhile_cons, List.dropWhile_cons, hc, Bool.not_false,
        if_true, htake, hdrop, and_self]

/-- A word in front of a blank is cut off. -/
theorem splitWords_word {word gap : List Char} (hne : word ≠ []) (hsolid : IsSolid word)
    (hgap : IsBlankText gap) (hgapne : gap ≠ []) (n : Nat) (text : List Char) :
    splitWords (n + 1) (word ++ (gap ++ text)) = word :: splitWords n text := by
  obtain ⟨c, more, rfl⟩ := List.exists_cons_of_ne_nil hne
  obtain ⟨d, pad, rfl⟩ := List.exists_cons_of_ne_nil hgapne
  have hc : ∀ x, (c :: (more ++ ((d :: pad) ++ text))).head? = some x → isBlank x = false := by
    rintro x ⟨⟩
    exact hsolid c List.mem_cons_self
  have hgaphead : ∀ x, ((d :: pad) ++ text).head? = some x → isBlank x = true := by
    rintro x ⟨⟩
    exact hgap d List.mem_cons_self
  obtain ⟨htake, hdrop⟩ := hsolid.takeWhile_dropWhile hgaphead
  rw [splitWords.eq_def]
  dsimp only
  rw [List.cons_append, dropWhile_isBlank_of_head hc]
  dsimp only
  rw [← List.cons_append, htake, hdrop, splitWords_append_left hgap]

/-- What is not to be split is one word. -/
theorem splitWords_zero {text : List Char} (hne : text ≠ [])
    (h : ∀ c, text.head? = some c → isBlank c = false) : splitWords 0 text = [text] := by
  obtain ⟨c, rest, rfl⟩ := List.exists_cons_of_ne_nil hne
  rw [splitWords.eq_def]
  dsimp only
  rw [dropWhile_isBlank_of_head h]

/-- A word that was cut off is a part of the text without blanks, with a blank
    or the end behind it. -/
theorem splitWords_succ_eq_cons {n : Nat} {text word : List Char} {words : List (List Char)}
    (h : splitWords (n + 1) text = word :: words) :
    ∃ gap rest, IsBlankText gap ∧ IsSolid word ∧ word ≠ []
      ∧ (∀ c, rest.head? = some c → isBlank c = true)
      ∧ text = gap ++ (word ++ rest) ∧ words = splitWords n rest := by
  rw [splitWords.eq_def] at h
  dsimp only at h
  cases htext : text.dropWhile isBlank with
  | nil => rw [htext] at h; cases h
  | cons c more =>
      rw [htext] at h
      dsimp only at h
      obtain ⟨hword, hwords⟩ := List.cons.inj h
      have hc : isBlank c = false := not_of_head?_dropWhile (by rw [htext]; rfl)
      refine ⟨text.takeWhile isBlank, (c :: more).dropWhile (fun x => !isBlank x),
        List.all_eq_true.mp List.all_takeWhile, ?_, ?_, ?_, ?_, hwords.symm⟩
      · rw [← hword]
        intro x hx
        simpa using List.all_eq_true.mp List.all_takeWhile x hx
      · rw [← hword, List.takeWhile_cons_of_pos (by simp [hc])]
        exact List.cons_ne_nil _ _
      · intro x hx
        simpa using not_of_head?_dropWhile hx
      · rw [← hword, List.takeWhile_append_dropWhile, ← htext, List.takeWhile_append_dropWhile]

/-- What is left as one word starts behind the blanks. -/
theorem splitWords_zero_eq_cons {text rest : List Char} {words : List (List Char)}
    (h : splitWords 0 text = rest :: words) :
    ∃ gap, IsBlankText gap ∧ text = gap ++ rest ∧ ∃ c, rest.head? = some c ∧ isBlank c = false := by
  rw [splitWords.eq_def] at h
  dsimp only at h
  cases htext : text.dropWhile isBlank with
  | nil => rw [htext] at h; cases h
  | cons c more =>
      rw [htext] at h
      dsimp only at h
      obtain ⟨rfl, -⟩ := List.cons.inj h
      refine ⟨text.takeWhile isBlank, List.all_eq_true.mp List.all_takeWhile, ?_, c, rfl, ?_⟩
      · rw [← htext, List.takeWhile_append_dropWhile]
      · exact not_of_head?_dropWhile (by rw [htext]; rfl)

/-! ## Columns -/

/-- A line has two columns, with blanks around them, and a text behind. -/
structure InColumns (line first second rest : List Char) : Prop where
  first_ne : first ≠ []
  first_solid : IsSolid first
  second_ne : second ≠ []
  second_solid : IsSolid second
  columns : ∃ before gap gap', IsBlankText before ∧ IsBlankText gap ∧ gap ≠ [] ∧ IsBlankText gap'
    ∧ gap' ≠ [] ∧ line = before ++ (first ++ (gap ++ (second ++ (gap' ++ rest))))

/-- Columns are cut off as they are. -/
theorem InColumns.splitWords_eq {line first second rest : List Char}
    (h : InColumns line first second rest) (hne : rest ≠ [])
    (hhead : ∀ c, rest.head? = some c → isBlank c = false) :
    splitWords 2 line = [first, second, rest] := by
  obtain ⟨before, gap, gap', hbefore, hgap, hgapne, hgap', hgapne', rfl⟩ := h.columns
  rw [splitWords_append_left hbefore, splitWords_word h.first_ne h.first_solid hgap hgapne,
    splitWords_word h.second_ne h.second_solid hgap' hgapne', splitWords_zero hne hhead]

/-- A word that is cut off in front of another has a blank behind it. -/
theorem gap_ne_nil {gap word rest : List Char}
    (hhead : ∀ c, (gap ++ (word ++ rest)).head? = some c →
    isBlank c = true) (hne : word ≠ []) (hword : ∀ c, word.head? = some c → isBlank c = false) :
    gap ≠ [] := by
  rintro rfl
  obtain ⟨c, more, rfl⟩ := List.exists_cons_of_ne_nil hne
  exact absurd (hhead c rfl) (by rw [hword c rfl]; decide)

/-- A line of which two words are cut off is in columns. -/
theorem inColumns_of_splitWords {line first second rest : List Char}
    (h : splitWords 2 line = [first, second, rest]) : InColumns line first second rest := by
  obtain ⟨before, rest₁, hbefore, hsolid, hne, hhead, rfl, hwords⟩ := splitWords_succ_eq_cons h
  obtain ⟨gap, rest₂, hgap, hsolid', hne', hhead', rfl, hwords'⟩ :=
    splitWords_succ_eq_cons hwords.symm
  obtain ⟨gap', hgap', rfl, c, hc, hsolidc⟩ := splitWords_zero_eq_cons hwords'.symm
  have hrest : rest ≠ [] := by
    rintro rfl
    cases hc
  refine ⟨hne, hsolid, hne', hsolid', before, gap, gap', hbefore, hgap, ?_, hgap', ?_, rfl⟩
  · exact gap_ne_nil hhead hne' (fun x hx => hsolid' x (List.mem_of_mem_head? hx))
  · have hend : ∀ x, (gap' ++ (rest ++ [])).head? = some x → isBlank x = true := by
      rwa [List.append_nil]
    refine gap_ne_nil hend hrest fun x hx => ?_
    rw [hc] at hx
    cases hx
    exact hsolidc

/-- Blanks at the ends of a line leave its columns, and are at the end of its
    text. -/
theorem InColumns.pad {line first second rest : List Char} (h : InColumns line first second rest)
    {pad : List Char} (hpad : IsBlankText pad) (behind : List Char) :
    InColumns (pad ++ line ++ behind) first second (rest ++ behind) where
  first_ne := h.first_ne
  first_solid := h.first_solid
  second_ne := h.second_ne
  second_solid := h.second_solid
  columns := by
    obtain ⟨before, gap, gap', hbefore, hgap, hgapne, hgap', hgapne', rfl⟩ := h.columns
    refine ⟨pad ++ before, gap, gap', List.forall_mem_append.mpr ⟨hpad, hbefore⟩,
      hgap, hgapne, hgap', hgapne', ?_⟩
    simp only [List.append_assoc]

/-- A stripped line keeps its columns and a text behind them that ends in no
    blank, with what follows the text apart from blanks at the end. -/
theorem InColumns.strip_of_end {line first second text rest behind : List Char} {last : Char}
    (h : InColumns line first second (text ++ rest ++ behind)) (hbehind : IsBlankText behind)
    (hlast : text.getLast? = some last) (hsolid : isBlank last = false) :
    ∃ kept, kept <+: rest ∧ strip line ≠ []
      ∧ InColumns (strip line) first second (text ++ kept) := by
  obtain ⟨before, gap, gap', hbefore, hgap, hgapne, hgap', hgapne', hline⟩ := h.columns
  have hwhole : line = before ++ (first ++ (gap ++ (second ++ (gap' ++ text)))
      ++ rest ++ behind) := by
    rw [hline]
    simp only [List.append_assoc]
  have hend : ∀ c, (first ++ (gap ++ (second ++ (gap' ++ text)))).getLast? = some c →
      isBlank c = false := by
    intro c hc
    simp only [List.getLast?_append, hlast, Option.or] at hc
    cases hc
    exact hsolid
  obtain ⟨kept, hkept, hstrip⟩ := strip_append_of_ends
    (List.append_ne_nil_of_left_ne_nil h.first_ne _)
    (h.first_solid.head?_append h.first_ne _) hend rest
  have hstripped : strip line = first ++ (gap ++ (second ++ (gap' ++ text))) ++ kept := by
    rw [hwhole, strip_append_left hbefore, strip_append_right hbehind, hstrip]
  refine ⟨kept, hkept, by simp [hstripped, h.first_ne], h.first_ne, h.first_solid, h.second_ne,
    h.second_solid, [], gap, gap', by decide, hgap, hgapne, hgap', hgapne', ?_⟩
  rw [hstripped]
  simp only [List.append_assoc, List.nil_append]

end NodeCapture
