import Mathlib.Data.List.Basic
import NodeCapture.Settings

/-! # The words that the shell reads

    Commands for a debug pod are one line for its shell.  Here is how the shell
    cuts such a line into words, as far as quoting goes: where it would expand
    something, or where an operator stands, no words are given.

    A quoted word is read back as it was (`readShell_shellQuoteChars`), and so
    the words of a capture command are the ones that it was built from, for
    every interface, path and filter (`shellWords?_tcpdumpCommand`). -/

namespace NodeCapture

/-- Where the shell is in a line: outside of quotes, between quotes, or behind
    a reverse solidus. -/
inductive ShellMode where
  | plain
  | escaped
  | single
  | double
  | doubleEscaped
  deriving DecidableEq

/-- A sign that outside of quotes may ask for more than a word: an operator, an
    expansion, a pattern, a comment or a reserved word. -/
def isShellSign (c : Char) : Bool := "|&;<>()$`*?[]#~!\x7b\x7d\n".toList.contains c

/-- A sign that a reverse solidus escapes between double quotes. -/
def isDoubleEscape (c : Char) : Bool := c == doubleQuote || c == backslash || "$`".toList.contains c

/-- A word with one more character. -/
def grown (word : Option (List Char)) (c : Char) : Option (List Char) := some (word.getD [] ++ [c])

/-- What a character does: it is taken in, it ends the word, or it asks for
    more than words. -/
inductive ShellStep where
  | moved (mode : ShellMode) (word : Option (List Char))
  | ended
  | refused

/-- The step of the shell at a character. -/
def shellStep (mode : ShellMode) (word : Option (List Char)) (c : Char) : ShellStep :=
  match mode with
  | .plain =>
      if c = ' ' ∨ c = '\t' then .ended
      else if c = singleQuote then .moved .single (some (word.getD []))
      else if c = doubleQuote then .moved .double (some (word.getD []))
      else if c = backslash then .moved .escaped word
      else if isShellSign c then .refused
      else .moved .plain (grown word c)
  | .escaped => .moved .plain (if c = '\n' then word else grown word c)
  | .single => if c = singleQuote then .moved .plain word else .moved .single (grown word c)
  | .double =>
      if c = doubleQuote then .moved .plain word
      else if c = backslash then .moved .doubleEscaped word
      else if "$`".toList.contains c then .refused
      else .moved .double (grown word c)
  | .doubleEscaped =>
      .moved .double
        (if c = '\n' then word
        else if isDoubleEscape c then grown word c
        else grown (grown word backslash) c)

/-- The words of a line from a place in it on, where the shell is inside a word
    or between words. -/
def readShell (mode : ShellMode) (word : Option (List Char)) : List Char → Option (List (List Char))
  | [] => if mode = .plain then some word.toList else none
  | c :: rest =>
      match shellStep mode word c with
      | .moved mode' word' => readShell mode' word' rest
      | .ended => (readShell .plain none rest).map (word.toList ++ ·)
      | .refused => none

/-- The words of a line from a place in it on, for any way of taking its
    characters. -/
def readBy (step : ShellMode → Option (List Char) → Char → ShellStep) (mode : ShellMode)
    (word : Option (List Char)) : List Char → Option (List (List Char))
  | [] => if mode = .plain then some word.toList else none
  | c :: rest =>
      match step mode word c with
      | .moved mode' word' => readBy step mode' word' rest
      | .ended => (readBy step .plain none rest).map (word.toList ++ ·)
      | .refused => none

/-- A line is read by its steps. -/
theorem readShell_eq_readBy (mode : ShellMode) (word : Option (List Char)) (line : List Char) :
    readShell mode word line = readBy shellStep mode word line := by
  induction line generalizing mode word with
  | nil => rfl
  | cons c rest ih =>
      rw [readShell, readBy]
      cases shellStep mode word c with
      | moved mode' word' => exact ih mode' word'
      | ended => exact congrArg (Option.map _) (ih .plain none)
      | refused => rfl

/-- The words of a line, where it is nothing but words whatever they are for. -/
def shellWords? (line : List Char) : Option (List (List Char)) := readShell .plain none line

/-! ## Quoted words -/

/-- A character that outside of quotes stands for itself. -/
def isShellPlain (c : Char) : Bool :=
  !(c == ' ' || c == '\t' || c == singleQuote || c == doubleQuote || c == backslash
    || isShellSign c)

/-- A character that needs no quotes stands for itself. -/
theorem isShellPlain_of_isShellSafe {c : Char} (h : isShellSafe c = true) :
    isShellPlain c = true := by
  have hsigns : "|&;<>()$`*?[]#~!\x7b\x7d\n".toList.any isShellSafe = false := by decide
  have hne : ∀ {d : Char}, isShellSafe d = false → c ≠ d := by
    rintro d hd rfl
    rw [h] at hd
    cases hd
  have hsign : isShellSign c = false := by
    rw [isShellSign, List.contains_eq_mem, decide_eq_false_iff_not]
    exact fun hc => List.any_eq_false.mp hsigns c hc h
  simp [isShellPlain, hsign, hne (d := ' ') (by decide), hne (d := '\t') (by decide),
    hne (d := singleQuote) (by decide), hne (d := doubleQuote) (by decide),
    hne (d := backslash) (by decide)]

/-- A plain character grows the word. -/
theorem shellStep_plain {c : Char} (h : isShellPlain c = true) (word : Option (List Char)) :
    shellStep .plain word c = .moved .plain (grown word c) := by
  simp only [isShellPlain, Bool.not_eq_true', Bool.or_eq_false_iff, beq_eq_false_iff_ne] at h
  obtain ⟨⟨⟨⟨⟨hspace, htab⟩, hsingle⟩, hdouble⟩, hback⟩, hsign⟩ := h
  simp only [shellStep, if_neg (not_or.mpr ⟨hspace, htab⟩), if_neg hsingle, if_neg hdouble,
    if_neg hback, hsign, if_neg Bool.false_ne_true]

/-- Plain characters are added to a word that was begun. -/
theorem readShell_plain {text : List Char} (hplain : ∀ c ∈ text, isShellPlain c = true)
    (start rest : List Char) :
    readShell .plain (some start) (text ++ rest)
      = readShell .plain (some (start ++ text)) rest := by
  induction text generalizing start with
  | nil => rw [List.nil_append, List.append_nil]
  | cons c more ih =>
      rw [List.cons_append, readShell, shellStep_plain (hplain c List.mem_cons_self)]
      show readShell .plain (some (start ++ [c])) (more ++ rest) = _
      rw [ih (fun d hd => hplain d (List.mem_cons_of_mem _ hd)), List.append_assoc]
      rfl

/-- A word of plain characters is read as a part of the word that it begins. -/
theorem readShell_plainWord {word : List Char} (hne : word ≠ [])
    (hplain : ∀ c ∈ word, isShellPlain c = true) (rest : List Char) :
    readShell .plain none (word ++ rest) = readShell .plain (some word) rest := by
  obtain ⟨c, more, rfl⟩ := List.exists_cons_of_ne_nil hne
  rw [List.cons_append, readShell, shellStep_plain (hplain c List.mem_cons_self)]
  exact readShell_plain (fun d hd => hplain d (List.mem_cons_of_mem _ hd)) [c] rest

/-- Between single quotes each character is read back, a single quote through
    the double quotes around it. -/
theorem readShell_shellChar (c : Char) (start rest : List Char) :
    readShell .single (some start) (shellChar c ++ rest)
      = readShell .single (some (start ++ [c])) rest := by
  rw [shellChar]
  split
  · next hquote =>
      subst hquote
      rfl
  · next hother =>
      rw [List.singleton_append, readShell, shellStep, if_neg hother]
      rfl

/-- What is written in single quotes is read back there. -/
theorem readShell_single (text start rest : List Char) :
    readShell .single (some start) (text.flatMap shellChar ++ rest)
      = readShell .single (some (start ++ text)) rest := by
  induction text generalizing start with
  | nil => rw [List.flatMap_nil, List.nil_append, List.append_nil]
  | cons c more ih =>
      rw [List.flatMap_cons, List.append_assoc, readShell_shellChar, ih, List.append_assoc]
      rfl

/-- A quoted word is read back, as a part of the word that it stands in. -/
theorem readShell_shellQuoteChars (word : List Char) (rest : List Char) :
    readShell .plain none (shellQuoteChars word ++ rest) = readShell .plain (some word) rest := by
  rw [shellQuoteChars]
  split
  · next hsafe =>
      rw [Bool.and_eq_true, List.all_eq_true] at hsafe
      exact readShell_plainWord (by simpa using hsafe.1)
        (fun c hc => isShellPlain_of_isShellSafe (hsafe.2 c hc)) rest
  · show readShell .single (some []) ((word.flatMap shellChar ++ [singleQuote]) ++ rest) = _
    rw [List.append_assoc, readShell_single]
    rfl

/-- A quoted word is read as itself. -/
theorem shellWords?_shellQuote (word : String) :
    shellWords? (shellQuote word).toList = some [word.toList] := by
  have hread := readShell_shellQuoteChars word.toList []
  rw [List.append_nil] at hread
  rw [shellWords?, shellQuote, String.toList_ofList, hread]
  rfl

/-! ## Parts of a line -/

/-- Behind words and a space the rest of a line is read on its own, for any way
    of reading in which a space ends a word. -/
theorem readBy_append_space {step : ShellMode → Option (List Char) → Char → ShellStep}
    (hspace : ∀ word, step .plain word ' ' = .ended) {mode : ShellMode}
    {word : Option (List Char)} {line : List Char} {words : List (List Char)}
    (h : readBy step mode word line = some words) (rest : List Char) :
    readBy step mode word (line ++ ' ' :: rest)
      = (readBy step .plain none rest).map (words ++ ·) := by
  -- on the line through every mode: only where it ends the mode has to be the plain one
  induction line generalizing mode word words with
  | nil =>
      rw [readBy] at h
      split at h
      · next hplain =>
          subst hplain
          cases h
          rw [List.nil_append, readBy, hspace]
      · cases h
  | cons c line ih =>
      rw [List.cons_append]
      rw [readBy] at h ⊢
      cases hstep : step mode word c with
      | moved mode' word' =>
          rw [hstep] at h
          exact ih h
      | ended =>
          rw [hstep] at h
          obtain ⟨more, hmore, rfl⟩ := Option.map_eq_some_iff.mp h
          dsimp only
          rw [ih hmore, Option.map_map]
          exact congrArg (Option.map · _) (funext fun _ => (List.append_assoc ..).symm)
      | refused =>
          rw [hstep] at h
          cases h

/-- Behind a line and a space another line is read on its own. -/
theorem readShell_append_space {mode : ShellMode} {word : Option (List Char)} {line : List Char}
    {words : List (List Char)} (h : readShell mode word line = some words) (rest : List Char) :
    readShell mode word (line ++ ' ' :: rest) = (shellWords? rest).map (words ++ ·) := by
  rw [readShell_eq_readBy] at h ⊢
  rw [shellWords?, readShell_eq_readBy]
  exact readBy_append_space (fun _ => rfl) h rest

/-- Two lines with a blank between them have the words of both. -/
theorem shellWords?_append_space {line rest : List Char} {words more : List (List Char)}
    (hline : shellWords? line = some words) (hrest : shellWords? rest = some more) :
    shellWords? (line ++ ' ' :: rest) = some (words ++ more) := by
  rw [shellWords?, readShell_append_space hline, hrest]
  rfl

/-- Parts that are joined by spaces, without the empty ones, give their words
    one after another. -/
theorem shellWords?_intercalate {parts : List String} {words : List (List (List Char))}
    (h : List.Forall₂ (fun part more => shellWords? part.toList = some more) parts words) :
    shellWords? (String.intercalate " " (parts.filter (fun part => !part.isEmpty))).toList
      = some words.flatten := by
  induction h with
  | nil => rfl
  | @cons part more parts words hpart _ ih =>
      rw [List.flatten_cons, List.filter_cons]
      cases hempty : part.isEmpty with
      | true =>
          rw [String.isEmpty_iff.mp hempty] at hpart
          rw [← Option.some.inj hpart]
          exact ih
      | false =>
          rw [Bool.not_false, if_pos rfl]
          -- where only empty parts follow, no space stands behind this one
          cases hrest : parts.filter (fun part => !part.isEmpty) with
          | nil =>
              have hnone : words.flatten = [] := by
                rw [hrest] at ih
                exact (Option.some.inj ih).symm
              rw [hnone, List.append_nil, String.intercalate_singleton]
              exact hpart
          | cons next others =>
              rw [hrest] at ih
              have happend := shellWords?_append_space hpart ih
              rw [String.intercalate_cons_cons, String.toList_append, String.toList_append,
                List.append_assoc]
              exact happend

/-! ## Capture commands -/

/-- The words of a capture command behind the ones that every one begins with. -/
def captureWords (s : Settings) (capture : String) (interface filter : Option String) :
    List (List Char) :=
  (nonEmpty interface).toList.flatMap (fun name => ["-i".toList, name.toList])
    ++ ["-w".toList, (s.filePath capture).toList]
    ++ (nonEmpty filter).toList.map String.toList

/-- The shell reads a capture command as the interface, the path and the filter
    that it was built from, each as it was. -/
theorem shellWords?_tcpdumpCommand {s : Settings} {base : List (List Char)}
    (hbase : shellWords? s.tcpdumpBase.toList = some base) (capture : String)
    (interface filter : Option String) :
    shellWords? (tcpdumpCommand s capture interface filter).toList
      = some (base ++ captureWords s capture interface filter) := by
  have hoption : ∀ (flag spaced word : String), spaced.toList = flag.toList ++ [' '] →
      shellWords? flag.toList = some [flag.toList] →
      shellWords? (spaced ++ shellQuote word).toList = some [flag.toList, word.toList] := by
    intro flag spaced word hspaced hflag
    rw [String.toList_append, hspaced, List.append_assoc]
    exact shellWords?_append_space hflag (shellWords?_shellQuote word)
  have hinterface : shellWords? ((nonEmpty interface).elim ""
      (fun name => "-i " ++ shellQuote name)).toList
        = some ((nonEmpty interface).toList.flatMap (fun name => ["-i".toList, name.toList])) := by
    cases nonEmpty interface with
    | none => rfl
    | some name => exact hoption "-i" "-i " name (by decide) (by decide)
  have hfilter : shellWords? ((nonEmpty filter).elim "" shellQuote).toList
      = some ((nonEmpty filter).toList.map String.toList) := by
    cases nonEmpty filter with
    | none => rfl
    | some text => exact shellWords?_shellQuote text
  have hfile := hoption "-w" "-w " (s.filePath capture) (by decide) (by decide)
  have hparts := shellWords?_intercalate
    (.cons hbase (.cons hinterface (.cons hfile (.cons hfilter .nil))))
  refine Eq.trans ?_ (hparts.trans (congrArg some ?_))
  · rw [tcpdumpCommand]
    cases nonEmpty interface <;> cases nonEmpty filter <;> rfl
  · rw [captureWords]
    simp only [List.flatten_cons, List.flatten_nil, List.append_nil, List.append_assoc]

end NodeCapture
