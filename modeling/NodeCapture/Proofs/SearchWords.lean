import NodeCapture.Proofs.ShellWords
import NodeCapture.Proofs.Transcripts

/-! # The words of the search for capture files

    A check and a stop look for capture files by one line for the shell.  Here
    is how the shell cuts the line of a command into words.  `commandWords?`
    reads all that `shellWords?` reads, and also the signs that behind the name
    of a command stand for themselves.

    A sign of a pattern is such a sign as far as words are cut.  A word with one
    outside of quotes is still to be replaced by the names of the files that it
    fits, if it is a pattern and there are any; so there are two readings of a
    line, one that takes these signs for themselves and one that has no words
    where they stand.

    Captures are written to a path that is quoted, but the line of the search
    has the directory as it is, and the prefix between two single quotes.  So
    the search reads as it was meant exactly if the directory is a word that
    the shell takes as it is and the prefix holds no single quote
    (`search_reads_as_meant_iff`); a directory with a space in it is two words
    (`not_search_reads_as_meant`). -/

namespace NodeCapture

variable {patterns : Bool}

/-! ## The words of a command -/

/-- A sign that means something only elsewhere: where a command begins, behind
    an opening bracket, or at the head of a word; with `patterns`, also a sign
    of a pattern. -/
def isArgumentSign (patterns inWord : Bool) (c : Char) : Bool :=
  "!]\x7b\x7d".toList.contains c || (inWord && "#~".toList.contains c)
    || (patterns && "*?[".toList.contains c)

/-- The step of the shell at a character of a command. -/
def argumentStep (patterns : Bool) (mode : ShellMode) (word : Option (List Char)) (c : Char) :
    ShellStep :=
  if mode = .plain ∧ isArgumentSign patterns word.isSome c then .moved .plain (grown word c)
  else shellStep mode word c

/-- The words of a line that begins with the name of a command, where it is
    nothing but words.  With `patterns`, the signs of patterns stand for
    themselves; without, there are words only where no such sign stands outside
    of quotes, and no file is looked for.  A dollar sign outside of quotes
    always asks for more, as it is left open what it is without a name. -/
def commandWords? (patterns : Bool) (line : List Char) : Option (List (List Char)) :=
  readBy (argumentStep patterns) .plain none line

/-- Where the shell reads a character as a part of words, it does so in a
    command. -/
theorem argumentStep_eq {mode : ShellMode} {word : Option (List Char)} {c : Char}
    (h : shellStep mode word c ≠ .refused) :
    argumentStep patterns mode word c = shellStep mode word c := by
  refine if_neg ?_
  rintro ⟨rfl, hsign⟩
  have hmem : c ∈ "!]\x7b\x7d".toList ++ "#~".toList ++ "*?[".toList := by
    simp only [isArgumentSign, Bool.or_eq_true, Bool.and_eq_true, List.contains_eq_mem,
      decide_eq_true_eq] at hsign
    rw [List.mem_append, List.mem_append]
    exact hsign.imp (Or.imp_right And.right) And.right
  refine h ?_
  simp only [show "!]\x7b\x7d".toList ++ "#~".toList ++ "*?[".toList
      = ['!', ']', '\x7b', '\x7d', '#', '~', '*', '?', '['] from rfl,
    List.mem_cons, List.not_mem_nil, or_false] at hmem
  rcases hmem with rfl | rfl | rfl | rfl | rfl | rfl | rfl | rfl | rfl <;> rfl

/-- A line of words is a command of the same words. -/
theorem readBy_argumentStep_of_readShell {mode : ShellMode} {word : Option (List Char)}
    {line : List Char} {words : List (List Char)} (h : readShell mode word line = some words) :
    readBy (argumentStep patterns) mode word line = some words := by
  induction line generalizing mode word words with
  | nil => exact h
  | cons c rest ih =>
      rw [readShell] at h
      have hsame : argumentStep patterns mode word c = shellStep mode word c := by
        refine argumentStep_eq fun hrefused => ?_
        rw [hrefused] at h
        cases h
      rw [readBy, hsame]
      cases hstep : shellStep mode word c with
      | moved mode' word' =>
          rw [hstep] at h
          exact ih h
      | ended =>
          rw [hstep] at h
          obtain ⟨more, hmore, rfl⟩ := Option.map_eq_some_iff.mp h
          dsimp only
          rw [ih hmore, Option.map_some]
      | refused =>
          rw [hstep] at h
          cases h

/-- Behind words of a command and a space its other words are read on their
    own. -/
theorem commandWords?_append_space {line : List Char} {words : List (List Char)}
    (hline : commandWords? patterns line = some words) (rest : List Char) :
    commandWords? patterns (line ++ ' ' :: rest) = (commandWords? patterns rest).map (words ++ ·) :=
  readBy_append_space (fun _ => argumentStep_eq nofun) hline rest

/-- A text without single quotes is a word between them. -/
theorem commandWords?_single {text : List Char} (h : singleQuote ∉ text) :
    commandWords? patterns (singleQuote :: (text ++ [singleQuote])) = some [text] := by
  have hkept : text.flatMap shellChar = text := by
    have hchars : text.flatMap shellChar = text.flatMap fun c => [c] := by
      refine List.flatMap_congr fun c hc => if_neg ?_
      rintro rfl
      exact h hc
    rw [hchars, List.flatMap_singleton']
  have hread := readShell_single text [] [singleQuote]
  rw [hkept] at hread
  exact readBy_argumentStep_of_readShell hread

/-! ## Words that are taken as they are -/

/-- A character that in a command stands for itself. -/
def isBare (patterns inWord : Bool) (c : Char) : Bool :=
  isShellPlain c || isArgumentSign patterns inWord c

/-- A word that the shell takes as it is. -/
def IsBareWord (patterns : Bool) : List Char → Prop
  | [] => False
  | c :: rest => isBare patterns false c = true ∧ ∀ d ∈ rest, isBare patterns true d = true

/-- A single quote never stands for itself. -/
theorem isBare_singleQuote (inWord : Bool) : isBare patterns inWord singleQuote = false := by
  cases patterns <;> cases inWord <;> decide

/-- A quote that does not leave all that it quotes as it is. -/
def isOtherQuote (c : Char) : Bool := c == doubleQuote || c == backslash

/-- What the shell does in a command outside of quotes. -/
theorem argumentStep_plain_cases (word : Option (List Char)) (c : Char) :
    ((c = ' ' ∨ c = '\t') ∧ argumentStep patterns .plain word c = .ended)
      ∨ (c = singleQuote
          ∧ argumentStep patterns .plain word c = .moved .single (some (word.getD [])))
      ∨ (isOtherQuote c = true
          ∧ ∃ mode word', argumentStep patterns .plain word c = .moved mode word'
          ∧ mode ≠ .doubleEscaped ∧ word'.getD [] = word.getD [])
      ∨ argumentStep patterns .plain word c = .refused
      ∨ (isBare patterns word.isSome c = true
          ∧ argumentStep patterns .plain word c = .moved .plain (grown word c)) := by
  by_cases hsign : isArgumentSign patterns word.isSome c = true
  · refine Or.inr (Or.inr (Or.inr (Or.inr ⟨?_, if_pos ⟨rfl, hsign⟩⟩)))
    rw [isBare, hsign, Bool.or_true]
  have hstep : argumentStep patterns .plain word c = shellStep .plain word c :=
    if_neg fun h => hsign h.2
  rw [hstep]
  by_cases hplain : isShellPlain c = true
  · refine Or.inr (Or.inr (Or.inr (Or.inr ⟨?_, shellStep_plain hplain word⟩)))
    rw [isBare, hplain, Bool.true_or]
  by_cases hblank : c = ' ' ∨ c = '\t'
  · exact Or.inl ⟨hblank, if_pos hblank⟩
  by_cases hsingle : c = singleQuote
  · subst hsingle
    exact Or.inr (Or.inl ⟨rfl, rfl⟩)
  by_cases hdouble : c = doubleQuote
  · subst hdouble
    exact Or.inr (Or.inr (Or.inl ⟨rfl, .double, some (word.getD []), rfl, nofun, rfl⟩))
  by_cases hback : c = backslash
  · subst hback
    exact Or.inr (Or.inr (Or.inl ⟨rfl, .escaped, word, rfl, nofun, rfl⟩))
  · refine Or.inr (Or.inr (Or.inr (Or.inl ?_)))
    have hshell : isShellSign c = true := by
      rw [not_or] at hblank
      simpa [isShellPlain, hblank.1, hblank.2, hsingle, hdouble, hback] using hplain
    simp only [shellStep, if_neg hblank, if_neg hsingle, if_neg hdouble, if_neg hback, hshell,
      if_true]

/-! ## What quotes take away -/

/-- What is taken in only at the next step. -/
def ShellMode.pending : ShellMode → List Char
  | .doubleEscaped => [backslash]
  | _ => []

/-- Only behind a backslash in double quotes something is held back. -/
theorem ShellMode.pending_of_ne {mode : ShellMode} (h : mode ≠ .doubleEscaped) :
    mode.pending = [] := by
  cases mode with
  | doubleEscaped => exact absurd rfl h
  | _ => rfl

/-- A word that may be there has its characters, or none. -/
theorem flatten_toList (word : Option (List Char)) : word.toList.flatten = word.getD [] := by
  cases word <;> simp

/-- A grown word has one character more. -/
theorem countP_grown (p : Char → Bool) (word : Option (List Char)) (c : Char) :
    ((grown word c).getD []).countP p = (word.getD []).countP p + [c].countP p :=
  List.countP_append

/-- A step takes in no more than its character and what is pending. -/
theorem countP_argumentStep (p : Char → Bool) {mode mode' : ShellMode}
    {word word' : Option (List Char)} {c : Char}
    (h : argumentStep patterns mode word c = .moved mode' word') :
    (word'.getD []).countP p + mode'.pending.countP p
      ≤ (word.getD []).countP p + mode.pending.countP p + [c].countP p := by
  rw [argumentStep] at h
  split at h
  · cases h
    rw [countP_grown]
    simp [ShellMode.pending]
  · -- a character is taken in, held back or lost; only behind a held backslash two are taken in
    cases mode with
    | plain =>
        simp only [shellStep] at h
        split_ifs at h <;> cases h <;> simp [ShellMode.pending, countP_grown]
    | escaped =>
        simp only [shellStep] at h
        cases h
        split_ifs <;> simp [ShellMode.pending, countP_grown]
    | single =>
        simp only [shellStep] at h
        split_ifs at h <;> cases h <;> simp [ShellMode.pending, countP_grown]
    | double =>
        simp only [shellStep] at h
        split_ifs at h with hdouble hback hsign <;> cases h
        · simp [ShellMode.pending]
        · subst hback
          simp [ShellMode.pending]
        · simp [ShellMode.pending, countP_grown]
    | doubleEscaped =>
        simp only [shellStep] at h
        cases h
        split_ifs with hfeed hescape
        · simp only [ShellMode.pending, List.countP_nil]
          omega
        · simp [ShellMode.pending, countP_grown]
        · simp only [ShellMode.pending, countP_grown, List.countP_nil]
          omega

/-- The words of a command hold no more than its line. -/
theorem countP_flatten_le (p : Char → Bool) {mode : ShellMode} {word : Option (List Char)}
    {line : List Char} {words : List (List Char)}
    (h : readBy (argumentStep patterns) mode word line = some words) :
    words.flatten.countP p
      ≤ (word.getD []).countP p + mode.pending.countP p + line.countP p := by
  induction line generalizing mode word words with
  | nil =>
      rw [readBy] at h
      split at h
      · cases h
        cases word <;> simp
      · cases h
  | cons c rest ih =>
      rw [readBy] at h
      have hcons : (c :: rest).countP p = [c].countP p + rest.countP p := by
        rw [← List.singleton_append, List.countP_append]
      cases hstep : argumentStep patterns mode word c with
      | moved mode' word' =>
          rw [hstep] at h
          have hle := countP_argumentStep p hstep
          have hrest := ih h
          omega
      | ended =>
          rw [hstep] at h
          obtain ⟨more, hmore, rfl⟩ := Option.map_eq_some_iff.mp h
          have hrest := ih hmore
          rw [List.flatten_append, List.countP_append, flatten_toList]
          simp only [Option.getD_none, List.countP_nil, ShellMode.pending] at hrest
          omega
      | refused =>
          rw [hstep] at h
          cases h

/-- A character outside of quotes that does not stand for itself is lost. -/
theorem length_flatten_le_of_not_bare {word : Option (List Char)} {c : Char} {rest : List Char}
    {words : List (List Char)}
    (h : readBy (argumentStep patterns) .plain word (c :: rest) = some words)
    (hc : isBare patterns word.isSome c = false) :
    words.flatten.length ≤ (word.getD []).length + rest.length := by
  -- the rest holds no more than its characters, and this one is not among them
  have hbound : ∀ {mode : ShellMode} {word' : Option (List Char)} {more : List (List Char)},
      mode.pending = [] → readBy (argumentStep patterns) mode word' rest = some more →
        more.flatten.length ≤ (word'.getD []).length + rest.length := by
    intro mode word' more hpending hread
    simpa [hpending] using countP_flatten_le (fun _ => true) hread
  rw [readBy] at h
  rcases argumentStep_plain_cases word c with
    ⟨-, hstep⟩ | ⟨-, hstep⟩ | ⟨-, mode, word', hstep, hmode, hword⟩ | hstep | ⟨hbare, -⟩
  · rw [hstep] at h
    obtain ⟨more, hmore, rfl⟩ := Option.map_eq_some_iff.mp h
    have hle := hbound rfl hmore
    rw [List.flatten_append, List.length_append, flatten_toList]
    simpa using hle
  · rw [hstep] at h
    have hle := @hbound _ (some (word.getD [])) _ rfl h
    exact hle
  · rw [hstep] at h
    rw [← hword]
    exact hbound (ShellMode.pending_of_ne hmode) h
  · rw [hstep] at h
    cases h
  · rw [hbare] at hc
    cases hc

/-- A character that stands for itself grows the word. -/
theorem argumentStep_bare {word : Option (List Char)} {c : Char}
    (h : isBare patterns word.isSome c = true) :
    argumentStep patterns .plain word c = .moved .plain (grown word c) := by
  rw [isBare, Bool.or_eq_true] at h
  rcases h with hplain | hsign
  · have hstep := shellStep_plain hplain word
    rw [argumentStep_eq (by rw [hstep]; nofun), hstep]
  · exact if_pos ⟨rfl, hsign⟩

/-- Nothing is lost of a word exactly if each of its characters stands for
    itself. -/
theorem readBy_cons_eq_iff {word : Option (List Char)} {c : Char} {rest : List Char} :
    readBy (argumentStep patterns) .plain word (c :: rest) = some [word.getD [] ++ c :: rest]
      ↔ isBare patterns word.isSome c = true
        ∧ readBy (argumentStep patterns) .plain (grown word c) rest
          = some [(grown word c).getD [] ++ rest] := by
  have hgrown : (grown word c).getD [] ++ rest = word.getD [] ++ c :: rest :=
    List.append_assoc (word.getD []) [c] rest
  rw [hgrown]
  cases hc : isBare patterns word.isSome c with
  | true => rw [readBy, argumentStep_bare hc, eq_self, true_and]
  | false =>
      refine iff_of_false ?_ (fun h => Bool.false_ne_true h.1)
      intro h
      have hle := length_flatten_le_of_not_bare h hc
      rw [List.flatten_singleton, List.length_append, List.length_cons] at hle
      omega

/-- A word goes on as it is exactly if each character stands for itself. -/
theorem readBy_some_eq_iff {start text : List Char} :
    readBy (argumentStep patterns) .plain (some start) text = some [start ++ text]
      ↔ ∀ c ∈ text, isBare patterns true c = true := by
  induction text generalizing start with
  | nil => exact iff_of_true (by rw [List.append_nil]; rfl) (fun _ h => nomatch h)
  | cons c rest ih =>
      rw [List.forall_mem_cons, ← @ih (start ++ [c])]
      exact @readBy_cons_eq_iff patterns (some start) c rest

/-- A text is a word that is taken as it is exactly if it is read as such. -/
theorem commandWords?_eq_self_iff {text : List Char} :
    commandWords? patterns text = some [text] ↔ IsBareWord patterns text := by
  cases text with
  | nil => exact iff_of_false (by cases patterns <;> decide) id
  | cons c rest =>
      rw [IsBareWord, ← @readBy_some_eq_iff patterns [c]]
      exact @readBy_cons_eq_iff patterns none c rest

/-- Blanks, quotes, operators and expansions are not taken as they are, and signs
    of patterns only where they stand for themselves. -/
example : (" \t\n|&;<>()$`".toList ++ [singleQuote, doubleQuote, backslash]).any (isBare true true)
      = false
    ∧ "*?[".toList.all (isBare true true) = true
    ∧ "*?[".toList.any (isBare false true) = false := by
  decide

/-- A command loses no other quotes, so that its line holds none outside of
    single quotes. -/
def KeepsOtherQuotes (word : Option (List Char)) (line : List Char) (words : List (List Char)) :
    Prop :=
  words.flatten.countP isOtherQuote = (word.getD []).countP isOtherQuote + line.countP isOtherQuote

/-- A word that ends loses no quotes. -/
theorem KeepsOtherQuotes.ended {word : Option (List Char)} {c : Char} {rest : List Char}
    {more : List (List Char)} (h : KeepsOtherQuotes word (c :: rest) (word.toList ++ more))
    (hc : isOtherQuote c = false) : KeepsOtherQuotes none rest more := by
  rw [KeepsOtherQuotes, List.flatten_append, List.countP_append, flatten_toList,
    List.countP_cons_of_neg (by rw [hc]; decide)] at h
  simpa [KeepsOtherQuotes] using h

/-- A word that grows loses no quotes. -/
theorem KeepsOtherQuotes.grown {word : Option (List Char)} {c : Char} {rest : List Char}
    {words : List (List Char)} (h : KeepsOtherQuotes word (c :: rest) words) :
    KeepsOtherQuotes (grown word c) rest words := by
  rw [KeepsOtherQuotes, ← List.singleton_append, List.countP_append] at h
  rw [KeepsOtherQuotes, countP_grown]
  omega

/-- Another quote outside of quotes would be lost. -/
theorem KeepsOtherQuotes.not_moved {word word' : Option (List Char)} {c : Char} {rest : List Char}
    {words : List (List Char)} {mode : ShellMode} (h : KeepsOtherQuotes word (c :: rest) words)
    (hc : isOtherQuote c = true) (hmode : mode ≠ .doubleEscaped)
    (hword : word'.getD [] = word.getD []) :
    readBy (argumentStep patterns) mode word' rest ≠ some words := by
  intro hread
  have hle := countP_flatten_le isOtherQuote hread
  rw [KeepsOtherQuotes, List.countP_cons_of_pos hc] at h
  rw [hword, ShellMode.pending_of_ne hmode, List.countP_nil] at hle
  omega

/-- A character that is no other quote leaves the others. -/
theorem KeepsOtherQuotes.skip {word word' : Option (List Char)} {c : Char} {rest : List Char}
    {words : List (List Char)} (h : KeepsOtherQuotes word (c :: rest) words)
    (hc : isOtherQuote c = false) (hword : word'.getD [] = word.getD []) :
    KeepsOtherQuotes word' rest words := by
  rw [KeepsOtherQuotes, List.countP_cons_of_neg (by rw [hc]; decide)] at h
  rw [KeepsOtherQuotes, hword, h]

/-- Where no other quotes are lost, all single quotes are. -/
theorem singleQuote_not_mem_flatten {mode : ShellMode} {word : Option (List Char)}
    {line : List Char} {words : List (List Char)} (hmode : mode = .plain ∨ mode = .single)
    (h : readBy (argumentStep patterns) mode word line = some words)
    (hkeeps : KeepsOtherQuotes word line words) (hword : singleQuote ∉ word.getD []) :
    singleQuote ∉ words.flatten := by
  -- the induction stays in the two modes that lose no other quotes
  induction line generalizing mode word words with
  | nil =>
      rw [readBy] at h
      split at h
      · cases h
        cases word with
        | none => exact List.not_mem_nil
        | some start => simpa using hword
      · cases h
  | cons c rest ih =>
      have hgrown : c ≠ singleQuote → singleQuote ∉ (grown word c).getD [] := by
        intro hc hmem
        rcases List.mem_append.mp hmem with hmem | hmem
        · exact hword hmem
        · exact hc (List.mem_singleton.mp hmem).symm
      rw [readBy] at h
      rcases hmode with rfl | rfl
      · rcases argumentStep_plain_cases word c with
          ⟨hblank, hstep⟩ | ⟨rfl, hstep⟩ | ⟨hother, mode, word', hstep, hmode, hsame⟩ | hstep
            | ⟨hbare, hstep⟩
        · rw [hstep] at h
          obtain ⟨more, hmore, rfl⟩ := Option.map_eq_some_iff.mp h
          have hother : isOtherQuote c = false := by rcases hblank with rfl | rfl <;> rfl
          have hnot := ih (Or.inl rfl) hmore (hkeeps.ended hother) (List.not_mem_nil)
          cases word with
          | none => exact hnot
          | some start => exact fun hmem => (List.mem_append.mp hmem).elim hword hnot
        · rw [hstep] at h
          exact ih (Or.inr rfl) h (hkeeps.skip rfl rfl) hword
        · rw [hstep] at h
          exact absurd h (hkeeps.not_moved hother hmode hsame)
        · rw [hstep] at h
          cases h
        · rw [hstep] at h
          refine ih (Or.inl rfl) h hkeeps.grown (hgrown ?_)
          rintro rfl
          rw [isBare_singleQuote] at hbare
          cases hbare
      · have hmode : ShellMode.single ≠ .plain := by decide
        have hstep : argumentStep patterns .single word c = shellStep .single word c :=
          if_neg fun h => hmode h.1
        rw [hstep, shellStep] at h
        split_ifs at h with hc
        · subst hc
          exact ih (Or.inl rfl) h (hkeeps.skip rfl rfl) hword
        · exact ih (Or.inr rfl) h hkeeps.grown (hgrown hc)

/-- A text without single quotes is read on its own where no other quotes are
    lost, since no quote is open behind it. -/
theorem exists_words_of_append {word : Option (List Char)} {text rest : List Char}
    {words : List (List Char)} (htext : singleQuote ∉ text)
    (h : readBy (argumentStep patterns) .plain word (text ++ rest) = some words)
    (hkeeps : KeepsOtherQuotes word (text ++ rest) words) :
    ∃ front, readBy (argumentStep patterns) .plain word text = some front := by
  induction text generalizing word words with
  | nil => exact ⟨word.toList, rfl⟩
  | cons c more ih =>
      rw [List.mem_cons, not_or] at htext
      rw [List.cons_append] at h hkeeps
      rw [readBy] at h ⊢
      rcases argumentStep_plain_cases word c with
        ⟨hblank, hstep⟩ | ⟨hsingle, -⟩ | ⟨hother, mode, word', hstep, hmode, hsame⟩ | hstep
          | ⟨hbare, hstep⟩
      · rw [hstep] at h ⊢
        obtain ⟨later, hlater, rfl⟩ := Option.map_eq_some_iff.mp h
        have hother : isOtherQuote c = false := by rcases hblank with rfl | rfl <;> rfl
        obtain ⟨front, hfront⟩ := ih htext.2 hlater (hkeeps.ended hother)
        exact ⟨word.toList ++ front, by rw [hfront]; rfl⟩
      · exact absurd hsingle.symm htext.1
      · rw [hstep] at h
        exact absurd h (hkeeps.not_moved hother hmode hsame)
      · rw [hstep] at h
        cases h
      · rw [hstep] at h ⊢
        exact ih htext.2 h hkeeps.grown

/-! ## The search -/

/-- The words that a search is meant to have: what is looked for, in which
    directory, and how it is printed. -/
def Settings.searchWords (s : Settings) : List (List Char) :=
  ["find".toList, s.captureDir.toList, "-type".toList, "f".toList, "-name".toList,
    s.capturePrefix.toList ++ "*.cap".toList, "-printf".toList, "%p\\t%k\\n".toList]

/-- The line of a search behind the directory. -/
def Settings.searchTail (s : Settings) : List Char :=
  "-type f -name".toList ++ ' ' :: (singleQuote :: (s.capturePrefix.toList ++ "*.cap".toList
    ++ [singleQuote]) ++ ' ' :: "-printf '%p\\t%k\\n'".toList)

/-- The words of a search behind the directory. -/
def Settings.searchTailWords (s : Settings) : List (List Char) :=
  ["-type".toList, "f".toList, "-name".toList, s.capturePrefix.toList ++ "*.cap".toList,
    "-printf".toList, "%p\\t%k\\n".toList]

/-- The search is its word, the directory, and what is fixed behind them. -/
theorem Settings.toList_findCommand (s : Settings) :
    s.findCommand.toList
      = "find".toList ++ ' ' :: (s.captureDir.toList ++ ' ' :: s.searchTail) := by
  have hfront : "find ".toList = "find".toList ++ [' '] := by decide
  have hname : " -type f -name '".toList
      = ' ' :: ("-type f -name".toList ++ ' ' :: [singleQuote]) := by decide
  have hback : "*.cap' -printf '%p\\t%k\\n'".toList
      = "*.cap".toList ++ singleQuote :: ' ' :: "-printf '%p\\t%k\\n'".toList := by decide
  unfold findCommand searchTail
  simp only [String.toList_append, hfront, hname, hback]
  -- with the texts themselves in the goal they would be evaluated at each step
  generalize "find".toList = front, "-type f -name".toList = name, "*.cap".toList = ending,
    "-printf '%p\\t%k\\n'".toList = back
  simp only [List.append_assoc, List.cons_append, List.nil_append]

/-- Behind the directory the search reads as it was meant if no quote ends the
    prefix. -/
theorem Settings.commandWords?_searchTail {s : Settings}
    (h : singleQuote ∉ s.capturePrefix.toList) :
    commandWords? patterns s.searchTail = some s.searchTailWords := by
  have hname : commandWords? patterns "-type f -name".toList
      = some ["-type".toList, "f".toList, "-name".toList] :=
    readBy_argumentStep_of_readShell (by decide)
  have hback : commandWords? patterns "-printf '%p\\t%k\\n'".toList
      = some ["-printf".toList, "%p\\t%k\\n".toList] :=
    readBy_argumentStep_of_readShell (by decide)
  have hbody : singleQuote ∉ s.capturePrefix.toList ++ "*.cap".toList := by
    rw [List.mem_append, not_or]
    exact ⟨h, by decide⟩
  unfold searchTail
  rw [commandWords?_append_space hname, commandWords?_append_space (commandWords?_single hbody),
    hback]
  rfl

/-- The words that the search is meant to have hold the other quotes of its
    line. -/
theorem Settings.keepsOtherQuotes_search (s : Settings) :
    KeepsOtherQuotes none (s.captureDir.toList ++ ' ' :: s.searchTail)
      (s.captureDir.toList :: s.searchTailWords) := by
  have hname : "-type f -name".toList.countP isOtherQuote = 0 := by decide
  have hback : "-printf '%p\\t%k\\n'".toList.countP isOtherQuote = 2 := by decide
  have hwords : "-type".toList.countP isOtherQuote = 0 ∧ "f".toList.countP isOtherQuote = 0
      ∧ "-name".toList.countP isOtherQuote = 0 ∧ "-printf".toList.countP isOtherQuote = 0
      ∧ "%p\\t%k\\n".toList.countP isOtherQuote = 2 := by decide
  have hother : isOtherQuote ' ' = false ∧ isOtherQuote singleQuote = false := by decide
  unfold KeepsOtherQuotes searchTail searchTailWords
  generalize "-type f -name".toList = name, "-printf '%p\\t%k\\n'".toList = back,
    "-type".toList = type, "f".toList = file, "-name".toList = option, "-printf".toList = print,
    "%p\\t%k\\n".toList = format, "*.cap".toList = ending at *
  simp [hname, hback, hwords, hother]

/-- The search reads as it was meant exactly if the directory is a word that the
    shell takes as it is and the prefix holds no single quote. -/
theorem Settings.commandWords?_findCommand_iff (s : Settings) :
    commandWords? patterns s.findCommand.toList = some s.searchWords
      ↔ IsBareWord patterns s.captureDir.toList ∧ singleQuote ∉ s.capturePrefix.toList := by
  have hfind : commandWords? patterns "find".toList = some ["find".toList] :=
    readBy_argumentStep_of_readShell (by decide)
  have hline : commandWords? patterns s.findCommand.toList = some s.searchWords
      ↔ commandWords? patterns (s.captureDir.toList ++ ' ' :: s.searchTail)
        = some (s.captureDir.toList :: s.searchTailWords) := by
    rw [s.toList_findCommand, commandWords?_append_space hfind]
    constructor
    · intro h
      obtain ⟨words, hwords, heq⟩ := Option.map_eq_some_iff.mp h
      rw [hwords]
      exact congrArg some (List.cons.inj heq).2
    · intro h
      rw [h]
      rfl
  rw [hline, ← commandWords?_eq_self_iff]
  constructor
  · intro h
    have hkeeps := s.keepsOtherQuotes_search
    have hquotes := singleQuote_not_mem_flatten (Or.inl rfl) h hkeeps List.not_mem_nil
    have hdir : singleQuote ∉ s.captureDir.toList := fun hmem =>
      hquotes (List.mem_append_left _ hmem)
    have hprefix : singleQuote ∉ s.capturePrefix.toList := fun hmem =>
      hquotes (List.mem_flatten.mpr ⟨s.capturePrefix.toList ++ "*.cap".toList,
        by simp [searchTailWords], List.mem_append_left _ hmem⟩)
    obtain ⟨front, hfront⟩ := exists_words_of_append hdir h hkeeps
    rw [commandWords?_append_space hfront, commandWords?_searchTail hprefix] at h
    have hfirst : front = [s.captureDir.toList] :=
      List.append_cancel_right (Option.some.inj h)
    exact ⟨hfirst ▸ hfront, hprefix⟩
  · rintro ⟨hdir, hprefix⟩
    rw [commandWords?_append_space hdir, commandWords?_searchTail hprefix]
    rfl

/-- An operation searches by a line: all else that it runs in the debug pod of a
    node lists the processes or ends one. -/
def Operation.SearchesBy (s : Settings) (node line : String) {n : Nat} (t : Operation n) : Prop :=
  ∀ (kubectl : Kubectl) (b : Bench), ∃ exchanges,
    (t.run kubectl b).2.exchanges = exchanges ++ b.exchanges
      ∧ ∀ e ∈ exchanges, ∀ command, e.call = s.exec node command →
        command = line ∨ command = Settings.processCommand
          ∨ ∃ pid, command = Settings.killCommand pid

/-- An operation searches by a line if all calls that it makes allow for it. -/
theorem Operation.searchesBy_of_makes {s : Settings} {node line : String} {n : Nat}
    {t : Operation n} {P : Call → Prop} (makes : t.Makes P)
    (hP : ∀ command, P (s.exec node command) →
      command = line ∨ command = Settings.processCommand
        ∨ ∃ pid, command = Settings.killCommand pid) :
    t.SearchesBy s node line := by
  intro kubectl b
  obtain ⟨exchanges, hrun, hleads⟩ := t.run_leads kubectl b
  refine ⟨exchanges, hrun, fun e he command hcall => hP command ?_⟩
  rw [← hcall]
  exact makes.of_leads hleads e he

/-- A check searches by the search of the settings. -/
theorem Operation.checkNode_searchesBy (s : Settings) (node : String) :
    (checkNode s node).SearchesBy s node s.findCommand := by
  refine searchesBy_of_makes (checkNode_makes s node) fun command looks => ?_
  generalize hcall : s.exec node command = c at looks
  cases looks with
  | nodes => simp [Settings.exec, NodeCapture.listNodes] at hcall
  | pods => simp [Settings.exec, Settings.listDebugPods] at hcall
  | readiness => simp [Settings.exec, Settings.waitReady] at hcall
  | processes => exact Or.inr (Or.inl (by simpa [Settings.exec] using hcall))
  | files => exact Or.inl (by simpa [Settings.exec] using hcall)

/-- So does a stop. -/
theorem Operation.stopCapture_searchesBy (s : Settings) (node capture : String) :
    (stopCapture s node capture).SearchesBy s node s.findCommand := by
  refine searchesBy_of_makes (stopCapture_mayCall s node capture) fun command may => ?_
  generalize hcall : s.exec node command = c at may
  cases may with
  | listsProcesses => exact Or.inr (Or.inl (by simpa [Settings.exec] using hcall))
  | kills _ _ pid => exact Or.inr (Or.inr ⟨pid, by simpa [Settings.exec] using hcall⟩)
  | listsFiles => exact Or.inl (by simpa [Settings.exec] using hcall)

/-- The line by which checks and stops search for capture files is read by the
    shell as the words that were meant exactly if the directory is a word that
    is taken as it is and the prefix holds no single quote.  This is so where
    signs of patterns stand for themselves, and with a directory without them
    where no file is looked for. -/
theorem search_reads_as_meant_iff (s : Settings) :
    (∀ patterns, commandWords? patterns s.findCommand.toList = some s.searchWords
        ↔ IsBareWord patterns s.captureDir.toList ∧ singleQuote ∉ s.capturePrefix.toList)
      ∧ ∀ node capture, (Operation.checkNode s node).SearchesBy s node s.findCommand
        ∧ (Operation.stopCapture s node capture).SearchesBy s node s.findCommand :=
  ⟨fun _ => s.commandWords?_findCommand_iff, fun node capture =>
    ⟨Operation.checkNode_searchesBy s node, Operation.stopCapture_searchesBy s node capture⟩⟩

/-- Captures that lie in a directory with a space in its name. -/
def spacedSettings : Settings := { captureDir := "/tmp/my captures" }

/-- A capture is written to the directory, but two others are searched. -/
theorem not_search_reads_as_meant :
    shellWords? (tcpdumpCommand spacedSettings "web" none none).toList
        = some (["tcpdump", "--snapshot-length=0", "-vvv", "-w",
          "/tmp/my captures/capturectl_web.cap"].map String.toList)
      ∧ commandWords? true spacedSettings.findCommand.toList
        = some (["find", "/tmp/my", "captures", "-type", "f", "-name",
            "capturectl_*.cap", "-printf",
          "%p\\t%k\\n"].map String.toList)
      ∧ ¬∀ s : Settings, Char.ofNat 0 ∉ s.captureDir.toList →
          Char.ofNat 0 ∉ s.capturePrefix.toList →
        commandWords? true s.findCommand.toList = some s.searchWords := by
  have hwords : commandWords? true spacedSettings.findCommand.toList
      = some (["find", "/tmp/my", "captures", "-type", "f", "-name", "capturectl_*.cap", "-printf",
        "%p\\t%k\\n"].map String.toList) := by decide +kernel
  refine ⟨by decide +kernel, hwords, fun h => ?_⟩
  have hmeant := h spacedSettings (by decide) (by decide)
  rw [hwords] at hmeant
  exact absurd (congrArg (Option.map List.length) hmeant) (by decide)

end NodeCapture
