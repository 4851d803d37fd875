import Mathlib.Data.List.Forall2
import NodeCapture.Operation.Basic
import NodeCapture.Proofs.ShellWords

/-! # The tokens that the shell reads

    A line for the shell may hold more than words: operators, and numbers in
    front of redirections.  Here it is cut into all of these, with the words
    read as in a line of words only (`shellTokens?_append_space`).  As there, a line
    in which the shell would expand something has no tokens.

    So the line that starts a capture is known to its last character.  Whatever
    text stands for the capture, the interface and the filter, the line holds
    the words of the capture command, and behind them the redirections and the
    operator that puts it into the background
    (`start_line_reads_as_built`). -/

namespace NodeCapture

/-- A token of a line: a word, the number in front of a redirection, or an
    operator. -/
inductive ShellToken where
  | word (text : List Char)
  | number (digits : List Char)
  | operator (sign : List Char)
  deriving DecidableEq

/-- The operators of the shell. -/
def shellOperators : List (List Char) :=
  ["&", "&&", "|", "||", ";", ";;", "<", "<<", "<<-", "<&", "<>", ">", ">>", ">&", ">|", "(", ")",
    "\n"].map String.toList

/-- The token under way: a word, of which it counts whether all of it stood
    outside of quotes, or an operator. -/
inductive TokenState where
  | inWord (mode : ShellMode) (text : Option (List Char)) (bare : Bool)
  | inOperator (sign : List Char)

/-- Between two tokens. -/
def TokenState.between : TokenState := .inWord .plain none true

/-- A word in front of an operator: digits in front of a redirection are its
    number. -/
def wordBefore (sign : Char) (bare : Bool) (text : List Char) : ShellToken :=
  if bare && text.all (fun c => '0' ≤ c && c ≤ '9') && (sign == '<' || sign == '>') then
    .number text
  else .word text

/-- A character inside of a word or between words: the tokens that it ends, and
    the token under way behind it. -/
def wordStep (mode : ShellMode) (text : Option (List Char)) (bare : Bool) (c : Char) :
    Option (List ShellToken × TokenState) :=
  match shellStep mode text c with
  | .moved mode' text' => some ([], .inWord mode' text' (bare && mode' = .plain))
  | .ended => some (text.toList.map .word, .between)
  | .refused =>
      if mode = .plain ∧ [c] ∈ shellOperators then
        some (text.toList.map (wordBefore c bare), .inOperator [c])
      else none

/-- A character anywhere.  An operator goes on for as long as it is one. -/
def tokenStep : TokenState → Char → Option (List ShellToken × TokenState)
  | .inWord mode text bare, c => wordStep mode text bare c
  | .inOperator sign, c =>
      if sign ++ [c] ∈ shellOperators then some ([], .inOperator (sign ++ [c]))
      else (wordStep .plain none true c).map (fun step => (.operator sign :: step.1, step.2))

/-- The tokens that the end of a line ends. -/
def TokenState.close : TokenState → Option (List ShellToken)
  | .inWord mode text _ => if mode = .plain then some (text.toList.map .word) else none
  | .inOperator sign => some [.operator sign]

/-- The tokens of a line from a place in it on. -/
def readTokens (state : TokenState) : List Char → Option (List ShellToken)
  | [] => state.close
  | c :: rest => (tokenStep state c).bind fun step => (readTokens step.2 rest).map (step.1 ++ ·)

/-- The tokens of a line. -/
def shellTokens? (line : List Char) : Option (List ShellToken) := readTokens .between line

/-- Words are read as in a line of words only, where the line goes on with a
    space or ends. -/
theorem readTokens_append {mode : ShellMode} {word : Option (List Char)} {line : List Char}
    {words : List (List Char)} (h : readShell mode word line = some words) (bare : Bool)
    {tail : List Char} (hend : ∀ c, tail.head? = some c → c = ' ') :
    readTokens (.inWord mode word bare) (line ++ tail)
      = (shellTokens? tail).map (words.map .word ++ ·) := by
  -- on the line through every mode, as for the words alone
  induction line generalizing mode word bare words with
  | nil =>
      rw [readShell] at h
      split at h
      · next hplain =>
          subst hplain
          cases h
          cases tail with
          | nil => simp [readTokens, TokenState.close, shellTokens?, TokenState.between]
          | cons c rest =>
              obtain rfl := hend c rfl
              simp [readTokens, tokenStep, wordStep, shellStep, shellTokens?, TokenState.between]
      · cases h
  | cons c line ih =>
      rw [List.cons_append, readTokens, tokenStep, wordStep]
      rw [readShell] at h
      cases hstep : shellStep mode word c with
      | moved mode' word' =>
          rw [hstep] at h
          dsimp only [Option.bind_some]
          rw [ih h, Option.map_map]
          rfl
      | ended =>
          rw [hstep] at h
          obtain ⟨more, hmore, rfl⟩ := Option.map_eq_some_iff.mp h
          dsimp only [Option.bind_some]
          rw [TokenState.between, ih hmore, Option.map_map]
          refine congrArg (Option.map · _) (funext fun tokens => ?_)
          rw [Function.comp_apply, ← List.append_assoc, ← List.map_append]
      | refused =>
          rw [hstep] at h
          cases h

/-- A line that is nothing but words has them as its tokens. -/
theorem shellTokens?_of_shellWords? {line : List Char} {words : List (List Char)}
    (h : shellWords? line = some words) : shellTokens? line = some (words.map .word) := by
  have happend := @readTokens_append _ _ _ _ h true [] nofun
  rw [List.append_nil] at happend
  rw [shellTokens?, TokenState.between, happend]
  simp [shellTokens?, readTokens, TokenState.between, TokenState.close]

/-- Behind a line of words and a space the tokens of another line follow. -/
theorem shellTokens?_append_space {line : List Char} {words : List (List Char)}
    (h : shellWords? line = some words) (rest : List Char) :
    shellTokens? (line ++ ' ' :: rest) = (shellTokens? rest).map (words.map .word ++ ·) := by
  have hspace : shellTokens? (' ' :: rest) = shellTokens? rest := by
    simp [shellTokens?, readTokens, tokenStep, wordStep, shellStep, TokenState.between]
  rw [shellTokens?, TokenState.between, readTokens_append h true (by rintro c ⟨⟩; rfl), hspace]

/-- An operator ends the word in front of it, and is told from a number. -/
example : shellTokens? "a b;c 2>>d".toList
    = some [.word "a".toList, .word "b".toList, .operator ";".toList, .word "c".toList,
        .number "2".toList, .operator ">>".toList, .word "d".toList] := by
  decide

/-! ## Words without quotes -/

/-- A word in which every character stands for itself. -/
def IsPlainWord (word : String) : Prop := word ≠ "" ∧ ∀ c ∈ word.toList, isShellPlain c = true

instance (word : String) : Decidable (IsPlainWord word) :=
  decidable_of_iff (word ≠ "" ∧ word.toList.all isShellPlain = true)
    (and_congr_right' List.all_eq_true)

/-- A plain word is read as itself. -/
theorem IsPlainWord.shellWords?_eq {word : String} (h : IsPlainWord word) :
    shellWords? word.toList = some [word.toList] := by
  have hread := readShell_plainWord (mt String.toList_eq_nil_iff.mp h.1) h.2 []
  rw [List.append_nil] at hread
  rw [shellWords?, hread]
  rfl

/-- Plain words that are joined by spaces are read one after another. -/
theorem shellWords?_intercalate_plain {words : List String} (h : ∀ word ∈ words, IsPlainWord word) :
    shellWords? (String.intercalate " " words).toList = some (words.map String.toList) := by
  have hkept : words.filter (fun word => !word.isEmpty) = words := by
    rw [List.filter_eq_self]
    intro word hword
    simpa using (h word hword).1
  have hparts : List.Forall₂ (fun word more => shellWords? word.toList = some more) words
      (words.map fun word => [word.toList]) := by
    rw [List.forall₂_map_right_iff, List.forall₂_same]
    exact fun word hword => (h word hword).shellWords?_eq
  have hjoined := shellWords?_intercalate hparts
  rw [hkept, ← List.flatMap_def, ← List.map_eq_flatMap] at hjoined
  exact hjoined

/-! ## The start of a capture -/

/-- What follows the words of a capture that is started: its output goes
    nowhere, and it runs in the background. -/
def backgroundTokens : List ShellToken :=
  [.number "1".toList, .operator ">".toList, .word "/dev/null".toList, .number "2".toList,
    .operator ">&".toList, .word "1".toList, .operator "&".toList]

/-- What follows the words of a capture is read so. -/
theorem shellTokens?_background :
    shellTokens? "1>/dev/null 2>&1 &".toList = some backgroundTokens := by
  decide

/-- The start of a capture makes one call, for the line that starts it. -/
theorem Operation.startCapture_exchanges (kubectl : Kubectl) (s : Settings) (node capture : String)
    (filters : CaptureFilters) (b : Bench) :
    ∃ reply, ((startCapture s node capture filters).run kubectl b).2.exchanges
      = ⟨s.exec node (s.startCommand capture filters), reply⟩ :: b.exchanges := by
  refine ⟨kubectl b.exchanges (s.exec node (s.startCommand capture filters)), ?_⟩
  rw [startCapture, attempt, Task.run]
  dsimp only [Bench.exchange]
  cases kubectl b.exchanges (s.exec node (s.startCommand capture filters)) with
  | exited r => cases hr : r.succeeded <;> simp [hr, respond, Task.run]
  | transportError text => rfl
  | crashed text => rfl

/-- The command of a capture is its words: the ones that every capture begins
    with, the interface, the path of the file, and the filter, each as it was
    given.  In the line that starts it only the redirections and the operator
    for the background follow. -/
theorem start_line_reads_as_built {s : Settings} {base : List String}
    (plain : ∀ word ∈ base, IsPlainWord word) (spaced : s.tcpdumpBase = String.intercalate " " base)
    (capture : String) (interface filter : Option String) :
    shellTokens? (tcpdumpCommand s capture interface filter).toList
        = some ((base.map String.toList ++ captureWords s capture interface filter).map .word)
      ∧ ∀ (kubectl : Kubectl) (node : String) (b : Bench), ∃ line reply,
        ((Operation.startCapture s node capture ⟨interface, filter⟩).run kubectl b).2.exchanges
            = ⟨s.exec node line, reply⟩ :: b.exchanges
          ∧ shellTokens? line.toList
            = some ((base.map String.toList ++ captureWords s capture interface filter).map .word
              ++ backgroundTokens) := by
  have hbase : shellWords? s.tcpdumpBase.toList = some (base.map String.toList) := by
    rw [spaced]
    exact shellWords?_intercalate_plain plain
  have hwords := shellWords?_tcpdumpCommand hbase capture interface filter
  refine ⟨shellTokens?_of_shellWords? hwords, ?_⟩
  intro kubectl node b
  obtain ⟨reply, hexchanges⟩ :=
    Operation.startCapture_exchanges kubectl s node capture ⟨interface, filter⟩ b
  refine ⟨s.startCommand capture ⟨interface, filter⟩, reply, hexchanges, ?_⟩
  have hline : (s.startCommand capture ⟨interface, filter⟩).toList
      = (tcpdumpCommand s capture interface filter).toList
          ++ ' ' :: "1>/dev/null 2>&1 &".toList := by
    rw [Settings.startCommand, String.toList_append]
    rfl
  rw [hline, shellTokens?_append_space hwords, shellTokens?_background]
  rfl

/-- An interface and a filter that try to end their words. -/
def hostileFilters : CaptureFilters := ⟨some "-z;$(id)", some "-x'; rm -rf / #\n\"`id`\" &"⟩

/-- A capture of a name with a space, with that interface and filter. -/
theorem start_line_reads_as_built_hostile :
    ∃ line, (((Operation.startCapture {} "n" "a b" hostileFilters).run (fun _ _ => .exited {})
        { files := .basic ["home"] }).2.exchanges).map Exchange.call = [Settings.exec {} "n" line]
      ∧ shellTokens? line.toList
        = some (["tcpdump", "--snapshot-length=0", "-vvv", "-i", "-z;$(id)", "-w",
            "/tmp/capturectl_a b.cap", "-x'; rm -rf / #\n\"`id`\" &"].map
              (fun word => ShellToken.word word.toList) ++ backgroundTokens) := by
  obtain ⟨-, hline⟩ := @start_line_reads_as_built {} ["tcpdump", "--snapshot-length=0", "-vvv"]
    (by decide) (by decide) "a b" hostileFilters.interface hostileFilters.filterText
  obtain ⟨line, reply, hexchanges, htokens⟩ :=
    hline (fun _ _ => .exited {}) "n" { files := .basic ["home"] }
  refine ⟨line, ?_, htokens⟩
  rw [show hostileFilters = ⟨hostileFilters.interface, hostileFilters.filterText⟩ from rfl,
    hexchanges]
  rfl

end NodeCapture
