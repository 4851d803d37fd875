import Mathlib.Data.Prod.Lex
import NodeCapture.Proofs.Decimals
import NodeCapture.Proofs.Responding

/-! # The option of a copy

    A download copies with retries if the client knows them, which its version
    tells, and else with a limit of time.  The client is asked for its version
    until it answers once; the answer is kept, also one that tells no version.

    What is kept is a part of the bench.  The statements here are about the
    exchanges alone: `firstAnswer?` is the answer among them that counts, and a
    bench on which downloads were made keeps what this answer tells
    (`Bench.Informed`, by induction on the downloads).  Each download asks and
    copies as the exchanges before it say (`Download.Goes`).

    The other part is which numbers a version text tells
    (`VersionText.readVersion_chars`). -/

namespace NodeCapture

/-! ## Versions -/

/-- The numbers of a version, the first of which counts most. -/
def Version.key (v : Version) : ℕ ×ₗ ℕ ×ₗ ℕ := toLex (v.major, toLex (v.minor, v.patch))

/-- Versions compare as their numbers do, from the first one on. -/
theorem Version.atLeast_iff {v w : Version} : v.atLeast w = true ↔ w.key ≤ v.key := by
  rw [key, key, Prod.Lex.toLex_le_toLex, Prod.Lex.toLex_le_toLex, atLeast]
  split_ifs <;> simp only [decide_eq_true_eq] <;> omega

/-- What is kept of an answer: an answer without a version counts as the lowest one. -/
def keptVersion (nesting : Nat) (output : String) : Version :=
  match parseClientVersion output nesting with
  | .ok (some version) => version
  | _ => .unknown

/-- An answer that is read is kept, or counts as the lowest version. -/
theorem keptVersion_of_ok {nesting : Nat} {output : String} {found : Option Version}
    (h : parseClientVersion output nesting = .ok found) :
    keptVersion nesting output = found.getD .unknown := by
  rw [keptVersion, h]
  cases found <;> rfl

/-- What is kept is a version that copies can be retried with exactly if the
    answer tells one. -/
theorem keptVersion_retries_iff {nesting : Nat} {output : String} :
    (keptVersion nesting output).atLeast .firstWithRetries = true
      ↔ ∃ version, parseClientVersion output nesting = .ok (some version)
        ∧ toLex (1, toLex (23, 0)) ≤ version.key := by
  cases hparse : parseClientVersion output nesting with
  | ok found =>
      rw [keptVersion_of_ok hparse]
      cases found with
      | none => exact iff_of_false (by decide) (fun ⟨_, h, _⟩ => nomatch h)
      | some version =>
          refine Version.atLeast_iff.trans ⟨fun h => ⟨version, rfl, h⟩, ?_⟩
          rintro ⟨_, ⟨⟩, h⟩
          exact h
  | error fault =>
      have hkept : keptVersion nesting output = .unknown := by rw [keptVersion, hparse]
      rw [hkept]
      exact iff_of_false (by decide) (fun ⟨_, h, _⟩ => nomatch h)

/-! ## Answers -/

/-- The client said well what its version is. -/
def Exchange.answer? (e : Exchange) : Option String :=
  if e.call = clientVersion then e.reply.output? else none

/-- The first answer of the client among exchanges of which the last comes first. -/
def firstAnswer? (exchanges : List Exchange) : Option String :=
  exchanges.reverse.findSome? Exchange.answer?

/-- An answer counts only if there was none before it. -/
theorem firstAnswer?_cons (e : Exchange) (earlier : List Exchange) :
    firstAnswer? (e :: earlier) = (firstAnswer? earlier).or e.answer? := by
  rw [firstAnswer?, List.reverse_cons, List.findSome?_append, firstAnswer?, List.findSome?_cons]
  cases e.answer? <;> rfl

/-- There is no first answer where there is none. -/
theorem firstAnswer?_eq_none_iff {exchanges : List Exchange} :
    firstAnswer? exchanges = none ↔ ∀ e ∈ exchanges, e.answer? = none := by
  simp [firstAnswer?, List.findSome?_eq_none_iff]

theorem answer?_of_ne {e : Exchange} (h : e.call ≠ clientVersion) : e.answer? = none :=
  if_neg h

/-- The client is known to retry copies: its first answer tells a version that
    is at least 1.23.0. -/
def KnowsRetries (nesting : Nat) (exchanges : List Exchange) : Prop :=
  ∃ output version, firstAnswer? exchanges = some output
    ∧ parseClientVersion output nesting = .ok (some version)
    ∧ toLex (1, toLex (23, 0)) ≤ version.key

/-- The option of a copy behind some exchanges. -/
inductive FitsClient (nesting : Nat) (exchanges : List Exchange) : String → Prop where
  | retries (knows : KnowsRetries nesting exchanges) : FitsClient nesting exchanges "--retries=99"
  | limit (unknown : ¬KnowsRetries nesting exchanges) :
      FitsClient nesting exchanges "--request-timeout=10m"

/-! ## The bench keeps what the first answer tells -/

namespace Bench

variable {kubectl : Kubectl} {b : Bench}

/-- The version on a bench is the one that the first answer tells. -/
def Informed (b : Bench) : Prop :=
  b.version = (firstAnswer? b.exchanges).map (keptVersion b.nesting)

/-- The version on a bench is one that copies can be retried with. -/
def retries (b : Bench) : Bool := b.version.any (·.atLeast .firstWithRetries)

/-- The kept version allows retries exactly if the client is known to retry. -/
theorem Informed.retries_iff (h : b.Informed) :
    b.retries = true ↔ KnowsRetries b.nesting b.exchanges := by
  rw [retries, h, KnowsRetries]
  cases firstAnswer? b.exchanges with
  | none => simp
  | some output => simp [keptVersion_retries_iff]

/-- Other calls tell nothing about the version. -/
theorem Informed.exchange {c : Call} (h : b.Informed) (hc : c ≠ clientVersion) :
    (b.exchange kubectl c).2.Informed := by
  have hanswer : (Exchange.mk c (kubectl b.exchanges c)).answer? = none := answer?_of_ne hc
  rw [Informed, Bench.exchange]
  dsimp only
  rw [firstAnswer?_cons, hanswer, Option.or_none]
  exact h

/-- The bench when the version was found out, as far as it can be. -/
def ask (kubectl : Kubectl) (b : Bench) : Bench :=
  match b.version with
  | some _ => b
  | none =>
    let (reply, asked) := b.exchange kubectl clientVersion
    match reply.output? with
    | some output => asked.remember (keptVersion b.nesting output)
    | none => asked

/-- A client of which the version is known is not asked. -/
theorem ask_of_known {version : Version} (h : b.version = some version) : b.ask kubectl = b := by
  rw [ask, h]

/-- An answer is kept. -/
theorem ask_of_answer {output : String} (h : b.version = none)
    (hanswer : (kubectl b.exchanges clientVersion).output? = some output) :
    b.ask kubectl
      = (b.exchange kubectl clientVersion).2.remember (keptVersion b.nesting output) := by
  rw [ask, h]
  simp only [Bench.exchange, hanswer]

/-- Where the client does not answer, nothing is kept. -/
theorem ask_of_failure (h : b.version = none)
    (hfailed : (kubectl b.exchanges clientVersion).output? = none) :
    b.ask kubectl = (b.exchange kubectl clientVersion).2 := by
  rw [ask, h]
  simp only [Bench.exchange, hfailed]

end Bench

/-- The questions for the version before a copy: none where one was answered
    before, and one where none was, be it that all failed. -/
inductive Probes (kubectl : Kubectl) (earlier : List Exchange) : List Exchange → Prop where
  | answered {e : Exchange} {output : String} (mem : e ∈ earlier) (call : e.call = clientVersion)
      (answer : e.reply.output? = some output) : Probes kubectl earlier []
  | asked (unanswered : ∀ e ∈ earlier, e.call = clientVersion → e.reply.output? = none) :
      Probes kubectl earlier [⟨clientVersion, kubectl earlier clientVersion⟩]

namespace Bench

variable {kubectl : Kubectl} {b : Bench}

/-- Asking does not change how deep a document may be nested. -/
theorem nesting_ask : (b.ask kubectl).nesting = b.nesting := by
  rw [ask]
  split
  · rfl
  · dsimp only
    split <;> rfl

/-- Finding out the version asks for it where no answer was kept, and keeps the
    answer. -/
theorem Informed.ask (h : b.Informed) :
    (b.ask kubectl).Informed
      ∧ ∃ asked, Probes kubectl b.exchanges asked
        ∧ (b.ask kubectl).exchanges = asked ++ b.exchanges := by
  cases hversion : b.version with
  | some version =>
      rw [ask_of_known hversion]
      refine ⟨h, [], ?_, rfl⟩
      rw [Informed, hversion, eq_comm, Option.map_eq_some_iff] at h
      obtain ⟨output, hfirst, -⟩ := h
      obtain ⟨e, hmem, he⟩ := List.exists_of_findSome?_eq_some hfirst
      rw [Exchange.answer?, Option.ite_none_right_eq_some] at he
      exact .answered (List.mem_reverse.mp hmem) he.1 he.2
  | none =>
      rw [Informed, hversion, eq_comm, Option.map_eq_none_iff] at h
      have hasked : Probes kubectl b.exchanges
          [⟨clientVersion, kubectl b.exchanges clientVersion⟩] := by
        refine .asked fun e he hcall => ?_
        have hanswer := firstAnswer?_eq_none_iff.mp h e he
        rwa [Exchange.answer?, if_pos hcall] at hanswer
      have hfirst : firstAnswer? (b.exchange kubectl clientVersion).2.exchanges
          = (kubectl b.exchanges clientVersion).output? := by
        rw [Bench.exchange, firstAnswer?_cons, h, Option.none_or, Exchange.answer?, if_pos rfl]
      cases houtput : (kubectl b.exchanges clientVersion).output? with
      | none =>
          rw [ask_of_failure hversion houtput]
          refine ⟨?_, _, hasked, rfl⟩
          rw [Informed, hfirst, houtput]
          exact hversion
      | some output =>
          rw [ask_of_answer hversion houtput]
          refine ⟨?_, _, hasked, rfl⟩
          exact (congrArg (Option.map (keptVersion b.nesting)) (hfirst.trans houtput)).symm

end Bench

/-! ## Downloads -/

/-- A download that is asked for. -/
structure Download where
  node : String
  capture : String
  path : String

namespace Download

variable (s : Settings) (kubectl : Kubectl) (d : Download) (b : Bench)

/-- What a download ends with, and the bench behind it. -/
def run : Except OperationFault Response × Bench :=
  (Operation.download s d.node d.capture d.path).run kubectl b

/-- A download returns: it is not stopped by what it does not provide for. -/
def Returns : Prop := ∃ r, (d.run s kubectl b).1 = .ok r

/-- The copy of a download to a path, with an option. -/
def copy (target : LocalPath) (option : String) : Call :=
  ⟨["cp", "-n", s.namespaceName, s.podName d.node ++ ":" ++ s.filePath d.capture, target.text,
    option], none⟩

/-- The exchanges that a download makes, of which the last comes first: none
    where the directory for the file cannot be made, and else the copy behind
    the questions for the version. -/
inductive Goes (files : LocalFiles) (nesting : Nat) (earlier : List Exchange) :
    List Exchange → Prop where
  | blocked {target : LocalPath} {e : OsError} (resolved : files.resolve d.path = .ok target)
      (blocked : files.ensureDirectories target.tail = .error e) : Goes files nesting earlier []
  | copied {target : LocalPath} {made : LocalFiles} {asked : List Exchange} {option : String}
      (resolved : files.resolve d.path = .ok target)
      (made : files.ensureDirectories target.tail = .ok made)
      (probes : Probes kubectl earlier asked)
      (fits : FitsClient nesting (asked ++ earlier) option) :
      Goes files nesting earlier
        (⟨d.copy s target option, kubectl (asked ++ earlier) (d.copy s target option)⟩ :: asked)

variable {s kubectl d b}

/-- The option of a copy tells whether it is retried. -/
theorem copyFile_eq (target : LocalPath) (retries : Bool) :
    s.copyFile d.node d.capture target retries
      = d.copy s target (if retries then "--retries=99" else "--request-timeout=10m") := rfl

/-- A copy is not a question for the version. -/
theorem copy_ne_clientVersion {target : LocalPath} {option : String} :
    d.copy s target option ≠ clientVersion := by
  simp [copy, clientVersion]

/-- The report of a download that failed. -/
def failed (d : Download) (target : LocalPath) (error : String) : Response :=
  .downloaded (.failure ("Failed to download " ++ d.capture ++ " to " ++ target.text
    ++ ":\n" ++ error))
    d.node d.capture (some target.text)

/-- The copy of a download to a path, with the report of how it went. -/
def copyTo (s : Settings) (d : Download) (target : LocalPath) {n : Nat} (retries : Bool) :
    Operation (n + 1) :=
  Operation.attempt (s.copyFile d.node d.capture target retries) (d.failed target) fun _ =>
    Operation.respond (.downloaded .success d.node d.capture (some target.text))

/-- A copy is one exchange, whatever becomes of it. -/
theorem run_copyTo {target : LocalPath} {retries : Bool} {n : Nat} (b : Bench) :
    ((d.copyTo s target retries : Operation (n + 1)).run kubectl b).2
      = (b.exchange kubectl (s.copyFile d.node d.capture target retries)).2 := by
  rw [copyTo, Operation.attempt, Task.run]
  simp only [Bench.exchange]
  cases kubectl b.exchanges (s.copyFile d.node d.capture target retries) with
  | exited r => dsimp only; split <;> rfl
  | transportError text => rfl
  | crashed text => rfl

/-- What a download does behind its directory: it finds out the version, and
    copies with or without retries. -/
def askAndCopy (s : Settings) (d : Download) (target : LocalPath) : Operation 4 :=
  .consult fun
    | ⟨some version, _⟩ => d.copyTo s target (version.atLeast .firstWithRetries)
    | ⟨none, nesting⟩ =>
      .call clientVersion fun
        | .exited r =>
          if r.succeeded then
            match parseClientVersion r.stdout nesting with
            | .error fault => Operation.stop (.version fault)
            | .ok found =>
              let version := found.getD .unknown
              .rememberVersion version (d.copyTo s target (version.atLeast .firstWithRetries))
          else d.copyTo s target false
        | .transportError _ => d.copyTo s target false
        | .crashed text => Operation.stop (.crashed text)

/-- A download resolves its path, makes the directory, and asks and copies
    behind it. -/
theorem download_eq :
    Operation.download s d.node d.capture d.path = .resolve d.path fun
      | .error fault => Operation.stop (.path fault)
      | .ok target =>
        .makeDirectories target.tail fun
          | some e => Operation.respond (d.failed target e.message)
          | none => d.askAndCopy s target := rfl

/-- A download that returns has asked where it had to, and has made one copy. -/
theorem run_askAndCopy {target : LocalPath}
    (h : ∃ r, ((d.askAndCopy s target).run kubectl b).1 = .ok r) :
    ((d.askAndCopy s target).run kubectl b).2
      = ((b.ask kubectl).exchange kubectl
          (s.copyFile d.node d.capture target (b.ask kubectl).retries)).2 := by
  obtain ⟨r, hr⟩ := h
  rw [askAndCopy, Task.run, Bench.client] at hr ⊢
  -- a version that is not known is asked for, and what comes of that decides the option
  cases hversion : b.version with
  | some version =>
      rw [Bench.ask_of_known hversion, Bench.retries, hversion]
      exact run_copyTo b
  | none =>
      rw [hversion] at hr
      dsimp only at hr ⊢
      rw [Task.run] at hr ⊢
      simp only [Bench.exchange] at hr ⊢
      cases hreply : kubectl b.exchanges clientVersion with
      | exited result =>
          cases hsucceeded : result.succeeded with
          | true =>
              have hanswer : (kubectl b.exchanges clientVersion).output? = some result.stdout := by
                rw [hreply, Reply.output?, if_pos hsucceeded]
              rw [hreply] at hr
              simp only [hsucceeded, if_true] at hr ⊢
              cases hparse : parseClientVersion result.stdout b.nesting with
              | error fault =>
                  rw [hparse] at hr
                  cases hr
              | ok found =>
                  rw [Bench.ask_of_answer hversion hanswer, Bench.exchange, hreply,
                    keptVersion_of_ok hparse]
                  exact run_copyTo _
          | false =>
              have hfailed : (kubectl b.exchanges clientVersion).output? = none := by
                rw [hreply, Reply.output?, hsucceeded]
                rfl
              rw [Bench.ask_of_failure hversion hfailed, Bench.retries, Bench.exchange, hversion,
                hreply]
              simp only [hsucceeded, Bool.false_eq_true, if_false]
              exact run_copyTo _
      | transportError text =>
          have hfailed : (kubectl b.exchanges clientVersion).output? = none := by
            rw [hreply]
            rfl
          rw [Bench.ask_of_failure hversion hfailed, Bench.retries, Bench.exchange, hversion,
            hreply]
          exact run_copyTo _
      | crashed text =>
          rw [hreply] at hr
          cases hr

/-- A download that returns is stopped by its directory, or finds out the
    version and copies. -/
theorem run_of_returns (h : d.Returns s kubectl b) :
    ∃ target, b.files.resolve d.path = .ok target
      ∧ ((∃ e, b.files.ensureDirectories target.tail = .error e ∧ (d.run s kubectl b).2 = b)
        ∨ ∃ made, b.files.ensureDirectories target.tail = .ok made
          ∧ (d.run s kubectl b).2
            = ((Bench.ask kubectl { b with files := made }).exchange kubectl
                (s.copyFile d.node d.capture target
                  (Bench.ask kubectl { b with files := made }).retries)).2) := by
  obtain ⟨r, hr⟩ := h
  rw [run, download_eq, Task.run] at hr ⊢
  cases hresolved : b.files.resolve d.path with
  | error fault =>
      rw [hresolved] at hr
      cases hr
  | ok target =>
      rw [hresolved] at hr
      refine ⟨target, rfl, ?_⟩
      dsimp only at hr ⊢
      rw [Task.run, Bench.makeDirectories] at hr ⊢
      cases hmade : b.files.ensureDirectories target.tail with
      | error e => exact Or.inl ⟨e, rfl, rfl⟩
      | ok made =>
          rw [hmade] at hr
          exact Or.inr ⟨made, rfl, run_askAndCopy ⟨r, hr⟩⟩

/-- A download on an informed bench asks and copies as the exchanges say, and
    leaves an informed bench behind. -/
theorem goes_of_returns (hinformed : b.Informed) (h : d.Returns s kubectl b) :
    (d.run s kubectl b).2.Informed
      ∧ ∃ exchanges, (d.run s kubectl b).2.exchanges = exchanges ++ b.exchanges
        ∧ d.Goes s kubectl b.files b.nesting b.exchanges exchanges := by
  obtain ⟨target, hresolved, ⟨e, hblocked, hrun⟩ | ⟨made, hmade, hrun⟩⟩ := run_of_returns h
  · rw [hrun]
    exact ⟨hinformed, [], rfl, .blocked hresolved hblocked⟩
  · have hinformed' : ({ b with files := made } : Bench).Informed := hinformed
    obtain ⟨hasked, asked, hprobes, hexchanges⟩ := @Bench.Informed.ask kubectl _ hinformed'
    rw [hrun]
    refine ⟨hasked.exchange (by rw [copyFile_eq]; exact copy_ne_clientVersion), ?_⟩
    rw [Bench.exchange, hexchanges, copyFile_eq]
    refine ⟨_, (List.cons_append ..).symm, .copied hresolved hmade hprobes ?_⟩
    have hiff := hasked.retries_iff
    rw [Bench.nesting_ask, hexchanges] at hiff
    cases hretries : (Bench.ask kubectl { b with files := made }).retries with
    | true => exact .retries (hiff.mp hretries)
    | false => exact .limit (mt hiff.mpr (by rw [hretries]; exact Bool.false_ne_true))

end Download

/-- The benches behind downloads that were made one after another and all
    returned; in between, the local files may change in any way. -/
inductive AfterDownloads (s : Settings) (kubectl : Kubectl) : Bench → Prop where
  | fresh (files : LocalFiles) (nesting : Nat) :
      AfterDownloads s kubectl { files := files, nesting := nesting }
  | rearranged {b : Bench} (before : AfterDownloads s kubectl b) (files : LocalFiles) :
      AfterDownloads s kubectl { b with files := files }
  | downloaded {b : Bench} (before : AfterDownloads s kubectl b) (d : Download)
      (returns : d.Returns s kubectl b) : AfterDownloads s kubectl (d.run s kubectl b).2

/-- Downloads leave a bench on which the version is kept as it was answered. -/
theorem AfterDownloads.informed {s : Settings} {kubectl : Kubectl} {b : Bench}
    (h : AfterDownloads s kubectl b) : b.Informed := by
  -- by induction on the downloads
  induction h with
  | fresh files nesting => rfl
  | rearranged before files ih => exact ih
  | downloaded before d returns ih => exact (Download.goes_of_returns ih returns).1

/-! ## The numbers of a version text -/

/-- A text that starts with a version: three numerals with points between them,
    possibly behind a letter, and in front of anything but a digit. -/
structure VersionText where
  lettered : Bool
  major : Numeral
  minor : Numeral
  patch : Numeral
  suffix : List Char
  ended : ∀ c, suffix.head? = some c → isDecimal c = false

/-- A run of digits ends in front of what is no digit. -/
theorem Numeral.digitRun_append (n : Numeral) {rest : List Char}
    (hrest : ∀ c, rest.head? = some c → isDecimal c = false) :
    digitRun (n.digits ++ rest) = some (n.digits, rest) := by
  have hspan : (n.digits ++ rest).span isDecimal = (n.digits, rest) := by
    rw [List.span_eq_takeWhile_dropWhile, List.takeWhile_append_of_pos n.writes.decimal,
      List.dropWhile_append_of_pos n.writes.decimal]
    cases rest with
    | nil => simp
    | cons c rest =>
        have hc : ¬isDecimal c = true := by simp [hrest c rfl]
        rw [List.takeWhile_cons_of_neg hc, List.dropWhile_cons_of_neg hc, List.append_nil]
  obtain ⟨c, more, hdigits⟩ := List.exists_cons_of_ne_nil n.writes.nonempty
  rw [digitRun, hspan, hdigits]

/-- A point and a numeral are read in front of what is no digit. -/
theorem Numeral.pointAndDigits_append (n : Numeral) {rest : List Char}
    (hrest : ∀ c, rest.head? = some c → isDecimal c = false) :
    pointAndDigits ('.' :: (n.digits ++ rest)) = some (n.digits, rest) :=
  n.digitRun_append hrest

/-- The digits of a numeral are read as its value. -/
theorem Numeral.numberOfDigits_eq (n : Numeral) : numberOfDigits n.digits = .ok n.value := by
  have hread := n.lineNumber_eq
  rw [lineNumber] at hread
  rw [numberOfDigits, hread]
  rfl

namespace VersionText

variable (t : VersionText)

/-- The characters of a version text. -/
def chars : List Char :=
  (if t.lettered then ['v'] else [])
    ++ (t.major.digits ++ '.' :: (t.minor.digits ++ '.' :: (t.patch.digits ++ t.suffix)))

/-- The version that a text starts with. -/
def version : Version := ⟨t.major.value, t.minor.value, t.patch.value⟩

/-- The letter in front of a version is left out. -/
theorem dropLetter_chars :
    dropLetter 'v' t.chars
      = t.major.digits ++ '.' :: (t.minor.digits ++ '.' :: (t.patch.digits ++ t.suffix)) := by
  obtain ⟨c, more, hdigits⟩ := List.exists_cons_of_ne_nil t.major.writes.nonempty
  have hc : c ≠ 'v' := by
    rintro rfl
    have hletter := t.major.writes.decimal 'v' (by rw [hdigits]; exact List.mem_cons_self)
    exact absurd hletter (by decide)
  rw [chars]
  cases t.lettered with
  | true => rfl
  | false => simp [hdigits, dropLetter, hc]

/-- The three numerals of a version text are found. -/
theorem versionParts_chars :
    versionParts t.chars = some (t.major.digits, t.minor.digits, t.patch.digits) := by
  have hpoint : ∀ {rest : List Char}, ∀ c, ('.' :: rest).head? = some c → isDecimal c = false := by
    rintro rest _ ⟨⟩
    decide
  rw [versionParts, dropLetter_chars, t.major.digitRun_append hpoint]
  simp only [Option.bind_eq_bind, Option.bind_some]
  rw [t.minor.pointAndDigits_append hpoint]
  simp only [Option.bind_some]
  rw [t.patch.pointAndDigits_append t.ended]
  rfl

/-- A version text tells the numbers that its numerals write. -/
theorem readVersion_chars : readVersion t.chars = .ok (some t.version) := by
  rw [readVersion, versionParts_chars]
  simp only [Numeral.numberOfDigits_eq]
  rfl

end VersionText

/-- The output is a document in which the client names its version. -/
def NamesVersion (nesting : Nat) (output text : String) : Prop :=
  ∃ members client, Json.read output.toList nesting = .ok (.object members)
    ∧ Json.lookup? "clientVersion" members = some (.object client)
    ∧ Json.lookup? "gitVersion" client = some (.string text)

/-- A document that names a version is read as the text of that version. -/
theorem NamesVersion.parseClientVersion_eq {nesting : Nat} {output text : String}
    (h : NamesVersion nesting output text) :
    parseClientVersion output nesting = readVersion text.toList := by
  obtain ⟨members, client, hread, hclient, hversion⟩ := h
  rw [parseClientVersion, hread]
  simp only [versionOfDocument, versionMember, hclient, Option.getD_some]
  simp only [bind, Except.bind, hversion, Option.getD_some]

/-! ## Main result -/

/-- Whatever kubectl does, and however often downloads were made before, a
    download that returns asks for the version of the client exactly if no
    exchange before it answered that question, and copies with retries exactly
    if the first answer tells a version from 1.23.0 on.  A document that names
    a version tells the numbers that its text starts with. -/
theorem copies_fit_client (s : Settings) (kubectl : Kubectl) :
    (∀ b, AfterDownloads s kubectl b → ∀ d : Download, d.Returns s kubectl b →
      ∃ exchanges, (d.run s kubectl b).2.exchanges = exchanges ++ b.exchanges
        ∧ d.Goes s kubectl b.files b.nesting b.exchanges exchanges)
      ∧ ∀ (t : VersionText) (nesting : Nat) (output : String),
        NamesVersion nesting output (String.ofList t.chars) →
        parseClientVersion output nesting = .ok (some t.version) := by
  constructor
  · intro b hafter d hreturns
    exact (Download.goes_of_returns hafter.informed hreturns).2
  · intro t nesting output hnames
    rw [hnames.parseClientVersion_eq, String.toList_ofList]
    exact t.readVersion_chars

/-- A client that cannot be asked at first, and then answers. -/
def lateClient : Kubectl := fun exchanges _ =>
  if exchanges.isEmpty then .transportError "kubectl timed out after 5s"
  else .exited { stdout := retryingVersion }

/-- A download to a path that can be resolved. -/
def lateDownload : Download := ⟨"n", "web", "/tmp/web.cap"⟩

/-- The version text of a client that retries copies. -/
def retryingText : VersionText where
  lettered := true
  major := ⟨['1'], 1, writes_digitChar (by decide : 1 < 10), by decide⟩
  minor := ⟨['2', '3'], 23,
    (writes_digitChar (by decide : 2 < 10)).snoc (by decide : digitValue? '3' = some 3), by decide⟩
  patch := ⟨['0'], 0, writes_digitChar (by decide : 0 < 10), by decide⟩
  suffix := []
  ended := by simp

/-- The printed document names its version. -/
theorem namesVersion_retryingVersion :
    NamesVersion freshBench.nesting retryingVersion (String.ofList retryingText.chars) :=
  ⟨[("clientVersion", .object [("gitVersion", .string "v1.23.0")])],
    [("gitVersion", .string "v1.23.0")], rfl, rfl, rfl⟩

/-- What the first download leaves behind. -/
def behindFirst : Bench := (lateDownload.run {} lateClient freshBench).2

/-- The second download asks again, because nobody answered the first one, and
    copies with retries. -/
theorem copies_fit_late_client :
    ((lateDownload.run {} lateClient behindFirst).2.calls
        = [clientVersion, lateDownload.copy {} ["web.cap", "tmp"] "--request-timeout=10m",
          clientVersion, lateDownload.copy {} ["web.cap", "tmp"] "--retries=99"])
      ∧ (∃ exchanges, (lateDownload.run {} lateClient behindFirst).2.exchanges
          = exchanges ++ behindFirst.exchanges
        ∧ lateDownload.Goes {} lateClient behindFirst.files behindFirst.nesting
          behindFirst.exchanges exchanges)
      ∧ parseClientVersion retryingVersion freshBench.nesting = .ok (some ⟨1, 23, 0⟩) := by
  have hfirst : AfterDownloads {} lateClient behindFirst :=
    .downloaded (.fresh _ _) _ ⟨_, rfl⟩
  exact ⟨rfl, (copies_fit_client {} lateClient).1 _ hfirst lateDownload ⟨_, rfl⟩,
    (copies_fit_client {} lateClient).2 retryingText freshBench.nesting retryingVersion
      namesVersion_retryingVersion⟩

end NodeCapture
