import Mathlib.Data.List.TakeDrop
import NodeCapture.Kubectl.Listing
import NodeCapture.Proofs.Numerals

/-! # Which output can be read

    The listings of processes and of capture files, and the version of the
    client, are read from text that a command printed.  For each of them it is
    said here for which text the reader yields a result, in terms of the text
    alone: a listing fails on a line with digit symbols that write no numeral,
    and a version on a document of another shape. -/

namespace NodeCapture

/-- Lines are read exactly if each of them is. -/
theorem readRecords_eq_ok_iff {α ε : Type} {read : List Char → Except ε (Option α)}
    {lines : List (List Char)} :
    (∃ found, readRecords read lines = .ok found)
      ↔ ∀ line ∈ lines, ∃ found, read line = .ok found := by
  induction lines with
  | nil => simp [readRecords]
  | cons line rest ih =>
      rw [List.forall_mem_cons, ← ih]
      cases hline : read line with
      | error e => simp [readRecords, hline]
      | ok found =>
          cases found with
          | none => simp [readRecords, hline]
          | some a =>
              cases hrest : readRecords read rest with
              | ok more => simp [readRecords, hline, hrest, Except.map]
              | error e => simp [readRecords, hline, hrest, Except.map]

/-- Changing a value does not change whether there is one. -/
theorem exists_map_eq_ok_iff {α β ε : Type} {x : Except ε α} {f : α → β} :
    (∃ b, x.map f = .ok b) ↔ ∃ a, x = .ok a := by
  cases x with
  | ok a => simp [Except.map]
  | error e => simp [Except.map]

/-! ## Processes -/

/-- A line shows a process that writes a capture, with a text of digit symbols
    for its number. -/
def ShowsCapture (s : Settings) (line pid : List Char) : Prop :=
  ∃ args name, splitWords 2 line = [pid, "tcpdump".toList, args]
    ∧ allDigitSymbols pid = true
    ∧ s.tcpdumpBase.toList.isPrefixOf args = true
    ∧ findCapture? ("-w " ++ s.basePath).toList args = some name

/-- The numbers of the processes that write captures are numerals. -/
def ProcessesReadable (s : Settings) (output : String) : Prop :=
  ∀ line ∈ recordLines output.toList, ∀ pid, ShowsCapture s line pid → IsNumeral pid

/-- A line that shows a capture is read as its process, if its number can be
    read. -/
theorem readProcess_of_shows {s : Settings} {line pid : List Char} (h : ShowsCapture s line pid) :
    ∃ name, readProcess s line = (lineNumber pid).map (fun n => some ⟨n, String.ofList name⟩) := by
  obtain ⟨args, name, hwords, hpid, hbase, hname⟩ := h
  refine ⟨name, ?_⟩
  rw [readProcess, hwords]
  dsimp only
  rw [hpid, hbase, hname]
  rfl

/-- A line that shows none is passed over. -/
theorem readProcess_of_not_shows {s : Settings} {line : List Char}
    (h : ∀ pid, ¬ShowsCapture s line pid) : readProcess s line = .ok none := by
  rw [readProcess]
  split
  · next pid program args hwords =>
      split
      · next hchecks =>
          simp only [Bool.and_eq_true, beq_iff_eq] at hchecks
          obtain ⟨⟨rfl, hpid⟩, hbase⟩ := hchecks
          split
          · next name hname => exact absurd ⟨args, name, hwords, hpid, hbase, hname⟩ (h pid)
          · rfl
      · rfl
  · rfl

/-- A line is read if the number of the process that it shows is a numeral. -/
theorem readProcess_eq_ok_iff {s : Settings} {line : List Char} :
    (∃ found, readProcess s line = .ok found)
      ↔ ∀ pid, ShowsCapture s line pid → IsNumeral pid := by
  by_cases hshows : ∃ pid, ShowsCapture s line pid
  · obtain ⟨pid, hpid⟩ := hshows
    obtain ⟨name, hread⟩ := readProcess_of_shows hpid
    obtain ⟨args, _, hwords, hsymbols, -, -⟩ := id hpid
    have hnumber : (∃ n, lineNumber pid = .ok n) ↔ IsNumeral pid :=
      readWhole_eq_ok_iff (by rw [strip_of_allDigitSymbols hsymbols]; exact hsymbols)
    rw [hread, exists_map_eq_ok_iff, hnumber]
    constructor
    · -- the words of a line are what they are, so that it shows no other number
      rintro hnumeral pid' ⟨args', _, hwords', -, -, -⟩
      rw [hwords] at hwords'
      rw [← (List.cons.inj hwords').1]
      exact hnumeral
    · intro hall
      exact hall pid hpid
  · have hnot := not_exists.mp hshows
    rw [readProcess_of_not_shows hnot]
    exact ⟨fun _ pid hpid => absurd hpid (hnot pid), fun _ => ⟨none, rfl⟩⟩

/-- Processes are read exactly if each number that is shown is a numeral. -/
theorem readProcesses_eq_ok_iff {s : Settings} {output : String} :
    (∃ found, readProcesses s output = .ok found) ↔ ProcessesReadable s output := by
  rw [readProcesses, readRecords_eq_ok_iff]
  exact forall₂_congr (fun _ _ => readProcess_eq_ok_iff)

/-! ## Capture files -/

/-- A line shows a capture file, with digit symbols and blanks for its size. -/
def ShowsFile (s : Settings) (line size : List Char) : Prop :=
  size = (splitTab line).2
    ∧ allDigitSymbols (strip size) = true
    ∧ ∃ name, findCapture? s.basePath.toList ((splitTab line).1 ++ [' ']) = some name

/-- The sizes of the capture files are numerals. -/
def FilesReadable (s : Settings) (output : String) : Prop :=
  ∀ line ∈ recordLines output.toList, ∀ size, ShowsFile s line size → IsNumeral size

/-- A line that shows a capture file is read as this file, if its size can be
    read. -/
theorem readFile_of_shows {s : Settings} {line size : List Char} (h : ShowsFile s line size) :
    ∃ name, readFile s line = (lineNumber size).map (fun n => some ⟨String.ofList name, n⟩) := by
  obtain ⟨rfl, hsize, name, hname⟩ := h
  exact ⟨name, by simp [readFile, hsize, hname]⟩

/-- A line that shows none is passed over. -/
theorem readFile_of_not_shows {s : Settings} {line : List Char}
    (h : ∀ size, ¬ShowsFile s line size) : readFile s line = .ok none := by
  rw [readFile]
  dsimp only
  split
  · next name hname =>
      split
      · next hsize => exact absurd ⟨rfl, hsize, name, hname⟩ (h _)
      · rfl
  · rfl

/-- A line is read if the size of the file that it shows is a numeral. -/
theorem readFile_eq_ok_iff {s : Settings} {line : List Char} :
    (∃ found, readFile s line = .ok found) ↔ ∀ size, ShowsFile s line size → IsNumeral size := by
  by_cases hshows : ShowsFile s line (splitTab line).2
  · obtain ⟨name, hread⟩ := readFile_of_shows hshows
    rw [hread, exists_map_eq_ok_iff, readWhole_eq_ok_iff hshows.2.1]
    constructor
    · rintro hnumeral size ⟨rfl, -, -⟩
      exact hnumeral
    · intro hall
      exact hall _ hshows
  · have hnot : ∀ size, ¬ShowsFile s line size := by
      rintro size h
      rw [h.1] at h
      exact hshows h
    rw [readFile_of_not_shows hnot]
    exact ⟨fun _ size hsize => absurd hsize (hnot size), fun _ => ⟨none, rfl⟩⟩

/-- Files are read exactly if each size that is shown is a numeral. -/
theorem readFiles_eq_ok_iff {s : Settings} {output : String} :
    (∃ found, readFiles s output = .ok found) ↔ FilesReadable s output := by
  rw [readFiles, readRecords_eq_ok_iff]
  exact forall₂_congr (fun _ _ => readFile_eq_ok_iff)

/-! ## The version of the client -/

/-- The three numbers that a version text starts with are not too long. -/
def VersionTextReadable (text : String) : Prop :=
  ∀ major minor patch, versionParts text.toList = some (major, minor, patch) →
    ∀ part ∈ [major, minor, patch], part.length ≤ numeralDigitLimit

/-- A value is an object whose member of a name, if it has it, has a property. -/
def HasMembers (name : String) (P : Json → Prop) (value : Json) : Prop :=
  ∃ members, value = .object members
    ∧ ∀ member, Json.lookup? name members = some member → P member

/-- A version document has the shape that is expected. -/
def VersionDocument : Json → Prop :=
  HasMembers "clientVersion" (HasMembers "gitVersion" fun value =>
    ∃ text, value = .string text ∧ VersionTextReadable text)

/-- Output that is no JSON tells no version, and is as good as a document; but
    values may not be nested too deep in it. -/
def VersionReadable (nesting : Nat) (output : String) : Prop :=
  match Json.read output.toList nesting with
  | .ok document => VersionDocument document
  | .error fault => ∀ inObject, fault.cause ≠ .nestedTooDeep inObject

/-- A reader that goes on with a member, where the value for an absent member
    is accepted. -/
theorem versionMember_bind_eq_ok_iff {α : Type} {name : String} {default value : Json}
    {next : Json → Except VersionFault α} (hdefault : ∃ a, next default = .ok a) :
    (∃ a, (versionMember name default value >>= next) = .ok a)
      ↔ HasMembers name (fun member => ∃ a, next member = .ok a) value := by
  cases value with
  | object members =>
      have hread : (versionMember name default (.object members) >>= next)
          = next ((Json.lookup? name members).getD default) := rfl
      rw [hread]
      cases hfound : Json.lookup? name members with
      | none =>
          refine ⟨fun _ => ⟨members, rfl, ?_⟩, fun _ => hdefault⟩
          rw [hfound]
          exact fun member hmember => nomatch hmember
      | some member =>
          constructor
          · intro hnext
            refine ⟨members, rfl, ?_⟩
            rw [hfound]
            rintro _ ⟨⟩
            exact hnext
          · rintro ⟨_, ⟨⟩, hall⟩
            exact hall member hfound
  | _ =>
      constructor
      · rintro ⟨_, ⟨⟩⟩
      · rintro ⟨_, ⟨⟩, _⟩

/-- What is asked of a member may be said in other words. -/
theorem HasMembers.congr {name : String} {P Q : Json → Prop} (h : ∀ member, P member ↔ Q member) :
    HasMembers name P = HasMembers name Q := by
  rw [funext fun member => propext (h member)]

/-- A run of digits is a part of the text without an end of its own. -/
theorem digitRun_spec {text digits rest : List Char} (h : digitRun text = some (digits, rest)) :
    digits ≠ [] ∧ ∀ c ∈ digits, isDecimal c = true := by
  rw [digitRun, List.span_eq_takeWhile_dropWhile] at h
  have hall : ∀ c ∈ text.takeWhile isDecimal, isDecimal c = true :=
    List.all_eq_true.mp List.all_takeWhile
  cases htaken : text.takeWhile isDecimal with
  | nil =>
      rw [htaken] at h
      cases h
  | cons c more =>
      rw [htaken] at h hall
      cases h
      exact ⟨List.cons_ne_nil _ _, hall⟩

/-- What stands behind a point is a run of digits. -/
theorem pointAndDigits_spec {text digits rest : List Char}
    (h : pointAndDigits text = some (digits, rest)) :
    digits ≠ [] ∧ ∀ c ∈ digits, isDecimal c = true := by
  rw [pointAndDigits.eq_def] at h
  split at h
  · exact digitRun_spec h
  · cases h

/-- Decimal digits write a number exactly if there are not too many. -/
theorem numberOfDigits_eq_ok_iff {digits : List Char} (hne : digits ≠ [])
    (hdecimal : ∀ c ∈ digits, isDecimal c = true) :
    (∃ n, numberOfDigits digits = .ok n) ↔ digits.length ≤ numeralDigitLimit := by
  have hsymbols : allDigitSymbols digits = true := by
    rw [allDigitSymbols, Bool.and_eq_true, List.all_eq_true]
    refine ⟨by simpa using hne, ?_⟩
    intro c hc
    rw [isDigitSymbol, hdecimal c hc]
    rfl
  have hread : (∃ n, numberOfDigits digits = .ok n) ↔ ∃ n, lineNumber digits = .ok n := by
    rw [numberOfDigits, lineNumber]
    cases readWhole (String.ofList digits) <;> simp
  rw [hread, readWhole_eq_ok_iff (by rw [strip_of_allDigitSymbols hsymbols]; exact hsymbols)]
  have htrim : trim isWhiteSpace digits = digits := by
    refine trim_eq_self fun c hc => isWhiteSpace_of_isDigitSymbol ?_
    rw [isDigitSymbol, hdecimal c hc]
    rfl
  rw [IsNumeral, htrim]
  exact and_iff_right hdecimal

/-- The parts of a version are runs of digits. -/
theorem versionParts_spec {text major minor patch : List Char}
    (h : versionParts text = some (major, minor, patch)) :
    ∀ part ∈ [major, minor, patch], part ≠ [] ∧ ∀ c ∈ part, isDecimal c = true := by
  simp only [versionParts, Option.bind_eq_bind, Option.bind_eq_some_iff, Option.pure_def] at h
  obtain ⟨⟨_, rest⟩, hmajor, ⟨_, rest'⟩, hminor, ⟨_, rest''⟩, hpatch, ⟨⟩⟩ := h
  simp only [List.forall_mem_cons, List.not_mem_nil, false_implies, implies_true, and_true]
  exact ⟨digitRun_spec hmajor, pointAndDigits_spec hminor, pointAndDigits_spec hpatch⟩

/-- A version text is read exactly if its parts are not too long. -/
theorem readVersion_eq_ok_iff {text : String} :
    (∃ v, readVersion text.toList = .ok v) ↔ VersionTextReadable text := by
  rw [VersionTextReadable]
  cases hparts : versionParts text.toList with
  | none => simp [readVersion, hparts]
  | some parts =>
      obtain ⟨major, minor, patch⟩ := parts
      have hspec := versionParts_spec hparts
      -- the parts are read one after another, but which of them fails first is not asked
      have hread : (∃ v, readVersion text.toList = .ok v)
          ↔ ∀ part ∈ [major, minor, patch], ∃ n, numberOfDigits part = .ok n := by
        simp only [readVersion, hparts, List.forall_mem_cons, List.not_mem_nil, false_implies,
          implies_true, and_true]
        cases numberOfDigits major <;> cases numberOfDigits minor <;> cases numberOfDigits patch <;>
          simp [bind, Except.bind, pure, Except.pure]
      rw [hread]
      constructor
      · rintro h _ _ _ ⟨⟩ part hpart
        exact (numberOfDigits_eq_ok_iff (hspec part hpart).1 (hspec part hpart).2).mp (h part hpart)
      · intro h part hpart
        exact (numberOfDigits_eq_ok_iff (hspec part hpart).1 (hspec part hpart).2).mpr
          (h _ _ _ rfl part hpart)

/-- A document is read exactly if it is one of a version. -/
theorem versionOfDocument_eq_ok_iff {document : Json} :
    (∃ v, versionOfDocument document = .ok v) ↔ VersionDocument document := by
  have hempty : ∃ v, readVersion "".toList = .ok v := ⟨none, rfl⟩
  rw [versionOfDocument, VersionDocument, versionMember_bind_eq_ok_iff ⟨none, rfl⟩]
  refine Iff.of_eq (congrFun (HasMembers.congr fun client => ?_) document)
  rw [versionMember_bind_eq_ok_iff hempty]
  refine Iff.of_eq (congrFun (HasMembers.congr fun value => ?_) client)
  cases value with
  | string text => simpa using readVersion_eq_ok_iff
  | _ => simp

/-- An answer is read exactly if it is a document of a version. -/
theorem parseClientVersion_eq_ok_iff {nesting : Nat} {output : String} :
    (∃ v, parseClientVersion output nesting = .ok v) ↔ VersionReadable nesting output := by
  rw [parseClientVersion, VersionReadable]
  cases Json.read output.toList nesting with
  | ok document => exact versionOfDocument_eq_ok_iff
  | error fault =>
      cases hcause : fault.cause with
      | nestedTooDeep inObject => simp [hcause]
      | _ => simp [hcause]

end NodeCapture
