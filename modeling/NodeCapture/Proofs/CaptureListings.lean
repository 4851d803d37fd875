import Mathlib.Data.List.Forall2
import Mathlib.Data.List.ReduceOption
import NodeCapture.Proofs.Decimals
import NodeCapture.Proofs.Lines
import NodeCapture.Proofs.Listings
import NodeCapture.Proofs.ShellWords

/-! # Captures in listings

    A capture is started by a command with its file in it, and is found again
    by that file: in the arguments of its process, and in the path of the file
    itself.  Here the listings are written down from what was started, and the
    readers give back exactly that.

    Nothing else in the arguments can be taken for the file, because a path
    begins with a slash: of the words in front of `-w` only the interface may
    end like that option, and the option itself follows it. -/

namespace NodeCapture

/-! ## Finding a file in a text -/

/-- A text is taken apart where it starts with another one, and nowhere else. -/
theorem afterStart?_eq_some_iff {start text rest : List Char} :
    afterStart? start text = some rest ↔ text = start ++ rest := by
  induction start generalizing text with
  | nil => simp [afterStart?]
  | cons c start ih =>
      cases text with
      | nil => simp [afterStart?]
      | cons d text =>
          by_cases hc : c = d
          · subst hc
            simp [afterStart?, ih]
          · simp [afterStart?, hc, Ne.symm hc]

/-- A word names a capture if a name stands in front of the ending. -/
theorem captureOfWord?_eq_some_iff {word name : List Char} :
    captureOfWord? word = some name ↔ name ≠ [] ∧ word = name ++ captureEnding := by
  rw [captureOfWord?]
  constructor
  · intro h
    split at h
    · next c front hafter =>
        cases h
        refine ⟨by simp, ?_⟩
        rw [afterStart?_eq_some_iff] at hafter
        rw [← List.reverse_inj, hafter, List.reverse_append, List.reverse_reverse]
    · cases h
  · rintro ⟨hne, rfl⟩
    obtain ⟨c, front, hfront⟩ := List.exists_cons_of_ne_nil (mt List.reverse_eq_nil_iff.mp hne)
    rw [List.reverse_append, afterStart?_eq_some_iff.mpr rfl, hfront]
    dsimp only
    rw [← hfront, List.reverse_reverse]

/-- At the head of a text, the capture is the word between the start and the
    ending, where a blank or the end follows. -/
theorem captureAt?_eq_some_iff {start text name : List Char} :
    captureAt? start text = some name ↔ name ≠ [] ∧ IsSolid name
      ∧ ∃ behind, text = start ++ (name ++ captureEnding ++ behind)
        ∧ ∀ c, behind.head? = some c → isBlank c = true := by
  rw [captureAt?]
  constructor
  · intro h
    split at h
    · next rest hafter =>
        rw [afterStart?_eq_some_iff] at hafter
        obtain ⟨hne, hword⟩ := captureOfWord?_eq_some_iff.mp h
        have hsolid : IsSolid (rest.takeWhile (fun c => !isBlank c)) := by
          intro c hc
          simpa using List.mem_takeWhile_imp hc
        rw [hword] at hsolid
        refine ⟨hne, fun c hc => hsolid c (List.mem_append_left _ hc),
          rest.dropWhile (fun c => !isBlank c), ?_, ?_⟩
        · rw [← hword, List.takeWhile_append_dropWhile, hafter]
        · intro c hc
          simpa using not_of_head?_dropWhile hc
    · cases h
  · rintro ⟨hne, hname, behind, rfl, hbehind⟩
    have hword : IsSolid (name ++ captureEnding) := hname.append (by decide)
    rw [afterStart?_eq_some_iff.mpr rfl]
    dsimp only
    rw [(hword.takeWhile_dropWhile hbehind).1]
    exact captureOfWord?_eq_some_iff.mpr ⟨hne, rfl⟩

/-- A file behind its start is found there, where a blank or the end follows. -/
theorem findCapture?_of_file {start name : List Char} (hne : name ≠ []) (hname : IsSolid name)
    {rest : List Char} (hrest : ∀ c, rest.head? = some c → isBlank c = true) :
    findCapture? start (start ++ (name ++ captureEnding ++ rest)) = some name := by
  have hat : captureAt? start (start ++ (name ++ captureEnding ++ rest)) = some name :=
    captureAt?_eq_some_iff.mpr ⟨hne, hname, rest, rfl, hrest⟩
  cases htext : start ++ (name ++ captureEnding ++ rest) with
  | nil => simp [captureEnding] at htext
  | cons c text =>
      rw [htext] at hat
      rw [findCapture?, hat]

/-- Where the start is not at the head of a text, the file is found behind. -/
theorem findCapture?_cons {start : List Char} {c : Char} {text : List Char}
    (h : ¬start <+: c :: text) : findCapture? start (c :: text) = findCapture? start text := by
  have hnone : captureAt? start (c :: text) = none := by
    rw [captureAt?]
    cases hafter : afterStart? start (c :: text) with
    | none => rfl
    | some rest => exact absurd ⟨rest, (afterStart?_eq_some_iff.mp hafter).symm⟩ h
  rw [findCapture?, hnone]

/-- The option for the file, and what every path of a file begins with. -/
def fileStart (s : Settings) : List Char := ("-w " ++ s.basePath).toList

variable {s : Settings}

/-- A word is passed over, unless it ends like the option and a path follows. -/
theorem findCapture?_word (hroot : s.basePath.toList.head? = some '/') {word rest : List Char}
    (hword : IsSolid word) (hrest : "-w".toList <:+ word → rest.head? ≠ some '/') :
    findCapture? (fileStart s) (word ++ ' ' :: rest) = findCapture? (fileStart s) rest := by
  obtain ⟨base, hbase⟩ : ∃ base, s.basePath.toList = '/' :: base := List.head?_eq_some_iff.mp hroot
  have hstart : fileStart s = '-' :: 'w' :: ' ' :: '/' :: base := by
    rw [fileStart, String.toList_append, hbase]
    rfl
  induction word with
  | nil =>
      refine findCapture?_cons ?_
      rw [hstart]
      simp
  | cons c word ih =>
      have hrest' : "-w".toList <:+ word → rest.head? ≠ some '/' :=
        fun h => hrest (h.trans (List.suffix_cons c word))
      have hsolid : IsSolid word := fun d hd => hword d (List.mem_cons_of_mem _ hd)
      rw [List.cons_append, findCapture?_cons, ih hsolid hrest']
      rw [hstart]
      rintro ⟨tail, htail⟩
      -- the option would have to end where the word does
      match word, htail with
      | [], htail => simp at htail
      | [d], htail =>
          simp only [List.cons_append, List.nil_append, List.cons.injEq, true_and] at htail
          obtain ⟨rfl, rfl, rfl⟩ := htail
          exact hrest (List.suffix_refl _) rfl
      | d :: e :: more, htail =>
          simp only [List.cons_append, List.cons.injEq] at htail
          obtain ⟨-, -, rfl, -⟩ := htail
          exact absurd (hsolid ' ' (by simp)) (by decide)

/-- Words with a space behind each. -/
def spaced (words : List (List Char)) : List Char := words.flatMap (fun word => word ++ [' '])

/-- Behind the words of a line comes the last one. -/
theorem intercalate_append_singleton (words : List (List Char)) (last : List Char) :
    [' '].intercalate (words ++ [last]) = spaced words ++ last := by
  induction words with
  | nil => rw [List.nil_append, List.intercalate_singleton]; rfl
  | cons word words ih =>
      cases words with
      | nil => simp [spaced]
      | cons next more =>
          rw [List.cons_append, List.cons_append, List.intercalate_cons_cons,
            ← List.cons_append, ih]
          simp [spaced]

/-- Words that do not end like the option are passed over. -/
theorem findCapture?_spaced (hroot : s.basePath.toList.head? = some '/')
    {words : List (List Char)} (h : ∀ word ∈ words, IsSolid word ∧ ¬"-w".toList <:+ word)
    (rest : List Char) :
    findCapture? (fileStart s) (spaced words ++ rest) = findCapture? (fileStart s) rest := by
  induction words with
  | nil => rfl
  | cons word words ih =>
      obtain ⟨hsolid, hend⟩ := h word List.mem_cons_self
      have hcons : spaced (word :: words) ++ rest = word ++ ' ' :: (spaced words ++ rest) := by
        simp [spaced]
      rw [hcons, findCapture?_word hroot hsolid (fun h' => absurd h' hend),
        ih (fun w hw => h w (List.mem_cons_of_mem _ hw))]

/-! ## Records of lines -/

/-- A line is read as a record, or as none; an empty one is left out. -/
def ReadsAs {α ε : Type} (read : List Char → Except ε (Option α)) (line : List Char)
    (found : Option α) : Prop :=
  (strip line = [] ∧ found = none) ∨ (strip line ≠ [] ∧ read (strip line) = .ok found)

/-- Lines that are read each are read together. -/
theorem readRecords_heldLines {α ε : Type} {read : List Char → Except ε (Option α)}
    {lines : List (List Char)} {found : List (Option α)}
    (h : List.Forall₂ (ReadsAs read) lines found) :
    readRecords read (heldLines lines) = .ok found.reduceOption := by
  induction h with
  | nil => rfl
  | @cons line a lines found hline _ ih =>
      rw [heldLines_cons, heldLines, List.map_singleton]
      rcases hline with ⟨hempty, rfl⟩ | ⟨hne, hread⟩
      · rw [hempty]
        exact ih
      · rw [List.filter_cons_of_pos (by simpa using hne), List.filter_nil, List.singleton_append,
          readRecords, hread]
        cases a with
        | none => exact ih
        | some a =>
            dsimp only
            rw [ih]
            rfl

/-! ## Processes -/

/-- A capture that was started, and the number that its process was given. -/
structure StartedCapture where
  pid : Numeral
  capture : String
  interface : Option String := none
  filter : Option String := none
  named : isCaptureName capture = true
  solid : ∀ name, interface = some name → IsSolid name.toList

namespace StartedCapture

variable (p : StartedCapture)

/-- What a reader of the listing should find. -/
def process : CaptureProcess := ⟨p.pid.value, p.capture⟩

/-- The arguments of the process: the words of its command, joined by spaces. -/
def arguments (s : Settings) : List Char :=
  [' '].intercalate
    ((shellWords? (tcpdumpCommand s p.capture p.interface p.filter).toList).getD [])

/-- A line shows the process in columns. -/
def ShownAs (s : Settings) (line : List Char) : Prop :=
  ∃ behind, IsBlankText behind
    ∧ InColumns line p.pid.digits "tcpdump".toList (p.arguments s ++ behind)

end StartedCapture

/-- A line shows no process of these settings: its second column is another
    program, or the arguments are not those of a capture. -/
def Unrelated (s : Settings) (line : List Char) : Prop :=
  ∀ first args, InColumns line first "tcpdump".toList args → ¬s.tcpdumpBase.toList <+: args

/-- What a line of the listing of processes shows. -/
def ShowsEntry (s : Settings) (line : List Char) : Option StartedCapture → Prop
  | some p => p.ShownAs s line
  | none => Unrelated s line

/-- The words of the command that every capture is started with. -/
def baseWords : List (List Char) := ["tcpdump".toList, "--snapshot-length=0".toList, "-vvv".toList]

/-- The name of a capture is not empty and has no blanks. -/
theorem isSolid_of_isCaptureName {name : String} (h : isCaptureName name = true) :
    name.toList ≠ [] ∧ IsSolid name.toList := by
  rw [isCaptureName, Bool.and_eq_true, List.all_eq_true] at h
  refine ⟨?_, ?_⟩
  · intro hempty
    rw [String.toList_eq_nil_iff.mp hempty] at h
    exact absurd h.1 (by decide)
  · intro c hc
    have hname := h.2 c hc
    have hblanks : ∀ n ∈ blankCodes, isCaptureNameChar (Char.ofNat n) = false := by decide
    rw [Bool.eq_false_iff]
    intro hblank
    have hcode := hblanks _ (mem_blankCodes hblank)
    rw [Char.ofNat_toNat] at hcode
    rw [hname] at hcode
    cases hcode

/-- The characters of the path of a capture. -/
theorem filePath_toList (s : Settings) (capture : String) :
    (s.filePath capture).toList = s.basePath.toList ++ (capture.toList ++ captureEnding) := by
  rw [Settings.filePath, String.toList_append, String.toList_append, List.append_assoc]
  rfl

/-- In the arguments the path stands behind its option, and only the filter
    behind the path. -/
theorem StartedCapture.arguments_eq (p : StartedCapture)
    (hbase : s.tcpdumpBase = Settings.defaults.tcpdumpBase) :
    ∃ interface tail,
      interface = (nonEmpty p.interface).toList.flatMap (fun name => ["-i".toList, name.toList])
      ∧ (∀ c, tail.head? = some c → isBlank c = true)
      ∧ p.arguments s = spaced (baseWords ++ interface ++ ["-w".toList])
          ++ ((s.filePath p.capture).toList ++ tail) := by
  have hwords : shellWords? s.tcpdumpBase.toList = some baseWords := by
    rw [hbase]
    decide
  refine ⟨_, (nonEmpty p.filter).elim [] (fun text => ' ' :: text.toList), rfl, ?_, ?_⟩
  · cases nonEmpty p.filter with
    | none => rintro c ⟨⟩
    | some text =>
        rintro c ⟨⟩
        decide
  · rw [arguments, shellWords?_tcpdumpCommand hwords, Option.getD_some, captureWords]
    generalize (nonEmpty p.interface).toList.flatMap _ = interface
    cases nonEmpty p.filter with
    | none =>
        have hjoin := intercalate_append_singleton (baseWords ++ interface ++ ["-w".toList])
          (s.filePath p.capture).toList
        simpa [List.append_assoc] using hjoin
    | some text =>
        have hjoin := intercalate_append_singleton
          (baseWords ++ interface ++ ["-w".toList, (s.filePath p.capture).toList]) text.toList
        simpa [List.append_assoc, spaced] using hjoin

/-- A text that is there and not empty is there. -/
theorem eq_some_of_nonEmpty {text : Option String} {name : String} (h : nonEmpty text = some name) :
    text = some name := by
  cases text with
  | none => cases h
  | some text =>
      rw [nonEmpty] at h
      split at h
      · cases h
      · exact h

/-- The words in front of the option are passed over, also an interface that
    ends like the option: it is not a path that follows. -/
theorem StartedCapture.findCapture?_interface (p : StartedCapture)
    (hroot : s.basePath.toList.head? = some '/') {interface : List (List Char)}
    (hinterface : interface
      = (nonEmpty p.interface).toList.flatMap (fun name => ["-i".toList, name.toList]))
    (rest : List Char) :
    findCapture? (fileStart s) (spaced (baseWords ++ interface) ++ (fileStart s ++ rest))
      = findCapture? (fileStart s) (fileStart s ++ rest) := by
  subst hinterface
  cases hgiven : nonEmpty p.interface with
  | none => exact findCapture?_spaced hroot (by decide) _
  | some name =>
      have hwords : spaced (baseWords ++ (some name).toList.flatMap
            (fun name => ["-i".toList, name.toList])) ++ (fileStart s ++ rest)
          = spaced (baseWords ++ ["-i".toList])
            ++ (name.toList ++ ' ' :: (fileStart s ++ rest)) := by
        simp [spaced]
      rw [hwords, findCapture?_spaced hroot (by decide),
        findCapture?_word hroot (p.solid name (eq_some_of_nonEmpty hgiven))]
      intro _
      rw [fileStart, String.toList_append]
      simp

/-- The file of a started capture is found in its arguments. -/
theorem StartedCapture.findCapture?_eq (p : StartedCapture)
    (hroot : s.basePath.toList.head? = some '/') {interface : List (List Char)}
    (hinterface : interface
      = (nonEmpty p.interface).toList.flatMap (fun name => ["-i".toList, name.toList]))
    {rest : List Char} (hrest : ∀ c, rest.head? = some c → isBlank c = true) :
    findCapture? (fileStart s) (spaced (baseWords ++ interface ++ ["-w".toList])
      ++ ((s.filePath p.capture).toList ++ rest)) = some p.capture.toList := by
  obtain ⟨hne, hname⟩ := isSolid_of_isCaptureName p.named
  have hfile : spaced ["-w".toList] ++ ((s.filePath p.capture).toList ++ rest)
      = fileStart s ++ (p.capture.toList ++ captureEnding ++ rest) := by
    rw [filePath_toList, fileStart, String.toList_append]
    simp [spaced]
  rw [spaced, List.flatMap_append, List.append_assoc]
  show findCapture? (fileStart s)
    (spaced (baseWords ++ interface) ++ (spaced ["-w".toList] ++ _)) = _
  rw [hfile, p.findCapture?_interface hroot hinterface]
  exact findCapture?_of_file hne hname hrest

/-- A line that shows a started capture is read as it. -/
theorem StartedCapture.readsAs {p : StartedCapture}
    (hbase : s.tcpdumpBase = Settings.defaults.tcpdumpBase)
    (hroot : s.basePath.toList.head? = some '/') {line : List Char} (h : p.ShownAs s line) :
    ReadsAs (readProcess s) line (some p.process) := by
  obtain ⟨behind, hbehind, hcolumns⟩ := h
  obtain ⟨interface, tail, hinterface, htail, hargs⟩ := p.arguments_eq hbase
  generalize hwords : spaced (baseWords ++ interface ++ ["-w".toList]) = words at hargs
  have hlast : (words ++ (s.filePath p.capture).toList).getLast? = some 'p' := by
    rw [filePath_toList]
    simp [captureEnding]
  rw [hargs, ← List.append_assoc] at hcolumns
  obtain ⟨kept, hprefix, hne, hcolumns'⟩ := hcolumns.strip_of_end hbehind hlast (by decide)
  rw [List.append_assoc] at hcolumns'
  -- stripping the line may cut off the end of the filter, but nothing of the path
  have hkept : ∀ c, kept.head? = some c → isBlank c = true := by
    intro c hc
    obtain ⟨more, rfl⟩ := hprefix
    exact htail c (by rw [List.head?_append, hc]; rfl)
  have hread := p.findCapture?_eq hroot hinterface hkept
  rw [hwords] at hread
  generalize (s.filePath p.capture).toList ++ kept = rest at hread hcolumns'
  have hstarts : s.tcpdumpBase.toList.isPrefixOf (words ++ rest) = true := by
    rw [List.isPrefixOf_iff_prefix, ← hwords, hbase]
    exact ⟨_, rfl⟩
  have hcut : splitWords 2 (strip line) = [p.pid.digits, "tcpdump".toList, words ++ rest] := by
    refine hcolumns'.splitWords_eq ?_ ?_
    · rw [← hwords]
      simp [spaced, baseWords]
    · rw [← hwords]
      rintro c ⟨⟩
      decide
  refine Or.inr ⟨hne, ?_⟩
  rw [readProcess, hcut]
  dsimp only
  rw [p.pid.writes.allDigitSymbols, hstarts, beq_self_eq_true, Bool.and_true, Bool.and_true,
    if_pos rfl, show ("-w " ++ s.basePath).toList = fileStart s from rfl, hread]
  dsimp only
  rw [p.pid.lineNumber_eq, Except.map, String.ofList_toList, process]

/-- A line that shows nothing of these settings is left out. -/
theorem readsAs_of_unrelated {line : List Char} (h : Unrelated s line) :
    ReadsAs (readProcess s) line none := by
  by_cases hempty : strip line = []
  · exact Or.inl ⟨hempty, rfl⟩
  · refine Or.inr ⟨hempty, readProcess_of_not_shows ?_⟩
    rintro pid ⟨args, name, hwords, -, hbase, -⟩
    obtain ⟨before, behind, hbefore, -, hline⟩ := eq_append_strip line
    have hcolumns := (inColumns_of_splitWords hwords).pad hbefore behind
    rw [← hline] at hcolumns
    exact h pid _ hcolumns ((List.isPrefixOf_iff_prefix.mp hbase).trans (List.prefix_append _ _))

/-- A line with another program in its second column shows nothing. -/
theorem unrelated_of_program {s : Settings} (hbase : s.tcpdumpBase = Settings.defaults.tcpdumpBase)
    {line : List Char} (h : (splitWords 2 line)[1]? ≠ some "tcpdump".toList) :
    Unrelated s line := by
  rintro first args hcolumns ⟨rest, rfl⟩
  refine h ?_
  rw [hbase] at hcolumns
  rw [hcolumns.splitWords_eq (by simp [Settings.defaults]) ?_]
  · rfl
  · rintro c ⟨⟩
    decide

/-! ## Files -/

/-- A file that is found, with the size that is shown for it. -/
structure FoundFile where
  capture : String
  size : Numeral
  named : isCaptureName capture = true

namespace FoundFile

variable (f : FoundFile)

/-- What a reader of the listing should find. -/
def file : CaptureFile := ⟨f.capture, f.size.value⟩

/-- The line of the file: its path, a tabulator, and its size. -/
def line (s : Settings) : List Char := (s.filePath f.capture).toList ++ '\t' :: f.size.digits

/-- The line of a file is read as it. -/
theorem readsAs (hsolid : IsSolid s.basePath.toList) :
    ReadsAs (readFile s) (f.line s) (some f.file) := by
  obtain ⟨hne, hname⟩ := isSolid_of_isCaptureName f.named
  have hpath : IsSolid (s.filePath f.capture).toList := by
    rw [filePath_toList]
    exact hsolid.append (hname.append (by decide))
  have hsize : IsSolid f.size.digits :=
    fun c hc => isBlank_of_isDigitSymbol (f.size.isDigitSymbol c hc)
  have hpathne : (s.filePath f.capture).toList ≠ [] := by
    rw [filePath_toList]
    simp [hne]
  have hline : f.line s = (s.filePath f.capture).toList ++ ['\t'] ++ f.size.digits := by
    simp [line]
  have hlast := hsize.getLast?_append f.size.writes.nonempty
    ((s.filePath f.capture).toList ++ ['\t'])
  rw [← hline] at hlast
  have hstrip : strip (f.line s) = f.line s := by
    have hlinene : f.line s ≠ [] := by simp [hline]
    obtain ⟨kept, hkept, hstrip⟩ := strip_append_of_ends hlinene
      (hpath.head?_append hpathne _) hlast []
    rw [List.prefix_nil.mp hkept] at hstrip
    rwa [List.append_nil] at hstrip
  have htab : splitTab (f.line s) = ((s.filePath f.capture).toList, f.size.digits) := by
    have hplain : ∀ c ∈ (s.filePath f.capture).toList, (c != '\t') = true := by
      intro c hc
      rw [bne_iff_ne]
      rintro rfl
      exact absurd (hpath _ hc) (by decide)
    rw [splitTab, line, List.takeWhile_append_of_pos hplain, List.dropWhile_append_of_pos hplain]
    simp
  refine Or.inr ⟨by rw [hstrip]; simp [line], ?_⟩
  rw [hstrip, readFile, htab]
  dsimp only
  rw [filePath_toList, List.append_assoc, findCapture?_of_file hne hname (by simp; decide),
    strip_of_allDigitSymbols f.size.writes.allDigitSymbols, f.size.writes.allDigitSymbols]
  dsimp only
  rw [if_pos rfl, f.size.lineNumber_eq, Except.map, String.ofList_toList, file]

end FoundFile

/-! ## Both listings -/

/-- Captures keep their names: the listing of processes gives the number and the
    name of each process as it was started, among any other lines, and the
    listing of files gives the name and the size of each file. -/
theorem listings_give_captures (hbase : s.tcpdumpBase = Settings.defaults.tcpdumpBase)
    (hroot : s.basePath.toList.head? = some '/') (hsolid : IsSolid s.basePath.toList) :
    (∀ (entries : List (Option StartedCapture)) (output : String),
        List.Forall₂ (ShowsEntry s) (splitLines output.toList) entries →
          readProcesses s output = .ok (entries.reduceOption.map StartedCapture.process))
      ∧ ∀ (files : List FoundFile) (output : String),
        splitLines output.toList = files.map (fun f => f.line s) →
          readFiles s output = .ok (files.map FoundFile.file) := by
  refine ⟨?_, ?_⟩
  · intro entries output hshown
    have hreads : List.Forall₂ (ReadsAs (readProcess s)) (splitLines output.toList)
        (entries.map (Option.map StartedCapture.process)) := by
      rw [List.forall₂_map_right_iff]
      refine hshown.imp ?_
      rintro line (_ | p) hline
      · exact readsAs_of_unrelated hline
      · exact StartedCapture.readsAs hbase hroot hline
    rw [readProcesses, recordLines_eq, readRecords_heldLines hreads, List.reduceOption_map]
  · intro files output hlines
    have hreads : List.Forall₂ (ReadsAs (readFile s)) (splitLines output.toList)
        ((files.map FoundFile.file).map some) := by
      rw [hlines, List.map_map, List.forall₂_map_left_iff, List.forall₂_map_right_iff,
        List.forall₂_same]
      exact fun f _ => f.readsAs hsolid
    rw [readFiles, recordLines_eq, readRecords_heldLines hreads]
    simp [List.reduceOption]

/-- A capture with words that look like its option and like a file. -/
def webCapture : StartedCapture where
  pid := .ofNat 7 (by rw [decimalChars]; decide)
  capture := "web.cap"
  interface := some "x-w"
  filter := some "port 80 -w /tmp/capturectl_x.cap"
  named := by decide
  solid := by
    rintro name ⟨⟩
    decide

/-- The file of that capture. -/
def webFile : FoundFile := ⟨"web.cap", .ofNat 4 (by rw [decimalChars]; decide), by decide⟩

/-- A process of a capture beside another process, and the file. -/
theorem listings_give_captures_defaults :
    readProcesses Settings.defaults ("  7 tcpdump  tcpdump --snapshot-length=0 -vvv -i x-w "
        ++ "-w /tmp/capturectl_web.cap.cap port 80 -w /tmp/capturectl_x.cap\n12 sh sh -c tcpdump\n")
      = .ok [⟨7, "web.cap"⟩]
      ∧ readFiles Settings.defaults "/tmp/capturectl_web.cap.cap\t4\n" = .ok [⟨"web.cap", 4⟩] := by
  obtain ⟨hprocesses, hfiles⟩ := @listings_give_captures Settings.defaults rfl (by decide)
    (by decide)
  have hdigits : ∀ n < 10, decimalChars n = [digitChar n] :=
    fun n hn => by rw [decimalChars, if_pos hn]
  have hpid : webCapture.pid.digits = ['7'] := hdigits 7 (by decide)
  have hsize : webFile.size.digits = ['4'] := hdigits 4 (by decide)
  refine ⟨hprocesses [some webCapture, none] _ ?_, hfiles [webFile] _ ?_⟩
  · have hlines : splitLines ("  7 tcpdump  tcpdump --snapshot-length=0 -vvv -i x-w "
        ++ "-w /tmp/capturectl_web.cap.cap port 80 -w /tmp/capturectl_x.cap\n12 sh sh -c tcpdump\n").toList
        = [("  7 tcpdump  tcpdump --snapshot-length=0 -vvv -i x-w "
            ++ "-w /tmp/capturectl_web.cap.cap port 80 -w /tmp/capturectl_x.cap").toList,
          "12 sh sh -c tcpdump".toList] := by decide +kernel
    have hother : Unrelated Settings.defaults "12 sh sh -c tcpdump".toList :=
      unrelated_of_program rfl (by decide)
    rw [hlines]
    refine .cons ⟨[], by decide, ?_, ?_, by decide, by decide, "  ".toList, " ".toList, "  ".toList,
      by decide, by decide, by decide, by decide, by decide, ?_⟩ (.cons hother .nil)
    all_goals rw [hpid]
    · decide
    · decide
    · decide +kernel
  · rw [List.map_singleton, FoundFile.line, hsize]
    decide +kernel

end NodeCapture
