import NodeCapture.Proofs.CaptureListings

/-! # Capture files that are reported

    A line of the listing of files reports the first file whose path its own
    path holds (`finds_findCapture?`, `lineShows_of_readFile`).  The search for
    it is bound neither to the beginning of the path nor to its end:
    `/tmp/old/tmp/capturectl_web.cap` is reported as the file of `web`, and
    `/tmp/capturectl_c0.cap x.cap` as the one of `c0`.

    Such lines are stray, and they are the only exceptions: where there are
    none, and only there, each capture that is reported stems from the line of
    the file that a download of it copies (`reported_files_own_iff`). -/

namespace NodeCapture

section Definitions

variable (s : Settings)

/-- The path of the file of a capture, with a name without blanks. -/
structure IsFilePath (path : List Char) (capture : String) : Prop where
  named : capture ≠ ""
  solid : IsSolid capture.toList
  path_eq : path = (s.filePath capture).toList

/-- A text holds the path of the file of a capture behind a front, and a blank
    or the end follows it. -/
def HoldsFile (text front : List Char) (capture : String) : Prop :=
  ∃ path behind, IsFilePath s path capture ∧ text = front ++ (path ++ behind)
    ∧ ∀ c, behind.head? = some c → isBlank c = true

/-- The first file of which a text holds the path. -/
def FirstFile (text : List Char) (capture : String) : Prop :=
  ∃ front, HoldsFile s text front capture
    ∧ ∀ front' capture', HoldsFile s text front' capture' → front.length ≤ front'.length

/-- A line with digit symbols for a size. -/
def IsSized (line : List Char) : Prop := allDigitSymbols (strip (splitTab line).2) = true

/-- What a line of the listing shows: the first file that its path holds, with
    the size behind the path. -/
inductive LineShows (line : List Char) : Option CaptureFile → Prop where
  | file {capture : String} {size : Int} (first : FirstFile s (splitTab line).1 capture)
      (sized : IsSized line) (size_eq : lineNumber (splitTab line).2 = .ok size) :
      LineShows line (some ⟨capture, size⟩)
  | nothing (h : IsSized line → ∀ front capture, ¬HoldsFile s (splitTab line).1 front capture) :
      LineShows line none

/-- A file is the one that a line lists: its path is the one that a download of
    the capture copies, and its size the one behind it. -/
def Lists (line : List Char) (file : CaptureFile) : Prop :=
  (splitTab line).1 = (s.filePath file.name).toList
    ∧ lineNumber (splitTab line).2 = .ok file.sizeKb

/-- A line with a size and with a path that holds the path of a file, but is not
    the path of a file itself. -/
def IsStray (line : List Char) : Prop :=
  IsSized line ∧ (∃ front capture, HoldsFile s (splitTab line).1 front capture)
    ∧ ∀ capture, ¬IsFilePath s (splitTab line).1 capture

end Definitions

variable {s : Settings}

/-! ## The search -/

/-- A capture is found at the head of a text if its file is held there. -/
theorem captureAt?_eq_some_iff_holdsFile {text name : List Char} :
    captureAt? s.basePath.toList text = some name ↔ HoldsFile s text [] (String.ofList name) := by
  have hpath : (s.filePath (String.ofList name)).toList
      = s.basePath.toList ++ (name ++ captureEnding) := by
    rw [filePath_toList, String.toList_ofList]
  have hne : String.ofList name ≠ "" ↔ name ≠ [] := by
    rw [Ne, String.ofList_eq_empty_iff]
  rw [captureAt?_eq_some_iff]
  constructor
  · rintro ⟨hname, hsolid, behind, htext, hbehind⟩
    refine ⟨_, behind, ⟨hne.mpr hname, by rwa [String.toList_ofList], rfl⟩, ?_, hbehind⟩
    simp only [htext, hpath, List.nil_append, List.append_assoc]
  · rintro ⟨path, behind, ⟨hname, hsolid, hfile⟩, htext, hbehind⟩
    rw [String.toList_ofList] at hsolid
    refine ⟨hne.mp hname, hsolid, behind, ?_, hbehind⟩
    rw [htext, hfile, hpath, List.nil_append, List.append_assoc]

/-- A place behind the head of a text is a place in the rest. -/
theorem holdsFile_cons {c : Char} {text front : List Char} {capture : String} :
    HoldsFile s (c :: text) (c :: front) capture ↔ HoldsFile s text front capture := by
  simp [HoldsFile]

/-- A place in a text is at its head, or behind that. -/
theorem HoldsFile.cases_cons {c : Char} {text front : List Char} {capture : String}
    (h : HoldsFile s (c :: text) front capture) :
    front = [] ∨ ∃ front', front = c :: front' ∧ HoldsFile s text front' capture := by
  cases front with
  | nil => exact Or.inl rfl
  | cons d front' =>
      obtain ⟨path, behind, hpath, htext, hbehind⟩ := h
      obtain ⟨rfl, hrest⟩ := List.cons.inj htext
      exact Or.inr ⟨front', rfl, path, behind, hpath, hrest, hbehind⟩

/-- The empty text holds no file. -/
theorem not_holdsFile_nil {front : List Char} {capture : String} :
    ¬HoldsFile s [] front capture := by
  rintro ⟨path, behind, hpath, htext, -⟩
  rw [hpath.path_eq, filePath_toList] at htext
  simp [captureEnding] at htext

/-- What there is to be found in a text. -/
def Finds (s : Settings) (text : List Char) : Option (List Char) → Prop
  | some name => FirstFile s text (String.ofList name)
  | none => ∀ front capture, ¬HoldsFile s text front capture

/-- The search finds the first file of which a text holds the path, and nothing
    only where there is nothing. -/
theorem finds_findCapture? (s : Settings) (text : List Char) :
    Finds s text (findCapture? s.basePath.toList text) := by
  induction text with
  | nil =>
      cases hat : captureAt? s.basePath.toList [] with
      | some name =>
          -- no file begins at the head, so that the first one is that of the rest
          have hhead := captureAt?_eq_some_iff_holdsFile.mp hat
          exact (not_holdsFile_nil hhead).elim
      | none =>
          rw [findCapture?, hat]
          exact fun _ _ => not_holdsFile_nil
  | cons c text ih =>
      rw [findCapture?]
      cases hat : captureAt? s.basePath.toList (c :: text) with
      | some name =>
          exact ⟨[], captureAt?_eq_some_iff_holdsFile.mp hat, fun _ _ _ => Nat.zero_le _⟩
      | none =>
          have hhead : ∀ capture, ¬HoldsFile s (c :: text) [] capture := by
            intro capture h
            rw [← capture.ofList_toList, ← captureAt?_eq_some_iff_holdsFile, hat] at h
            cases h
          dsimp only
          cases hfound : findCapture? s.basePath.toList text with
          | some name =>
              rw [hfound] at ih
              obtain ⟨front, hfront, hfirst⟩ := ih
              refine ⟨c :: front, holdsFile_cons.mpr hfront, fun front' capture' h => ?_⟩
              rcases h.cases_cons with rfl | ⟨front'', rfl, h'⟩
              · exact absurd h (hhead capture')
              · exact Nat.succ_le_succ (hfirst _ _ h')
          | none =>
              rw [hfound] at ih
              intro front capture h
              rcases h.cases_cons with rfl | ⟨front', rfl, h'⟩
              · exact hhead capture h
              · exact ih front' capture h'

/-- A blank behind a text makes no difference, as no path ends with one. -/
theorem holdsFile_append_space {text front : List Char} {capture : String} :
    HoldsFile s (text ++ [' ']) front capture ↔ HoldsFile s text front capture := by
  constructor
  · rintro ⟨path, behind, hpath, htext, hbehind⟩
    rcases List.eq_nil_or_concat behind with rfl | ⟨behind', c, rfl⟩
    · have hlast := congrArg List.getLast? htext
      rw [hpath.path_eq, filePath_toList] at hlast
      simp [captureEnding] at hlast
    · rw [List.concat_eq_append, ← List.append_assoc, ← List.append_assoc] at htext
      obtain ⟨htext, -⟩ := List.append_inj' htext rfl
      refine ⟨path, behind', hpath, by rw [htext, List.append_assoc], ?_⟩
      intro d hd
      refine hbehind d ?_
      rw [List.concat_eq_append, List.head?_append, hd]
      rfl
  · rintro ⟨path, behind, hpath, rfl, hbehind⟩
    refine ⟨path, behind ++ [' '], hpath, by simp, ?_⟩
    cases behind with
    | nil =>
        rintro c ⟨⟩
        rfl
    | cons c behind => exact hbehind

/-! ## Lines -/

/-- What is read of a line is what it shows. -/
theorem lineShows_of_readFile {line : List Char} {found : Option CaptureFile}
    (h : readFile s line = .ok found) : LineShows s line found := by
  have hfinds := finds_findCapture? s ((splitTab line).1 ++ [' '])
  rw [readFile] at h
  dsimp only at h
  split at h
  · next name hname =>
      rw [hname] at hfinds
      obtain ⟨front, hfront, hfirst⟩ := hfinds
      rw [holdsFile_append_space] at hfront
      split at h
      · next hsized =>
          cases hsize : lineNumber (splitTab line).2 with
          | error e =>
              rw [hsize] at h
              cases h
          | ok size =>
              rw [hsize] at h
              cases h
              exact .file ⟨front, hfront, fun front' capture' h' =>
                hfirst front' capture' (holdsFile_append_space.mpr h')⟩ hsized hsize
      · next hsized =>
          cases h
          exact .nothing fun hsized' => absurd hsized' hsized
  · next hnone =>
      rw [hnone] at hfinds
      cases h
      exact .nothing fun _ front capture h' => hfinds front capture (holdsFile_append_space.mpr h')

/-- Lines that are read together are read each. -/
theorem forall₂_of_readRecords {α ε : Type} {read : List Char → Except ε (Option α)}
    {lines : List (List Char)} {records : List α} (h : readRecords read lines = .ok records) :
    ∃ found : List (Option α), found.reduceOption = records
      ∧ List.Forall₂ (fun line a => read line = .ok a) lines found := by
  induction lines generalizing records with
  | nil =>
      cases h
      exact ⟨[], rfl, .nil⟩
  | cons line lines ih =>
      rw [readRecords] at h
      split at h
      · cases h
      · next hline =>
          obtain ⟨found, hfound, hread⟩ := ih h
          exact ⟨none :: found, hfound, .cons hline hread⟩
      · next a hline =>
          cases hrest : readRecords read lines with
          | error e =>
              rw [hrest] at h
              cases h
          | ok more =>
              rw [hrest] at h
              cases h
              obtain ⟨found, rfl, hread⟩ := ih hrest
              exact ⟨some a :: found, rfl, .cons hline hread⟩

/-- Where a text is the path of a file, that file is the first one in it. -/
theorem FirstFile.eq_of_isFilePath {path : List Char} {capture capture' : String}
    (first : FirstFile s path capture) (h : IsFilePath s path capture') : capture = capture' := by
  have hself : HoldsFile s path [] capture' := ⟨path, [], h, by simp, nofun⟩
  obtain ⟨front, ⟨held, behind, hheld, htext, hbehind⟩, hfirst⟩ := first
  obtain rfl := List.length_eq_zero_iff.mp (Nat.le_zero.mp (hfirst _ _ hself))
  rw [h.path_eq, hheld.path_eq, filePath_toList, filePath_toList, List.nil_append,
    List.append_assoc] at htext
  have hword := List.append_cancel_left htext
  -- the name and the ending have no blank, and so nothing follows them
  have hsolid : IsSolid (capture'.toList ++ captureEnding) := h.solid.append (by decide)
  have hempty : behind = [] := by
    cases behind with
    | nil => rfl
    | cons c behind =>
        have hc := hsolid c (by rw [hword]; simp)
        rw [hbehind c rfl] at hc
        cases hc
  rw [hempty, List.append_nil] at hword
  exact (String.toList_injective (List.append_cancel_right hword)).symm

/-- What a line shows is the file that it lists, unless it is a stray one. -/
theorem LineShows.lists_iff {line : List Char} {found : Option CaptureFile}
    (h : LineShows s line found) : (∀ file ∈ found, Lists s line file) ↔ ¬IsStray s line := by
  cases h with
  | nothing hnone =>
      refine ⟨?_, fun _ => nofun⟩
      rintro - ⟨hsized, ⟨front, capture, hholds⟩, -⟩
      exact hnone hsized front capture hholds
  | @file capture size first hsized hsize =>
      have ⟨front, hholds, _⟩ := first
      constructor
      · rintro hlists ⟨-, -, hother⟩
        obtain ⟨path, behind, hpath, -, -⟩ := hholds
        exact hother capture ⟨hpath.named, hpath.solid, (hlists _ rfl).1⟩
      · rintro hstray file ⟨⟩
        obtain ⟨capture', hpath⟩ : ∃ capture', IsFilePath s (splitTab line).1 capture' := by
          by_contra hother
          exact hstray ⟨hsized, ⟨front, capture, hholds⟩, not_exists.mp hother⟩
        rw [first.eq_of_isFilePath hpath]
        exact ⟨hpath.path_eq, hsize⟩

/-- All that is shown stems from lines of its own if there is no stray line. -/
theorem forall₂_lists_iff {lines : List (List Char)} {shown : List (Option CaptureFile)}
    (h : List.Forall₂ (LineShows s) lines shown) :
    List.Forall₂ (fun line found => ∀ file ∈ found, Lists s line file) lines shown
      ↔ ∀ line ∈ lines, ¬IsStray s line := by
  induction h with
  | nil => simp
  | cons hline _ ih => rw [List.forall₂_cons, List.forall_mem_cons, ih, hline.lists_iff]

/-! ## The listing -/

/-- What is reported is what the lines show, one after another: the first file
    whose path the path of a line holds, and the size behind that path.  All of
    it stems from lines with the paths and the sizes of the reported files
    exactly if there is no stray line. -/
theorem reported_files_own_iff (s : Settings) (output : String) {files : List CaptureFile}
    (h : readFiles s output = .ok files) :
    ∃ shown : List (Option CaptureFile), shown.reduceOption = files
      ∧ List.Forall₂ (LineShows s) (recordLines output.toList) shown
      ∧ (List.Forall₂ (fun line found => ∀ file ∈ found, Lists s line file)
            (recordLines output.toList) shown
          ↔ ∀ line ∈ recordLines output.toList, ¬IsStray s line) := by
  obtain ⟨shown, hshown, hread⟩ := forall₂_of_readRecords h
  have hlines : List.Forall₂ (LineShows s) (recordLines output.toList) shown :=
    hread.imp fun _ _ => lineShows_of_readFile
  exact ⟨shown, hshown, hlines, forall₂_lists_iff hlines⟩

/-- A listing with the file of a capture and with a file of something else. -/
def ownListing : String := "/tmp/capturectl_web.cap\t8\n/tmp/other.cap\t9\n"

/-- That file is reported, and the other one is not. -/
theorem reported_files_own_among_others :
    readFiles {} ownListing = .ok [⟨"web", 8⟩]
      ∧ ∃ shown : List (Option CaptureFile), shown.reduceOption = [⟨"web", 8⟩]
        ∧ List.Forall₂ (fun line found => ∀ file ∈ found, Lists {} line file)
          (recordLines ownListing.toList) shown := by
  have hread : readFiles {} ownListing = .ok [⟨"web", 8⟩] := by decide +kernel
  have hlines : recordLines ownListing.toList
      = ["/tmp/capturectl_web.cap\t8".toList, "/tmp/other.cap\t9".toList] := by
    decide +kernel
  obtain ⟨shown, hshown, -, hown⟩ := reported_files_own_iff {} ownListing hread
  refine ⟨hread, shown, hshown, hown.mpr ?_⟩
  rintro line hline ⟨-, ⟨front, capture, hholds⟩, hother⟩
  rw [hlines] at hline
  rcases List.mem_pair.mp hline with rfl | rfl
  · exact hother "web" ⟨by decide, by decide, by decide +kernel⟩
  · have hfinds := finds_findCapture? {} (splitTab "/tmp/other.cap\t9".toList).1
    rw [show findCapture? _ _ = none by decide +kernel] at hfinds
    exact absurd hholds (hfinds front capture)

/-- Not every file that is reported stems from the line of that file: a path may
    hold the path of a file behind other directories, or with more behind it. -/
theorem not_reported_files_own :
    ¬∀ (s : Settings) (output : String) (files : List CaptureFile),
      readFiles s output = .ok files →
        ∀ file ∈ files, ∃ line ∈ recordLines output.toList, Lists s line file := by
  intro h
  have hread : readFiles {} "/tmp/old/tmp/capturectl_web.cap\t8\n" = .ok [⟨"web", 8⟩] := by
    decide +kernel
  obtain ⟨line, hline, hlists⟩ := h _ _ _ hread _ (List.mem_singleton_self _)
  have hlines : recordLines "/tmp/old/tmp/capturectl_web.cap\t8\n".toList
      = ["/tmp/old/tmp/capturectl_web.cap\t8".toList] := by
    decide +kernel
  rw [hlines, List.mem_singleton] at hline
  subst hline
  exact absurd hlists.1 (by decide +kernel)

end NodeCapture
