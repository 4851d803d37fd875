import NodeCapture.Json.Reader
import NodeCapture.Kubectl.Basic
import NodeCapture.Message
import NodeCapture.Number
import NodeCapture.Text.Basic

/-!
# What commands print

    The listings in the output of commands, and the version that the client tells.
-/

namespace NodeCapture

/-! ## Listings in the output of commands

    Each listing is read line by line, and a line that is not of its form is left out.
    Capture files are told by their paths: the base path, a name without blanks, and the
    ending, after which the path ends or a blank follows. -/

/-- The rest of a text after something that it starts with. -/
def afterStart? : List Char → List Char → Option (List Char)
  | [], text => some text
  | _ :: _, [] => none
  | s :: start, c :: text => if s = c then afterStart? start text else none

/-- The ending of capture files. -/
def captureEnding : List Char := ".cap".toList

/-- The name in a word that ends like a capture file. -/
def captureOfWord? (word : List Char) : Option (List Char) :=
  match afterStart? captureEnding.reverse word.reverse with
  | some (c :: name) => some (c :: name).reverse
  | _ => none

/-- The capture name behind a start at the head of a text: the word there without its
    ending. -/
def captureAt? (start text : List Char) : Option (List Char) :=
  match afterStart? start text with
  | some rest => captureOfWord? (rest.takeWhile (fun c => !isBlank c))
  | none => none

/-- The capture name behind the first place in a text where there is one. -/
def findCapture? (start : List Char) : List Char → Option (List Char)
  | [] => captureAt? start []
  | c :: text =>
    match captureAt? start (c :: text) with
    | some name => some name
    | none => findCapture? start text

/-! ## Running captures -/

/-- A process that writes a capture. -/
structure CaptureProcess where
  pid : Int
  capture : String
  deriving DecidableEq

/-- The number at the head of a line: the text must be of digit symbols, and must be a
    numeral as well. -/
def lineNumber (text : List Char) : Except NumberError Int := readWhole (String.ofList text)

/-- The process of a line with a number, the name of the program and its arguments, if it
    writes a capture. -/
def readProcess (s : Settings) (line : List Char) : Except NumberError (Option CaptureProcess) :=
  match splitWords 2 line with
  | [pid, program, args] =>
    if program == "tcpdump".toList && allDigitSymbols pid
      && s.tcpdumpBase.toList.isPrefixOf args then
      match findCapture? ("-w " ++ s.basePath).toList args with
      | some name => (lineNumber pid).map (fun n => some ⟨n, String.ofList name⟩)
      | none => .ok none
    else .ok none
  | _ => .ok none

/-- Reads each line of a listing and keeps what was found. -/
def readRecords {α ε : Type} (read : List Char → Except ε (Option α)) :
    List (List Char) → Except ε (List α)
  | [] => .ok []
  | line :: lines =>
    match read line with
    | .error e => .error e
    | .ok none => readRecords read lines
    | .ok (some a) => (readRecords read lines).map (a :: ·)

/-- The processes that write captures. -/
def readProcesses (s : Settings) (output : String) : Except NumberError (List CaptureProcess) :=
  readRecords (readProcess s) (recordLines output.toList)

/-! ## Capture files -/

/-- The parts of a line before and after the first tabulator. -/
def splitTab (line : List Char) : List Char × List Char :=
  (line.takeWhile (· != '\t'), (line.dropWhile (· != '\t')).drop 1)

/-- The capture file of a line with a path and a size. -/
def readFile (s : Settings) (line : List Char) : Except NumberError (Option CaptureFile) :=
  let (path, size) := splitTab line
  match findCapture? s.basePath.toList (path ++ [' ']) with
  | some name =>
    if allDigitSymbols (strip size) then
      (lineNumber size).map (fun n => some ⟨String.ofList name, n⟩)
    else .ok none
  | none => .ok none

/-- The capture files. -/
def readFiles (s : Settings) (output : String) : Except NumberError (List CaptureFile) :=
  readRecords (readFile s) (recordLines output.toList)

/-! ## Interfaces and pods -/

/-- The name of the interface in a line with a number, a point, the name, and possibly
    more behind a blank. -/
def readInterface (line : List Char) : Option String :=
  match line.span isDecimal with
  | (_ :: _, '.' :: rest) =>
    match rest.takeWhile (fun c => !isBlank c) with
    | [] => none
    | name => some (String.ofList name)
  | _ => none

/-- The interfaces. -/
def readInterfaces (output : String) : List String :=
  (recordLines output.toList).filterMap readInterface

/-- The pod of a line with its name, its address, and whether it is on the network of the
    node. Pods without an address and pods on the network of the node cannot be told apart
    by their traffic and are left out. -/
def readPod (line : List Char) : Option Pod :=
  match line.splitOn '\t' with
  | name :: address :: more =>
    if address.isEmpty || more.head? == some "true".toList then none
    else some ⟨String.ofList name, String.ofList address⟩
  | _ => none

/-- The pods. -/
def readPods (output : String) : List Pod := (recordLines output.toList).filterMap readPod

/-- The names in a listing of names. -/
def readNames (output : String) : List String := (recordLines output.toList).map String.ofList

/-! ## The version of the kubectl client

    The client prints its version as JSON. A text that is no JSON, or a version that
    does not start with three numbers, tells nothing; a document of another shape is a
    fault. Versions are ordered number by number. -/

/-- A version of three numbers. -/
structure Version where
  major : Nat
  minor : Nat
  patch : Nat
  deriving DecidableEq

namespace Version

/-- The version that stands for an unknown one. -/
def unknown : Version := ⟨0, 0, 0⟩

/-- Whether a version is at least another one: the first number that differs decides. -/
def atLeast (v w : Version) : Bool :=
  if v.major ≠ w.major then w.major < v.major
  else if v.minor ≠ w.minor then w.minor < v.minor
  else w.patch ≤ v.patch

/-- The first version whose copies can be retried. -/
def firstWithRetries : Version := ⟨1, 23, 0⟩

end Version

/-- Why the document of a version cannot be used. -/
inductive VersionFault where
  | noMembers (value : Json)
  | notText (value : Json)
  | number (error : NumberError)
  | nestedTooDeep (inObject : Bool)

/-- The wording of a fault. -/
def VersionFault.message : VersionFault → String
  | noMembers value => "'" ++ value.kindWord ++ "' object has no attribute 'get'"
  | notText value => "expected string or bytes-like object, got '" ++ value.kindWord ++ "'"
  | number error => error.message
  | nestedTooDeep inObject =>
    "maximum recursion depth exceeded while decoding a JSON "
      ++ (if inObject then "object" else "array")
      ++ " from a unicode string"

/-- A run of decimal digits at the head of a text, with a digit at least, and the rest. -/
def digitRun (text : List Char) : Option (List Char × List Char) :=
  match text.span isDecimal with
  | ([], _) => none
  | (digits, rest) => some (digits, rest)

/-- Drops a letter at the head of a text, if it is there. -/
def dropLetter (letter : Char) : List Char → List Char
  | [] => []
  | c :: rest => if c = letter then rest else c :: rest

/-- A point at the head of a text, and the digits behind it. -/
def pointAndDigits : List Char → Option (List Char × List Char)
  | '.' :: rest => digitRun rest
  | _ => none

/-- The three numbers that a version text starts with, after an optional letter v. -/
def versionParts (text : List Char) : Option (List Char × List Char × List Char) := do
  let (major, rest) ← digitRun (dropLetter 'v' text)
  let (minor, rest) ← pointAndDigits rest
  let (patch, _) ← pointAndDigits rest
  return (major, minor, patch)

/-- The number that a run of digits writes. -/
def numberOfDigits (digits : List Char) : Except VersionFault Nat :=
  match readWhole (String.ofList digits) with
  | .ok n => .ok n.toNat
  | .error e => .error (.number e)

/-- Reads a version text; none where it does not start with three numbers. -/
def readVersion (text : List Char) : Except VersionFault (Option Version) :=
  match versionParts text with
  | none => .ok none
  | some (major, minor, patch) => do
    return some ⟨← numberOfDigits major, ← numberOfDigits minor, ← numberOfDigits patch⟩

/-- A member of a value that must be an object, or another value where the member is
    absent. -/
def versionMember (name : String) (default : Json) (value : Json) : Except VersionFault Json :=
  match value with
  | .object members => .ok ((Json.lookup? name members).getD default)
  | other => .error (.noMembers other)

/-- The version in a document. -/
def versionOfDocument (document : Json) : Except VersionFault (Option Version) := do
  let client ← versionMember "clientVersion" (.object []) document
  match ← versionMember "gitVersion" (.string "") client with
  | .string text => readVersion text.toList
  | other => .error (.notText other)

/-- The version in the output of the client, where documents may be nested so deep. -/
def parseClientVersion (output : String) (nesting : Nat := Json.usualNesting) :
    Except VersionFault (Option Version) :=
  match Json.read output.toList nesting with
  | .ok document => versionOfDocument document
  | .error fault =>
    match fault.cause with
    | .nestedTooDeep inObject => .error (.nestedTooDeep inObject)
    | _ => .ok none

end NodeCapture
