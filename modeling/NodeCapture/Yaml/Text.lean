import NodeCapture.Json.Reader
import NodeCapture.Yaml.Cursor

/-!
# Reading the texts of a YAML document

    A plain text ends where a token could begin, a quoted one at its quote, a block text
    where the indentation ends. A single line break inside a plain or quoted text stands
    for a space, and of several the first does not count. In a block text line breaks
    stay, unless it is a folded one.
-/

namespace NodeCapture

/-- What a reading step yields: a result and where it ends. -/
abbrev YamlRead (α : Type) := Except YamlFault (α × Cursor)

namespace Yaml

/-- A blank in a quoted text. -/
def isBlank (c : Char) : Bool := c == ' ' || c == '\t'

/-- What a number of line breaks inside a text stands for. -/
def foldedBreaks (breaks : Nat) : List Char :=
  if breaks == 1 then [' '] else List.replicate (breaks - 1) '\n'

/-- The characters that mean something inside brackets. -/
def isFlowIndicator (c : Char) : Bool := ",[]\x7b\x7d".toList.contains c

/-- Whether the text behind a colon makes it the end of a key. -/
def endsKey (inFlow : Bool) (rest : List Char) : Bool :=
  endsWord rest || (inFlow && rest.head?.any isFlowIndicator)

/-- The characters of a line, up to a token, that can belong to a plain text. -/
def plainStretch (inFlow : Bool) : List Char → List Char
  | [] => []
  | c :: rest =>
    if isBreak c || c == '\t' || (c == ':' && endsKey inFlow rest)
      || (inFlow && (isFlowIndicator c || c == '?'))
      || (c == ' ' && rest.head? == some '#') then []
    else c :: plainStretch inFlow rest

/-- A text without the spaces at its end. -/
def withoutEndSpaces (text : List Char) : List Char := (text.reverse.dropWhile (· == ' ')).reverse

/-- Whether a plain text can begin at a cursor. -/
def beginsPlain (inFlow : Bool) (text : List Char) : Bool :=
  match text with
  | [] => false
  | c :: rest =>
    if c == '-' then !endsWord rest
    else if c == '?' || c == ':' then !inFlow && !endsWord rest
    else
      !(isSeparator c || Cursor.cannotBegin c || "-?:,[]\x7b\x7d#&*!|>".toList.contains c
         || c == singleQuote
      || c == doubleQuote)

/-- Reads a plain text. Its further lines stand at column `least` or behind it; `fuel`
    bounds their number. -/
def readPlain (inFlow : Bool) (least : Nat) : Nat → Cursor → List Char × Cursor
  | 0, c => ([], c)
  | fuel + 1, c =>
    let stretch := withoutEndSpaces (plainStretch inFlow c.rest)
    let ending := c.skip stretch.length
    if ending.skipSpaces.atBreak then
      let (breaks, next) := ending.skipBreaks (· == ' ')
      if next.ended || next.rest.head? == some '#' || (!inFlow && next.place.column < least)
        || (plainStretch inFlow next.rest).isEmpty then (stretch, ending)
      else
        let (more, ending) := readPlain inFlow least fuel next
        (stretch ++ foldedBreaks breaks ++ more, ending)
    else (stretch, ending)

/-- The characters that an escape of hexadecimal digits stands for: one, where two halves
    follow each other. -/
def escapedChar (unit : Nat) (rest : List Char) : Char × Nat :=
  if Json.isHighSurrogate unit then
    match rest with
    | '\\' :: 'u' :: a :: b :: c :: d :: _ =>
      match Json.hexValue4? a b c d with
      | some low =>
        if Json.isLowSurrogate low then
          (Char.ofNat (0x10000 + (unit - 0xD800) * 0x400 + (low - 0xDC00)), 6)
        else (Json.unitChar unit, 0)
      | none => (Json.unitChar unit, 0)
    | _ => (Json.unitChar unit, 0)
  else (Json.unitChar unit, 0)

/-- How many hexadecimal digits follow the letter of an escape. -/
def escapeDigits? (c : Char) : Option Nat :=
  if c == 'x' then some 2 else if c == 'u' then some 4 else if c == 'U' then some 8 else none

/-- The character of an escape of one letter. -/
def escapedLetter? (c : Char) : Option Char :=
  if c == ' ' || c == '/' || c == '\t' then some c
  else (shortEscapes.find? (fun e => e.2 == c)).map (fun e => Char.ofNat e.1)

/-- Reads an escape from behind its backslash: the characters that it stands for, and
    where it ends. -/
def readEscape (start : Place) (c : Cursor) : YamlRead (List Char) :=
  match c.rest with
  | [] => .error (.unknownEscape (Char.ofNat 0) start c.place)
  | letter :: rest =>
    if isBreak letter then
      let (breaks, next) := c.skipBreaks isBlank
      if next.atMarker then .error (.markerInQuote start next.place)
      else .ok (List.replicate (breaks - 1) '\n', next)
    else match escapedLetter? letter, escapeDigits? letter with
      | some e, _ => .ok ([e], c.skip 1)
      | none, some count =>
        let digits := (rest.take count).takeWhile (fun d => (Json.hexValue? d).isSome)
        if digits.length < count then
          .error
            (.badEscape count ((rest.drop digits.length).headD (Char.ofNat 0)) start
              (c.skip 1).place)
        else
          let (e, further) :=
              escapedChar (digits.foldl (fun n d => 16 * n + (Json.hexValue? d).getD 0) 0)
            (rest.drop count)
          .ok ([e], c.skip (1 + count + further))
      | none, none => .error (.unknownEscape letter start c.place)

/-- Reads a quoted text from behind its opening quote, which stands at `start`; `fuel`
    bounds its length. -/
def readQuoted (double : Bool) (start : Place) : Nat → Cursor → YamlRead (List Char)
  | 0, c => .error (.openQuote start c.place)
  | fuel + 1, c =>
    let further (text : List Char) (next : Cursor) : YamlRead (List Char) :=
      (readQuoted double start fuel next).map (fun (more, ending) => (text ++ more, ending))
    match c.rest with
    | [] => .error (.openQuote start c.place)
    | head :: rest =>
      if isBlank head || isBreak head then
        let blanks := c.rest.takeWhile isBlank
        let behind := if blanks.isEmpty then c else c.skip blanks.length
        if behind.atBreak then
          let (breaks, next) := behind.skipBreaks isBlank
          if next.atMarker then .error (.markerInQuote start next.place)
          else further (foldedBreaks breaks) next
        else further blanks behind
      else if double && head == doubleQuote then .ok ([], c.skip 1)
      else if double && head == backslash then
        match readEscape start (c.skip 1) with
        | .error fault => .error fault
        | .ok (chars, next) => further chars next
      else if !double && head == singleQuote then
        if rest.head? == some singleQuote then further [singleQuote] (c.skip 2)
        else .ok ([], c.skip 1)
      else further [head] (c.skip 1)

/-- What becomes of the line breaks at the end of a block text. -/
inductive Chomping where
  | clip
  | strip
  | keep
  deriving DecidableEq

/-- Reads the indicators of a block text: the chomping, and the indentation where it is
    given. -/
def readIndicators : List Char → Chomping × Option Nat × Nat
  | a :: b :: _ =>
    match chomping? a, indentation? a, chomping? b, indentation? b with
    | some chomping, _, _, some indentation => (chomping, some indentation, 2)
    | some chomping, _, _, none => (chomping, none, 1)
    | none, some indentation, some chomping, _ => (chomping, some indentation, 2)
    | none, some indentation, none, _ => (.clip, some indentation, 1)
    | none, none, _, _ => (.clip, none, 0)
  | [a] =>
    match chomping? a, indentation? a with
    | some chomping, _ => (chomping, none, 1)
    | none, some indentation => (.clip, some indentation, 1)
    | none, none => (.clip, none, 0)
  | [] => (.clip, none, 0)
where
  /-- The chomping of an indicator. -/
  chomping? (c : Char) : Option Chomping := if c == '-' then some .strip else if c == '+' then
    some .keep else none
  /-- The indentation of an indicator. -/
  indentation? (c : Char) : Option Nat := if '1' ≤ c && c ≤ '9' then some (c.toNat - 48) else none

/-- The lines of a text, each with whether a line break ends it. -/
def brokenLines : List Char → List (List Char × Bool)
  | [] => []
  | c :: rest =>
    if isBreak c then ([], true) :: brokenLines rest
    else match brokenLines rest with
      | [] => [([c], false)]
      | (line, broken) :: lines => (c :: line, broken) :: lines

/-- How many spaces a line begins with. -/
def indentationOf (line : List Char) : Nat := (line.takeWhile (· == ' ')).length

/-- Whether a line consists of spaces. -/
def isSpaces (line : List Char) : Bool := line.all (· == ' ')

/-- The indentation of a block text that does not give it: that of its first line with
    something on it, and that of no line before it is greater. -/
def foundIndentation (least : Nat) : List (List Char × Bool) → Nat
  | [] => least
  | (line, _) :: rest =>
    if isSpaces line then foundIndentation (max least line.length) rest
    else max least (indentationOf line)

/-- Joins the lines of a block text; `breaks` counts the empty lines since the line
    before, of which `before` is the first character. In a folded text one line break
    between lines that begin with a word is a space. -/
def joinLines (folded : Bool) (before : Option Char) (breaks : Nat) : List (List Char) → List Char
  | [] => []
  | [] :: lines => joinLines folded before (breaks + 1) lines
  | (c :: line) :: lines =>
    let gap := match before with
      | none => List.replicate breaks '\n'
      | some b =>
        if folded && !isBlank b && !isBlank c then
          (if breaks == 0 then [' '] else List.replicate breaks '\n')
        else List.replicate (breaks + 1) '\n'
    gap ++ c :: line ++ joinLines folded (some c) 0 lines

/-- The text of the lines of a block, without their indentation. -/
def blockText (folded : Bool) (chomping : Chomping) (lines : List (List Char × Bool)) : List Char :=
  let content := (lines.reverse.dropWhile (fun l => l.1.isEmpty)).reverse
  let broken := content.getLast?.any (·.2)
  let tail := (lines.drop content.length).filter (·.2)
  joinLines folded none 0 (content.map (·.1))
    ++ (if chomping != .strip && broken then ['\n'] else [])
    ++ (if chomping == .keep then List.replicate tail.length '\n' else [])

/-- Reads a block text, whose lines stand at column `least` or behind it. -/
def readBlock (least : Nat) (c : Cursor) : YamlRead (List Char) :=
  let folded := c.rest.head? == some '>'
  let (chomping, given, count) := readIndicators (c.rest.drop 1)
  let header := c.skip (1 + count)
  if !endsWord header.rest || header.rest.head? == some '\t' then
    .error (.headerIndicator (header.rest.headD (Char.ofNat 0)) c.place header.place)
  else
    let behind := header.skipSpaces
    let comment := if behind.rest.head? == some '#' then
        behind.rest.takeWhile (fun x => !isBreak x) else []
    let behind := behind.skip comment.length
    match behind.rest with
    | [] => .ok ([], behind)
    | x :: rest =>
      if !isBreak x then .error (.headerEnd x c.place behind.place)
      else
        let least := max 1 least
        let all := brokenLines rest
        let indentation := match given with
          | some more => least + more - 1
          | none => foundIndentation least all
        let lines := all.takeWhile (fun l => indentation ≤ indentationOf l.1 || isSpaces l.1)
        let length := (lines.map (fun l => l.1.length + (if l.2 then 1 else 0))).foldl (· + ·) 0
        .ok (blockText folded chomping (lines.map (fun l => (l.1.drop indentation, l.2))),
          ⟨rest.drop length, ⟨c.place.line + 1 + lines.length, 0⟩, true⟩)

end Yaml

end NodeCapture
