import NodeCapture.Json.Basic
import NodeCapture.Json.Reader
import NodeCapture.Number
import NodeCapture.Yaml.Text
import NodeCapture.Yaml.Writer

/-!
# Reading a YAML document

    A document in block style is laid out by columns: the keys of a mapping stand in one
    column, the dashes of a sequence too, and what belongs to them stands behind that
    column; only the dashes of a sequence may stand right below the key that they belong
    to. Inside brackets columns do not count. Anchors, aliases, tags and keys behind
    question marks are not read. Where a mapping has a key twice, the later value
    stands.
-/

namespace NodeCapture

/-! ## What plain texts stand for

    A plain text in a YAML document can be nothing, a truth value or a number; every
    other one is a text. Underscores in numbers do not count. Dates stay texts. -/

namespace Yaml

/-- The words for nothing. -/
def nothingWords : List String := ["", "~", "null", "Null", "NULL"]

/-- The words for true. -/
def trueWords : List String := ["yes", "Yes", "YES", "true", "True", "TRUE", "on", "On", "ON"]

/-- The words for false. -/
def falseWords : List String := ["no", "No", "NO", "false", "False", "FALSE", "off", "Off", "OFF"]

/-- The number of a text of digits to a base. -/
def ofBase (base : Nat) (digits : List Char) : Nat :=
  digits.foldl (fun n c => base * n + (Json.hexValue? c).getD 0) 0

/-- The number of a text that is a whole number without a sign. -/
def wholeOf (text : List Char) : Nat :=
  match text with
  | '0' :: 'b' :: rest => ofBase 2 rest
  | '0' :: 'x' :: rest => ofBase 16 rest
  | '0' :: rest => ofBase 8 rest
  | _ => (text.splitOn ':').foldl (fun n part => 60 * n + ofBase 10 part) 0

/-- The number of a text that is a whole number. -/
def integerOf (text : List Char) : Int :=
  let text := text.filter (· != '_')
  if text.head? == some '-' then -(wholeOf (unsigned text) : Int) else wholeOf (unsigned text)

/-- The number of a text that is a real number, unless it is to base sixty. Words have a
    point before them. -/
def realOf (text : List Char) : Option Binary64 :=
  match unsigned text with
  | '.' :: c :: rest =>
    if c.isAlpha then readReal (text.takeWhile (· != '.') ++ c :: rest)
    else readReal (text.filter (· != '_'))
  | _ => readReal (text.filter (· != '_'))

/-- The value of a plain text. -/
def resolve (text : List Char) : Json :=
  let word := String.ofList text
  if nothingWords.contains word then .null
  else if trueWords.contains word then .bool true
  else if falseWords.contains word then .bool false
  else if isInteger text then .int (integerOf text)
  else if isReal text then ((realOf text).map Json.real).getD (.string word)
  else .string word

end Yaml

namespace Yaml

/-- What is wrong where a flow node should be. -/
def missingNode (inFlow : Bool) (c : Cursor) : YamlFault :=
  match c.rest with
  | head :: rest =>
    if c.atMarker then .expectedNode inFlow c.tokenName c.place
    else if Cursor.cannotBegin head then .strayCharacter head c.place
    else if "&*!".toList.contains head || (head == '?' && endsWord rest) then .unknownForm c.place
    else .expectedNode inFlow c.tokenName c.place
  | [] => .expectedNode inFlow c.tokenName c.place

/-- Whether a quote stands at the head of a text, and whether it is a double one. -/
def quoteAt? (text : List Char) : Option Bool :=
  match text with
  | c :: _ => if c == doubleQuote then some true else if c == singleQuote then some false else none
  | [] => none

/-- Reads the scalar at a cursor: its value and where it ends. There is none where
    something else stands. -/
def readScalar? (inFlow : Bool) (least : Nat) (c : Cursor) : Option (YamlRead Json) :=
  match quoteAt? c.rest with
  | some double =>
    some ((readQuoted double c.place (c.rest.length + 1) (c.skip 1)).map
      (fun (chars, ending) => (.string (String.ofList chars), ending)))
  | none =>
    if beginsPlain inFlow c.rest then
      let (chars, ending) := readPlain inFlow least (c.rest.length + 1) c
      some (.ok (resolve chars, ending))
    else none

/-- The name of a member whose key is a value; sequences and mappings cannot be keys. -/
def keyName? : Json → Option String
  | .string s => some s
  | .int n => some (integerText n)
  | .bool b => some (if b then "True" else "False")
  | .null => some "None"
  | .real x => some x.shortest
  | .array _ | .object _ => none

/-- Whether a colon follows on the line of a key that began at `start`; yields the place
    of the colon. -/
def colonAfter? (start : Place) (ending : Cursor) : Option Cursor :=
  let behind := ending.skipSpaces
  if ending.place.line == start.line && behind.atColon then some behind else none

/-- The name of what stands at a cursor behind a block: a key or a dash on a new line
    opens another block where it stands further in than the last one. -/
def blockToken (furtherIn : Bool) (c : Cursor) : Except YamlFault String :=
  if !c.fresh then .ok c.tokenName
  else if c.atEntry then .ok (if furtherIn then "<block sequence start>" else "-")
  else match readScalar? false 0 c with
    | none => .ok c.tokenName
    | some (.error fault) => .error fault
    | some (.ok (_, ending)) =>
      .ok (if (colonAfter? c.place ending).isNone then c.tokenName
        else if furtherIn then "<block mapping start>" else "?")

/-- What is wrong where a block should go on or end. -/
def missingEnd (furtherIn : Bool) (expected : String → Place → YamlFault) (c : Cursor) :
    YamlFault :=
  match c.rest with
  | head :: rest =>
    if Cursor.cannotBegin head then .strayCharacter head c.place
    else if "&*!".toList.contains head || (head == '?' && endsWord rest) then .unknownForm c.place
    else if c.atColon then .keyNotAllowed c.place
    else if c.atEntry && !c.fresh then .entryNotAllowed c.place
    else match blockToken furtherIn c with
      | .ok found => expected found c.place
      | .error fault => fault
  | [] => expected c.tokenName c.place

/-- Reads a key of the block mapping that began at `start`, and its colon. -/
def readKey (start : Place) (least : Nat) (c : Cursor) : YamlRead String :=
  match readScalar? false least c with
  | none => .error (missingEnd false (fun found => .expectedBlockEnd true found start) c)
  | some (.error fault) => .error fault
  | some (.ok (key, ending)) =>
    match colonAfter? c.place ending, keyName? key with
    | some colon, some name => .ok (name, colon.skip 1)
    | some _, none => .error (.compoundKey start c.place)
    | none, _ => .error (.noColon c.place ending.skipGap.place)

/-- Where a block node may stand: the least column, whether the dashes of a sequence may
    stand one column before it, and whether a mapping or a sequence may begin on the line
    of the cursor. -/
structure BlockContext where
  least : Nat
  dashBefore : Bool
  compact : Bool

/-- Reads the members of the mapping that began at `start`, from one of its keys on. -/
def readMembers (read : BlockContext → Cursor → YamlRead Json) (start : Place) :
    Nat → Cursor → YamlRead (List (String × Json))
  | 0, c => .ok ([], c)
  | fuel + 1, c =>
    match readKey start (start.column + 1) c with
    | .error fault => .error fault
    | .ok (name, behind) =>
      match read ⟨start.column + 1, true, false⟩ behind with
      | .error fault => .error fault
      | .ok (value, ending) =>
        let next := ending.skipGap
        if next.ended || next.place.column < start.column then .ok ([(name, value)], next)
        else if start.column < next.place.column then
          .error (missingEnd true (fun found => .expectedBlockEnd true found start) next)
        else
          (readMembers read start fuel next).map (fun (ms, ending) => ((name, value) :: ms, ending))

/-- Reads the items of the sequence that began at `start`, from one of its dashes on;
    `below` says that it stands right below a key. -/
def readEntries (read : BlockContext → Cursor → YamlRead Json) (start : Place) (below : Bool) :
    Nat → Cursor → YamlRead (List Json)
  | 0, c => .ok ([], c)
  | fuel + 1, c =>
    match read ⟨start.column + 1, false, true⟩ (c.skip 1) with
    | .error fault => .error fault
    | .ok (item, ending) =>
      let next := ending.skipGap
      if next.ended || next.place.column < start.column then .ok ([item], next)
      else if next.place.column == start.column && next.atEntry then
        (readEntries read start below fuel next).map (fun (xs, ending) => (item :: xs, ending))
      else if next.place.column == start.column && below then .ok ([item], next)
      else
        .error
          (missingEnd (start.column < next.place.column)
            (fun found => .expectedBlockEnd false found start) next)

/-- Reads what stands between two commas of brackets: a value, or a key with a value. -/
def readPart (read : Cursor → YamlRead Json) (c : Cursor) : YamlRead (Json × Option Json) :=
  match read c with
  | .error fault => .error fault
  | .ok (key, ending) =>
    let behind := ending.skipGap
    if behind.rest.head? == some ':' then
      let next := (behind.skip 1).skipGap
      if next.rest.head?.any (fun c => c == ',' || c == ']' || c == '\x7d') then
        .ok ((key, some .null), next)
      else (read next).map (fun (value, ending) => ((key, some value), ending))
    else .ok ((key, none), behind)

/-- Reads the parts of the brackets that opened at `start`, up to the closing one. -/
def readParts (read : Cursor → YamlRead Json) (mapping : Bool) (start : Place) :
    Nat → Cursor → YamlRead (List (Json × Option Json))
  | 0, c => .ok ([], c)
  | fuel + 1, c =>
    let close := if mapping then '\x7d' else ']'
    let c := c.skipGap
    if c.rest.head? == some close then .ok ([], c.skip 1)
    else match readPart read c with
      | .error fault => .error fault
      | .ok (part, ending) =>
        let next := ending.skipGap
        if next.rest.head? == some close then .ok ([part], next.skip 1)
        else if next.rest.head? == some ',' then
          (readParts read mapping start fuel (next.skip 1)).map
            (fun (parts, ending) => (part :: parts, ending))
        else .error (match missingNode true next with
          | .expectedNode _ found place => .expectedFlowEnd mapping found start place
          | fault => fault)

/-- The member of a part of braces that began at `start`; one without a colon is a key
    without a value. -/
def memberOf (start : Place) (part : Json × Option Json) : Except YamlFault (String × Json) :=
  match keyName? part.1 with
  | some name => .ok (name, part.2.getD .null)
  | none => .error (.compoundKey start start)

/-- The mapping of parts of braces. -/
def mappingOf (start : Place) (parts : List (Json × Option Json)) : Except YamlFault Json :=
  (parts.mapM (memberOf start)).map (fun ms => .object (Json.membersOf ms))

/-- The item of a part of square brackets; one with a colon is a mapping of one key. -/
def itemOf (start : Place) (part : Json × Option Json) : Except YamlFault Json :=
  match part.2 with
  | none => .ok part.1
  | some _ => mappingOf start [part]

/-- The sequence of parts of square brackets. -/
def sequenceOf (start : Place) (parts : List (Json × Option Json)) : Except YamlFault Json :=
  (parts.mapM (itemOf start)).map Json.array

/-- Reads a node inside brackets, nested at most `depth` deep. -/
def readFlow : Nat → Cursor → YamlRead Json
  | 0, c => .error (missingNode true c)
  | depth + 1, c =>
    let c := c.skipGap
    match c.rest with
    | [] => .error (missingNode true c)
    | head :: _ =>
      if head == '[' || head == '\x7b' then
        match readParts (readFlow depth) (head == '\x7b') c.place (c.rest.length + 1)
          (c.skip 1) with
        | .error fault => .error fault
        | .ok (parts, ending) =>
          ((if head == '\x7b' then mappingOf else sequenceOf) c.place parts).map
            (fun value => (value, ending))
      else if c.atMarker then .error (missingNode true c)
      else (readScalar? true 0 c).getD (.error (missingNode true c))

/-- Reads a node in block style, nested at most `depth` deep. Where there is none, it
    stands for nothing. -/
def readBlockNode : Nat → BlockContext → Cursor → YamlRead Json
  | 0, _, c => .error (missingNode false c)
  | depth + 1, context, c =>
    let c := c.skipGap
    let below := context.dashBefore && c.place.column + 1 == context.least && c.atEntry
    if c.ended || (c.place.column < context.least && !below) then .ok (.null, c)
    else
      let opens := context.compact || c.fresh
      let size := c.rest.length + 1
      match c.rest with
      | [] => .ok (.null, c)
      | head :: _ =>
        if c.atEntry then
          if opens then
            (readEntries (readBlockNode depth) c.place below size c).map
              (fun (xs, ending) => (.array xs, ending))
          else .error (.entryNotAllowed c.place)
        else if head == '[' || head == '\x7b' then
          match readFlow size c with
          | .error fault => .error fault
          | .ok (value, ending) =>
            match colonAfter? c.place ending with
            | some colon =>
              .error (if opens then .compoundKey c.place c.place else .keyNotAllowed colon.place)
            | none => .ok (value, ending)
        else if head == '|' || head == '>' then
          (readBlock context.least c).map
            (fun (chars, ending) => (.string (String.ofList chars), ending))
        else match readScalar? false context.least c with
          | none => .error (if c.atColon then .keyNotAllowed c.place else missingNode false c)
          | some (.error fault) => .error fault
          | some (.ok (value, ending)) =>
            match colonAfter? c.place ending with
            | none => .ok (value, ending)
            | some colon =>
              if opens then
                (readMembers (readBlockNode depth) c.place size c).map
                  (fun (ms, ending) => (.object (Json.membersOf ms), ending))
              else .error (.keyNotAllowed colon.place)

/-- Whether a character may stand in a document. -/
def isAcceptable (c : Char) : Bool :=
  let n := c.toNat
  n == 9 || n == 10 || n == 13 || (0x20 ≤ n && n ≤ 0x7E) || n == 0x85
    || (0xA0 ≤ n && n ≤ 0xFFFD) || 0x10000 ≤ n

/-- The lines of a file end with line feeds: each carriage return is one, with the line
    feed that may follow it. -/
def withPlainBreaks : List Char → List Char
  | [] => []
  | '\r' :: '\n' :: rest => '\n' :: withPlainBreaks rest
  | '\r' :: rest => '\n' :: withPlainBreaks rest
  | c :: rest => c :: withPlainBreaks rest

/-- Moves over the three dashes that may open a document; yields whether there were
    none. -/
def skipOpening (c : Cursor) : Bool × Cursor :=
  let c := c.skipGap
  if c.atMarker && c.rest.head? == some '-' then (false, c.skip 3) else (true, c)

/-- Checks that nothing follows a document that began at `start`. -/
def checkEnd (start : Place) (c : Cursor) : Except YamlFault Unit :=
  let c := c.skipGap
  let c := if c.atMarker && c.rest.head? == some '.' then (c.skip 3).skipGap else c
  if c.rest.isEmpty then .ok ()
  else if c.atMarker then .error (.severalDocuments start c.place)
  else .error (missingEnd true .expectedDocument c)

/-- Reads the document of a file. -/
def read (text : List Char) : Except YamlFault Json :=
  let text := withPlainBreaks text
  match text.find? (fun c => !isAcceptable c) with
  | some c => .error (.unacceptable c (text.takeWhile isAcceptable).length)
  | none =>
    let text := if text.head? == some (Char.ofNat 0xFEFF) then text.drop 1 else text
    let (compact, c) := skipOpening ⟨text, ⟨0, 0⟩, true⟩
    match readBlockNode (text.length + 1) ⟨0, false, compact⟩ c with
    | .error fault => .error fault
    | .ok (value, ending) => (checkEnd c.skipGap.place ending).map (fun _ => value)

end Yaml

end NodeCapture
