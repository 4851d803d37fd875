import NodeCapture.Text.Quoted
import NodeCapture.Yaml.Writer

/-!
# Where a YAML reader stands, and what it finds fault with

    A reader moves through a text by a cursor, and says of a fault where it was found.
-/

namespace NodeCapture

/-! ## Faults of YAML texts

    A fault says what a reader found and where; many also say where the construct began
    that it belongs to. The place of the beginning is told only where it is another one.
    -/

/-- A place in a text: lines and columns before it. -/
structure Place where
  line : Nat
  column : Nat
  deriving DecidableEq

/-- Why a text is no YAML document. -/
inductive YamlFault where
  | unacceptable (c : Char) (position : Nat)
  | strayCharacter (c : Char) (place : Place)
  | keyNotAllowed (place : Place)
  | entryNotAllowed (place : Place)
  | noColon (start place : Place)
  | openQuote (start place : Place)
  | markerInQuote (start place : Place)
  | unknownEscape (c : Char) (start place : Place)
  | badEscape (digits : Nat) (c : Char) (start place : Place)
  | headerIndicator (c : Char) (start place : Place)
  | headerEnd (c : Char) (start place : Place)
  | expectedNode (inFlow : Bool) (found : String) (place : Place)
  | expectedFlowEnd (mapping : Bool) (found : String) (start place : Place)
  | expectedBlockEnd (mapping : Bool) (found : String) (start place : Place)
  | expectedDocument (found : String) (place : Place)
  | severalDocuments (start place : Place)
  | compoundKey (start place : Place)
  | unknownForm (place : Place)
  deriving DecidableEq

/-- The stages of reading at which a fault can be found. -/
inductive YamlStage where
  | characters
  | tokens
  | structures
  | documents
  | values
  deriving DecidableEq

namespace YamlFault

/-- The stage of a fault. -/
def stage : YamlFault → YamlStage
  | unacceptable _ _ => .characters
  | expectedNode _ _ _ | expectedFlowEnd _ _ _ _ | expectedBlockEnd _ _ _ _
  | expectedDocument _ _ =>
    .structures
  | severalDocuments _ _ | unknownForm _ => .documents
  | compoundKey _ _ => .values
  | _ => .tokens

/-- A place in a file, counted from one. -/
def placeText (path : String) (place : Place) : String :=
  "  in " ++ (String.singleton doubleQuote) ++ path ++ (String.singleton doubleQuote) ++ ", line "
    ++ toString (place.line + 1) ++ ", column " ++ toString (place.column + 1)

/-- A problem and its place. -/
def problemText (path problem : String) (place : Place) : String :=
  problem ++ "\n" ++ placeText path place

/-- A problem inside a construct that began at a place. -/
def withStart (path construct : String) (start : Place) (problem : String) (place : Place) :
    String :=
  construct ++ "\n" ++ (if start = place then "" else placeText path start ++ "\n")
    ++ problemText path problem place

/-- A character between quotes. -/
def quotedChar (c : Char) : String := quoted (String.singleton c)

/-- The wording of a fault in a file. -/
def message (path : String) : YamlFault → String
  | unacceptable c position =>
    "unacceptable character #x" ++ String.ofList (hexDigits false 4 c.toNat)
      ++ ": special characters are not allowed\n  in " ++ String.singleton doubleQuote ++ path
      ++ String.singleton doubleQuote ++ ", position " ++ toString position
  | strayCharacter c place =>
    "while scanning for the next token\n"
      ++ problemText path ("found character " ++ quotedChar c ++ " that cannot start any token")
        place
  | keyNotAllowed place => problemText path "mapping values are not allowed here" place
  | entryNotAllowed place => problemText path "sequence entries are not allowed here" place
  | noColon start place =>
    withStart path "while scanning a simple key" start "could not find expected ':'" place
  | openQuote start place =>
    withStart path "while scanning a quoted scalar" start "found unexpected end of stream" place
  | markerInQuote start place =>
    withStart path "while scanning a quoted scalar" start
      "found unexpected document separator" place
  | unknownEscape c start place =>
    withStart path "while scanning a double-quoted scalar" start
      ("found unknown escape character " ++ quotedChar c) place
  | badEscape digits c start place =>
    withStart path "while scanning a double-quoted scalar" start
      ("expected escape sequence of " ++ toString digits ++ " hexdecimal numbers, but found "
        ++ quotedChar c) place
  | headerIndicator c start place =>
    withStart path "while scanning a block scalar" start
      ("expected chomping or indentation indicators, but found " ++ quotedChar c) place
  | headerEnd c start place =>
    withStart path "while scanning a block scalar" start
      ("expected a comment or a line break, but found " ++ quotedChar c) place
  | expectedNode inFlow found place =>
    "while parsing a " ++ (if inFlow then "flow" else "block") ++ " node\n"
      ++ problemText path ("expected the node content, but found " ++ quoted found) place
  | expectedFlowEnd mapping found start place =>
    withStart path ("while parsing a flow " ++ (if mapping then "mapping" else "sequence")) start
      ("expected ',' or '" ++ (if mapping then "\x7d" else "]") ++ "', but got "
        ++ quoted found) place
  | expectedBlockEnd mapping found start place =>
    withStart path ("while parsing a block " ++ (if mapping then "mapping" else "collection")) start
      ("expected <block end>, but found " ++ quoted found) place
  | expectedDocument found place =>
    problemText path ("expected '<document start>', but found " ++ quoted found) place
  | severalDocuments start place =>
    withStart path "expected a single document in the stream" start "but found another document"
      place
  | compoundKey start place =>
    withStart path "while constructing a mapping" start "found unhashable key" place
  | unknownForm place =>
    problemText path "found an anchor, an alias, a tag or an explicit key" place

end YamlFault

/-! ## Where a YAML reader stands

    A cursor is the rest of a text, its place, and whether nothing but blanks stands
    before it on its line. Blanks, comments and line breaks between two tokens are a
    gap. Three dashes or three points at the start of a line, as a word of their own,
    mark the end of a document. -/

/-- The rest of a text with its place; `fresh` says that only blanks stand before it on
    its line. -/
structure Cursor where
  rest : List Char
  place : Place := ⟨0, 0⟩
  fresh : Bool := true

namespace Cursor

/-- The next place on a line. -/
def nextColumn (place : Place) : Place := ⟨place.line, place.column + 1⟩

/-- The start of the next line. -/
def nextLine (place : Place) : Place := ⟨place.line + 1, 0⟩

/-- Moves over characters that stand on the line of the cursor. -/
def skip (count : Nat) (c : Cursor) : Cursor :=
  { rest := c.rest.drop count, place := ⟨c.place.line, c.place.column + count⟩, fresh := false }

/-- Moves over a gap; `inComment` says that the gap begins inside a comment. -/
def skipGapFrom (inComment : Bool) (place : Place) (fresh : Bool) : List Char → Cursor
  | [] => ⟨[], place, fresh⟩
  | c :: rest =>
    if Yaml.isBreak c then skipGapFrom false (nextLine place) true rest
    else if inComment || c == '#' then skipGapFrom true (nextColumn place) fresh rest
    else if c == ' ' then skipGapFrom false (nextColumn place) fresh rest
    else ⟨c :: rest, place, fresh⟩

/-- Moves over the gap at a cursor. -/
def skipGap (c : Cursor) : Cursor := skipGapFrom false c.place c.fresh c.rest

/-- Moves over spaces. -/
def skipSpaces (c : Cursor) : Cursor := c.skip (c.rest.takeWhile (· == ' ')).length

/-- Whether a text begins with a mark of the end of a document. -/
def beginsWithMarker (text : List Char) : Bool :=
  (text.take 3 == ['-', '-', '-'] || text.take 3 == ['.', '.', '.']) && Yaml.endsWord (text.drop 3)

/-- Whether a document ends by a mark at a cursor. -/
def atMarker (c : Cursor) : Bool := c.place.column == 0 && beginsWithMarker c.rest

/-- Whether a document ends at a cursor. -/
def ended (c : Cursor) : Bool := c.rest.isEmpty || c.atMarker

/-- Moves over line breaks and the blanks between them, up to a mark, and counts the
    breaks. -/
def skipBreaksFrom (isBlank : Char → Bool) (place : Place) : List Char → Nat × Cursor
  | [] => (0, ⟨[], place, true⟩)
  | c :: rest =>
    if place.column == 0 && beginsWithMarker (c :: rest) then (0, ⟨c :: rest, place, true⟩)
    else if Yaml.isBreak c then
      let (breaks, after) := skipBreaksFrom isBlank (nextLine place) rest
      (breaks + 1, after)
    else if isBlank c then skipBreaksFrom isBlank (nextColumn place) rest
    else (0, ⟨c :: rest, place, true⟩)

/-- Moves over the line breaks at a cursor. -/
def skipBreaks (isBlank : Char → Bool) (c : Cursor) : Nat × Cursor :=
  skipBreaksFrom isBlank c.place c.rest

/-- Whether a line break stands at a cursor. -/
def atBreak (c : Cursor) : Bool := c.rest.head?.any Yaml.isBreak

/-- Whether a dash that is a word of its own stands at a cursor. -/
def atEntry (c : Cursor) : Bool := c.rest.head? == some '-' && Yaml.endsWord (c.rest.drop 1)

/-- Whether a colon at the end of a word stands at a cursor. -/
def atColon (c : Cursor) : Bool := c.rest.head? == some ':' && Yaml.endsWord (c.rest.drop 1)

/-- The characters that nothing begins with. -/
def cannotBegin (c : Char) : Bool := c == '\t' || c == '@' || c == '%' || c.toNat == 96

/-- The name of what stands at a cursor. -/
def tokenName (c : Cursor) : String :=
  match c.rest with
  | [] => "<stream end>"
  | head :: _ =>
    if c.atMarker then (if head == '-' then "<document start>" else "<document end>")
    else if c.atEntry then "-"
    else if "[]\x7b\x7d,:?".toList.contains head then String.singleton head
    else if head == '&' then "<anchor>"
    else if head == '*' then "<alias>"
    else if head == '!' then "<tag>"
    else "<scalar>"

end Cursor

end NodeCapture
