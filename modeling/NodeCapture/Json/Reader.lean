import NodeCapture.Json.Basic

/-!
# Reading JSON

    The grammar of JSON, with the words `NaN`, `Infinity` and `-Infinity` as numbers
    besides. Control characters may not stand in strings. A fault is a cause and the
    place where it was found, counted in characters from the start.
-/

namespace NodeCapture

/-- Why a text is no JSON. -/
inductive JsonCause where
  | expectedValue
  | expectedName
  | expectedColon
  | expectedComma
  | extraData
  | unterminatedString
  | controlCharacter
  | badEscape
  | badUnicodeEscape
  | numeralTooLong (digits : Nat)
  | nestedTooDeep (inObject : Bool)
  deriving DecidableEq

/-- A cause, and how many characters there are from its place to the end of the text. -/
structure JsonFault where
  cause : JsonCause
  remaining : Nat
  deriving DecidableEq

namespace Json

/-- What a reading step yields: a result and the text after it. -/
abbrev Read (α : Type) := Except JsonFault (α × List Char)

/-- A fault at the head of a text. -/
def faultAt {α : Type} (cause : JsonCause) (text : List Char) : Except JsonFault α :=
  .error ⟨cause, text.length⟩

/-- The spaces that may stand between tokens. -/
def isSpace (c : Char) : Bool := c == ' ' || c == '\t' || c == '\n' || c == '\r'

/-- Drops spaces from the head of a text. -/
def skipSpace (text : List Char) : List Char := text.dropWhile isSpace

/-- The value of a hexadecimal digit. -/
def hexValue? (c : Char) : Option Nat :=
  let n := c.toNat
  if 48 ≤ n && n ≤ 57 then some (n - 48)
  else if 97 ≤ n && n ≤ 102 then some (n - 87)
  else if 65 ≤ n && n ≤ 70 then some (n - 55)
  else none

/-- The value of four hexadecimal digits. -/
def hexValue4? (a b c d : Char) : Option Nat := do
  some (((← hexValue? a) * 16 + (← hexValue? b)) * 256 + (← hexValue? c) * 16 + (← hexValue? d))

/-- The character of a short escape. -/
def shortEscape? (c : Char) : Option Char :=
  if c == '"' || c == '/' || c.toNat == 92 then some c
  else if c == 'b' then some (Char.ofNat 8)
  else if c == 'f' then some (Char.ofNat 12)
  else if c == 'n' then some '\n'
  else if c == 'r' then some '\r'
  else if c == 't' then some '\t'
  else none

/-- The first half of a surrogate pair. -/
def isHighSurrogate (n : Nat) : Bool := 0xD800 ≤ n && n ≤ 0xDBFF

/-- The second half of a surrogate pair. -/
def isLowSurrogate (n : Nat) : Bool := 0xDC00 ≤ n && n ≤ 0xDFFF

/-- The character of a code unit; half of a surrogate pair alone stands for nothing and is
    replaced. -/
def unitChar (n : Nat) : Char :=
  if isHighSurrogate n || isLowSurrogate n then Char.ofNat 0xFFFD else Char.ofNat n

/-- Puts a character in front of what is read after it. -/
def readCons (c : Char) (r : Read (List Char)) : Read (List Char) :=
  r.map (fun (cs, rest) => (c :: cs, rest))

/-- Reads a string from behind its opening quote, of which the place is given, to behind
    its closing one. -/
def readString (opening : Nat) : List Char → Read (List Char)
  | [] => .error ⟨.unterminatedString, opening⟩
  | '"' :: rest => .ok ([], rest)
  | '\\' :: [] => .error ⟨.unterminatedString, opening⟩
  | '\\' :: 'u' :: a :: b :: c :: d :: '\\' :: 'u' :: e :: f :: g :: h :: rest =>
    match hexValue4? a b c d with
    | none => .error ⟨.badUnicodeEscape, rest.length + 11⟩
    | some high =>
      if isHighSurrogate high && !rest.isEmpty then
        match hexValue4? e f g h with
        | none => .error ⟨.badUnicodeEscape, rest.length + 5⟩
        | some low =>
          if isLowSurrogate low then
            readCons (Char.ofNat (0x10000 + (high - 0xD800) * 0x400 + (low - 0xDC00)))
              (readString opening rest)
          else
            readCons (unitChar high) (readString opening ('\\' :: 'u' :: e :: f :: g :: h :: rest))
      else readCons (unitChar high) (readString opening ('\\' :: 'u' :: e :: f :: g :: h :: rest))
  | '\\' :: 'u' :: a :: b :: c :: d :: next :: rest =>
    match hexValue4? a b c d with
    | none => .error ⟨.badUnicodeEscape, rest.length + 6⟩
    | some unit => readCons (unitChar unit) (readString opening (next :: rest))
  | '\\' :: 'u' :: rest => .error ⟨.badUnicodeEscape, rest.length + 1⟩
  | '\\' :: c :: rest =>
    match shortEscape? c with
    | some e => readCons e (readString opening rest)
    | none => .error ⟨.badEscape, rest.length + 2⟩
  | c :: rest =>
    if c.toNat < 0x20 then .error ⟨.controlCharacter, rest.length + 1⟩
    else readCons c (readString opening rest)

/-- The fraction digits at the head of a text, and what follows; without digits the point
    stays. -/
def takeJsonFraction : List Char → List Char × List Char
  | '.' :: rest =>
    let digits := rest.takeWhile Char.isDigit
    if digits.isEmpty then ([], '.' :: rest) else (digits, rest.dropWhile Char.isDigit)
  | text => ([], text)

/-- The exponent at the head of a text, if there is one with digits, and what follows. -/
def takeJsonExponent : List Char → Option Int × List Char
  | [] => (none, [])
  | c :: rest =>
    if c == 'e' || c == 'E' then
      let (negative, body) := takeSign rest
      let digits := body.takeWhile Char.isDigit
      if digits.isEmpty then (none, c :: rest)
      else
        let power : Int := ofDigits (digits.filterMap digitValue?)
        (some (if negative then -power else power), body.dropWhile Char.isDigit)
    else (none, c :: rest)

/-- Reads an unsigned number; a fault counts from the start of the number. -/
def readNumber (negative : Bool) (start text : List Char) : Read Json :=
  let whole := match text with
    | '0' :: _ => ['0']
    | _ => text.takeWhile Char.isDigit
  if whole.isEmpty then faultAt .expectedValue start
  else
    let (fraction, rest) := takeJsonFraction (text.drop whole.length)
    let (power, rest) := takeJsonExponent rest
    let number := ofDigits ((whole ++ fraction).filterMap digitValue?)
    if fraction.isEmpty && power.isNone then
      if numeralDigitLimit < whole.length then faultAt (.numeralTooLong whole.length) start
      else .ok (.int (if negative then -(number : Int) else number), rest)
    else .ok (.real (Binary64.ofDecimal negative number (power.getD 0 - fraction.length)), rest)

/-- The words that are values by themselves. -/
def words : List (String × Json) :=
  [("null", .null), ("true", .bool true), ("false", .bool false), ("NaN", .real .notANumber),
   ("Infinity", .real (.infinite false)), ("-Infinity", .real (.infinite true))]

/-- Reads a word or a number. -/
def readScalar (text : List Char) : Read Json :=
  match words.find? (fun w => w.1.toList.isPrefixOf text) with
  | some w => .ok (w.2, text.drop w.1.length)
  | none =>
    match text with
    | '-' :: rest => readNumber true text rest
    | _ => readNumber false text text

/-- Reads items with commas between them up to a closing character; `fuel` bounds their
    number. -/
def readItems {α : Type} (read : List Char → Read α) (close : Char) :
    Nat → List Char → Read (List α)
  | 0, text => faultAt .expectedValue text
  | fuel + 1, text =>
    match read text with
    | .error fault => .error fault
    | .ok (item, rest) =>
      match skipSpace rest with
      | [] => faultAt .expectedComma []
      | c :: more =>
        if c == close then .ok ([item], more)
        else if c == ',' then
          (readItems read close fuel (skipSpace more)).map
            (fun (items, tail) => (item :: items, tail))
        else faultAt .expectedComma (c :: more)

/-- Reads a member of an object: a name, a colon and a value. -/
def readMember (read : List Char → Read Json) (text : List Char) : Read (String × Json) :=
  match text with
  | '"' :: body =>
    match readString text.length body with
    | .error fault => .error fault
    | .ok (name, rest) =>
      match skipSpace rest with
      | ':' :: more =>
        (read (skipSpace more)).map (fun (value, tail) => ((String.ofList name, value), tail))
      | other => faultAt .expectedColon other
  | _ => faultAt .expectedName text

/-- Reads a value that is nested at most `depth` deep. -/
def readValue : Nat → List Char → Read Json
  | 0, text => faultAt (.nestedTooDeep (text.head? == some '\x7b')) text
  | depth + 1, text =>
    match text with
    | '"' :: body =>
      (readString text.length body).map (fun (s, rest) => (.string (String.ofList s), rest))
    | c :: body =>
      if c == '[' then
        match skipSpace body with
        | ']' :: rest => .ok (.array [], rest)
        | items =>
          (readItems (readValue depth) ']' (items.length + 1) items).map
            (fun (vs, rest) => (.array vs, rest))
      else if c == '\x7b' then
        match skipSpace body with
        | '\x7d' :: rest => .ok (.object [], rest)
        | items =>
          (readItems (readMember (readValue depth)) '\x7d' (items.length + 1) items).map
            (fun (ms, rest) => (.object (membersOf ms), rest))
      else readScalar text
    | [] => faultAt .expectedValue text

/-- How deep values may usually be nested. -/
def usualNesting : Nat := 990

/-- Reads a whole text, in which values may be nested so deep. -/
def read (text : List Char) (nesting : Nat := usualNesting) : Except JsonFault Json :=
  match readValue nesting (skipSpace text) with
  | .error fault => .error fault
  | .ok (value, rest) =>
    match skipSpace rest with
    | [] => .ok value
    | more => faultAt .extraData more

/-- The place of a fault in a text. -/
def faultOffset (text : List Char) (fault : JsonFault) : Nat := text.length - fault.remaining

end Json

end NodeCapture
