import NodeCapture.Text.Quoted

/-!
# Writing YAML

    Texts are written so that a reader takes them for the texts that they are, and
    documents in block style.
-/

namespace NodeCapture

/-! ## YAML scalars

    A text is written plain where a reader would take it for that text, else between
    single quotes where these can hold it, else between double quotes. A text that reads
    as another type (a number, a truth value, a date, null) is never plain. Long texts
    are folded at single spaces past column 80. -/

namespace Yaml

/-- A line break of YAML. -/
def isBreak (c : Char) : Bool :=
  c == '\n' || c.toNat == 0x85 || c.toNat == 0x2028 || c.toNat == 0x2029

/-- A character that separates a scalar from an indicator. -/
def isSeparator (c : Char) : Bool := c.toNat == 0 || c == ' ' || c == '\t' || c == '\r' || isBreak c

/-- Whether the head of a text is no part of a word: a separator, or the end. -/
def endsWord (text : List Char) : Bool :=
  match text with
  | [] => true
  | c :: _ => isSeparator c

/-- An ASCII digit or an underscore. -/
def isDigitOrLine (c : Char) : Bool := c.isDigit || c == '_'

/-- Drops a sign. -/
def unsigned (text : List Char) : List Char :=
  match text with
  | c :: rest => if c == '-' || c == '+' then rest else text
  | [] => []

/-- A text of at least one character of a class. -/
def allOf (p : Char → Bool) (text : List Char) : Bool := !text.isEmpty && text.all p

/-- Whether a text is empty or an exponent with a sign. -/
def isExponent (text : List Char) : Bool :=
  match text with
  | [] => true
  | e :: sign :: digits =>
    (e == 'e' || e == 'E') && (sign == '-' || sign == '+') && allOf Char.isDigit digits
  | _ => false

/-- A part of a number to base sixty: one digit, or two of which the first is below
    six. -/
def isSexagesimalPart (text : List Char) : Bool :=
  match text with
  | [d] => Char.isDigit d
  | [t, d] => 48 ≤ t.toNat && t.toNat ≤ 53 && Char.isDigit d
  | _ => false

/-- Whether a text is a whole number, in base two, eight, ten, sixteen or sixty. -/
def isInteger (text : List Char) : Bool :=
  let body := unsigned text
  match body with
  | '0' :: 'b' :: rest => allOf (fun c => c == '0' || c == '1' || c == '_') rest
  | '0' :: 'x' :: rest => allOf (fun c => (hexOf c) || c == '_') rest
  | '0' :: rest => rest.all (fun c => (48 ≤ c.toNat && c.toNat ≤ 55) || c == '_')
  | c :: rest =>
    if 49 ≤ c.toNat && c.toNat ≤ 57 then
      match (c :: rest).splitOn ':' with
      | first :: parts => first.all isDigitOrLine && parts.all isSexagesimalPart
      | [] => false
    else false
  | [] => false
where
  /-- A hexadecimal digit. -/
  hexOf (c : Char) : Bool :=
    c.isDigit || (97 ≤ c.toNat && c.toNat ≤ 102) || (65 ≤ c.toNat && c.toNat ≤ 70)

/-- Whether a text is a number to base sixty with a point. -/
def isSexagesimalReal (text : List Char) : Bool :=
  match text.splitOn '.' with
  | [whole, fraction] =>
    fraction.all isDigitOrLine &&
      match whole.splitOn ':' with
      | (d :: ds) :: part :: parts =>
        Char.isDigit d && ds.all isDigitOrLine && (part :: parts).all isSexagesimalPart
      | _ => false
  | _ => false

/-- Whether a text is a decimal with a point. -/
def isPointDecimal (text : List Char) : Bool :=
  match text with
  | d :: rest =>
    Char.isDigit d &&
      match rest.dropWhile isDigitOrLine with
      | '.' :: tail => isExponent (tail.dropWhile isDigitOrLine)
      | _ => false
  | [] => false

/-- Whether a text is a real number. -/
def isReal (text : List Char) : Bool :=
  let body := unsigned text
  isPointDecimal body || isSexagesimalReal body
    || [".inf", ".Inf", ".INF"].any (fun w => w.toList == body)
    || [".nan", ".NaN", ".NAN"].any (fun w => w.toList == text)
    || match text with
      | '.' :: d :: rest => Char.isDigit d && isExponent (rest.dropWhile isDigitOrLine)
      | _ => false

/-- The digits at the head of a text, at most `most`, and what follows. -/
def takeUpTo (most : Nat) (text : List Char) : List Char × List Char :=
  let digits := (text.take most).takeWhile Char.isDigit
  (digits, text.drop digits.length)

/-- A blank that may stand in a time stamp. -/
def isStampBlank (c : Char) : Bool := c == ' ' || c == '\t'

/-- Whether a text is a time zone with blanks before it, or nothing. -/
def isZone (text : List Char) : Bool :=
  match text.dropWhile isStampBlank with
  | [] => text.isEmpty
  | 'Z' :: rest => rest.isEmpty
  | sign :: rest =>
    (sign == '-' || sign == '+') &&
      let (hours, rest) := takeUpTo 2 rest
      !hours.isEmpty &&
        match rest with
        | [] => true
        | ':' :: minutes => minutes.length == 2 && minutes.all Char.isDigit
        | _ => false

/-- Whether a text is a time of day. -/
def isTimeOfDay (text : List Char) : Bool :=
  let (hours, rest) := takeUpTo 2 text
  !hours.isEmpty &&
    match rest with
    | ':' :: m :: m' :: ':' :: s :: s' :: tail =>
      [m, m', s, s'].all Char.isDigit &&
        match tail with
        | '.' :: more => isZone (more.dropWhile Char.isDigit)
        | _ => isZone tail
    | _ => false

/-- Whether a text is a date, or a date and a time. -/
def isTimestamp (text : List Char) : Bool :=
  let (year, rest) := takeUpTo 4 text
  year.length == 4 &&
    match rest with
    | '-' :: rest =>
      let (month, rest) := takeUpTo 2 rest
      match rest with
      | '-' :: rest =>
        let (day, rest) := takeUpTo 2 rest
        !month.isEmpty && !day.isEmpty &&
          match rest with
          | [] => month.length == 2 && day.length == 2
          | c :: tail =>
            if c == 'T' || c == 't' then isTimeOfDay tail
            else isStampBlank c && isTimeOfDay (tail.dropWhile isStampBlank)
      | _ => false
    | _ => false

/-- The words that are truth values, null, the merge key and the default value. -/
def typedWords : List String :=
  ["yes", "Yes", "YES", "no", "No", "NO", "true", "True", "TRUE", "false", "False", "FALSE",
   "on", "On", "ON", "off", "Off", "OFF", "", "~", "null", "Null", "NULL", "<<", "=", "!", "&", "*"]

/-- Whether a plain text would be taken for another type. -/
def readsAsOther (text : List Char) : Bool :=
  typedWords.any (fun w => w.toList == text) || isInteger text || isReal text || isTimestamp text

/-- A character that must be escaped between double quotes and that other quoting cannot
    hold. -/
def isSpecial (c : Char) : Bool := !(c == '\n' || (32 ≤ c.toNat && c.toNat ≤ 126))

/-- Whether an indicator opens a text, so that it cannot be plain. -/
def opensWithIndicator (text : List Char) : Bool :=
  match text with
  | [] => false
  | c :: rest =>
    ("#,[]\x7b\x7d&*!|>%@".toList ++ [singleQuote, doubleQuote, Char.ofNat 96]).contains c
      || ((c == '?' || c == ':' || c == '-') && endsWord rest)
      || "---".toList.isPrefixOf text || "...".toList.isPrefixOf text

/-- Whether an indicator stands inside a text: a colon at the end of a word, or a number
    sign at the start of one. -/
def holdsIndicator : List Char → Bool
  | a :: b :: rest =>
    (b == ':' && endsWord rest) || (b == '#' && isSeparator a) || holdsIndicator (b :: rest)
  | _ => false

/-- Whether a character of one class stands right before one of another. -/
def holdsPair (p q : Char → Bool) : List Char → Bool
  | a :: b :: rest => (p a && q b) || holdsPair p q (b :: rest)
  | _ => false

/-- Whether a text begins or ends with a space or a break. -/
def hasOuterSpace (text : List Char) : Bool :=
  let outer (c : Option Char) : Bool :=
    match c with
    | some c => c == ' ' || isBreak c
    | none => false
  outer text.head? || outer text.getLast?

/-- Whether single quotes can hold a text. -/
def allowsSingle (text : List Char) : Bool :=
  !(text.any isSpecial || holdsPair isBreak (· == ' ') text || holdsPair (· == ' ') isBreak text)

/-- Whether a text can be written plain. -/
def allowsPlain (text : List Char) : Bool :=
  allowsSingle text && !text.any isBreak && !hasOuterSpace text && !opensWithIndicator text
    && !holdsIndicator text
    && !readsAsOther text

/-- The column past which a text is folded. -/
def foldColumn : Nat := 80

/-- A new line with an indentation. -/
def newLine (indent : Nat) : List Char := '\n' :: List.replicate indent ' '

/-- Whether a text begins with a space. -/
def startsSpace (text : List Char) : Bool := text.head? == some ' '

/-- A plain text from a column on; `afterSpace` says that a space stands before it. -/
def writePlain (indent : Nat) : Nat → Bool → List Char → List Char
  | _, _, [] => []
  | column, afterSpace, c :: rest =>
    if c == ' ' && !afterSpace && !startsSpace rest && foldColumn < column then
      newLine indent ++ writePlain indent indent true rest
    else c :: writePlain indent (column + 1) (c == ' ') rest

/-- The rest of a single-quoted text; `inside` says that it is not at its first
    character. -/
def writeSingle (indent : Nat) : Nat → Bool → Bool → List Char → List Char
  | _, _, _, [] => [singleQuote]
  | column, inside, afterSpace, c :: rest =>
    if c == ' ' && inside && !rest.isEmpty && !afterSpace && !startsSpace rest
      && foldColumn < column then
      newLine indent ++ writeSingle indent indent true true rest
    else if c == '\n' then
      if rest.head? == some '\n' then '\n' :: writeSingle indent column true false rest
      else '\n' :: (newLine indent ++ writeSingle indent indent true false rest)
    else if c == singleQuote then
      singleQuote :: singleQuote :: writeSingle indent (column + 2) true false rest
    else c :: writeSingle indent (column + 1) true (c == ' ') rest

/-- The characters with short escapes between double quotes. -/
def shortEscapes : List (Nat × Char) :=
  [(0, '0'), (7, 'a'), (8, 'b'), (9, 't'), (10, 'n'), (11, 'v'), (12, 'f'), (13, 'r'),
   (27, 'e'), (34, doubleQuote), (92, backslash), (0x85, 'N'), (0xA0, '_'), (0x2028, 'L'),
   (0x2029, 'P')]

/-- The escape of a character between double quotes, if it needs one. -/
def escape? (c : Char) : Option (List Char) :=
  let n := c.toNat
  match shortEscapes.find? (fun e => e.1 == n) with
  | some e => some [backslash, e.2]
  | none =>
    if 32 ≤ n && n ≤ 126 then none
    else if n ≤ 0xFF then some (backslash :: 'x' :: hexDigits true 2 n)
    else if n ≤ 0xFFFF then some (backslash :: 'u' :: hexDigits true 4 n)
    else some (backslash :: 'U' :: hexDigits true 8 n)

/-- The rest of a double-quoted text. A fold is a backslash at the end of the line; a
    space that follows it is escaped. Behind an escape there is room for one more
    character before the fold. `pending` says that characters were written since the last
    escape. -/
def writeDouble (indent : Nat) : Nat → Bool → Bool → List Char → List Char
  | _, _, _, [] => [doubleQuote]
  | column, inside, pending, c :: rest =>
    let mayFold := inside && !rest.isEmpty
    match escape? c with
    | some e =>
      let column := column + e.length
      if mayFold && foldColumn + 1 < column then
        let bar := if startsSpace rest then [backslash] else []
        e ++ [backslash] ++ newLine indent ++ bar
          ++ writeDouble indent (indent + bar.length) true false rest
      else e ++ writeDouble indent column true false rest
    | none =>
      if mayFold && (c == ' ' || !pending) && foldColumn < column then
        let bar := if c == ' ' then [backslash] else []
        [backslash] ++ newLine indent ++ bar
          ++ c :: writeDouble indent (indent + bar.length + 1) true true rest
      else c :: writeDouble indent (column + 1) true true rest

/-- A text from a column on, with the indentation of its further lines. -/
def writeScalar (indent column : Nat) (text : List Char) : List Char :=
  if allowsPlain text then writePlain indent column false text
  else if allowsSingle text then singleQuote :: writeSingle indent (column + 1) false false text
  else doubleQuote :: writeDouble indent (column + 1) false false text

end Yaml

/-! ## YAML documents

    Documents in block style: a member or an item to a line, two spaces to a level, and
    the items of a sequence as far in as the name of their member. An empty mapping is
    written in braces. -/

/-- A document: a text, a word that is written as it stands, a sequence or a mapping. -/
inductive Yaml where
  | text (s : String)
  | word (w : String)
  | items (xs : List Yaml)
  | members (ms : List (String × Yaml))

namespace Yaml

mutual

/-- A value behind a name or a dash that ends before `column`; a mapping in it stands at
    `indent`. -/
def writeValue (indent column : Nat) : Yaml → List Char
  | text s => ' ' :: writeScalar indent (column + 1) s.toList
  | word w => ' ' :: w.toList
  | items xs => writeItems (indent - 2) xs
  | members [] => " \x7b\x7d".toList
  | members (m :: ms) => writeMembers indent (m :: ms)

/-- The members of a mapping, each on a new line. -/
def writeMembers (indent : Nat) : List (String × Yaml) → List Char
  | [] => []
  | (name, value) :: rest =>
    newLine indent
      ++ (name.toList ++ ':' :: writeValue (indent + 2) (indent + name.length + 1) value)
      ++ writeMembers indent rest

/-- The items of a sequence, each on a new line; the first member of a mapping stands
    behind the dash. -/
def writeItems (indent : Nat) : List Yaml → List Char
  | [] => []
  | members ((name, value) :: ms) :: rest =>
    newLine indent ++ ('-' :: ' ' :: name.toList
      ++ ':' :: writeValue (indent + 4) (indent + 2 + name.length + 1) value)
      ++ writeMembers (indent + 2) ms ++ writeItems indent rest
  | value :: rest =>
    newLine indent ++ ('-' :: writeValue (indent + 2) (indent + 1) value) ++ writeItems indent rest

end

/-- A document with its final line break. -/
def render (document : Yaml) : String :=
  match document with
  | members ms => String.ofList ((writeMembers 0 ms).drop 1 ++ ['\n'])
  | other => String.ofList ((writeValue 0 0 other).drop 1 ++ ['\n'])

end Yaml

end NodeCapture
