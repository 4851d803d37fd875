/-!
# Blanks, lines and numerals

    What all readers of texts share: which characters are blank, where lines end, and
    how whole numbers are written.
-/

namespace NodeCapture

/-! ## Blank characters

    Two sets of blanks. White space is the Unicode property of that name; numerals are
    trimmed by it. Output text is trimmed and cut into words by the blanks, which are
    white space and the four information separators. -/

/-- The Unicode property White_Space. -/
def isWhiteSpace (c : Char) : Bool :=
  let n := c.toNat
  (9 ≤ n && n ≤ 13) || n == 32 || n == 0x85 || n == 0xA0 || n == 0x1680
    || (0x2000 ≤ n && n ≤ 0x200A)
    || n == 0x2028 || n == 0x2029 || n == 0x202F || n == 0x205F || n == 0x3000

/-- White space, or one of the information separators U+001C to U+001F. -/
def isBlank (c : Char) : Bool :=
  isWhiteSpace c || (0x1C ≤ c.toNat && c.toNat ≤ 0x1F)

/-- Drops the characters of a set from both ends. -/
def trim (drop : Char → Bool) (text : List Char) : List Char :=
  ((text.dropWhile drop).reverse.dropWhile drop).reverse

/-- Drops the blanks from both ends. -/
def strip (text : List Char) : List Char := trim isBlank text

/-- The first `n` words of a text, and after them the rest of the text from its next word
    on. -/
def splitWords : Nat → List Char → List (List Char)
  | n, text =>
    match text.dropWhile isBlank with
    | [] => []
    | c :: rest =>
      match n with
      | 0 => [c :: rest]
      | n + 1 =>
        (c :: rest).takeWhile (fun x => !isBlank x) :: splitWords n
          ((c :: rest).dropWhile (fun x => !isBlank x))

/-! ## Lines of output

    A text is cut at every line boundary: line feed, carriage return (with a following
    line feed they are one), the vertical tabulator, form feed, three of the information
    separators, next line, and the two Unicode separators. The records of a listing are
    its stripped lines that are not empty. What goes to a screen keeps its characters,
    except that a carriage return in front of a line feed is left out. -/

/-- A character that ends a line. -/
def isLineBoundary (c : Char) : Bool :=
  let n := c.toNat
  (10 ≤ n && n ≤ 13) || (0x1C ≤ n && n ≤ 0x1E) || n == 0x85 || n == 0x2028 || n == 0x2029

/-- The lines of a text without their boundaries; a boundary at the end opens no further
    line. -/
def splitLines : List Char → List (List Char)
  | [] => []
  | '\r' :: '\n' :: rest => [] :: splitLines rest
  | c :: rest =>
    if isLineBoundary c then [] :: splitLines rest
    else match splitLines rest with
      | [] => [[c]]
      | line :: lines => (c :: line) :: lines

/-- The stripped lines of a listing that hold something. -/
def recordLines (output : List Char) : List (List Char) :=
  ((splitLines (strip output)).map strip).filter (fun line => !line.isEmpty)

/-- A text where each carriage return in front of a line feed is left out. -/
def withLineFeeds : List Char → List Char
  | [] => []
  | '\r' :: '\n' :: rest => '\n' :: withLineFeeds rest
  | c :: rest => c :: withLineFeeds rest

/-! ## Decimal digits and numerals

    A decimal digit is a character of the general category Nd; its blocks of ten start
    at zero. Digit symbols are the decimal digits and the superscripts, subscripts and
    circled forms, which have a digit value but write no numeral. A numeral is a sign
    and decimal digits with single underscores between digits, with white space around
    it. -/

/-- Blocks of ten decimal digits, each from its zero. -/
def decimalRanges : List (Nat × Nat) := [
  (48, 57), (1632, 1641), (1776, 1785), (1984, 1993), (2406, 2415), (2534, 2543), (2662, 2671),
  (2790, 2799), (2918, 2927), (3046, 3055), (3174, 3183), (3302, 3311), (3430, 3439), (3558, 3567),
  (3664, 3673), (3792, 3801), (3872, 3881), (4160, 4169), (4240, 4249), (6112, 6121), (6160, 6169),
  (6470, 6479), (6608, 6617), (6784, 6793), (6800, 6809), (6992, 7001), (7088, 7097), (7232, 7241),
  (7248, 7257), (42528, 42537), (43216, 43225), (43264, 43273), (43472, 43481), (43504, 43513),
  (43600, 43609), (44016, 44025), (65296, 65305), (66720, 66729), (68912, 68921),
  (69734, 69743), (69872, 69881), (69942, 69951), (70096, 70105), (70384, 70393),
  (70736, 70745), (70864, 70873), (71248, 71257), (71360, 71369), (71472, 71481),
  (71904, 71913), (72016, 72025), (72784, 72793), (73040, 73049), (73120, 73129),
  (92768, 92777), (92864, 92873), (93008, 93017), (120782, 120831), (123200, 123209),
  (123632, 123641), (125264, 125273), (130032, 130041)]

/-- Digit symbols that are not decimal digits. -/
def digitSymbolRanges : List (Nat × Nat) := [
  (178, 179), (185, 185), (4969, 4977), (6618, 6618), (8304, 8304), (8308, 8313), (8320, 8329),
  (9312, 9320), (9332, 9340), (9352, 9360), (9450, 9450), (9461, 9469), (9471, 9471),
  (10102, 10110), (10112, 10120), (10122, 10130), (68160, 68163), (69216, 69224),
  (69714, 69722), (127232, 127242)]

/-- Whether a code point lies in one of some ranges. -/
def inRanges (ranges : List (Nat × Nat)) (n : Nat) : Bool :=
  ranges.any (fun r => r.1 ≤ n && n ≤ r.2)

/-- The value of a decimal digit. -/
def digitValue? (c : Char) : Option Nat :=
  match decimalRanges.find? (fun r => r.1 ≤ c.toNat && c.toNat ≤ r.2) with
  | some r => some ((c.toNat - r.1) % 10)
  | none => none

/-- A decimal digit of any script. -/
def isDecimal (c : Char) : Bool := (digitValue? c).isSome

/-- A decimal digit, or a symbol with a digit value. -/
def isDigitSymbol (c : Char) : Bool := isDecimal c || inRanges digitSymbolRanges c.toNat

/-- A text of digit symbols, at least one. -/
def allDigitSymbols (text : List Char) : Bool := !text.isEmpty && text.all isDigitSymbol

/-- The number that a list of digit values writes. -/
def ofDigits (digits : List Nat) : Nat := digits.foldl (fun n d => 10 * n + d) 0

/-- Why a text is no numeral. -/
inductive NumeralError where
  | malformed
  | tooLong (digits : Nat)
  deriving DecidableEq

/-- The most digits that a numeral may have. -/
def numeralDigitLimit : Nat := 4300

/-- The digit values at the head of a text, where an underscore may stand between two
    digits, and what follows them. Nothing is read where an underscore stands
    elsewhere. -/
def takeDigits (afterDigit : Bool) : List Char → Option (List Nat × List Char)
  | [] => some ([], [])
  | c :: rest =>
    match digitValue? c with
    | some d => (takeDigits true rest).map (fun (ds, tail) => (d :: ds, tail))
    | none =>
      if c == '_' then
        match afterDigit, rest with
        | true, c' :: _ =>
          if isDecimal c' then takeDigits false rest else none
        | _, _ => none
      else some ([], c :: rest)

/-- Takes a sign off the head of a text: whether it is a minus, and the rest. -/
def takeSign : List Char → Bool × List Char
  | '-' :: rest => (true, rest)
  | '+' :: rest => (false, rest)
  | text => (false, text)

/-- Reads a whole number. A run of digits past the limit is reported before anything that
    follows it. -/
def readInteger (text : List Char) : Except NumeralError Int :=
  let (negative, body) := takeSign (trim isWhiteSpace text)
  match takeDigits false body with
  | some (d :: ds, rest) =>
    if numeralDigitLimit < (d :: ds).length then .error (.tooLong (d :: ds).length)
    else if rest.isEmpty then
      .ok (if negative then -(ofDigits (d :: ds) : Int) else ofDigits (d :: ds))
    else .error .malformed
  | _ => .error .malformed

/-- The ASCII digit of a value below ten. -/
def digitChar (d : Nat) : Char := Char.ofNat (48 + d)

/-- A number in decimal, without leading zeros. -/
def decimalChars (n : Nat) : List Char :=
  if n < 10 then [digitChar n] else decimalChars (n / 10) ++ [digitChar (n % 10)]
termination_by n
decreasing_by omega

/-- A whole number in decimal, with a minus where it is negative. -/
def integerChars : Int → List Char
  | .ofNat n => decimalChars n
  | .negSucc n => '-' :: decimalChars (n + 1)

/-- A whole number in decimal, with a minus where it is negative. -/
def integerText (n : Int) : String := String.ofList (integerChars n)

end NodeCapture
