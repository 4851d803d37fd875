import NodeCapture.Text.Basic
import NodeCapture.Text.Quoted

/-!
# Floating point numbers

    The numbers of the binary64 format as exact data, the two texts in which they are
    written, and how numbers are read.
-/

namespace NodeCapture

/-! ## Binary floating point numbers

    The numbers of the binary64 format as exact data: a significand below `2 ^ 53` and
    an exponent of two of at least `-1074`. A quotient is rounded to the nearest such
    number, a tie to the even significand, in whole arithmetic. -/

/-- A binary64 number. A finite one is `significand * 2 ^ exponent`. -/
inductive Binary64 where
  | finite (negative : Bool) (significand : Nat) (exponent : Int)
  | infinite (negative : Bool)
  | notANumber
  deriving DecidableEq

/-- The least exponent of two. -/
def leastExponent : Int := -1074

/-- The greatest exponent of two. -/
def greatestExponent : Int := 971

/-- The quotient of two numbers divided by a power of a base, as numerator and
    denominator. -/
def scaleDown (base num den : Nat) (power : Int) : Nat × Nat :=
  if 0 ≤ power then (num, den * Nat.pow base power.toNat)
  else (num * Nat.pow base (-power).toNat, den)

/-- A quotient rounded to the nearest whole number, a tie to the even one. -/
def roundQuotient (num den : Nat) : Nat :=
  let q := num / den
  let r := num % den
  if den < 2 * r || (2 * r == den && q % 2 == 1) then q + 1 else q

namespace Binary64

/-- Zero with a sign. -/
def zero (negative : Bool) : Binary64 := .finite negative 0 leastExponent

/-- The exponent that gives a positive quotient a significand of 53 bits, or the least
    exponent if that is greater. -/
def fittingExponent (num den : Nat) : Int :=
  let guess : Int := (num.log2 : Int) - den.log2 - 52
  let (n, d) := scaleDown 2 num den guess
  max leastExponent (if n < d * Nat.pow 2 52 then guess - 1 else guess)

/-- The number nearest to a quotient. -/
def ofQuotient (negative : Bool) (num den : Nat) : Binary64 :=
  if num == 0 then zero negative
  else
    let exponent := fittingExponent num den
    let (n, d) := scaleDown 2 num den exponent
    let q := roundQuotient n d
    let (q, exponent) := if q == Nat.pow 2 53 then (Nat.pow 2 52, exponent + 1) else (q, exponent)
    if greatestExponent < exponent then .infinite negative else .finite negative q exponent

/-- The number nearest to `digits * 10 ^ power`. Powers far outside the range of the
    format are not expanded. -/
def ofDecimal (negative : Bool) (digits : Nat) (power : Int) : Binary64 :=
  let magnitude : Int := (decimalChars digits).length + power
  if digits == 0 || magnitude < -400 then zero negative
  else if 400 < magnitude then .infinite negative
  else
    let (num, den) := scaleDown 10 digits 1 (-power)
    ofQuotient negative num den

/-- The number nearest to a whole number. -/
def ofInt (n : Int) : Binary64 := ofQuotient (n < 0) n.natAbs 1

/-- The whole number that a number is, if it is one. -/
def toInt? : Binary64 → Option Int
  | .finite negative m e =>
    let (num, den) := scaleDown 2 m 1 (-e)
    if num % den == 0 then
      let n : Int := num / den
      some (if negative then -n else n)
    else none
  | _ => none

/-- Whether a number is zero, of either sign. -/
def isZero : Binary64 → Bool
  | .finite _ m _ => m == 0
  | _ => false

end Binary64

/-! ## Decimal text of binary64 numbers

    Two texts of a number. The shortest one has the fewest digits that read back as the
    number, and of those the nearest to it; it is positional for magnitudes from `10 ^
    -4` to below `10 ^ 16` and always shows a fraction or an exponent. The general one
    rounds to six digits, drops zeros at the end and is positional below `10 ^ 6`. -/

/-- How digits are laid out: from which power of ten on the exponent is written, and
    whether a whole number keeps a zero after the point. -/
structure DecimalLayout where
  exponentFrom : Int
  keepsPoint : Bool

/-- The layout that reads back as the same kind of number. -/
def shortestLayout : DecimalLayout := ⟨16, true⟩

/-- The layout for people, with six digits. -/
def generalLayout : DecimalLayout := ⟨6, false⟩

/-- The power of ten of the first digit of a positive quotient. -/
def leadingPower (num den : Nat) : Int :=
  let guess : Int := (decimalChars num).length - (decimalChars den).length
  let (n, d) := scaleDown 10 num den guess
  if d ≤ n then guess else guess - 1

/-- Drops the zeros at the end of a list of digits. -/
def dropTrailingZeros (digits : List Char) : List Char :=
  (digits.reverse.dropWhile (· == '0')).reverse

/-- The digits of `n`, zeros at the end dropped, and the power of ten of the first one
    where the last one of `n` has the power `last`. -/
def significantDigits (n : Nat) (last : Int) : List Char × Int :=
  let digits := decimalChars n
  (dropTrailingZeros digits, last + digits.length - 1)

/-- The better of two neighbours on a grid of decimals that reads back as the number. -/
def nearestOnGrid (num den : Nat) (goal : Binary64) (last : Int) : Option (List Char × Int) :=
  let (n, d) := scaleDown 10 num den last
  let lower := n / d
  let upper := lower + 1
  let reads (k : Nat) : Bool := Binary64.ofDecimal false k last == goal
  match reads lower, reads upper with
  | false, false => none
  | true, false => some (significantDigits lower last)
  | false, true => some (significantDigits upper last)
  | true, true => some (significantDigits (roundQuotient n d) last)

/-- The fewest significant digits that read back as a positive number, and the power of
    ten of the first. -/
def shortestDigits (significand : Nat) (exponent : Int) : List Char × Int :=
  let (num, den) := scaleDown 2 significand 1 (-exponent)
  let power := leadingPower num den
  let goal := Binary64.ofQuotient false num den
  ((List.range 17).findSome? (fun (k : Nat) => nearestOnGrid num den goal (power - k))).getD
    (['0'], 0)

/-- A positive number rounded to `count` digits, and the power of ten of the first. -/
def roundedDigits (count significand : Nat) (exponent : Int) : List Char × Int :=
  let (num, den) := scaleDown 2 significand 1 (-exponent)
  let last := leadingPower num den - count + 1
  let (n, d) := scaleDown 10 num den last
  significantDigits (roundQuotient n d) last

/-- The sign and at least two digits of an exponent. -/
def exponentChars (power : Int) : List Char :=
  let digits := decimalChars power.natAbs
  (if power < 0 then '-' else '+') :: (List.replicate (2 - digits.length) '0' ++ digits)

/-- Digits with the power of ten of the first one, laid out. -/
def layOut (layout : DecimalLayout) (digits : List Char) (power : Int) : List Char :=
  if power < -4 || layout.exponentFrom ≤ power then
    let fraction := digits.drop 1
    digits.take 1 ++ (if fraction.isEmpty then [] else '.' :: fraction)
      ++ 'e' :: exponentChars power
  else if power < 0 then '0' :: '.' :: (List.replicate (-power - 1).toNat '0' ++ digits)
  else
    let wholeCount := power.toNat + 1
    let whole := digits.take wholeCount
    let fraction := digits.drop wholeCount
    whole ++ List.replicate (wholeCount - whole.length) '0'
      ++ (if fraction.isEmpty then (if layout.keepsPoint then ['.', '0'] else [])
        else '.' :: fraction)

namespace Binary64

/-- The text of a number from a way to find its digits. -/
def render (layout : DecimalLayout) (digits : Nat → Int → List Char × Int) : Binary64 → List Char
  | .notANumber => "nan".toList
  | .infinite negative => (if negative then "-inf" else "inf").toList
  | .finite negative m e =>
    let (ds, power) := if m == 0 then (['0'], 0) else digits m e
    (if negative then ['-'] else []) ++ layOut layout ds power

/-- The shortest text that reads back as the number. -/
def shortest (x : Binary64) : String := String.ofList (x.render shortestLayout shortestDigits)

/-- The text with six digits. -/
def general (x : Binary64) : String := String.ofList (x.render generalLayout (roundedDigits 6))

end Binary64

/-! ## Reading numbers

    A real number is a sign, digits with an optional fraction and exponent, or the words
    for infinity and not a number, with white space around it. Whole numbers are read in
    `Text.Basic`; here their errors get their wording. -/

/-- The lower case of an ASCII letter. -/
def asciiLower (c : Char) : Char :=
  if 65 ≤ c.toNat && c.toNat ≤ 90 then Char.ofNat (c.toNat + 32) else c

/-- Takes an exponent off the head of a text; without one the power is zero. -/
def takeExponent : List Char → Option (Int × List Char)
  | c :: rest =>
    if c == 'e' || c == 'E' then
      let (negative, body) := takeSign rest
      match takeDigits false body with
      | some (d :: ds, tail) =>
        some (if negative then -(ofDigits (d :: ds) : Int) else ofDigits (d :: ds), tail)
      | _ => none
    else some (0, c :: rest)
  | [] => some (0, [])

/-- Takes a fraction off the head of a text: its digits, none where there is no point. -/
def takeFraction : List Char → Option (List Nat × List Char)
  | '.' :: rest => takeDigits false rest
  | text => some ([], text)

/-- Reads an unsigned decimal with an optional exponent. -/
def readDecimal (negative : Bool) (text : List Char) : Option Binary64 := do
  let (whole, rest) ← takeDigits false text
  let (fraction, rest) ← takeFraction rest
  if whole.isEmpty && fraction.isEmpty then none
  let (power, rest) ← takeExponent rest
  if rest.isEmpty then
    some (Binary64.ofDecimal negative (ofDigits (whole ++ fraction)) (power - fraction.length))
  else none

/-- Reads a real number. -/
def readReal (text : List Char) : Option Binary64 :=
  let (negative, body) := takeSign (trim isWhiteSpace text)
  let word := body.map asciiLower
  if word == "inf".toList || word == "infinity".toList then some (.infinite negative)
  else if word == "nan".toList then some .notANumber
  else readDecimal negative body

/-- Why a text is not the number that was asked for. -/
inductive NumberError where
  | notWhole (text : String)
  | tooLong (digits : Nat)
  | notReal (text : String)
  deriving DecidableEq

/-- The wording of a number error. -/
def NumberError.message : NumberError → String
  | .notWhole text => "invalid literal for int() with base 10: " ++ quoted text
  | .tooLong digits =>
    "Exceeds the limit (" ++ integerText numeralDigitLimit
      ++ " digits) for integer string conversion: value has "
      ++ integerText digits ++ " digits; use sys.set_int_max_str_digits() to increase the limit"
  | .notReal text => "could not convert string to float: " ++ quoted text

/-- Reads a whole number. -/
def readWhole (text : String) : Except NumberError Int :=
  match readInteger text.toList with
  | .ok n => .ok n
  | .error .malformed => .error (.notWhole text)
  | .error (.tooLong digits) => .error (.tooLong digits)

/-- Reads a real number. -/
def readFloat (text : String) : Except NumberError Binary64 :=
  match readReal text.toList with
  | some x => .ok x
  | none => .error (.notReal text)

/-- A length of time in seconds, given as a whole or as a real number. -/
inductive Seconds where
  | whole (n : Int)
  | real (x : Binary64)
  deriving DecidableEq

end NodeCapture
