import NodeCapture.Json.Basic
import NodeCapture.Number
import NodeCapture.Text.Quoted

/-!
# Checking JSON against types

    A check turns a JSON value into a value of a type or lists all the issues that it
    finds, each with the path to its place. Checks are lenient: truth values are also
    read from numbers and words, whole numbers also from texts, truth values and real
    numbers without a fraction.
-/

namespace NodeCapture

/-- What is wrong with a value. -/
inductive IssueCause where
  | missing
  | notText
  | notBool
  | unclearBool
  | notInteger
  | unclearInteger
  | fractional
  | notFinite
  | integerTooLong
  | notList
  | notRecord (title : String)
  | notBody
  | badCaptureName
  | notOneOf (names : List String)
  | notJson
  deriving DecidableEq

/-- A step of a path: a field, or a place in a list. -/
inductive PathStep where
  | field (name : String)
  | place (index : Nat)
  deriving DecidableEq

/-- Something wrong, and the path to its place. -/
structure Issue where
  cause : IssueCause
  path : List PathStep
  deriving DecidableEq

namespace IssueCause

/-- The code of a cause. -/
def code : IssueCause → String
  | missing => "missing"
  | notText => "string_type"
  | notBool => "bool_type"
  | unclearBool => "bool_parsing"
  | notInteger => "int_type"
  | unclearInteger => "int_parsing"
  | fractional => "int_from_float"
  | notFinite => "finite_number"
  | integerTooLong => "int_parsing_size"
  | notList => "list_type"
  | notRecord _ => "model_type"
  | notBody => "model_attributes_type"
  | badCaptureName => "string_pattern_mismatch"
  | notOneOf _ => "enum"
  | notJson => "json_invalid"

/-- The pattern of capture names as messages show it. -/
def captureNamePattern : String := "^[A-Za-z0-9._-]+$"

/-- Names between quotes, with commas and a last "or". -/
def choices (names : List String) : String :=
  let quotes := names.map (fun n => "'" ++ n ++ "'")
  match quotes.reverse with
  | [] => ""
  | [one] => one
  | last :: others => String.intercalate ", " others.reverse ++ " or " ++ last

/-- The wording of a cause. -/
def message : IssueCause → String
  | missing => "Field required"
  | notText => "Input should be a valid string"
  | notBool => "Input should be a valid boolean"
  | unclearBool => "Input should be a valid boolean, unable to interpret input"
  | notInteger => "Input should be a valid integer"
  | unclearInteger => "Input should be a valid integer, unable to parse string as an integer"
  | fractional => "Input should be a valid integer, got a number with a fractional part"
  | notFinite => "Input should be a finite number"
  | integerTooLong => "Unable to parse input string as an integer, exceeded maximum size"
  | notList => "Input should be a valid list"
  | notRecord title => "Input should be a valid dictionary or instance of " ++ title
  | notBody => "Input should be a valid dictionary or object to extract fields from"
  | badCaptureName => "String should match pattern '" ++ captureNamePattern ++ "'"
  | notOneOf names => "Input should be " ++ choices names
  | notJson => "JSON decode error"

end IssueCause

/-- A value, or all that is wrong with it. -/
abbrev Checked (α : Type) := Except (List Issue) α

namespace Checked

variable {α β : Type}

/-- One issue at the place itself. -/
def issue (cause : IssueCause) : Checked α := .error [⟨cause, []⟩]

/-- Puts a step in front of the paths of all issues. -/
def under (step : PathStep) : Checked α → Checked α
  | .ok a => .ok a
  | .error issues => .error (issues.map (fun i => { i with path := step :: i.path }))

/-- Applies a function to a checked value. -/
def map (f : α → β) : Checked α → Checked β
  | .ok a => .ok (f a)
  | .error issues => .error issues

/-- Applies a checked function to a checked value; the issues of both are listed. -/
def apply (f : Checked (α → β)) (a : Checked α) : Checked β :=
  match f, a with
  | .ok f, .ok a => .ok (f a)
  | .ok _, .error issues => .error issues
  | .error issues, .ok _ => .error issues
  | .error issues, .error more => .error (issues ++ more)

end Checked

namespace Check

variable {α : Type}

/-- A text. -/
def text : Json → Checked String
  | .string s => .ok s
  | _ => .issue .notText

/-- A value or null. -/
def optional (check : Json → Checked α) : Json → Checked (Option α)
  | .null => .ok none
  | value => (check value).map some

/-- The words for yes. -/
def trueWords : List String := ["1", "on", "t", "true", "y", "yes"]

/-- The words for no. -/
def falseWords : List String := ["0", "off", "f", "false", "n", "no"]

/-- A truth value from a word in any case. -/
def boolOfText (s : String) : Checked Bool :=
  let word := s.toList.map asciiLower
  if trueWords.any (fun w => w.toList == word) then .ok true
  else if falseWords.any (fun w => w.toList == word) then .ok false
  else .issue .unclearBool

/-- The least whole number that is too great for 64 bits: two to the power of 63. -/
def wordLimit : Int := 9223372036854775808

/-- Whether a whole number has 64 bits. -/
def isWord64 (n : Int) : Bool := -wordLimit ≤ n && n < wordLimit

/-- A whole number from a real one. -/
def intOfReal (x : Binary64) : Checked Int :=
  match x with
  | .finite .. =>
    match x.toInt? with
    | some n => if -wordLimit < n && n < wordLimit then .ok n else .issue .integerTooLong
    | none => .issue .fractional
  | _ => .issue .notFinite

/-- A truth value from a whole number. -/
def boolOfInt (n : Int) : Checked Bool :=
  if n = 0 then .ok false
  else if n = 1 then .ok true
  else if isWord64 n then .issue .unclearBool
  else .issue .notBool

/-- A truth value. -/
def bool : Json → Checked Bool
  | .bool b => .ok b
  | .string s => boolOfText s
  | .int n => boolOfInt n
  | .real x =>
    match intOfReal x with
    | .ok n => boolOfInt n
    | .error _ => .issue .notBool
  | _ => .issue .notBool

/-- Reads a numeral: a minus sign, if there is one, and zero or digits of which the first
    is not zero. -/
def readNumeral (text : List Char) : Except IssueCause Int :=
  let (negative, body) := match text with
    | '-' :: rest => (true, rest)
    | _ => (false, text)
  let digits := body.takeWhile Char.isDigit
  let size := digits.length + (if negative then 1 else 0)
  match digits with
  | [] => .error .unclearInteger
  | '0' :: _ => if body == ['0'] then .ok 0 else .error .unclearInteger
  | _ =>
    if numeralDigitLimit < size then .error .integerTooLong
    else if digits.length == body.length then
      let n : Int := ofDigits (digits.filterMap digitValue?)
      .ok (if negative then -n else n)
    else .error .unclearInteger

/-- Drops the zeros in front of a number, and underscores among them; where no other digit
    follows, the last character of them stays. Nothing is dropped behind a minus sign. -/
def dropLeadingZeros (text : List Char) : Option (List Char) :=
  let isZeroOrLine (c : Char) : Bool := c == '0' || c == '_'
  let startsNumber (c : Char) : Bool := c.isDigit && c != '0'
  match text with
  | '0' :: rest =>
    let last := ('0' :: rest.takeWhile isZeroOrLine).getLast?.toList
    match rest.dropWhile isZeroOrLine with
    | [] => some last
    | '.' :: fraction => some (last ++ '.' :: fraction)
    | c :: more => if startsNumber c then some (c :: more) else none
  | c :: more => if startsNumber c || c == '-' then some (c :: more) else none
  | [] => none

/-- Drops a fraction of zeros. -/
def dropZeroFraction (text : List Char) : List Char :=
  match text.dropWhile (· != '.') with
  | _ :: d :: ds => if (d :: ds).all (· == '0') then text.takeWhile (· != '.') else text
  | _ => text

/-- Drops underscores that stand alone and inside. -/
def dropUnderscores (text : List Char) : List Char :=
  let parts := text.splitOn '_'
  if parts.all (fun part => !part.isEmpty) then parts.flatten else text

/-- A text as a numeral, if it can be tidied to one: without the white space around it, a
    plus sign, zeros in front, a fraction of zeros, and underscores. -/
def tidyNumeral (text : List Char) : Option (List Char) :=
  let unsigned := match trim isWhiteSpace text with
    | '+' :: '-' :: _ => none
    | '+' :: rest => some rest
    | trimmed => some trimmed
  (unsigned.bind dropLeadingZeros).map (fun digits => dropUnderscores (dropZeroFraction digits))

/-- The numeral that a text is or can be tidied to. -/
def numeralOfText (text : List Char) : Except IssueCause Int :=
  match readNumeral text with
  | .error .unclearInteger =>
    match tidyNumeral text with
    | some numeral => readNumeral numeral
    | none => .error .unclearInteger
  | result => result

/-- A whole number from a text. -/
def intOfText (s : String) : Checked Int :=
  match numeralOfText s.toList with
  | .ok n => .ok n
  | .error cause => .issue cause

/-- A whole number. -/
def int : Json → Checked Int
  | .int n => .ok n
  | .bool b => .ok (if b then 1 else 0)
  | .string s => intOfText s
  | .real x => intOfReal x
  | _ => .issue .notInteger

/-- A value of a type with names. -/
def named (α : Type) [Named α] : Json → Checked α
  | .string s =>
    match (Named.find? s : Option α) with
    | some v => .ok v
    | none => .issue (.notOneOf ((Named.values : List α).map Named.name))
  | _ => .issue (.notOneOf ((Named.values : List α).map Named.name))

/-- The items of a list from a place on. -/
def items (check : Json → Checked α) : Nat → List Json → Checked (List α)
  | _, [] => .ok []
  | index, value :: rest =>
    ((check value).under (.place index) |>.map (fun a as => a :: as)).apply
      (items check (index + 1) rest)

/-- A list. -/
def list (check : Json → Checked α) : Json → Checked (List α)
  | .array values => items check 0 values
  | _ => .issue .notList

/-- A field that must be there. -/
def required (name : String) (check : Json → Checked α) (members : List (String × Json)) :
    Checked α :=
  Checked.under (.field name) <|
    match Json.lookup? name members with
    | some value => check value
    | none => .issue .missing

/-- A field that may be absent. -/
def withDefault (name : String) (check : Json → Checked α) (default : α)
    (members : List (String × Json)) : Checked α :=
  Checked.under (.field name) <|
    match Json.lookup? name members with
    | some value => check value
    | none => .ok default

/-- A record, of which the members are checked; anything else has one issue. -/
def record (otherwise : IssueCause) (check : List (String × Json) → Checked α) : Json → Checked α
  | .object members => check members
  | _ => .issue otherwise

end Check

/-- Values that were refused: the title of their type and what is wrong with them. -/
structure ValidationError where
  title : String
  issues : List Issue
  deriving DecidableEq

/-- Names the type that a check is for. -/
def Checked.titled {α : Type} (title : String) : Checked α → Except ValidationError α
  | .ok a => .ok a
  | .error issues => .error ⟨title, issues⟩

/-- The text of a step of a path. -/
def PathStep.text : PathStep → String
  | field name => name
  | place index => integerText index

/-- The first two lines of the report of an error: how many issues there are, and the path
    of the first. -/
def ValidationError.summary (e : ValidationError) : List String :=
  let count := e.issues.length
  [integerText count ++ " validation error" ++ (if count == 1 then "" else "s")
      ++ " for " ++ e.title,
    String.intercalate "." (((e.issues.head?.map Issue.path).getD []).map PathStep.text)]

end NodeCapture
