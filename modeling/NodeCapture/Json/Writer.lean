import NodeCapture.Json.Basic
import NodeCapture.Number
import NodeCapture.Text.Quoted

/-!
# Writing JSON

    Text in ASCII alone, either on one line or with one member to a line and two spaces
    to a level. Characters past the Basic Multilingual Plane are written as surrogate
    pairs.
-/

namespace NodeCapture

namespace Json

/-- The escape of a code unit. -/
def unitEscape (n : Nat) : List Char := backslash :: 'u' :: hexDigits false 4 n

/-- One character inside a string. -/
def stringChar (c : Char) : List Char :=
  let n := c.toNat
  if c == doubleQuote || c == backslash then [backslash, c]
  else if c == '\n' then [backslash, 'n']
  else if c == '\r' then [backslash, 'r']
  else if c == '\t' then [backslash, 't']
  else if n == 8 then [backslash, 'b']
  else if n == 12 then [backslash, 'f']
  else if 32 ≤ n && n < 127 then [c]
  else if n < 0x10000 then unitEscape n
  else unitEscape (0xD800 + (n - 0x10000) / 0x400) ++ unitEscape (0xDC00 + (n - 0x10000) % 0x400)

/-- A string between its quotes. -/
def writeString (s : String) : String :=
  String.ofList (doubleQuote :: (s.toList.flatMap stringChar ++ [doubleQuote]))

/-- A value that holds no other. -/
def writeScalar : Json → String
  | null => "null"
  | bool true => "true"
  | bool false => "false"
  | int n => integerText n
  | real .notANumber => "NaN"
  | real (.infinite false) => "Infinity"
  | real (.infinite true) => "-Infinity"
  | real x => x.shortest
  | string s => writeString s
  | array _ => "[]"
  | object _ => "\x7b\x7d"

mutual

/-- A value on one line. -/
def compact : Json → String
  | array items => "[" ++ String.intercalate ", " (compactItems items) ++ "]"
  | object members => "\x7b" ++ String.intercalate ", " (compactMembers members) ++ "\x7d"
  | value => writeScalar value

/-- The items of an array on one line. -/
def compactItems : List Json → List String
  | [] => []
  | item :: rest => compact item :: compactItems rest

/-- The members of an object on one line. -/
def compactMembers : List (String × Json) → List String
  | [] => []
  | (name, value) :: rest => (writeString name ++ ": " ++ compact value) :: compactMembers rest

end

/-- A line break and the spaces of a level. -/
def newLine (level : Nat) : String := String.ofList ('\n' :: List.replicate (2 * level) ' ')

mutual

/-- A value with one item or member to a line, at a level. -/
def indented (level : Nat) : Json → String
  | array (item :: rest) =>
    "[" ++ newLine (level + 1)
      ++ String.intercalate ("," ++ newLine (level + 1)) (indentedItems (level + 1) (item :: rest))
      ++ newLine level ++ "]"
  | object (member :: rest) =>
    "\x7b" ++ newLine (level + 1)
      ++ String.intercalate ("," ++ newLine (level + 1))
        (indentedMembers (level + 1) (member :: rest))
      ++ newLine level ++ "\x7d"
  | value => writeScalar value

/-- The items of an array at a level. -/
def indentedItems (level : Nat) : List Json → List String
  | [] => []
  | item :: rest => indented level item :: indentedItems level rest

/-- The members of an object at a level. -/
def indentedMembers (level : Nat) : List (String × Json) → List String
  | [] => []
  | (name, value) :: rest =>
    (writeString name ++ ": " ++ indented level value) :: indentedMembers level rest

end

end Json

/-! ## JSON values in messages

    Messages show values by words that begin with a capital letter, and texts between
    quotes except where a text stands alone. -/

namespace Json

mutual

/-- A value as messages show it: words begin with a capital letter and texts stand between
    quotes. -/
def shown : Json → String
  | null => "None"
  | bool b => if b then "True" else "False"
  | int n => integerText n
  | real x => x.shortest
  | string s => quoted s
  | array items => "[" ++ String.intercalate ", " (shownItems items) ++ "]"
  | object members => "\x7b" ++ String.intercalate ", " (shownMembers members) ++ "\x7d"

/-- The items of an array as messages show them. -/
def shownItems : List Json → List String
  | [] => []
  | item :: rest => shown item :: shownItems rest

/-- The members of an object as messages show them. -/
def shownMembers : List (String × Json) → List String
  | [] => []
  | (name, value) :: rest => (quoted name ++ ": " ++ shown value) :: shownMembers rest

end

/-- A value inside a message: a text as it is. -/
def inMessage : Json → String
  | string s => s
  | value => shown value

end Json

end NodeCapture
