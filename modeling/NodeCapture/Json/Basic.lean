import NodeCapture.Number

/-!
# JSON values

    Whole numbers and real numbers are apart, as their texts are. An object keeps its
    members in the order in which their names first came.
-/

namespace NodeCapture

/-- A JSON value. -/
inductive Json where
  | null
  | bool (b : Bool)
  | int (n : Int)
  | real (x : Binary64)
  | string (s : String)
  | array (items : List Json)
  | object (members : List (String × Json))

namespace Json

/-- The value of a name among members. -/
def lookup? (name : String) : List (String × Json) → Option Json
  | [] => none
  | (key, value) :: rest => if key = name then some value else lookup? name rest

/-- Sets a member: in its place if the name is there, else at the end. -/
def setMember (name : String) (value : Json) : List (String × Json) → List (String × Json)
  | [] => [(name, value)]
  | (key, old) :: rest =>
    if key = name then (name, value) :: rest else (key, old) :: setMember name value rest

/-- The members of a list of names and values, where the last value of a name stands. -/
def membersOf (items : List (String × Json)) : List (String × Json) :=
  items.foldl (fun members item => setMember item.1 item.2 members) []

/-- The member of an object. -/
def get? (name : String) : Json → Option Json
  | object members => lookup? name members
  | _ => none

/-- The word for the kind of a value. -/
def kindWord : Json → String
  | null => "NoneType"
  | bool _ => "bool"
  | int _ => "int"
  | real _ => "float"
  | string _ => "str"
  | array _ => "list"
  | object _ => "dict"

/-- Whether a value counts as true: neither null nor empty nor zero nor false. -/
def isTruthy : Json → Bool
  | .null => false
  | .bool b => b
  | .int n => n != 0
  | .real x => !x.isZero
  | .string s => !s.isEmpty
  | .array items => !items.isEmpty
  | .object members => !members.isEmpty

/-- A text, or null where there is none. -/
def ofText? : Option String → Json
  | some s => string s
  | none => null

/-- A list of texts. -/
def ofTexts (items : List String) : Json := array (items.map string)

end Json

/-! ## Taking JSON values apart

    What a value holds, read without complaint: a member that is absent counts as null,
    and a value of another kind as an empty one. -/

namespace Json

/-- A member, or null. -/
def field (name : String) (j : Json) : Json := (j.get? name).getD null

/-- The text that a value is. -/
def text? : Json → Option String
  | string s => some s
  | _ => none

/-- The text that a value is, or an empty one. -/
def toText (j : Json) : String := j.text?.getD ""

/-- A text member, or an empty text. -/
def textAt (name : String) (j : Json) : String := (j.field name).toText

/-- A text member. -/
def textAt? (name : String) (j : Json) : Option String := (j.field name).text?

/-- The whole number that a value is or stands for, or zero. -/
def toInt : Json → Int
  | int n => n
  | bool b => if b then 1 else 0
  | real x => x.toInt?.getD 0
  | _ => 0

/-- The whole number that a value stands for, if it is not null. -/
def int? : Json → Option Int
  | null => none
  | j => some j.toInt

/-- A number member. -/
def intAt? (name : String) (j : Json) : Option Int := (j.field name).int?

/-- Whether a value is the word for truth. -/
def isTrue : Json → Bool
  | bool b => b
  | _ => false

/-- Whether a member is the word for truth. -/
def isTrueAt (name : String) (j : Json) : Bool := (j.field name).isTrue

/-- The items of a value. -/
def items : Json → List Json
  | array items => items
  | _ => []

/-- The items of a member. -/
def itemsAt (name : String) (j : Json) : List Json := (j.field name).items

/-- The texts that a member lists. -/
def textsAt (name : String) (j : Json) : List String := (j.itemsAt name).map toText

/-- The members of a value. -/
def members : Json → List (String × Json)
  | object ms => ms
  | _ => []

end Json

end NodeCapture
