import NodeCapture.Number
import NodeCapture.System
import NodeCapture.Text.Quoted

/-!
# Options

    A command has options, each with a name and a kind of value. The words of a command
    line give options in any order, a value being the next word or what follows an
    equals sign. An option may be given again; where only one value counts, it is the
    last one. A word of two hyphens ends the options.
-/

namespace NodeCapture

/-- What an option takes: nothing, or a value of a kind. -/
inductive OptionKind where
  | flag
  | text
  | whole
  | real
  | choice (names : List String)
  | path

/-- The options of a command with their kinds. -/
abbrev OptionTable := List (String × OptionKind)

/-- Why words do not make a command. -/
inductive UsageFault where
  | unknownOption (name : String)
  | missingValue (name : String)
  | needlessValue (name : String)
  | malformedValue (name value : String)
  | missingOption (name : String)
  | unexpectedWord (word : String)
  | missingCommand
  | unknownCommand (name : String)
  deriving DecidableEq

/-- What is wrong with the words of a command line: they make no command, or a value
    cannot name a path. -/
inductive ArgumentFault where
  | usage (fault : UsageFault)
  | path (fault : PathFault)
  deriving DecidableEq

/-- An option that is given, with its value; the value of a flag is empty. -/
structure GivenOption where
  name : String
  value : String := ""
  deriving DecidableEq

/-- The given options in their order. -/
abbrev GivenOptions := List GivenOption

namespace OptionKind

/-- Whether an option takes no value. -/
def isFlag : OptionKind → Bool
  | flag => true
  | _ => false

/-- What is wrong with the value of an option, if anything is. -/
def fault? (kind : OptionKind) (name value : String) : Option ArgumentFault :=
  let must (fits : Bool) : Option ArgumentFault :=
    if fits then none else some (.usage (.malformedValue name value))
  match kind with
  | flag | text => none
  | whole => must (readWhole value).toOption.isSome
  | real => must (readFloat value).toOption.isSome
  | choice names => must (names.contains value)
  | path => if value.toList.contains (Char.ofNat 0) then some (.path .nullByte) else none

end OptionKind

/-- The kind of an option. -/
def OptionTable.kind? (table : OptionTable) (name : String) : Option OptionKind :=
  (table.find? (fun entry => entry.1 == name)).map (·.2)

/-! ## Reading words -/

/-- What a word is among the options: some that are complete, or one whose value is the
    next word. -/
inductive OptionWord where
  | complete (options : GivenOptions)
  | awaiting (name : String)

/-- Whether a word gives an option: it starts with a hyphen and does not end there. -/
def isOptionWord (word : List Char) : Bool := word.head? == some '-' && word.length != 1

/-- A word as an option with a long name, which may have its value behind an equals
    sign. -/
def readLongOption (table : OptionTable) (word : List Char) : Except UsageFault OptionWord :=
  let name := String.ofList (word.takeWhile (· != '='))
  let value := word.dropWhile (· != '=')
  match table.kind? name with
  | none => .error (.unknownOption name)
  | some kind =>
    match kind.isFlag, value with
    | true, [] => .ok (.complete [⟨name, ""⟩])
    | true, _ => .error (.needlessValue name)
    | false, [] => .ok (.awaiting name)
    | false, _ :: value => .ok (.complete [⟨name, String.ofList value⟩])

/-- The flags that letters give. -/
def readLetters (table : OptionTable) : List Char → Except UsageFault GivenOptions
  | [] => .ok []
  | c :: rest =>
    let name := String.ofList ['-', c]
    match table.kind? name with
    | none => .error (.unknownOption name)
    | some _ => (readLetters table rest).map (⟨name, ""⟩ :: ·)

/-- A word as options: one with a long name, or flags of one letter each. -/
def readOptionWord (table : OptionTable) (word : List Char) : Except UsageFault OptionWord :=
  match word with
  | '-' :: '-' :: _ => readLongOption table word
  | _ => (readLetters table (word.drop 1)).map .complete

/-- Words that were read: the options, and the words that are none. -/
structure ReadWords where
  options : GivenOptions
  words : List String

/-- Puts options in front. -/
def ReadWords.give (r : ReadWords) (options : GivenOptions) : ReadWords :=
  { r with options := options ++ r.options }

/-- Reads words. Where options cannot be mixed with other words, the first other word ends
    them. -/
def readWords (table : OptionTable) (mixed : Bool) : List String → Except UsageFault ReadWords
  | [] => .ok ⟨[], []⟩
  | word :: rest =>
    if word = "--" then .ok ⟨[], rest⟩
    else if isOptionWord word.toList then
      match readOptionWord table word.toList with
      | .error e => .error e
      | .ok (.complete options) => (readWords table mixed rest).map (·.give options)
      | .ok (.awaiting name) =>
        match rest with
        | [] => .error (.missingValue name)
        | value :: rest => (readWords table mixed rest).map (·.give [⟨name, value⟩])
    else if mixed then
      (readWords table mixed rest).map (fun r => { r with words := word :: r.words })
    else .ok ⟨[], word :: rest⟩

/-! ## Values -/

namespace GivenOptions

variable (given : GivenOptions)

/-- Whether an option is given. -/
def has (name : String) : Bool := given.any (fun o => o.name == name)

/-- The values of an option in their order. -/
def texts (name : String) : List String :=
  (given.filter (fun o => o.name == name)).map GivenOption.value

/-- The value of an option. -/
def text? (name : String) : Option String := (texts given name).getLast?

/-- The value of an option, unless it is empty. -/
def filled? (name : String) : Option String :=
  match text? given name with
  | some value => if value.isEmpty then none else some value
  | none => none

/-- The value of an option as a whole number. -/
def whole? (name : String) : Option Int :=
  (text? given name).bind (fun value => (readWhole value).toOption)

/-- The value of an option as a real number. -/
def real? (name : String) : Option Binary64 :=
  (text? given name).bind (fun value => (readFloat value).toOption)

/-- The value of an option as one of the named values of a type. -/
def named? (α : Type) [Named α] (name : String) : Option α := (text? given name).bind Named.find?

/-- Which of two opposite flags holds: the one given last, or else the usual one. -/
def holds (name opposite : String) (usual : Bool) : Bool :=
  match (given.filter (fun o => o.name == name || o.name == opposite)).getLast? with
  | some o => o.name == name
  | none => usual

/-- The first thing that is wrong with the values that count, in the order in which the
    options are given first. -/
def fault? (table : OptionTable) : Option ArgumentFault :=
  given.findSome? (fun o =>
    (table.kind? o.name).bind (fun kind => kind.fault? o.name ((text? given o.name).getD o.value)))

end GivenOptions

end NodeCapture
