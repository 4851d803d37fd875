import NodeCapture.Filter
import NodeCapture.Json.Reader
import NodeCapture.Message.Check

/-!
# Bodies of requests

    The bodies that routes take. A body is checked like a message; an empty one and a
    null count as none given.
-/

namespace NodeCapture

open Check

/-- New filters of a node. -/
structure FiltersBody where
  interface : Option String
  port : Option Int
  transports : List Transport
  appProtocol : Option AppProtocol
  filterText : Option String

/-- A new scenario of a node, with pods by name. -/
structure ScenarioBody where
  kind : Option ScenarioKind
  pod : Option String
  direction : PodDirection
  sourceNode : Option String
  source : Option String
  destNode : Option String
  dest : Option String
  pairDirection : PairDirection

/-- Checks the body with new filters. -/
def FiltersBody.check : Json → Checked FiltersBody :=
  record .notBody fun ms =>
    ((((withDefault "interface" (optional text) none ms |>.map FiltersBody.mk).apply
      (withDefault "port" (optional int) none ms)).apply
      (withDefault "transport_protocols" (list (named Transport)) [] ms)).apply
      (withDefault "app_layer_protocol" (optional (named AppProtocol)) none ms)).apply
      (withDefault "pcap_filter_string" (optional text) none ms)

/-- Checks the body with a new scenario. -/
def ScenarioBody.check : Json → Checked ScenarioBody :=
  record .notBody fun ms =>
    (((((((withDefault "kind" (optional (named ScenarioKind)) none ms |>.map ScenarioBody.mk).apply
      (withDefault "pod" (optional text) none ms)).apply
      (withDefault "direction" (named PodDirection) .sentAndReceived ms)).apply
      (withDefault "source_node" (optional text) none ms)).apply
      (withDefault "source_pod" (optional text) none ms)).apply
      (withDefault "dest_node" (optional text) none ms)).apply
      (withDefault "dest_pod" (optional text) none ms)).apply
      (withDefault "dual_direction" (named PairDirection) .bidirectional ms)

/-- Checks the body with the name of a capture, if it has one. -/
def checkStartBody : Json → Checked (Option String) :=
  record .notBody (withDefault "capture" (optional text) none)

/-- Checks the body with a local path. -/
def checkDownloadBody : Json → Checked String := record .notBody (required "local_path" text)

/-- Why a body cannot be read. -/
inductive BodyFault where
  | syntaxAt (offset : Nat)
  | unreadable

/-- Drops the mark that may stand in front of a text. -/
def withoutMark : List Char → List Char
  | [] => []
  | c :: rest => if c.toNat = 0xFEFF then rest else c :: rest

/-- Reads a body, in which values may be nested so deep; nothing where none is given.
    Numerals that are too long and nesting that is too deep are no faults of syntax. -/
def readBody (content : Option String) (nesting : Nat) : Except BodyFault (Option Json) :=
  match nonEmpty? content with
  | none => .ok none
  | some chars =>
    match Json.read (withoutMark chars) nesting with
    | .ok .null => .ok none
    | .ok value => .ok (some value)
    | .error fault =>
      match fault.cause with
      | .numeralTooLong _ | .nestedTooDeep _ => .error .unreadable
      | _ => .error (.syntaxAt (Json.faultOffset (withoutMark chars) fault))
where
  /-- The characters of a text, where it is given and not empty. -/
  nonEmpty? : Option String → Option (List Char)
    | none => none
    | some s => if s.isEmpty then none else some s.toList

/-- Checks a body that must be given. -/
def requiredBody {α : Type} (check : Json → Checked α) (body : Option Json) : Checked α :=
  Checked.under (.field "body") <|
    match body with
    | some value => check value
    | none => .issue .missing

/-- Checks a body that may be left out. -/
def optionalBody {α : Type} (check : Json → Checked α) (default : α) (body : Option Json) :
    Checked α :=
  Checked.under (.field "body") <|
    match body with
    | some value => check value
    | none => .ok default

end NodeCapture
