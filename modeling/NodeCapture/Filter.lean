import NodeCapture.Protocol

/-!
# Capture filters

    What a capture looks for is selected as an interface, endpoints, a port and
    transports. The filter expression that follows from a selection joins its fragments
    by `and`: the port and transports first, then the endpoints.
-/

namespace NodeCapture

/-- A pod that a capture can look for. -/
structure Pod where
  name : String
  address : String
  deriving DecidableEq

/-- Which packets of one pod are captured. -/
inductive PodDirection where
  | sentAndReceived
  | sent
  | received
  deriving DecidableEq

instance : Named PodDirection where
  title := "SingleEndpointDirection"
  values := [.sentAndReceived, .sent, .received]
  name
    | .sentAndReceived => "SentAndReceived"
    | .sent => "Sent"
    | .received => "Received"

/-- Which packets between two pods are captured. -/
inductive PairDirection where
  | sourceToDestination
  | bidirectional
  deriving DecidableEq

instance : Named PairDirection where
  title := "DualEndpointDirection"
  values := [.sourceToDestination, .bidirectional]
  name
    | .sourceToDestination => "SourceToDestination"
    | .bidirectional => "Bidirectional"

/-- The two kinds of scenario. -/
inductive ScenarioKind where
  | specificPod
  | twoPods
  deriving DecidableEq

instance : Named ScenarioKind where
  title := "ScenarioKind"
  values := [.specificPod, .twoPods]
  name
    | .specificPod => "SpecificPod"
    | .twoPods => "TwoPods"

/-- The endpoints of the traffic: one pod, or two pods, each possibly on a node of its
    own. -/
inductive Scenario where
  | specificPod (pod : Option Pod) (direction : PodDirection)
  | twoPods (sourceNode : Option String) (source : Option Pod) (destNode : Option String)
    (dest : Option Pod)
      (direction : PairDirection)
  deriving DecidableEq

namespace Scenario

/-- The kind of a scenario. -/
def kind : Scenario → ScenarioKind
  | specificPod .. => .specificPod
  | twoPods .. => .twoPods

/-- A scenario without pods, of which both endpoints are on one node. -/
def fresh (node : String) : ScenarioKind → Scenario
  | .specificPod => specificPod none .sentAndReceived
  | .twoPods => twoPods (some node) none (some node) none .bidirectional

end Scenario

/-- What is selected for the next capture on a node. -/
structure Selection where
  interface : Option String := none
  scenario : Option Scenario := none
  appProtocol : Option AppProtocol := none
  port : Option Int := none
  transports : TransportSet := {}
  filterText : Option String := none
  deriving DecidableEq

/-- The word for the role of a pod in the packets that are captured. -/
def PodDirection.qualifier : PodDirection → String
  | .sentAndReceived => "host"
  | .sent => "src"
  | .received => "dst"

/-- The fragments for the endpoints; an endpoint without a pod adds none. -/
def endpointParts : Option Scenario → List String
  | none => []
  | some (.specificPod pod direction) =>
    (pod.map (fun p => direction.qualifier ++ " " ++ p.address)).toList
  | some (.twoPods _ source _ dest direction) =>
    let directed := direction == .sourceToDestination
    (source.map (fun p => (if directed then "src" else "host") ++ " " ++ p.address)).toList
      ++ (dest.map (fun p => (if directed then "dst" else "host") ++ " " ++ p.address)).toList

/-- The port that a selection asks for; zero asks for none. -/
def chosenPort (port : Option Int) : Option Int :=
  match port with
  | some n => if n = 0 then none else some n
  | none => none

/-- Alternatives, between parentheses where there are several. -/
def alternatives : List String → List String
  | [] => []
  | [one] => [one]
  | several => ["(" ++ String.intercalate " or " several ++ ")"]

/-- The fragment for a port and transports. Either of two transports is allowed, so both
    are spelled out. -/
def transportParts (port : Option Int) (transports : TransportSet) : List String :=
  match chosenPort port with
  | none => alternatives transports.names
  | some n =>
    match transports.names with
    | [] => ["port " ++ integerText n]
    | names => alternatives (names.map (fun name => name ++ " port " ++ integerText n))

/-- The fragments of a selection. -/
def filterParts (s : Selection) : List String :=
  transportParts s.port s.transports ++ endpointParts s.scenario

/-- The filter expression of a selection. -/
def derivedFilter (s : Selection) : String := String.intercalate " and " (filterParts s)

end NodeCapture
